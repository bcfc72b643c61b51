import MadeToOrder.Proofs.Availability.Matching
import MadeToOrder.Proofs.Configuration.FixedPoint

/-!
# Candidates of a configuration

Matching judges every field by the products that carry what the other fields
have, and a collection for which it sees no product keeps its options. So a
configuration can be without a candidate, but only where every product misses a
chosen value beside any one that is named: no product is one change away.
-/

set_option autoImplicit false

namespace MadeToOrder

namespace Availability

def Chosen (selection : Selection) (spec : FieldSpec) : Prop :=
  (Selection.at? selection spec.field).isUnset = false

def Suits (p : Product) (selection : Selection) (spec : FieldSpec) : Prop :=
  Keyed.get? p.attributes spec.collection = some (Selection.at? selection spec.field).plain

instance (selection : Selection) (spec : FieldSpec) : Decidable (Chosen selection spec) :=
  inferInstanceAs (Decidable (_ = false))

instance (p : Product) (selection : Selection) (spec : FieldSpec) :
    Decidable (Suits p selection spec) :=
  inferInstanceAs (Decidable (_ = some _))

variable {snapshot : Snapshot} {selection : Selection} {line : Value} {trigger : Trigger}
  {table : FieldTable}

theorem carries_discriminators_iff (p : Product) :
    p.carries (discriminators selection table.attributes) = true ↔
      ∀ spec ∈ table.attributes, Discriminates selection spec → Suits p selection spec := by
  rw [Product.carries_iff]
  constructor
  · intro h spec member single
    exact h (spec.collection, _) (mem_discriminators.mpr ⟨spec, member, single, rfl⟩)
  · intro h s selected
    obtain ⟨spec, member, single, rfl⟩ := mem_discriminators.mp selected
    exact h spec member single

theorem carries_erase_iff {spec : FieldSpec} (member : spec ∈ table.attributes) (p : Product) :
    p.carries (Keyed.erase (discriminators selection table.attributes) spec.collection) = true ↔
      ∀ other ∈ table.attributes, other ≠ spec → Discriminates selection other →
        Suits p selection other := by
  rw [Product.carries_iff]
  constructor
  · intro h other otherMember apart single
    have ne : other.collection ≠ spec.collection := fun same =>
      apart (table.eq_of_collection_eq (table.mem_specs_of_mem_attributes otherMember)
        (table.mem_specs_of_mem_attributes member) same)
    refine h (other.collection, _) (List.mem_filter.mpr ⟨?_, by simpa using ne⟩)
    exact mem_discriminators.mpr ⟨other, otherMember, single, rfl⟩
  · intro h s kept
    obtain ⟨selected, ne⟩ := List.mem_filter.mp kept
    obtain ⟨other, otherMember, single, rfl⟩ := mem_discriminators.mp selected
    refine h other otherMember ?_ single
    rintro rfl
    simp at ne

theorem candidatesOf_ne_nil_iff :
    candidatesOf selection line snapshot ≠ [] ↔
      ∃ p ∈ snapshot.productsOf line, ∀ spec ∈ snapshot.table.attributes,
        Discriminates selection spec → Suits p selection spec := by
  constructor
  · intro h
    obtain ⟨p, member⟩ := List.exists_mem_of_ne_nil _ h
    obtain ⟨active, carries⟩ := List.mem_filter.mp member
    exact ⟨p, active, (carries_discriminators_iff p).mp carries⟩
  · rintro ⟨p, active, suits⟩
    exact List.ne_nil_of_mem
      (List.mem_filter.mpr ⟨active, (carries_discriminators_iff p).mpr suits⟩)

/-- A chosen value that is observed beside the other choices leaves a candidate. -/
theorem candidatesOf_ne_nil_of_observed {spec : FieldSpec}
    (member : spec ∈ snapshot.table.attributes)
    (seen : (Selection.at? selection spec.field).plain ∈ observed (snapshot.productsOf line)
      (discriminators selection snapshot.table.attributes) spec.collection) :
    candidatesOf selection line snapshot ≠ [] := by
  obtain ⟨p, active, others, own⟩ := mem_observed.mp seen
  refine candidatesOf_ne_nil_iff.mpr ⟨p, active, fun other otherMember single => ?_⟩
  by_cases same : other = spec
  · exact same ▸ own
  · exact (carries_erase_iff member p).mp others other otherMember same single

theorem permitted_subset (c : Rule.Constraint) (available : IdSet) {id : String}
    (h : id ∈ permitted c available) : id ∈ available := by
  have allowed := ((IdSet.mem_diff _ _ id).mp h).1
  split at allowed
  · exact allowed
  · exact ((IdSet.mem_inter _ _ id).mp allowed).1

/-- The choices of a collection come from others by constraints: nothing becomes
available, and no other step is recorded. -/
structure Restricts (c d : Choices) : Prop where
  available : ∀ id ∈ c.available, id ∈ d.available
  history : ∀ step ∈ c.history, step ∈ d.history ∨ step = .ruleConstraints

theorem Restricts.refl (c : Choices) : Restricts c c := ⟨fun _ => id, fun _ => Or.inl⟩

theorem Restricts.trans {c d e : Choices} (first : Restricts c d) (second : Restricts d e) :
    Restricts c e := by
  refine ⟨fun id h => second.available id (first.available id h), fun step h => ?_⟩
  rcases first.history step h with earlier | own
  · exact second.history step earlier
  · exact Or.inr own

theorem restricts_constrainOne {choices : Keyed Choices} {target : Value × Rule.Constraint}
    {collection : String} {c : Choices}
    (h : Keyed.get? (constrainOne choices target) collection = some c) :
    ∃ d, Keyed.get? choices collection = some d ∧ Restricts c d := by
  unfold constrainOne at h
  split at h
  · rename_i name _
    split at h
    · rename_i d found
      by_cases same : collection = name
      · rw [same, Keyed.get?_put_self, Option.some.injEq] at h
        subst h
        refine ⟨d, same ▸ found, fun id => permitted_subset target.2 d.available, ?_⟩
        simp [Choices.keep]
      · rw [Keyed.get?_put_of_ne _ _ same] at h
        exact ⟨c, h, .refl c⟩
    · exact ⟨c, h, .refl c⟩
  · exact ⟨c, h, .refl c⟩

theorem restricts_constrain {a : Availability} {constraints : Rule.Constraints}
    {collection : String} {c : Choices}
    (h : Keyed.get? (a.constrain constraints).choices collection = some c) :
    ∃ d, Keyed.get? a.choices collection = some d ∧ Restricts c d := by
  obtain ⟨choices, candidates, diagnostics⟩ := a
  dsimp only [constrain] at h ⊢
  induction constraints generalizing choices with
  | nil => exact ⟨c, h, .refl c⟩
  | cons target rest ih =>
    obtain ⟨d, found, later⟩ := ih _ h
    obtain ⟨e, start, first⟩ := restricts_constrainOne found
    exact ⟨e, start, later.trans first⟩

/-- Without candidates no override row counts. -/
theorem choices_of_no_candidates {a : Availability}
    (h : compute selection line snapshot trigger = .ok a)
    (none : candidatesOf selection line snapshot = []) :
    ∃ defaults, snapshot.lineDefaults line = .ok defaults ∧
      a.choices = afterMatching selection line snapshot defaults := by
  rw [compute_eq] at h
  obtain ⟨defaults, found, rfl⟩ := map_eq_ok.mp h
  refine ⟨defaults, found, ?_⟩
  simp [overrides, none, Trigger.applies]

/-- Where a choice is available and yet nothing is a candidate, matching observed
no product for its field and left the options alone. -/
theorem observed_eq_nil_of_no_candidates {a : Availability} {spec : FieldSpec} {c : Choices}
    (h : compute selection line snapshot trigger = .ok a)
    (none : candidatesOf selection line snapshot = [])
    (member : spec ∈ snapshot.table.attributes) (single : Discriminates selection spec)
    (offered : Keyed.get? a.choices spec.collection = some c)
    (available : (Selection.at? selection spec.field).plain ∈ c.available) :
    observed (snapshot.productsOf line) (discriminators selection snapshot.table.attributes)
      spec.collection = [] ∧ .productMatching ∉ c.history := by
  obtain ⟨defaults, found, matched⟩ := choices_of_no_candidates h none
  have discriminated : discriminators selection snapshot.table.attributes ≠ [] :=
    List.ne_nil_of_mem (mem_discriminators.mpr ⟨spec, member, single, rfl⟩)
  rw [matched] at offered
  obtain ⟨d, whole, fresh, rfl⟩ := eq_matchChoices discriminated member offered
  unfold matchChoices at available ⊢
  dsimp only at available ⊢
  split at available
  · rename_i unseen
    rw [if_pos unseen]
    exact ⟨by simpa using unseen, by simp [fresh]⟩
  · have seen := ((IdSet.mem_inter _ _ _).mp available).2
    exact absurd none (candidatesOf_ne_nil_of_observed member seen)

end Availability

namespace Configuration

open Availability (Chosen Suits Discriminates)

variable {snapshot : Snapshot} {settings : Settings} {selection : Selection} {line : Value}

/-- A configuration is the constrained availability of its own selection, and
every single choice in a collection with options is available there. -/
theorem exists_filtered_of_recompute {state : State} {events : List Event}
    {configured : Configured} (h : recompute selection snapshot settings = .ok (state, events))
    (hasLine : state.line = some line) (done : state.configured = some configured) :
    ∃ filtered outcome,
      Availability.compute state.selection line snapshot settings.trigger = .ok filtered ∧
      configured.availability = filtered.constrain outcome ∧
      ∀ spec ∈ snapshot.table.specs, spec.isLine = false → Discriminates state.selection spec →
        ∀ c, Keyed.get? configured.availability.choices spec.collection = some c →
          (Selection.at? state.selection spec.field).plain ∈ c.available := by
  rcases recompute_eq_ok h with ⟨rfl, _⟩ | ⟨other, settled, sku, _, ran, _, rfl, _⟩
  · simp at hasLine
  · obtain rfl := Option.some.inj hasLine
    obtain rfl := Option.some.inj done
    obtain ⟨u, _, ends, computed, valid⟩ :=
      exists_run_of_settle (s := start snapshot selection) (Nat.zero_add _) ran
    dsimp only
    rw [ends]
    obtain ⟨filtered, first, rest⟩ := bind_eq_ok.mp computed
    obtain ⟨outcome, _, rest⟩ := bind_eq_ok.mp rest
    refine ⟨filtered, outcome.constraints, first, ?_, ?_⟩
    · rw [← Except.ok.inj rest]
    · intro spec member notLine single c offered
      obtain ⟨isSet, notList⟩ := single
      cases found : Keyed.get? u.selection spec.field with
      | none => simp [Selection.at?, found, Value.isUnset] at isSet
      | some v =>
        have same : Selection.at? u.selection spec.field = v := by simp [Selection.at?, found]
        rw [same] at isSet notList ⊢
        refine mem_available_of_invalidIn (firstInvalid?_eq_none.mp valid spec member) notLine
          found isSet offered v ?_
        cases v <;> simp_all [Value.elements, Value.isList]

/-- The products of the line have a value for every discriminating field, and
each chosen one of these holds a single id in a collection with options. -/
structure Comparable (snapshot : Snapshot) (line : Value) (state : State)
    (configured : Configured) : Prop where
  hasLine : state.line = some line
  done : state.configured = some configured
  stocked : snapshot.productsOf line ≠ []
  described : ∀ p ∈ snapshot.productsOf line, ∀ spec ∈ snapshot.table.attributes,
    Keyed.has p.attributes spec.collection = true
  single : ∀ spec ∈ snapshot.table.attributes, Chosen state.selection spec →
    (Selection.at? state.selection spec.field).isList = false ∧
      Keyed.has configured.availability.choices spec.collection = true

variable {state : State} {events : List Event} {configured : Configured}

theorem Comparable.discriminates_iff (comparable : Comparable snapshot line state configured)
    {spec : FieldSpec} (member : spec ∈ snapshot.table.attributes) :
    Discriminates state.selection spec ↔ Chosen state.selection spec :=
  ⟨And.left, fun chosen => ⟨chosen, (comparable.single spec member chosen).1⟩⟩

theorem candidates_eq (h : recompute selection snapshot settings = .ok (state, events))
    (comparable : Comparable snapshot line state configured) :
    configured.availability.candidates =
      (Availability.candidatesOf state.selection line snapshot).map Product.key := by
  obtain ⟨filtered, constraints, computed, same, _⟩ :=
    exists_filtered_of_recompute h comparable.hasLine comparable.done
  rw [same]
  change filtered.candidates = _
  exact Availability.candidates_of_compute computed

/-- Without a candidate a chosen field was not matched. -/
theorem unmatched_of_no_candidates
    (h : recompute selection snapshot settings = .ok (state, events))
    (comparable : Comparable snapshot line state configured) {spec : FieldSpec}
    (member : spec ∈ snapshot.table.attributes) (notLine : spec.isLine = false)
    (chosen : Chosen state.selection spec) (none : configured.availability.candidates = []) :
    Availability.observed (snapshot.productsOf line)
        (Availability.discriminators state.selection snapshot.table.attributes)
        spec.collection = [] ∧
      ∀ c, Keyed.get? configured.availability.choices spec.collection = some c →
        .productMatching ∉ c.history := by
  obtain ⟨filtered, constraints, computed, same, available⟩ :=
    exists_filtered_of_recompute h comparable.hasLine comparable.done
  have single := (comparable.discriminates_iff member).mpr chosen
  obtain ⟨c, offered⟩ := Option.isSome_iff_exists.mp (comparable.single spec member chosen).2
  have own := available spec (snapshot.table.mem_specs_of_mem_attributes member) notLine single
    c offered
  rw [same] at offered
  obtain ⟨d, before, restricts⟩ := Availability.restricts_constrain offered
  have nothing := List.map_eq_nil_iff.mp ((candidates_eq h comparable).symm.trans none)
  obtain ⟨unseen, unmatched⟩ := Availability.observed_eq_nil_of_no_candidates computed nothing
    member single before (restricts.available _ own)
  refine ⟨unseen, fun e offeredAgain matched => ?_⟩
  rw [same, offered, Option.some.injEq] at offeredAgain
  subst offeredAgain
  rcases restricts.history _ matched with earlier | constrained
  · exact unmatched earlier
  · simp at constrained

/-- Without a candidate every product misses a chosen value beside that of any field. -/
theorem misses_another_of_no_candidates
    (h : recompute selection snapshot settings = .ok (state, events))
    (comparable : Comparable snapshot line state configured) {spec : FieldSpec}
    (member : spec ∈ snapshot.table.attributes) (notLine : spec.isLine = false)
    (chosen : Chosen state.selection spec) (none : configured.availability.candidates = [])
    {p : Product} (active : p ∈ snapshot.productsOf line) :
    ∃ other ∈ snapshot.table.attributes, other ≠ spec ∧ Chosen state.selection other ∧
      ¬Suits p state.selection other := by
  have unseen := (unmatched_of_no_candidates h comparable member notLine chosen none).1
  obtain ⟨id, carried⟩ := Option.isSome_iff_exists.mp (comparable.described p active spec member)
  have others : ¬p.carries (Keyed.erase (Availability.discriminators state.selection
      snapshot.table.attributes) spec.collection) = true := by
    intro carries
    have seen := Availability.mem_observed.mpr ⟨p, active, carries, carried⟩
    simp [unseen] at seen
  rw [Availability.carries_erase_iff member] at others
  simp only [Classical.not_forall, exists_prop] at others
  obtain ⟨other, otherMember, apart, single, misses⟩ := others
  exact ⟨other, otherMember, apart, single.1, misses⟩

/-- The candidates are the products that have every chosen value. A configuration
without one has, for each chosen field, no product with all the other values, and
the options of that field are not matched. The row of the product line is exempt:
its choice is never judged. With one chosen field there is always a candidate. -/
theorem candidates_or_all_miss_another (snapshot : Snapshot) (settings : Settings)
    (selection : Selection) (state : State) (events : List Event) (line : Value)
    (configured : Configured) (h : recompute selection snapshot settings = .ok (state, events))
    (comparable : Comparable snapshot line state configured) :
    (configured.availability.candidates ≠ [] ↔
      ∃ p ∈ snapshot.productsOf line, ∀ spec ∈ snapshot.table.attributes,
        Chosen state.selection spec → Suits p state.selection spec) ∧
    (∀ spec ∈ snapshot.table.attributes, spec.isLine = false → Chosen state.selection spec →
      configured.availability.candidates = [] →
        (∀ p ∈ snapshot.productsOf line, ∃ other ∈ snapshot.table.attributes, other ≠ spec ∧
          Chosen state.selection other ∧ ¬Suits p state.selection other) ∧
        ∀ c, Keyed.get? configured.availability.choices spec.collection = some c →
          .productMatching ∉ c.history) ∧
    (∀ spec ∈ snapshot.table.attributes, spec.isLine = false → Chosen state.selection spec →
      (∀ other ∈ snapshot.table.attributes, Chosen state.selection other → other = spec) →
        configured.availability.candidates ≠ []) := by
  refine ⟨?_, ?_, ?_⟩
  · rw [candidates_eq h comparable, ne_eq, List.map_eq_nil_iff, ← ne_eq,
      Availability.candidatesOf_ne_nil_iff]
    constructor
    · rintro ⟨p, active, suits⟩
      exact ⟨p, active, fun spec member chosen =>
        suits spec member ((comparable.discriminates_iff member).mpr chosen)⟩
    · rintro ⟨p, active, suits⟩
      exact ⟨p, active, fun spec member single =>
        suits spec member ((comparable.discriminates_iff member).mp single)⟩
  · intro spec member notLine chosen none
    exact ⟨fun p active =>
        misses_another_of_no_candidates h comparable member notLine chosen none active,
      (unmatched_of_no_candidates h comparable member notLine chosen none).2⟩
  · intro spec member notLine chosen only none
    obtain ⟨p, active⟩ := List.exists_mem_of_ne_nil _ comparable.stocked
    obtain ⟨other, otherMember, apart, otherChosen, _⟩ :=
      misses_another_of_no_candidates h comparable member notLine chosen none active
    exact apart (only other otherMember otherChosen)

def attributeRow (collection field : String) : FieldSpec :=
  ⟨collection, field, field, field, false, false, true⟩

def scattered : Snapshot where
  table := ⟨[⟨"product_lines", "line", "line", "Line", true, false, false⟩,
    attributeRow "colors" "color", attributeRow "sizes" "size", attributeRow "shapes" "shape"],
    by decide, by decide, by decide⟩
  lines := [("deco", ⟨.text "deco", .null, .null,
    [("colors", "red"), ("colors", "blue"), ("sizes", "small"), ("sizes", "large"),
      ("shapes", "round"), ("shapes", "square")], .null⟩)]
  options := [("product_lines", [("deco", plainOption "product_lines" "deco")]),
    ("colors", [("red", plainOption "colors" "red"), ("blue", plainOption "colors" "blue")]),
    ("sizes", [("small", plainOption "sizes" "small"), ("large", plainOption "sizes" "large")]),
    ("shapes",
      [("round", plainOption "shapes" "round"), ("square", plainOption "shapes" "square")])]
  products := [
    ⟨.int 1, .null, "deco", .null,
      [("colors", "red"), ("sizes", "small"), ("shapes", "round")], .bool true⟩,
    ⟨.int 2, .null, "deco", .null,
      [("colors", "blue"), ("sizes", "large"), ("shapes", "round")], .bool true⟩,
    ⟨.int 3, .null, "deco", .null,
      [("colors", "blue"), ("sizes", "small"), ("shapes", "square")], .bool true⟩]
  overrides := []
  rules := []
  codeFields := [⟨"colors", .int 1, .bool true⟩]
  diagnostics := []
  asOf := ""

def inRedLargeSquare : Selection :=
  [("line", .text "deco"), ("color", .text "red"), ("size", .text "large"),
    ("shape", .text "square")]

/-- In red, large and square nothing is a candidate, and every product misses the
size or the shape. In red alone something is. -/
theorem red_large_square_unmatched :
    (∃ state events configured,
      recompute inRedLargeSquare scattered Settings.standard = .ok (state, events) ∧
      Comparable scattered (.text "deco") state configured ∧
      configured.availability.candidates = [] ∧
      ∀ p ∈ scattered.productsOf (.text "deco"), ∃ other ∈ scattered.table.attributes,
        other ≠ attributeRow "colors" "color" ∧ Chosen state.selection other ∧
          ¬Suits p state.selection other) ∧
    ∃ state events configured,
      recompute [("line", .text "deco"), ("color", .text "red")] scattered Settings.standard =
        .ok (state, events) ∧
      Comparable scattered (.text "deco") state configured ∧
      configured.availability.candidates ≠ [] := by
  have red : attributeRow "colors" "color" ∈ scattered.table.attributes := by decide
  constructor
  · refine ⟨_, _, _, rfl, ⟨rfl, rfl, by decide, by decide, by decide⟩, rfl, ?_⟩
    exact ((candidates_or_all_miss_another scattered Settings.standard inRedLargeSquare _ _
      (.text "deco") _ rfl ⟨rfl, rfl, by decide, by decide, by decide⟩).2.1 _ red rfl rfl rfl).1
  · refine ⟨_, _, _, rfl, ⟨rfl, rfl, by decide, by decide, by decide⟩, ?_⟩
    exact (candidates_or_all_miss_another scattered Settings.standard
      [("line", .text "deco"), ("color", .text "red")] _ _ (.text "deco") _ rfl
      ⟨rfl, rfl, by decide, by decide, by decide⟩).2.2 _ red rfl rfl (by decide)

def misfiled : Snapshot :=
  { scattered with
    table := ⟨[attributeRow "product_lines" "line"], by decide, by decide, by decide⟩
    products := [⟨.int 1, .null, "deco", .null, [("product_lines", "neo")], .bool true⟩]
    codeFields := [⟨"product_lines", .int 1, .bool true⟩] }

/-- Red, large and square are each on some product and no two of them on one, so
the combination stands without a candidate. Nor is a choice of line judged by what
products carry. -/
theorem dead_ends :
    (¬∀ (snapshot : Snapshot) (settings : Settings) (selection : Selection) (state : State)
      (events : List Event) (line : Value) (configured : Configured),
      snapshot.rules = [] → snapshot.overrides = [] →
      recompute selection snapshot settings = .ok (state, events) →
      Comparable snapshot line state configured →
      (∃ spec ∈ snapshot.table.attributes, Chosen state.selection spec) →
      configured.availability.candidates ≠ []) ∧
    ¬∀ (snapshot : Snapshot) (settings : Settings) (selection : Selection) (state : State)
      (events : List Event) (line : Value) (configured : Configured),
      snapshot.rules = [] → snapshot.overrides = [] →
      recompute selection snapshot settings = .ok (state, events) →
      Comparable snapshot line state configured →
      ∀ spec ∈ snapshot.table.attributes, Chosen state.selection spec →
      configured.availability.candidates ≠ [] ∨
        ∀ p ∈ snapshot.productsOf line, ∃ other ∈ snapshot.table.attributes, other ≠ spec ∧
          Chosen state.selection other ∧ ¬Suits p state.selection other := by
  constructor
  · intro never
    exact never scattered Settings.standard inRedLargeSquare _ _ (.text "deco") _ rfl rfl rfl
      ⟨rfl, rfl, by decide, by decide, by decide⟩ (by decide) rfl
  · intro never
    have := never misfiled Settings.standard [("line", .text "deco")] _ _ (.text "deco") _ rfl rfl
      rfl ⟨rfl, rfl, by decide, by decide, by decide⟩ (attributeRow "product_lines" "line")
      (by decide) (by decide)
    revert this
    decide

end Configuration

end MadeToOrder
