import MadeToOrder.Availability

/-!
# Availability is reachability

Matching leaves the field of a collection out and looks at the products that
carry every other selection. So an option of a matched collection is available
exactly when choosing it leaves a candidate, and a collection that is not matched
has no option whose choice does.
-/

set_option autoImplicit false

namespace MadeToOrder

theorem Product.carries_iff (p : Product) (selected : Keyed String) :
    p.carries selected = true ↔ ∀ s ∈ selected, Keyed.get? p.attributes s.1 = some s.2 := by
  simp [Product.carries]

namespace Availability

/-- The field of a row has a single id. -/
def Discriminates (selection : Selection) (spec : FieldSpec) : Prop :=
  (Selection.at? selection spec.field).isUnset = false ∧
    (Selection.at? selection spec.field).isList = false

theorem mem_discriminators {selection : Selection} {specs : List FieldSpec}
    {s : String × String} :
    s ∈ discriminators selection specs ↔ ∃ spec ∈ specs, Discriminates selection spec ∧
      s = (spec.collection, (Selection.at? selection spec.field).plain) := by
  induction specs with
  | nil => simp [discriminators]
  | cons spec rest ih =>
    simp only [discriminators, List.mem_cons, exists_eq_or_imp, ← ih]
    by_cases skipped : ((Selection.at? selection spec.field).isUnset ||
        (Selection.at? selection spec.field).isList) = true
    · have absent : ¬Discriminates selection spec := by
        rintro ⟨isSet, single⟩
        simp [isSet, single] at skipped
      simp [skipped, absent]
    · have present : Discriminates selection spec := by
        simpa [Discriminates] using skipped
      simp [skipped, present]

theorem mem_observed {products : List Product} {selected : Keyed String}
    {collection id : String} :
    id ∈ observed products selected collection ↔
      ∃ p ∈ products, p.carries (Keyed.erase selected collection) = true ∧
        Keyed.get? p.attributes collection = some id := by
  simp only [observed, IdSet.mem_ofList, List.mem_filterMap, List.mem_filter, and_assoc]

def matchChoices (products : List Product) (selected : Keyed String) (collection : String)
    (c : Choices) : Choices :=
  let seen := observed products selected collection
  if seen.isEmpty then c else c.keep (IdSet.inter c.available seen) .productMatching

theorem get?_matchOne (products : List Product) (selected : Keyed String)
    (choices : Keyed Choices) (collection other : String) :
    Keyed.get? (matchOne products selected choices collection) other =
      if other = collection then
        (Keyed.get? choices collection).map (matchChoices products selected collection)
      else Keyed.get? choices other := by
  unfold matchOne matchChoices
  cases found : Keyed.get? choices collection with
  | none =>
    by_cases same : other = collection
    · simp [same, found]
    · simp [same]
  | some c =>
    by_cases none : (observed products selected collection).isEmpty = true
    · by_cases same : other = collection
      · simp [same, found, none]
      · simp [same, none]
    · by_cases same : other = collection
      · simp [same, none, Keyed.get?_put_self]
      · simp [same, none, Keyed.get?_put_of_ne]

theorem get?_matchProducts_of_not_mem (products : List Product) (selected : Keyed String)
    (choices : Keyed Choices) {specs : List FieldSpec} {collection : String}
    (h : collection ∉ specs.map FieldSpec.collection) :
    Keyed.get? (matchProducts products selected choices specs) collection =
      Keyed.get? choices collection := by
  unfold matchProducts
  induction specs generalizing choices with
  | nil => rfl
  | cons spec rest ih =>
    simp only [List.map_cons, List.mem_cons, not_or] at h
    rw [List.foldl_cons, ih _ h.2, get?_matchOne, if_neg h.1]

theorem get?_matchProducts_of_mem (products : List Product) (selected : Keyed String)
    (choices : Keyed Choices) {specs : List FieldSpec} {spec : FieldSpec}
    (distinct : (specs.map FieldSpec.collection).Nodup) (member : spec ∈ specs) :
    Keyed.get? (matchProducts products selected choices specs) spec.collection =
      (Keyed.get? choices spec.collection).map
        (matchChoices products selected spec.collection) := by
  induction specs generalizing choices with
  | nil => simp at member
  | cons first rest ih =>
    obtain ⟨fresh, distinct⟩ := List.nodup_cons.mp distinct
    change Keyed.get? (matchProducts products selected
      (matchOne products selected choices first.collection) rest) spec.collection = _
    rcases List.mem_cons.mp member with rfl | later
    · rw [get?_matchProducts_of_not_mem _ _ _ fresh, get?_matchOne, if_pos rfl]
    · have other : spec.collection ≠ first.collection := fun same =>
        fresh (same ▸ List.mem_map_of_mem later)
      rw [ih _ distinct later, get?_matchOne, if_neg other]

/-- A collection that the override step does not mention in its history is as it was. -/
theorem get?_replaceAll {groups : Keyed IdSet} {choices : Keyed Choices} {collection : String}
    {c : Choices} (h : Keyed.get? (groups.foldl replaceOne choices) collection = some c)
    (kept : .productOverrides ∉ c.history) : Keyed.get? choices collection = some c := by
  induction groups generalizing choices with
  | nil => exact h
  | cons group rest ih =>
    rw [List.foldl_cons] at h
    have before := ih h
    rw [replaceOne, Keyed.adjust] at before
    by_cases same : collection = group.1
    · rw [same, Keyed.get?_put_self, Option.some.injEq] at before
      exact absurd (by simp [← before, Choices.ofIds]) kept
    · rwa [Keyed.get?_put_of_ne _ _ same] at before

def afterMatching (selection : Selection) (line : Value) (snapshot : Snapshot)
    (defaults : Keyed (List String)) : Keyed Choices :=
  let selected := discriminators selection snapshot.table.attributes
  if selected.isEmpty then startingChoices defaults
  else matchProducts (snapshot.productsOf line) selected (startingChoices defaults)
    snapshot.table.attributes

def candidatesOf (selection : Selection) (line : Value) (snapshot : Snapshot) : List Product :=
  (snapshot.productsOf line).filter
    (fun p => p.carries (discriminators selection snapshot.table.attributes))

def overrides (selection : Selection) (line : Value) (snapshot : Snapshot)
    (trigger : Trigger) : Bool :=
  let selected := discriminators selection snapshot.table.attributes
  !selected.isEmpty &&
    trigger.applies selected.length (candidatesOf selection line snapshot).length

def overrideItems (selection : Selection) (line : Value) (snapshot : Snapshot) :
    Keyed IdSet × List Diagnostic :=
  groupItems snapshot []
    (snapshot.overridesFor ((candidatesOf selection line snapshot).map Product.key))

/-- The options of a line for a selection, from the defaults of the line. -/
theorem compute_eq (selection : Selection) (line : Value) (snapshot : Snapshot)
    (trigger : Trigger) :
    compute selection line snapshot trigger = (snapshot.lineDefaults line).map (fun defaults =>
      let keys := (candidatesOf selection line snapshot).map Product.key
      if overrides selection line snapshot trigger then
        ⟨(overrideItems selection line snapshot).1.foldl replaceOne
            (afterMatching selection line snapshot defaults), keys,
          (overrideItems selection line snapshot).2⟩
      else ⟨afterMatching selection line snapshot defaults, keys, []⟩) := by
  unfold compute
  cases snapshot.lineDefaults line with
  | error fault => rfl
  | ok defaults =>
    by_cases step : overrides selection line snapshot trigger = true
    · simp only [Except.map, step, if_true]
      simp only [overrides, candidatesOf] at step
      simp only [bind, Except.bind, step, if_true, pure, Except.pure]
      rfl
    · simp only [Except.map, step]
      simp only [overrides, candidatesOf] at step
      simp only [bind, Except.bind, step, pure, Except.pure]
      rfl

variable {snapshot : Snapshot} {selection : Selection} {line : Value} {trigger : Trigger}

/-- With an id in one field a product must carry that id and what the other
fields have. -/
theorem carries_put {table : FieldTable} {spec : FieldSpec} (member : spec ∈ table.attributes)
    {id : String} (named : id ≠ "") (p : Product) :
    p.carries (discriminators (Keyed.put selection spec.field (.text id)) table.attributes) =
        true ↔
      p.carries (Keyed.erase (discriminators selection table.attributes) spec.collection) =
        true ∧ Keyed.get? p.attributes spec.collection = some id := by
  rw [Product.carries_iff, Product.carries_iff]
  have distinct : ∀ other ∈ table.attributes, other ≠ spec →
      other.field ≠ spec.field ∧ other.collection ≠ spec.collection := by
    intro other otherMember ne
    have a := table.mem_specs_of_mem_attributes otherMember
    have b := table.mem_specs_of_mem_attributes member
    exact ⟨fun same => ne (table.eq_of_field_eq a b same),
      fun same => ne (table.eq_of_collection_eq a b same)⟩
  constructor
  · intro h
    constructor
    · intro s kept
      obtain ⟨old, ne⟩ := List.mem_filter.mp kept
      obtain ⟨other, otherMember, single, rfl⟩ := mem_discriminators.mp old
      have apart : other ≠ spec := by
        rintro rfl
        simp at ne
      have same := Selection.at?_put_of_ne selection (.text id) (distinct other otherMember apart).1
      refine h _ (mem_discriminators.mpr ⟨other, otherMember, ?_, ?_⟩)
      · simpa [Discriminates, same] using single
      · rw [same]
    · refine h (spec.collection, id) (mem_discriminators.mpr ⟨spec, member, ?_, ?_⟩)
      · simp [Discriminates, Selection.at?_put_self, Value.isUnset, Value.isList, named]
      · rw [Selection.at?_put_self, Value.plain_text]
  · rintro ⟨others, own⟩ s chosen
    obtain ⟨other, otherMember, single, rfl⟩ := mem_discriminators.mp chosen
    by_cases same : other = spec
    · subst same
      rw [Selection.at?_put_self, Value.plain_text]
      exact own
    · obtain ⟨fieldNe, collectionNe⟩ := distinct other otherMember same
      rw [Discriminates, Selection.at?_put_of_ne selection _ fieldNe] at single
      rw [Selection.at?_put_of_ne selection _ fieldNe]
      refine others _ (List.mem_filter.mpr ⟨mem_discriminators.mpr ?_, by simpa using collectionNe⟩)
      exact ⟨other, otherMember, single, rfl⟩

/-- A candidate is left by an id exactly when a product with the other
selections carries it. -/
theorem candidatesOf_put_ne_nil {spec : FieldSpec} (member : spec ∈ snapshot.table.attributes)
    {id : String} (named : id ≠ "") :
    candidatesOf (Keyed.put selection spec.field (.text id)) line snapshot ≠ [] ↔
      id ∈ observed (snapshot.productsOf line)
        (discriminators selection snapshot.table.attributes) spec.collection := by
  rw [mem_observed, candidatesOf, ne_eq, List.filter_eq_nil_iff]
  simp only [carries_put member named, Classical.not_forall, Decidable.not_not, exists_prop]

theorem get?_startingChoices {defaults : Keyed (List String)} {collection : String} {c : Choices}
    (h : Keyed.get? (startingChoices defaults) collection = some c) :
    c.available = c.all ∧ c.history = [.lineDefaults] := by
  rw [startingChoices, Keyed.get?_mapValues] at h
  obtain ⟨ids, _, rfl⟩ := Option.map_eq_some_iff.mp h
  exact ⟨rfl, rfl⟩

theorem candidates_of_compute {a : Availability}
    (h : compute selection line snapshot trigger = .ok a) :
    a.candidates = (candidatesOf selection line snapshot).map Product.key := by
  rw [compute_eq] at h
  obtain ⟨defaults, _, rfl⟩ := map_eq_ok.mp h
  dsimp only
  split <;> rfl

/-- Choices without override rows are those after matching. -/
theorem get?_afterMatching {a : Availability} {collection : String} {c : Choices}
    (h : compute selection line snapshot trigger = .ok a)
    (offered : Keyed.get? a.choices collection = some c)
    (notReplaced : .productOverrides ∉ c.history) :
    ∃ defaults, snapshot.lineDefaults line = .ok defaults ∧
      Keyed.get? (afterMatching selection line snapshot defaults) collection = some c := by
  rw [compute_eq] at h
  obtain ⟨defaults, found, rfl⟩ := map_eq_ok.mp h
  refine ⟨defaults, found, ?_⟩
  dsimp only at offered
  split at offered
  · exact get?_replaceAll offered notReplaced
  · exact offered

/-- Choices after matching are line defaults, narrowed if anything was observed. -/
theorem eq_matchChoices {spec : FieldSpec} {defaults : Keyed (List String)} {c : Choices}
    (discriminated : discriminators selection snapshot.table.attributes ≠ [])
    (member : spec ∈ snapshot.table.attributes)
    (h : Keyed.get? (afterMatching selection line snapshot defaults) spec.collection = some c) :
    ∃ d, d.available = d.all ∧ d.history = [.lineDefaults] ∧
      c = matchChoices (snapshot.productsOf line)
        (discriminators selection snapshot.table.attributes) spec.collection d := by
  rw [afterMatching, List.isEmpty_eq_false_iff.mpr discriminated] at h
  simp only [Bool.false_eq_true, if_false] at h
  rw [get?_matchProducts_of_mem _ _ _ snapshot.table.attributes_collections_nodup member] at h
  obtain ⟨d, started, rfl⟩ := Option.map_eq_some_iff.mp h
  obtain ⟨whole, fresh⟩ := get?_startingChoices started
  exact ⟨d, whole, fresh, rfl⟩

/-- For the choices of a collection that products discriminate and that override
rows did not replace, an option is available exactly when choosing it leaves a
candidate; where matching left the collection alone, no option does. -/
theorem mem_available_iff_reachable (snapshot : Snapshot) (selection : Selection) (line : Value)
    (trigger : Trigger) (a : Availability) (spec : FieldSpec) (c : Choices)
    (computed : compute selection line snapshot trigger = .ok a)
    (discriminated : discriminators selection snapshot.table.attributes ≠ [])
    (member : spec ∈ snapshot.table.attributes)
    (offered : Keyed.get? a.choices spec.collection = some c)
    (notReplaced : .productOverrides ∉ c.history) :
    ∀ id ∈ c.all, id ≠ "" →
      ∃ b, compute (Keyed.put selection spec.field (.text id)) line snapshot trigger = .ok b ∧
        (.productMatching ∈ c.history → (id ∈ c.available ↔ b.candidates ≠ [])) ∧
        (.productMatching ∉ c.history → b.candidates = []) := by
  intro id known named
  obtain ⟨defaults, found, matched⟩ := get?_afterMatching computed offered notReplaced
  obtain ⟨d, whole, fresh, rfl⟩ := eq_matchChoices discriminated member matched
  have again : ∃ b, compute (Keyed.put selection spec.field (.text id)) line snapshot trigger =
      .ok b := by
    rw [compute_eq, found]
    exact ⟨_, rfl⟩
  obtain ⟨b, rerun⟩ := again
  have reachable : b.candidates ≠ [] ↔ id ∈ observed (snapshot.productsOf line)
      (discriminators selection snapshot.table.attributes) spec.collection := by
    rw [candidates_of_compute rerun, ne_eq, List.map_eq_nil_iff, ← ne_eq,
      candidatesOf_put_ne_nil member named]
  refine ⟨b, rerun, ?_⟩
  unfold matchChoices at known ⊢
  dsimp only at known ⊢
  split
  · rename_i none
    rw [List.isEmpty_iff] at none
    rw [none] at reachable
    refine ⟨fun matching => ?_, fun _ => by simpa using reachable⟩
    simp [fresh] at matching
  · rename_i some
    rw [if_neg some] at known
    refine ⟨fun _ => ?_, fun unmatched => ?_⟩
    · rw [reachable]
      simp only [Choices.keep, IdSet.mem_inter, whole]
      exact and_iff_right known
    · simp [Choices.keep] at unmatched

def smallRedLargeBlue : Snapshot where
  table := ⟨[⟨"colors", "color", "color", "Color", true, false, true⟩,
    ⟨"sizes", "size", "size", "Size", true, false, true⟩], by decide, by decide, by decide⟩
  lines := [("deco", ⟨.text "deco", .null, .null,
    [("colors", "red"), ("colors", "blue"), ("sizes", "small"), ("sizes", "large")], .null⟩)]
  options := [
    ("colors", [("red", ⟨.text "red", .null, .null, "colors", .null, .bool true⟩),
      ("blue", ⟨.text "blue", .null, .null, "colors", .null, .bool true⟩)]),
    ("sizes", [("small", ⟨.text "small", .null, .null, "sizes", .null, .bool true⟩),
      ("large", ⟨.text "large", .null, .null, "sizes", .null, .bool true⟩)])]
  products := [
    ⟨.int 1, .null, "deco", .null, [("colors", "red"), ("sizes", "small")], .bool true⟩,
    ⟨.int 2, .null, "deco", .null, [("colors", "blue"), ("sizes", "large")], .bool true⟩]
  overrides := []
  rules := []
  codeFields := []
  diagnostics := []
  asOf := ""

/-- In red the large size is shown but not available, and choosing it leaves no
candidate. -/
theorem large_unreachable_in_red :
    ∃ a c b, compute [("color", .text "red")] (.text "deco") smallRedLargeBlue Trigger.standard =
        .ok a ∧
      Keyed.get? a.choices "sizes" = some c ∧ "large" ∈ c.all ∧ "large" ∉ c.available ∧
      compute (Keyed.put [("color", .text "red")] "size" (.text "large")) (.text "deco")
        smallRedLargeBlue Trigger.standard = .ok b ∧
      ("large" ∈ c.available ↔ b.candidates ≠ []) := by
  obtain ⟨b, rerun, reachable, _⟩ := mem_available_iff_reachable smallRedLargeBlue
    [("color", .text "red")] (.text "deco") Trigger.standard _
    ⟨"sizes", "size", "size", "Size", true, false, true⟩ _ rfl (by decide) (by decide) rfl
    (by decide) "large" (by decide) (by decide)
  exact ⟨_, _, b, rfl, rfl, by decide, by decide, rerun, reachable (by decide)⟩

end Availability

end MadeToOrder
