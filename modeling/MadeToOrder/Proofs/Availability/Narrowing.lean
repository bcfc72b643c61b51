import MadeToOrder.Proofs.Availability.Trigger

/-!
# More choices leave less

A product that carries a longer selection carries the shorter one, so candidates
and observed values only become fewer. Options follow them: matching intersects with
what is observed, rows replace a collection by what candidates offer, and a trigger
that applied goes on applying while there is a candidate. What has to be asked for is
that rows neither begin nor cease to count for a collection in between.
-/

set_option autoImplicit false

namespace MadeToOrder

theorem Trigger.applies_of_le {t : Trigger} {selected selected' candidates candidates' : Int}
    (applied : t.applies selected candidates = true) (more : selected ≤ selected')
    (fewer : candidates' ≤ candidates) (some : candidates' ≠ 0) :
    t.applies selected' candidates' = true := by
  obtain ⟨_, enough, few⟩ := (applies_iff t selected candidates).mp applied
  refine (applies_iff t selected' candidates').mpr ⟨some, by omega, fun most limit => ?_⟩
  have bounded := few most limit
  omega

theorem Product.carries_of_subset {p : Product} {few many : Keyed String}
    (fewer : ∀ s ∈ few, s ∈ many) (carries : p.carries many = true) : p.carries few = true := by
  rw [carries_iff] at carries ⊢
  intro s member
  exact carries s (fewer s member)

namespace Availability

/-- The second selection keeps the values that the first one has for rows that
products discriminate. Other rows are free. -/
def Extends (table : FieldTable) (selection extended : Selection) : Prop :=
  ∀ spec ∈ table.attributes, (Selection.at? selection spec.field).isUnset = true ∨
    Selection.at? extended spec.field = Selection.at? selection spec.field

section Longer

variable {table : FieldTable} {selection extended : Selection}

theorem Extends.at?_eq (longer : Extends table selection extended) {spec : FieldSpec}
    (member : spec ∈ table.attributes) (single : Discriminates selection spec) :
    Selection.at? extended spec.field = Selection.at? selection spec.field := by
  rcases longer spec member with unset | same
  · rw [single.1] at unset
    cases unset
  · exact same

theorem Extends.discriminates (longer : Extends table selection extended) {spec : FieldSpec}
    (member : spec ∈ table.attributes) (single : Discriminates selection spec) :
    Discriminates extended spec := by
  unfold Discriminates
  rw [longer.at?_eq member single]
  exact single

theorem Extends.discriminators_subset (longer : Extends table selection extended) :
    ∀ s ∈ discriminators selection table.attributes,
      s ∈ discriminators extended table.attributes := by
  intro s selected
  obtain ⟨spec, member, single, rfl⟩ := mem_discriminators.mp selected
  rw [← longer.at?_eq member single]
  exact mem_discriminators.mpr ⟨spec, member, longer.discriminates member single, rfl⟩

theorem Extends.selectedFields_le (longer : Extends table selection extended) :
    selectedFields selection table.attributes ≤ selectedFields extended table.attributes := by
  apply List.countP_mono_left
  intro spec member single
  have before : Discriminates selection spec := of_decide_eq_true single
  exact decide_eq_true (longer.discriminates member before)

end Longer

variable {snapshot : Snapshot} {selection extended : Selection} {line : Value}
  {trigger : Trigger} {collection : String} {a b : Availability}

theorem Extends.carries (longer : Extends snapshot.table selection extended) {p : Product}
    (carries : p.carries (discriminators extended snapshot.table.attributes) = true) :
    p.carries (discriminators selection snapshot.table.attributes) = true :=
  Product.carries_of_subset longer.discriminators_subset carries

theorem Extends.mem_candidatesOf (longer : Extends snapshot.table selection extended)
    {p : Product} (member : p ∈ candidatesOf extended line snapshot) :
    p ∈ candidatesOf selection line snapshot := by
  obtain ⟨active, carries⟩ := List.mem_filter.mp member
  exact List.mem_filter.mpr ⟨active, longer.carries carries⟩

theorem Extends.length_candidatesOf_le (longer : Extends snapshot.table selection extended) :
    (candidatesOf extended line snapshot).length ≤
      (candidatesOf selection line snapshot).length := by
  rw [candidatesOf, candidatesOf, ← List.countP_eq_length_filter, ← List.countP_eq_length_filter]
  exact List.countP_mono_left (fun p _ carries => longer.carries carries)

theorem Extends.mem_observed (longer : Extends snapshot.table selection extended) {id : String}
    (seen : id ∈ observed (snapshot.productsOf line)
      (discriminators extended snapshot.table.attributes) collection) :
    id ∈ observed (snapshot.productsOf line)
      (discriminators selection snapshot.table.attributes) collection := by
  obtain ⟨p, active, others, own⟩ := Availability.mem_observed.mp seen
  refine Availability.mem_observed.mpr ⟨p, active, ?_, own⟩
  refine Product.carries_of_subset (fun s kept => ?_) others
  obtain ⟨selected, apart⟩ := List.mem_filter.mp kept
  exact List.mem_filter.mpr ⟨longer.discriminators_subset s selected, apart⟩

/-- A candidate with a value in the collection is seen whatever field is left out. -/
theorem observed_ne_nil_of_candidate {p : Product}
    (candidate : p ∈ candidatesOf selection line snapshot)
    (valued : Keyed.has p.attributes collection = true) :
    observed (snapshot.productsOf line) (discriminators selection snapshot.table.attributes)
      collection ≠ [] := by
  obtain ⟨active, carries⟩ := List.mem_filter.mp candidate
  obtain ⟨id, own⟩ := Option.isSome_iff_exists.mp valued
  refine List.ne_nil_of_mem (Availability.mem_observed.mpr ⟨p, active, ?_, own⟩)
  exact Product.carries_of_subset (fun s kept => Keyed.mem_of_mem_erase kept) carries

theorem mem_matchChoices {products : List Product} {selected : Keyed String} {c : Choices}
    {id : String} (h : id ∈ (matchChoices products selected collection c).available) :
    id ∈ c.available := by
  unfold matchChoices at h
  dsimp only at h
  split at h
  · exact h
  · exact ((IdSet.mem_inter _ _ id).mp h).1

theorem mem_matchChoices_iff {products : List Product} {selected : Keyed String} {c : Choices}
    (some : observed products selected collection ≠ []) {id : String} :
    id ∈ (matchChoices products selected collection c).available ↔
      id ∈ c.available ∧ id ∈ observed products selected collection := by
  unfold matchChoices
  dsimp only
  rw [List.isEmpty_eq_false_iff.mpr some, if_neg (by decide)]
  exact IdSet.mem_inter _ _ id

theorem get?_afterMatching_attribute {spec : FieldSpec} {defaults : Keyed (List String)}
    (member : spec ∈ snapshot.table.attributes) :
    Keyed.get? (afterMatching selection line snapshot defaults) spec.collection =
      (Keyed.get? (startingChoices defaults) spec.collection).map (fun c =>
        if discriminators selection snapshot.table.attributes = [] then c
        else matchChoices (snapshot.productsOf line)
          (discriminators selection snapshot.table.attributes) spec.collection c) := by
  unfold afterMatching
  dsimp only
  by_cases none : discriminators selection snapshot.table.attributes = []
  · simp [none]
  · rw [List.isEmpty_eq_false_iff.mpr none, if_neg (by decide),
      get?_matchProducts_of_mem _ _ _ snapshot.table.attributes_collections_nodup member]
    simp [none]

theorem get?_afterMatching_other {defaults : Keyed (List String)}
    (other : collection ∉ snapshot.table.attributes.map FieldSpec.collection) :
    Keyed.get? (afterMatching selection line snapshot defaults) collection =
      Keyed.get? (startingChoices defaults) collection := by
  unfold afterMatching
  dsimp only
  split
  · rfl
  · exact get?_matchProducts_of_not_mem _ _ _ other

/-- Every active product of a line has a value for every row that products
discriminate. -/
def Complete (snapshot : Snapshot) (line : Value) : Prop :=
  ∀ p ∈ snapshot.productsOf line, ∀ spec ∈ snapshot.table.attributes,
    Keyed.has p.attributes spec.collection = true

/-- Matching a longer selection that has a candidate leaves some of what matching the
shorter one leaves. -/
theorem afterMatching_narrows {defaults : Keyed (List String)} {c : Choices}
    (longer : Extends snapshot.table selection extended) (complete : Complete snapshot line)
    (candidate : candidatesOf extended line snapshot ≠ [])
    (found : Keyed.get? (afterMatching selection line snapshot defaults) collection = some c) :
    ∃ d, Keyed.get? (afterMatching extended line snapshot defaults) collection = some d ∧
      ∀ id ∈ d.available, id ∈ c.available := by
  by_cases listed : collection ∈ snapshot.table.attributes.map FieldSpec.collection
  · obtain ⟨spec, member, rfl⟩ := List.mem_map.mp listed
    rw [get?_afterMatching_attribute member] at found ⊢
    obtain ⟨start, started, rfl⟩ := Option.map_eq_some_iff.mp found
    rw [started, Option.map_some]
    refine ⟨_, rfl, fun id available => ?_⟩
    by_cases none : discriminators selection snapshot.table.attributes = []
    · rw [if_pos none]
      split at available
      · exact available
      · exact mem_matchChoices available
    · have some : discriminators extended snapshot.table.attributes ≠ [] := by
        obtain ⟨s, selected⟩ := List.exists_mem_of_ne_nil _ none
        exact List.ne_nil_of_mem (longer.discriminators_subset s selected)
      obtain ⟨p, remaining⟩ := List.exists_mem_of_ne_nil _ candidate
      have valued := complete p (List.mem_filter.mp remaining).1 spec member
      have seenAfter := observed_ne_nil_of_candidate remaining valued
      have seenBefore := observed_ne_nil_of_candidate (longer.mem_candidatesOf remaining) valued
      rw [if_neg some, mem_matchChoices_iff seenAfter] at available
      rw [if_neg none, mem_matchChoices_iff seenBefore]
      exact ⟨available.1, longer.mem_observed available.2⟩
  · rw [get?_afterMatching_other listed] at found ⊢
    exact ⟨c, found, fun _ => id⟩

def HasRow (snapshot : Snapshot) (collection product : String) : Prop :=
  ∃ id, Offered snapshot [product] collection id

theorem Offered.mono {few many : List String} {id : String} (fewer : ∀ p ∈ few, p ∈ many)
    (offered : Offered snapshot few collection id) : Offered snapshot many collection id := by
  obtain ⟨row, listed, product, rest⟩ := offered
  exact ⟨row, listed, fewer _ product, rest⟩

theorem exists_hasRow {products : List String}
    (offers : ∃ id, Offered snapshot products collection id) :
    ∃ p ∈ products, HasRow snapshot collection p := by
  obtain ⟨id, row, listed, product, rest⟩ := offers
  exact ⟨row.product, product, id, row, listed, List.mem_singleton.mpr rfl, rest⟩

theorem Extends.candidates_subset (longer : Extends snapshot.table selection extended)
    (first : compute selection line snapshot trigger = .ok a)
    (second : compute extended line snapshot trigger = .ok b) :
    ∀ key ∈ b.candidates, key ∈ a.candidates := by
  rw [candidates_of_compute first, candidates_of_compute second]
  intro key member
  obtain ⟨p, remaining, rfl⟩ := List.mem_map.mp member
  exact List.mem_map_of_mem (longer.mem_candidatesOf remaining)

/-- Rows that count for a selection count for a longer one with a candidate. -/
theorem Extends.overrides (longer : Extends snapshot.table selection extended)
    (candidate : candidatesOf extended line snapshot ≠ [])
    (applied : overrides selection line snapshot trigger = true) :
    Availability.overrides extended line snapshot trigger = true := by
  unfold Availability.overrides at applied ⊢
  dsimp only at applied ⊢
  rw [length_discriminators, Bool.and_eq_true] at applied
  rw [length_discriminators, Bool.and_eq_true]
  obtain ⟨some, applies⟩ := applied
  have more := longer.selectedFields_le
  have fewer : (candidatesOf extended line snapshot).length ≤
      (candidatesOf selection line snapshot).length := longer.length_candidatesOf_le
  have left := List.length_pos_iff.mpr candidate
  refine ⟨?_, Trigger.applies_of_le applies (by omega) (by omega) (by omega)⟩
  have selected : discriminators selection snapshot.table.attributes ≠ [] := by simpa using some
  obtain ⟨s, member⟩ := List.exists_mem_of_ne_nil _ selected
  simpa using List.ne_nil_of_mem (longer.discriminators_subset s member)

/-- What a longer selection needs in order to leave less: every product has all
values, a candidate is left, the candidates of the shorter selection all have rows for
a collection or none has, and rows that count only for the longer selection name what
was available. -/
structure Steady (snapshot : Snapshot) (line : Value) (trigger : Trigger)
    (selection : Selection) (a b : Availability) : Prop where
  complete : Complete snapshot line
  candidate : b.candidates ≠ []
  uniform : ∀ collection, (∀ p ∈ a.candidates, HasRow snapshot collection p) ∨
    ∀ p ∈ a.candidates, ¬HasRow snapshot collection p
  offered : overrides selection line snapshot trigger = false →
    ∀ collection c, Keyed.get? a.choices collection = some c →
      ∀ id, Offered snapshot b.candidates collection id → id ∈ c.available

/-- A collection that rows replace for the longer selection. -/
theorem replaced_narrows {c : Choices} (longer : Extends snapshot.table selection extended)
    (first : compute selection line snapshot trigger = .ok a)
    (second : compute extended line snapshot trigger = .ok b)
    (steady : Steady snapshot line trigger selection a b)
    (found : Keyed.get? a.choices collection = some c) (replaced : b.Replaced collection) :
    ∃ d, Keyed.get? b.choices collection = some d ∧ ∀ id ∈ d.available, id ∈ c.available := by
  obtain ⟨d, here, step⟩ := replaced
  refine ⟨d, here, fun id available => ?_⟩
  have offered := ((choices_of_replaced second here step).2 id).2.mp available
  cases applied : overrides selection line snapshot trigger with
  | false => exact steady.offered applied collection c found id offered
  | true =>
    have earlier := offered.mono (longer.candidates_subset first second)
    obtain ⟨c', found', step'⟩ := (replaced_iff first).mpr ⟨applied, id, earlier⟩
    obtain rfl := Option.some.inj (found.symm.trans found')
    exact ((choices_of_replaced first found step').2 id).2.mpr earlier

/-- What rows replaced for a selection they replace for the longer one. -/
theorem Steady.replaced (steady : Steady snapshot line trigger selection a b)
    (longer : Extends snapshot.table selection extended)
    (first : compute selection line snapshot trigger = .ok a)
    (second : compute extended line snapshot trigger = .ok b)
    (replaced : a.Replaced collection) : b.Replaced collection := by
  obtain ⟨applied, offers⟩ := (replaced_iff first).mp replaced
  obtain ⟨p, listed, row⟩ := exists_hasRow offers
  have left := steady.candidate
  rw [candidates_of_compute second, ne_eq, List.map_eq_nil_iff] at left
  refine (replaced_iff second).mpr ⟨longer.overrides left applied, ?_⟩
  obtain ⟨q, remaining⟩ := List.exists_mem_of_ne_nil _ steady.candidate
  rcases steady.uniform collection with all | none
  · obtain ⟨id, offered⟩ := all q (longer.candidates_subset first second q remaining)
    exact ⟨id, offered.mono (fun _ single => List.mem_singleton.mp single ▸ remaining)⟩
  · exact absurd row (none p listed)

/-- The options of a line for a longer selection. Where the two selections are steady,
every collection of the shorter one is still there and offers nothing new. -/
theorem available_narrows (snapshot : Snapshot) (selection extended : Selection) (line : Value)
    (trigger : Trigger) (a : Availability) (longer : Extends snapshot.table selection extended)
    (first : compute selection line snapshot trigger = .ok a) :
    ∃ b, compute extended line snapshot trigger = .ok b ∧
      (Steady snapshot line trigger selection a b →
        ∀ collection c, Keyed.get? a.choices collection = some c →
          ∃ d, Keyed.get? b.choices collection = some d ∧
            ∀ id ∈ d.available, id ∈ c.available) := by
  obtain ⟨defaults, known, _⟩ := get?_choices first
  have second : ∃ b, compute extended line snapshot trigger = .ok b := by
    rw [compute_eq, known]
    exact ⟨_, rfl⟩
  obtain ⟨b, second⟩ := second
  refine ⟨b, second, fun steady collection c found => ?_⟩
  by_cases replaced : b.Replaced collection
  · exact replaced_narrows longer first second steady found replaced
  · -- Rows replaced the collection for neither selection, so both are as matching left them.
    have untouched : ¬a.Replaced collection := mt (steady.replaced longer first second) replaced
    obtain ⟨before, known', here⟩ := get?_of_not_replaced first untouched
    obtain ⟨after, known'', there⟩ := get?_of_not_replaced second replaced
    obtain rfl := Except.ok.inj (known'.symm.trans known'')
    have left := steady.candidate
    rw [candidates_of_compute second, ne_eq, List.map_eq_nil_iff] at left
    rw [here] at found
    rw [there]
    exact afterMatching_narrows longer steady.complete left found

def shapedReds : Snapshot where
  table := ⟨[⟨"colors", "color", "color", "Color", true, false, true⟩,
    ⟨"sizes", "size", "size", "Size", true, false, true⟩,
    ⟨"shapes", "shape", "shape", "Shape", true, false, false⟩],
    by decide, by decide, by decide⟩
  lines := [("deco", ⟨.text "deco", .null, .null,
    [("colors", "red"), ("colors", "blue"), ("sizes", "small"), ("sizes", "large"),
      ("shapes", "round"), ("shapes", "square"), ("shapes", "oval")], .null⟩)]
  options := [
    ("colors", [("red", ⟨.text "red", .null, .null, "colors", .null, .bool true⟩),
      ("blue", ⟨.text "blue", .null, .null, "colors", .null, .bool true⟩)]),
    ("sizes", [("small", ⟨.text "small", .null, .null, "sizes", .null, .bool true⟩),
      ("large", ⟨.text "large", .null, .null, "sizes", .null, .bool true⟩)]),
    ("shapes", [("round", ⟨.text "round", .null, .null, "shapes", .null, .bool true⟩),
      ("square", ⟨.text "square", .null, .null, "shapes", .null, .bool true⟩),
      ("oval", ⟨.text "oval", .null, .null, "shapes", .null, .bool true⟩)])]
  products := [
    ⟨.int 1, .null, "deco", .null, [("colors", "red"), ("sizes", "small")], .bool true⟩,
    ⟨.int 2, .null, "deco", .null, [("colors", "red"), ("sizes", "large")], .bool true⟩,
    ⟨.int 3, .null, "deco", .null, [("colors", "blue"), ("sizes", "large")], .bool true⟩]
  overrides := [⟨"1", "shapes", "round"⟩, ⟨"2", "shapes", "square"⟩]
  rules := []
  codeFields := []
  diagnostics := []
  asOf := ""

def inRed : Selection := [("color", .text "red")]

def inSmallRed : Selection := [("color", .text "red"), ("size", .text "small")]

theorem extends_inRed : Extends shapedReds.table inRed inSmallRed := by
  intro spec member
  rcases List.mem_cons.mp member with rfl | member
  · exact Or.inr rfl
  · obtain rfl := List.mem_singleton.mp member
    exact Or.inl rfl

theorem steady_inRed (first : compute inRed (.text "deco") shapedReds Trigger.standard = .ok a)
    (second : compute inSmallRed (.text "deco") shapedReds Trigger.standard = .ok b) :
    Steady shapedReds (.text "deco") Trigger.standard inRed a b := by
  have before : a.candidates = ["1", "2"] := by
    cases first
    rfl
  have after : b.candidates = ["1"] := by
    cases second
    rfl
  refine ⟨by unfold Complete; decide, by simp [after], fun collection => ?_, fun stopped => ?_⟩
  · rw [before]
    by_cases named : collection = "shapes"
    · subst named
      refine Or.inl (List.forall_mem_cons.mpr ⟨?_, List.forall_mem_singleton.mpr ?_⟩)
      · exact ⟨"round", ⟨"1", "shapes", "round"⟩, by decide, by decide, rfl, rfl, rfl⟩
      · exact ⟨"square", ⟨"2", "shapes", "square"⟩, by decide, by decide, rfl, rfl, rfl⟩
    · refine Or.inr (fun p _ row => ?_)
      have rows : ∀ row ∈ shapedReds.overrides, row.collection = "shapes" := by decide
      obtain ⟨_, r, listed, _, here, _⟩ := row
      exact named (here.symm.trans (rows r listed))
  · cases stopped

/-- The small red product leaves one of the two shapes of red products. -/
theorem small_red_is_round :
    ∃ a b c d, compute inRed (.text "deco") shapedReds Trigger.standard = .ok a ∧
      compute inSmallRed (.text "deco") shapedReds Trigger.standard = .ok b ∧
      Extends shapedReds.table inRed inSmallRed ∧
      Steady shapedReds (.text "deco") Trigger.standard inRed a b ∧
      Keyed.get? a.choices "shapes" = some c ∧ Keyed.get? b.choices "shapes" = some d ∧
      (∀ id ∈ d.available, id ∈ c.available) ∧ "square" ∈ c.available ∧
      "square" ∉ d.available := by
  have first : ∃ a c, compute inRed (.text "deco") shapedReds Trigger.standard = .ok a ∧
      Keyed.get? a.choices "shapes" = some c ∧ "square" ∈ c.available :=
    ⟨_, _, rfl, rfl, by decide⟩
  have second : ∃ b d, compute inSmallRed (.text "deco") shapedReds Trigger.standard = .ok b ∧
      Keyed.get? b.choices "shapes" = some d ∧ "square" ∉ d.available :=
    ⟨_, _, rfl, rfl, by decide⟩
  obtain ⟨a, c, first, before, offered⟩ := first
  obtain ⟨b, d, second, after, gone⟩ := second
  obtain ⟨b', again, narrows⟩ := available_narrows shapedReds inRed inSmallRed (.text "deco")
    Trigger.standard a extends_inRed first
  obtain rfl := Except.ok.inj (second.symm.trans again)
  have steady := steady_inRed first second
  obtain ⟨d', after', fewer⟩ := narrows steady "shapes" c before
  obtain rfl := Option.some.inj (after.symm.trans after')
  exact ⟨a, b, c, d, first, second, extends_inRed, steady, before, after, fewer, offered, gone⟩

end Availability

end MadeToOrder
