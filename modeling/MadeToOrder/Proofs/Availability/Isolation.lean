import MadeToOrder.Proofs.Availability.Matching

/-!
# Override rows stay in their collections

Candidates are chosen before override rows are read, and a row can replace only
the choices of its own collection, as a whole. So what a collection offers either
comes from the rows of candidates alone or does not depend on any row.
-/

set_option autoImplicit false

namespace MadeToOrder.Availability

def Replaced (a : Availability) (collection : String) : Prop :=
  ∃ c, Keyed.get? a.choices collection = some c ∧ .productOverrides ∈ c.history

def Offered (snapshot : Snapshot) (products : List String) (collection id : String) : Prop :=
  ∃ row ∈ snapshot.overrides, row.product ∈ products ∧ row.collection = collection ∧
    row.item = id ∧ (snapshot.option? collection id).isSome = true

def itemsIn (groups : Keyed IdSet) (collection : String) : IdSet :=
  (Keyed.get? groups collection).getD []

structure Filled (groups : Keyed IdSet) : Prop where
  distinct : (Keyed.keys groups).Nodup
  inhabited : ∀ collection ids, Keyed.get? groups collection = some ids → ids ≠ []

section Groups

variable {snapshot : Snapshot} {groups : Keyed IdSet} {collection id : String}

def addItem (groups : Keyed IdSet) (row : OverrideRow) : Keyed IdSet :=
  Keyed.adjust groups row.collection (fun g => IdSet.add (g.getD []) row.item)

theorem groupItems_cons (snapshot : Snapshot) (groups : Keyed IdSet) (row : OverrideRow)
    (rest : List OverrideRow) :
    (groupItems snapshot groups (row :: rest)).1 =
      (groupItems snapshot
        (if (snapshot.option? row.collection row.item).isSome then addItem groups row
          else groups) rest).1 := by
  rw [groupItems]
  cases snapshot.option? row.collection row.item <;> rfl

theorem mem_itemsIn_addItem (row : OverrideRow) :
    id ∈ itemsIn (addItem groups row) collection ↔
      id ∈ itemsIn groups collection ∨ row.collection = collection ∧ row.item = id := by
  unfold itemsIn addItem Keyed.adjust
  by_cases same : collection = row.collection
  · subst same
    simp [Keyed.get?_put_self, IdSet.mem_add, eq_comm]
  · simp [Keyed.get?_put_of_ne _ _ same, Ne.symm same]

theorem mem_itemsIn_groupItems (rows : List OverrideRow) :
    id ∈ itemsIn (groupItems snapshot groups rows).1 collection ↔
      id ∈ itemsIn groups collection ∨ ∃ row ∈ rows, row.collection = collection ∧
        row.item = id ∧ (snapshot.option? collection id).isSome = true := by
  induction rows generalizing groups with
  | nil => simp [groupItems]
  | cons row rest ih =>
    rw [groupItems_cons, ih]
    by_cases known : (snapshot.option? row.collection row.item).isSome = true
    · rw [if_pos known, mem_itemsIn_addItem, or_assoc]
      simp only [List.mem_cons, exists_eq_or_imp]
      refine or_congr_right (or_congr_left ⟨?_, fun h => ⟨h.1, h.2.1⟩⟩)
      rintro ⟨rfl, rfl⟩
      exact ⟨rfl, rfl, known⟩
    · rw [if_neg known]
      simp only [List.mem_cons, exists_eq_or_imp]
      refine or_congr_right (or_iff_right ?_).symm
      rintro ⟨rfl, rfl, found⟩
      exact known found

theorem Filled.nil : Filled [] :=
  ⟨List.nodup_nil, fun _ _ found => by cases found⟩

theorem Filled.addItem (h : Filled groups) (row : OverrideRow) :
    Filled (Availability.addItem groups row) := by
  refine ⟨Keyed.nodup_keys_put h.distinct _ _, ?_⟩
  intro collection ids found
  rw [Availability.addItem, Keyed.adjust] at found
  by_cases same : collection = row.collection
  · subst same
    rw [Keyed.get?_put_self, Option.some.injEq] at found
    rw [← found]
    exact List.ne_nil_of_mem ((IdSet.mem_add _ _ row.item).mpr (Or.inr rfl))
  · rw [Keyed.get?_put_of_ne _ _ same] at found
    exact h.inhabited collection ids found

theorem Filled.groupItems (h : Filled groups) (snapshot : Snapshot) (rows : List OverrideRow) :
    Filled (Availability.groupItems snapshot groups rows).1 := by
  induction rows generalizing groups with
  | nil => exact h
  | cons row rest ih =>
    rw [groupItems_cons]
    split
    · exact ih (h.addItem row)
    · exact ih h

end Groups

def replace (group : Option IdSet) (c : Option Choices) : Option Choices :=
  match group with
  | some ids => some (Choices.ofIds ids ((c.map Choices.history).getD [] ++ [.productOverrides]))
  | none => c

theorem get?_foldl_replaceOne {groups : Keyed IdSet} (distinct : (Keyed.keys groups).Nodup)
    (choices : Keyed Choices) (collection : String) :
    Keyed.get? (groups.foldl replaceOne choices) collection =
      replace (Keyed.get? groups collection) (Keyed.get? choices collection) := by
  induction groups generalizing choices with
  | nil => rfl
  | cons group rest ih =>
    obtain ⟨name, ids⟩ := group
    obtain ⟨fresh, distinct⟩ := List.nodup_cons.mp distinct
    rw [List.foldl_cons, ih distinct, replaceOne, Keyed.adjust]
    by_cases same : collection = name
    · subst same
      -- Keys do not repeat, so no later group replaces the collection again.
      rw [Keyed.get?_eq_none fresh, Keyed.get?_put_self]
      simp [replace, Keyed.get?]
    · rw [Keyed.get?_put_of_ne _ _ same]
      simp [Keyed.get?, Ne.symm same]

theorem matchProducts_not_replaced {products : List Product} {selected : Keyed String}
    {choices : Keyed Choices} {specs : List FieldSpec}
    (h : ∀ collection c, Keyed.get? choices collection = some c →
      Step.productOverrides ∉ c.history) :
    ∀ collection c, Keyed.get? (matchProducts products selected choices specs) collection = some c →
      Step.productOverrides ∉ c.history := by
  unfold matchProducts
  induction specs generalizing choices with
  | nil => exact h
  | cons spec rest ih =>
    rw [List.foldl_cons]
    refine ih ?_
    intro collection c found
    rw [get?_matchOne] at found
    split at found
    · obtain ⟨d, before, rfl⟩ := Option.map_eq_some_iff.mp found
      have kept := h _ d before
      unfold matchChoices
      dsimp only
      split
      · exact kept
      · simpa [Choices.keep] using kept
    · exact h collection c found

variable {snapshot : Snapshot} {selection : Selection} {line : Value} {trigger : Trigger}
  {a : Availability} {collection : String}

theorem afterMatching_not_replaced {defaults : Keyed (List String)} {c : Choices}
    (h : Keyed.get? (afterMatching selection line snapshot defaults) collection = some c) :
    Step.productOverrides ∉ c.history := by
  have start : ∀ name d, Keyed.get? (startingChoices defaults) name = some d →
      Step.productOverrides ∉ d.history := by
    intro name d started
    simp [(get?_startingChoices started).2]
  unfold afterMatching at h
  dsimp only at h
  split at h
  · exact start collection c h
  · exact matchProducts_not_replaced start collection c h

def replacement (selection : Selection) (line : Value) (snapshot : Snapshot) (trigger : Trigger)
    (collection : String) : Option IdSet :=
  if overrides selection line snapshot trigger then
    Keyed.get? (overrideItems selection line snapshot).1 collection
  else none

theorem filled_overrideItems : Filled (overrideItems selection line snapshot).1 :=
  Filled.nil.groupItems snapshot _

theorem get?_choices (computed : compute selection line snapshot trigger = .ok a) :
    ∃ defaults, snapshot.lineDefaults line = .ok defaults ∧
      ∀ collection, Keyed.get? a.choices collection =
        replace (replacement selection line snapshot trigger collection)
          (Keyed.get? (afterMatching selection line snapshot defaults) collection) := by
  rw [compute_eq] at computed
  obtain ⟨defaults, found, rfl⟩ := map_eq_ok.mp computed
  refine ⟨defaults, found, ?_⟩
  intro collection
  unfold replacement
  dsimp only
  split
  · exact get?_foldl_replaceOne filled_overrideItems.distinct _ collection
  · rfl

/-- Items replace a collection exactly when the override step is in its history. -/
theorem replaced_iff_replacement (computed : compute selection line snapshot trigger = .ok a) :
    a.Replaced collection ↔
      (replacement selection line snapshot trigger collection).isSome = true := by
  obtain ⟨defaults, _, choices⟩ := get?_choices computed
  unfold Replaced
  rw [choices collection]
  cases replacement selection line snapshot trigger collection with
  | none =>
    simp only [replace, Option.isSome_none, Bool.false_eq_true, iff_false]
    rintro ⟨c, matched, step⟩
    exact afterMatching_not_replaced matched step
  | some ids => simp [replace, Choices.ofIds]

theorem mem_overrideItems (computed : compute selection line snapshot trigger = .ok a)
    {id : String} :
    id ∈ itemsIn (overrideItems selection line snapshot).1 collection ↔
      Offered snapshot a.candidates collection id := by
  rw [overrideItems, mem_itemsIn_groupItems, ← candidates_of_compute computed]
  simp [itemsIn, Keyed.get?, Offered, Snapshot.overridesFor, and_assoc]

/-- A collection is replaced when the override step takes place and the candidates
offer something in it. -/
theorem replaced_iff (computed : compute selection line snapshot trigger = .ok a) :
    a.Replaced collection ↔ overrides selection line snapshot trigger = true ∧
      ∃ id, Offered snapshot a.candidates collection id := by
  rw [replaced_iff_replacement computed, replacement]
  simp only [← mem_overrideItems computed]
  by_cases step : overrides selection line snapshot trigger = true
  · simp only [step, if_true, true_and, itemsIn]
    cases found : Keyed.get? (overrideItems selection line snapshot).1 collection with
    | none => simp
    | some ids =>
      have nonempty := filled_overrideItems.inhabited collection ids found
      simpa using List.exists_mem_of_ne_nil ids nonempty
  · simp [step]

/-- A replaced collection offers what the rows of the candidates name, all of it. -/
theorem choices_of_replaced (computed : compute selection line snapshot trigger = .ok a)
    {c : Choices} (found : Keyed.get? a.choices collection = some c)
    (replaced : .productOverrides ∈ c.history) :
    c.disabled = [] ∧ ∀ id, (id ∈ c.all ↔ Offered snapshot a.candidates collection id) ∧
      (id ∈ c.available ↔ Offered snapshot a.candidates collection id) := by
  have present : a.Replaced collection := ⟨c, found, replaced⟩
  have step := ((replaced_iff computed).mp present).1
  obtain ⟨ids, items⟩ :=
    Option.isSome_iff_exists.mp ((replaced_iff_replacement computed).mp present)
  obtain ⟨defaults, _, choices⟩ := get?_choices computed
  rw [choices collection, items, replace, Option.some.injEq] at found
  rw [replacement, if_pos step] at items
  have offered : ∀ id, id ∈ ids ↔ Offered snapshot a.candidates collection id := by
    intro id
    rw [← mem_overrideItems computed, itemsIn, items, Option.getD_some]
  subst found
  exact ⟨rfl, fun id => ⟨(IdSet.mem_ofList ids id).trans (offered id),
    (IdSet.mem_ofList ids id).trans (offered id)⟩⟩

theorem get?_of_not_replaced (computed : compute selection line snapshot trigger = .ok a)
    (kept : ¬a.Replaced collection) :
    ∃ defaults, snapshot.lineDefaults line = .ok defaults ∧ Keyed.get? a.choices collection =
      Keyed.get? (afterMatching selection line snapshot defaults) collection := by
  obtain ⟨defaults, found, choices⟩ := get?_choices computed
  rw [replaced_iff_replacement computed, Option.not_isSome_iff_eq_none] at kept
  exact ⟨defaults, found, by rw [choices collection, kept, replace]⟩

theorem grouped_rows (snapshot : Snapshot) (rows : List OverrideRow)
    (pairs : List (String × String)) (groups : Keyed (List CatalogOption)) :
    { snapshot with overrides := rows }.grouped pairs groups = snapshot.grouped pairs groups := by
  induction pairs generalizing groups with
  | nil => rfl
  | cons pair rest ih =>
    simp only [Snapshot.grouped, ih]
    rfl

theorem lineDefaults_rows (snapshot : Snapshot) (rows : List OverrideRow) (line : Value) :
    { snapshot with overrides := rows }.lineDefaults line = snapshot.lineDefaults line := by
  simp only [Snapshot.lineDefaults, grouped_rows]
  rfl

theorem map_candidates (selection : Selection) (line : Value) (snapshot : Snapshot)
    (trigger : Trigger) :
    (compute selection line snapshot trigger).map candidates = (snapshot.lineDefaults line).map
      (fun _ => (candidatesOf selection line snapshot).map Product.key) := by
  rw [compute_eq]
  cases snapshot.lineDefaults line with
  | error fault => rfl
  | ok defaults =>
    simp only [Except.map]
    split <;> rfl

/-- Other override rows change neither the candidates nor a collection that no row
replaces; a replaced collection offers exactly the existing options that rows of the
candidates name. -/
theorem override_isolation (snapshot : Snapshot) (rows : List OverrideRow)
    (selection : Selection) (line : Value) (trigger : Trigger) :
    (compute selection line snapshot trigger).map candidates =
        (compute selection line { snapshot with overrides := rows } trigger).map candidates ∧
      ∀ a b, compute selection line snapshot trigger = .ok a →
        compute selection line { snapshot with overrides := rows } trigger = .ok b →
        (∀ collection, ¬a.Replaced collection → ¬b.Replaced collection →
          Keyed.get? a.choices collection = Keyed.get? b.choices collection) ∧
        ∀ collection c, Keyed.get? a.choices collection = some c →
          .productOverrides ∈ c.history →
          c.disabled = [] ∧
            ∀ id, (id ∈ c.all ↔ Offered snapshot a.candidates collection id) ∧
              (id ∈ c.available ↔ Offered snapshot a.candidates collection id) := by
  have sameDefaults := lineDefaults_rows snapshot rows line
  constructor
  · rw [map_candidates, map_candidates, sameDefaults]
    rfl
  · intro a b first second
    refine ⟨?_, fun collection c found replaced => choices_of_replaced first found replaced⟩
    intro collection keptHere keptThere
    obtain ⟨defaults, found, here⟩ := get?_of_not_replaced first keptHere
    obtain ⟨others, foundThere, there⟩ := get?_of_not_replaced second keptThere
    rw [sameDefaults, found, Except.ok.injEq] at foundThere
    subst foundThere
    rw [here, there]
    rfl

def largeRed : List OverrideRow :=
  [⟨"1", "sizes", "large"⟩, ⟨"1", "sizes", "huge"⟩, ⟨"2", "sizes", "small"⟩,
    ⟨"2", "colors", "red"⟩]

theorem large_red_offered :
    ∃ a b c, compute [("color", .text "red")] (.text "deco")
        { smallRedLargeBlue with overrides := largeRed } Trigger.standard = .ok a ∧
      compute [("color", .text "red")] (.text "deco") smallRedLargeBlue Trigger.standard = .ok b ∧
      a.candidates = b.candidates ∧
      Keyed.get? a.choices "colors" = Keyed.get? b.choices "colors" ∧
      Keyed.get? a.choices "sizes" = some c ∧ .productOverrides ∈ c.history ∧
      c.disabled = [] ∧ "large" ∈ c.available ∧ "small" ∉ c.all ∧
      Offered { smallRedLargeBlue with overrides := largeRed } a.candidates "sizes" "large" := by
  obtain ⟨same, pair⟩ := override_isolation { smallRedLargeBlue with overrides := largeRed } []
    [("color", .text "red")] (.text "deco") Trigger.standard
  obtain ⟨untouched, replaced⟩ := pair _ _ rfl rfl
  obtain ⟨empty, offers⟩ := replaced "sizes" _ rfl (by decide)
  refine ⟨_, _, _, rfl, rfl, Except.ok.inj same, untouched "colors" ?_ ?_, rfl, by decide, empty,
    by decide, by decide, (offers "large").1.mp (by decide)⟩
  · rintro ⟨c, found, step⟩
    cases found
    exact absurd step (by decide)
  · rintro ⟨c, found, step⟩
    cases found
    exact absurd step (by decide)

end MadeToOrder.Availability
