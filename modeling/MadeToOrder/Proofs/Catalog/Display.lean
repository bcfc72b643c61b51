import Mathlib.Data.Prod.Lex
import Mathlib.Data.String.Basic
import MadeToOrder.Proofs.Catalog.Defaults

/-!
# Display order

Options are shown by sort value, those without one last, and by key among equals.
Numbers, NaN and nothing can always be compared, so such options can be shown. A number is
what has a place on the number line, and NaN has none. Where the sort values are numbers or
nothing the order is a rank with the key as its last part, and what is shown does not depend on
the order in which options are filed.
-/

set_option autoImplicit false

namespace MadeToOrder

/-- Items that are compared by a rank which tells them apart sort alike in every order. -/
theorem Sorting.sort_eq_of_rank {α β : Type} [LinearOrder β] {less? : α → α → Option Bool}
    {rank : α → β} {xs ys : List α} (perm : xs.Perm ys)
    (ranked : ∀ a ∈ xs, ∀ b ∈ xs, less? a b = some true ↔ rank a < rank b)
    (apart : ∀ a ∈ xs, ∀ b ∈ xs, rank a = rank b → a = b) :
    sort (fun a b => less? b a != some true) xs = sort (fun a b => less? b a != some true) ys := by
  have placed : ∀ items : List α, items ⊆ xs → items.Pairwise (fun a b =>
      if less? b a != some true then rank a ≤ rank b else rank b ≤ rank a) := by
    intro items inside
    apply List.pairwise_of_forall_mem_list
    intro a first b second
    have compared := ranked b (inside second) a (inside first)
    by_cases behind : rank b < rank a
    · rw [if_neg (by simpa using compared.mpr behind)]
      exact le_of_lt behind
    · rw [if_pos (by simpa using mt compared.mp behind)]
      exact le_of_not_gt behind
  apply sort_eq_of_perm (R := fun a b => rank a ≤ rank b) (fun a b c => le_trans) _ perm
    (placed xs (List.Subset.refl xs)) (placed ys perm.symm.subset)
  intro a first b second before behind
  exact apart a first b second (le_antisymm before behind)

namespace Value

/-- A number, or nothing. A number has a place, so NaN is none. -/
def isPlaced (v : Value) : Bool := v.isNull || v.place?.isSome

/-- A number, or nothing, or NaN, which is no number but can be compared with them. -/
def isSortable (v : Value) : Bool := v.isPlaced || v.isNaN

theorem isSortable_of_isPlaced {v : Value} (h : v.isPlaced = true) : v.isSortable = true := by
  rw [isSortable, h, Bool.true_or]

theorem isNumber_of_isSortable {v : Value} (h : v.isSortable = true) (filled : v.isNull = false) :
    v.isNumber = true := by
  cases v with
  | null => cases filled
  | bool | int | float => rfl
  | text | list | object => cases h

theorem isNull_of_isNumber {v : Value} (h : v.isNumber = true) : v.isNull = false := by
  cases v with
  | null => cases h
  | _ => rfl

theorem agrees_of_isNumber {a : Value} (h : a.isNumber = true) (b : Value) :
    a.agrees b = a.samePlace b := by
  cases a with
  | bool | int | float => simp only [agrees]
  | _ => cases h

theorem less?_of_isNumber {a b : Value} (ha : a.isNumber = true) (hb : b.isNumber = true) :
    a.less? b = some (match a.place?, b.place? with
      | some x, some y => x.before y
      | _, _ => false) := by
  cases a with
  | bool | int | float =>
    unfold less?
    rw [ha, hb]
    rfl
  | _ => cases ha

end Value

namespace Place

def level : Place → Nat ×ₗ Int
  | .lowest => toLex (0, 0)
  | .steps count => toLex (1, count)
  | .highest => toLex (2, 0)

theorem before_iff (a b : Place) : a.before b = true ↔ a.level < b.level := by
  cases a <;> cases b <;> simp [level, before, Prod.Lex.toLex_lt_toLex]

theorem level_inj {a b : Place} (h : a.level = b.level) : a = b := by
  cases a <;> cases b <;> simp_all [level]

end Place

namespace CatalogOption

variable {a b : CatalogOption}

theorem less?_isSome (ha : a.sort.isSortable = true) (hb : b.sort.isSortable = true) :
    (a.less? b).isSome = true := by
  unfold less?
  split
  · rfl
  · rename_i first
    split
    · rfl
    · rename_i second
      split
      · rfl
      · have left := Value.isNumber_of_isSortable ha (by simpa using first)
        have right := Value.isNumber_of_isSortable hb (by simpa using second)
        rw [Value.less?_of_isNumber left right]
        rfl

def levelOf (v : Value) : Nat ×ₗ Int := ((v.place?).map Place.level).getD (toLex (0, 0))

def displayRank (o : CatalogOption) : Bool ×ₗ ((Nat ×ₗ Int) ×ₗ String) :=
  toLex (o.sort.isNull, toLex (levelOf o.sort, o.key))

theorem key_eq_of_displayRank (h : a.displayRank = b.displayRank) : a.key = b.key :=
  congrArg (fun rank => (ofLex (ofLex rank).2).2) h

/-- Numbers with a place are compared by it, and by the key where they agree. -/
theorem less?_iff_of_place? {p q : Place} (ha : a.sort.place? = some p)
    (hb : b.sort.place? = some q) :
    a.less? b = some true ↔ p.before q = true ∨ p = q ∧ a.key < b.key := by
  have left := Value.isNumber_of_place? ha
  have right := Value.isNumber_of_place? hb
  unfold less?
  rw [Value.isNull_of_isNumber left, Value.isNull_of_isNumber right, if_neg (by decide),
    if_neg (by decide), Value.agrees_of_isNumber left, Value.less?_of_isNumber left right,
    Value.samePlace, ha, hb]
  dsimp only
  by_cases same : p = q
  · have first : p.before q = false := by
      rw [same]
      cases q <;> simp [Place.before]
    simp [same, same ▸ first]
  · simp [same]

theorem less?_iff (ha : a.sort.isPlaced = true) (hb : b.sort.isPlaced = true) :
    a.less? b = some true ↔ a.displayRank < b.displayRank := by
  have compared : a.displayRank < b.displayRank ↔ a.sort.isNull < b.sort.isNull ∨
      a.sort.isNull = b.sort.isNull ∧ (levelOf a.sort < levelOf b.sort ∨
        levelOf a.sort = levelOf b.sort ∧ a.key < b.key) := by
    simp only [displayRank, Prod.Lex.toLex_lt_toLex]
  have nothing : ∀ v : Value, v.isNull = true → levelOf v = toLex (0, 0) := by
    intro v none
    cases v with
    | null => rfl
    | _ => cases none
  rw [compared]
  by_cases first : a.sort.isNull = true
  · by_cases second : b.sort.isNull = true
    · simp [less?, first, second, nothing]
    · simp [less?, first, second]
  · by_cases second : b.sort.isNull = true
    · simp [less?, first, second]
    · have left : a.sort.place?.isSome = true := by simpa [Value.isPlaced, first] using ha
      have right : b.sort.place?.isSome = true := by simpa [Value.isPlaced, second] using hb
      obtain ⟨p, place⟩ := Option.isSome_iff_exists.mp left
      obtain ⟨q, place'⟩ := Option.isSome_iff_exists.mp right
      have same : p.level = q.level ↔ p = q := ⟨Place.level_inj, congrArg Place.level⟩
      rw [less?_iff_of_place? place place', Place.before_iff]
      simp [first, second, levelOf, place, place', same]

end CatalogOption

namespace Snapshot

variable {s : Snapshot}

theorem exists_inOrderOf {α : Type} {value : α → Value} {less? : α → α → Option Bool}
    {items : List α} (h : ∀ x ∈ items, ∀ y ∈ items, (less? x y).isSome = true) :
    ∃ sorted, inOrderOf value less? items = .ok sorted := by
  unfold inOrderOf
  dsimp only
  by_cases ordered : items.all (fun item => (value item).isOrdered) = true
  · obtain ⟨sorted, found⟩ := Sorting.exists_sort? h
    rw [if_pos ordered, found]
    exact ⟨sorted, rfl⟩
  · obtain ⟨sorted, found⟩ := Sorting.exists_halved? h
    rw [if_neg ordered, found]
    exact ⟨sorted, rfl⟩

theorem exists_display {options : List CatalogOption}
    (h : ∀ o ∈ options, o.sort.isSortable = true) : ∃ shown, display options = .ok shown :=
  exists_inOrderOf (fun a first b second => CatalogOption.less?_isSome (h a first) (h b second))

section

variable {P : Fault → Prop} {line : Value}

theorem failsOnly_display {options : List CatalogOption}
    (h : P .incomparable ∨ ∀ o ∈ options, o.sort.isSortable = true) :
    FailsOnly P (display options) := by
  rcases h with allowed | sortable
  · unfold display inOrderOf
    dsimp only
    split
    · exact failsOnly_ok _
    · exact failsOnly_error allowed
  · obtain ⟨shown, found⟩ := exists_display sortable
    rw [found]
    exact failsOnly_ok shown

/-- The sort value of every option is a number, NaN or nothing. -/
def Sortable (s : Snapshot) : Prop :=
  ∀ e ∈ s.options, ∀ o ∈ Keyed.values e.2, o.sort.isSortable = true

theorem Sortable.option (h : s.Sortable) {collection : String} {o : CatalogOption}
    (listed : o ∈ Keyed.values (s.optionsIn collection)) : o.sort.isSortable = true := by
  obtain ⟨options, filed, listed⟩ := exists_of_mem_optionsIn listed
  exact h (collection, options) filed o listed

theorem failsOnly_optionsFor (h : P .incomparable ∨ s.Sortable) (collection : String) :
    FailsOnly P (s.optionsFor collection) :=
  failsOnly_display (h.imp_right fun sortable _ listed => sortable.option listed)

theorem failsOnly_displayKeys {groups : Keyed (List CatalogOption)} (stocked : s.Stocked groups)
    (h : P .incomparable ∨ s.Sortable) : FailsOnly P (displayKeys groups) := by
  induction groups with
  | nil => exact failsOnly_ok _
  | cons group rest ih =>
    obtain ⟨here, others⟩ := List.forall_mem_cons.mp stocked
    have shown : FailsOnly P (display group.2) := by
      apply failsOnly_display
      apply h.imp_right
      intro sortable o listed
      obtain ⟨item, found⟩ := here o listed
      exact sortable.option (mem_of_option? found)
    exact shown.bind fun _ => (ih others).bind fun _ => failsOnly_ok _

theorem failsOnly_lineDefaults (h : P .incomparable ∨ s.Sortable)
    (unknown : s.hasLine line = false → P (.unknownLine line)) :
    FailsOnly P (s.lineDefaults line) := by
  have known : FailsOnly P (s.line line) := by
    unfold Snapshot.line
    cases found : Keyed.get? s.lines line.plain with
    | some l => exact failsOnly_ok l
    | none => exact failsOnly_error (unknown (by simp [hasLine, Keyed.has, found]))
  apply known.bind
  intro l
  apply (failsOnly_displayKeys (.grouped (fun _ member => absurd member List.not_mem_nil)
    l.defaults) h).bind
  intro shown
  split
  · exact (failsOnly_optionsFor h _).bind fun _ => failsOnly_ok _
  · exact failsOnly_ok _

end

theorem isOrdered_of_isPlaced {v : Value} (h : v.isPlaced = true) : v.isOrdered = true := by
  cases v with
  | float d =>
    cases d with
    | nan => cases h
    | _ => rfl
  | list | object | text => cases h
  | null | bool | int => rfl

theorem display_of_placed {options : List CatalogOption}
    (placed : ∀ o ∈ options, o.sort.isPlaced = true) :
    display options =
      .ok (Sorting.sort (fun a b => CatalogOption.less? b a != some true) options) := by
  have ordered : options.all (fun o => o.sort.isOrdered) = true :=
    List.all_eq_true.mpr (fun o member => isOrdered_of_isPlaced (placed o member))
  have compared : ∀ a ∈ options, ∀ b ∈ options, (a.less? b).isSome = true :=
    fun a first b second => CatalogOption.less?_isSome
      (Value.isSortable_of_isPlaced (placed a first))
      (Value.isSortable_of_isPlaced (placed b second))
  obtain ⟨sorted, found⟩ := Sorting.exists_sort? compared
  have chosen := found
  unfold Sorting.sort? at chosen
  split at chosen
  · obtain rfl := Option.some.inj chosen
    unfold display inOrderOf
    rw [ordered, if_pos rfl, found]
  · cases chosen

/-- Options with placed sort values are shown alike in whatever order they are filed. -/
theorem display_eq_of_perm {options options' : List CatalogOption} (perm : options.Perm options')
    (placed : ∀ o ∈ options, o.sort.isPlaced = true)
    (keyed : ∀ a ∈ options, ∀ b ∈ options, a.key = b.key → a = b) :
    display options = display options' := by
  have placed' : ∀ o ∈ options', o.sort.isPlaced = true :=
    fun o member => placed o (perm.mem_iff.mpr member)
  have ranked : ∀ a ∈ options, ∀ b ∈ options,
      a.less? b = some true ↔ a.displayRank < b.displayRank :=
    fun a first b second => CatalogOption.less?_iff (placed a first) (placed b second)
  rw [display_of_placed placed, display_of_placed placed']
  congr 1
  apply Sorting.sort_eq_of_rank perm ranked
  intro a first b second same
  exact keyed a first b second (CatalogOption.key_eq_of_displayRank same)

end Snapshot

end MadeToOrder
