import MadeToOrder.Proofs.Catalog.Display
import MadeToOrder.Proofs.Traversal

/-!
# Snapshots of the same rows

Two snapshots are alike when they hold the same rows in different order. What is looked
up by key is the same in both, and so is what they show, since the order of display does
not depend on the order of the rows.
-/

set_option autoImplicit false

namespace MadeToOrder

universe u

theorem eq_none_or_some_of_rel {α β : Type u} {R : α → β → Prop} {x : Option α} {y : Option β}
    (h : Option.Rel R x y) : (x = none ∧ y = none) ∨ ∃ a b, x = some a ∧ y = some b ∧ R a b := by
  cases h with
  | none => exact Or.inl ⟨rfl, rfl⟩
  | some related => exact Or.inr ⟨_, _, rfl, rfl, related⟩

theorem Keyed.get?_eq_of_perm {α : Type u} {m m' : Keyed α} (perm : m.Perm m')
    (distinct : (keys m).Nodup) (key : String) : get? m key = get? m' key := by
  have distinct' : (keys m').Nodup := (perm.map Prod.fst).nodup_iff.mp distinct
  cases found : get? m key with
  | some value =>
    exact (get?_of_mem distinct' (perm.mem_iff.mp (mem_of_get? found))).symm
  | none =>
    cases other : get? m' key with
    | none => rfl
    | some value =>
      have known := get?_of_mem distinct (perm.mem_iff.mpr (mem_of_get? other))
      rw [found] at known
      cases known

namespace Snapshot

/-- The same rows in another order, and the same of all that has an order of its own. Each
option stands under its own key, with a sort value that has a place. -/
structure Alike (s s' : Snapshot) : Prop where
  table : s'.table = s.table
  lines : ∀ key, Option.Rel (fun l l' : ProductLine => l.defaults.Perm l'.defaults)
    (Keyed.get? s.lines key) (Keyed.get? s'.lines key)
  options : ∀ collection, (s.optionsIn collection).Perm (s'.optionsIn collection)
  filed : s.Filed
  placed : ∀ collection, ∀ o ∈ Keyed.values (s.optionsIn collection), o.sort.isPlaced = true
  products : s.products.Perm s'.products
  overrides : s.overrides.Perm s'.overrides
  rules : s'.rules = s.rules
  codeFields : s'.codeFields = s.codeFields

variable {s s' : Snapshot}

theorem Alike.option? (h : s.Alike s') (collection key : String) :
    s'.option? collection key = s.option? collection key :=
  (Keyed.get?_eq_of_perm (h.options collection) (h.filed.optionsIn collection).distinct key).symm

theorem Alike.optionsFor (h : s.Alike s') (collection : String) :
    s'.optionsFor collection = s.optionsFor collection := by
  apply Eq.symm
  apply display_eq_of_perm ((h.options collection).map Prod.snd) (h.placed collection)
  exact fun a first b second same => h.filed.eq_of_key_eq first second same

theorem Alike.hasLine (h : s.Alike s') (line : Value) : s'.hasLine line = s.hasLine line := by
  unfold Snapshot.hasLine Keyed.has
  rcases eq_none_or_some_of_rel (h.lines line.plain) with ⟨none, none'⟩ | ⟨l, l', found, found', _⟩
  · rw [none, none']
  · rw [found, found']
    rfl

def namedBy (s : Snapshot) (pairs : List (String × String)) (collection : String) :
    List CatalogOption :=
  pairs.filterMap (fun pair => if pair.1 = collection then s.option? pair.1 pair.2 else none)

def extended (group : Option (List CatalogOption)) (more : List CatalogOption) :
    Option (List CatalogOption) :=
  if more.isEmpty then group else some (group.getD [] ++ more)

theorem extended_append (group : Option (List CatalogOption)) (o : CatalogOption)
    (more : List CatalogOption) :
    extended (some (group.getD [] ++ [o])) more = extended group (o :: more) := by
  cases more <;> simp [extended]

theorem get?_grouped (pairs : List (String × String)) (groups : Keyed (List CatalogOption))
    (collection : String) : Keyed.get? (s.grouped pairs groups) collection =
      extended (Keyed.get? groups collection) (s.namedBy pairs collection) := by
  induction pairs generalizing groups with
  | nil => rfl
  | cons pair rest ih =>
    obtain ⟨name, item⟩ := pair
    rw [grouped, namedBy, List.filterMap_cons]
    cases found : s.option? name item with
    | none =>
      rw [ite_self]
      exact ih groups
    | some o =>
      dsimp only
      rw [ih, Keyed.adjust]
      by_cases same : name = collection
      · subst same
        rw [Keyed.get?_put_self, if_pos rfl]
        exact extended_append _ o _
      · rw [Keyed.get?_put_of_ne _ _ (Ne.symm same), if_neg same]
        rfl

def keysShown (options : List CatalogOption) : List String :=
  (Sorting.sort (fun a b => CatalogOption.less? b a != some true) options).map CatalogOption.key

theorem displayKeys_of_placed {groups : Keyed (List CatalogOption)}
    (placed : ∀ e ∈ groups, ∀ o ∈ e.2, o.sort.isPlaced = true) :
    displayKeys groups = .ok (Keyed.mapValues keysShown groups) := by
  induction groups with
  | nil => rfl
  | cons group rest ih =>
    obtain ⟨here, others⟩ := List.forall_mem_cons.mp placed
    rw [displayKeys, display_of_placed here, ih others]
    rfl

theorem Alike.keysShown (h : s.Alike s') {collection : String}
    {options options' : List CatalogOption} (perm : options.Perm options')
    (known : ∀ o ∈ options, o ∈ Keyed.values (s.optionsIn collection)) :
    Snapshot.keysShown options = Snapshot.keysShown options' := by
  have placed : ∀ o ∈ options, o.sort.isPlaced = true :=
    fun o member => h.placed collection o (known o member)
  have same := display_eq_of_perm perm placed (fun a first b second =>
    h.filed.eq_of_key_eq (known a first) (known b second))
  rw [display_of_placed placed,
    display_of_placed (fun o member => placed o (perm.mem_iff.mpr member))] at same
  exact congrArg (List.map CatalogOption.key) (Except.ok.inj same)

theorem Alike.stocked (h : s.Alike s') {groups : Keyed (List CatalogOption)}
    (stocked : s'.Stocked groups) : ∀ e ∈ groups, ∀ o ∈ e.2,
      o ∈ Keyed.values (s.optionsIn e.1) := by
  intro e member o listed
  obtain ⟨item, found⟩ := stocked e member o listed
  rw [h.option?] at found
  exact mem_of_option? found

theorem Alike.line (h : s.Alike s') (line : Value) :
    Paired (fun l l' : ProductLine => l.defaults.Perm l'.defaults) (s.line line)
      (s'.line line) := by
  unfold Snapshot.line
  rcases eq_none_or_some_of_rel (h.lines line.plain) with
    ⟨none, none'⟩ | ⟨l, l', found, found', same⟩
  · rw [none, none']
    exact .error _
  · rw [found, found']
    exact .ok same

/-- What a line offers in a collection does not depend on the order of its defaults. -/
theorem Alike.get?_displayed (h : s.Alike s') {pairs pairs' : List (String × String)}
    (perm : pairs.Perm pairs') (collection : String) :
    (Keyed.get? (s'.grouped pairs' []) collection).map Snapshot.keysShown =
      (Keyed.get? (s.grouped pairs []) collection).map Snapshot.keysShown := by
  have named : (s.namedBy pairs collection).Perm (s'.namedBy pairs' collection) := by
    have same : s'.namedBy pairs' collection = s.namedBy pairs' collection := by
      simp only [namedBy, h.option?]
    rw [same]
    exact perm.filterMap _
  have known : ∀ o ∈ s.namedBy pairs collection, o ∈ Keyed.values (s.optionsIn collection) := by
    intro o member
    obtain ⟨pair, _, found⟩ := List.mem_filterMap.mp member
    split at found
    · rename_i same
      exact same ▸ mem_of_option? found
    · cases found
  rw [get?_grouped, get?_grouped]
  unfold extended
  by_cases none : s.namedBy pairs collection = []
  · have none' : s'.namedBy pairs' collection = [] := by
      rw [none] at named
      exact named.nil_eq.symm
    simp [none, none', Keyed.get?]
  · have some : s'.namedBy pairs' collection ≠ [] := by
      intro empty
      rw [empty] at named
      exact none named.eq_nil
    simp [none, some, Keyed.get?, h.keysShown named known]

theorem Alike.lineDefaults (h : s.Alike s') (line : Value) :
    Paired (fun d d' : Keyed (List String) =>
      ∀ collection, Keyed.get? d' collection = Keyed.get? d collection)
      (s.lineDefaults line) (s'.lineDefaults line) := by
  apply (h.line line).bind
  intro l l' perm
  have filled : s.Stocked (s.grouped l.defaults []) :=
    .grouped (fun _ member => absurd member List.not_mem_nil) l.defaults
  have filled' : s'.Stocked (s'.grouped l'.defaults []) :=
    .grouped (fun _ member => absurd member List.not_mem_nil) l'.defaults
  have placed : ∀ e ∈ s.grouped l.defaults [], ∀ o ∈ e.2, o.sort.isPlaced = true := by
    intro e member o listed
    obtain ⟨item, found⟩ := filled e member o listed
    exact h.placed e.1 o (mem_of_option? found)
  have placed' : ∀ e ∈ s'.grouped l'.defaults [], ∀ o ∈ e.2, o.sort.isPlaced = true :=
    fun e member o listed => h.placed e.1 o (h.stocked filled' e member o listed)
  rw [displayKeys_of_placed placed, displayKeys_of_placed placed', h.table, h.optionsFor]
  have shown : ∀ collection,
      Keyed.get? (Keyed.mapValues Snapshot.keysShown (s'.grouped l'.defaults [])) collection =
        Keyed.get? (Keyed.mapValues Snapshot.keysShown (s.grouped l.defaults [])) collection := by
    intro collection
    rw [Keyed.get?_mapValues, Keyed.get?_mapValues, h.get?_displayed perm]
  show Paired _ (if _ then _ else _) (if _ then _ else _)
  split
  · apply (Paired.refl (s.optionsFor lineCollection)).bind
    rintro all _ rfl
    apply Paired.ok
    intro collection
    by_cases own : collection = lineCollection
    · rw [own, Keyed.get?_put_self, Keyed.get?_put_self]
    · rw [Keyed.get?_put_of_ne _ _ own, Keyed.get?_put_of_ne _ _ own, shown]
  · exact .ok shown

end Snapshot

end MadeToOrder
