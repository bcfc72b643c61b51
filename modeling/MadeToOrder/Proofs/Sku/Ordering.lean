import Mathlib.Data.List.Dedup
import Mathlib.Data.List.Pairwise
import MadeToOrder.Proofs.Sku.Faults
import MadeToOrder.Proofs.Sku.RoundTrip

/-!
# Sound orders of code fields

The check of an order counts: every enabled entry whose position came before gives
one message, and so does every one whose collection came before. Where it finds
nothing, positions tell the enabled entries apart, so sorting by position undoes
every rearrangement, and codes are built and read alike.
-/

set_option autoImplicit false

namespace MadeToOrder

namespace Value

def Comparable (a b : Value) : Prop :=
  a.kind = .text ∧ b.kind = .text ∨ a.isNumber = true ∧ b.isNumber = true

theorem Comparable.symm {a b : Value} (h : Comparable a b) : Comparable b a :=
  h.imp And.symm And.symm

theorem less?_isSome_iff {a b : Value} (key : a.isHashable = true) :
    (a.less? b).isSome = true ↔ Comparable a b := by
  cases a with
  | list items => cases key
  | object fields => cases key
  | _ => cases b <;> simp [less?, Comparable, isNumber, kind]

theorem not_less?_self {a : Value} (key : a.isHashable = true) : a.less? a ≠ some true := by
  cases a with
  | list items => cases key
  | object fields => cases key
  | null => simp [less?, isNumber]
  | text s => simp [less?]
  | bool | int | float =>
    rw [less?_of_isNumber rfl rfl]
    split
    · rename_i first second
      obtain rfl := Option.some.inj (first.symm.trans second)
      simp [Place.before_iff]
    · simp

theorem isOrdered_of_isHashable {v : Value} (key : v.isHashable = true)
    (number : v.isNaN = false) : v.isOrdered = true := by
  cases v with
  | list items => cases key
  | object fields => cases key
  | _ => simp [isOrdered, number]

def rank (v : Value) : (Nat ×ₗ Int) ×ₗ String := toLex (CatalogOption.levelOf v, Sku.inputText v)

theorem exists_place? {v : Value} (number : v.isNumber = true) (notNaN : v.isNaN = false) :
    ∃ p, v.place? = some p := by
  cases found : v.place? with
  | some p => exact ⟨p, rfl⟩
  | none =>
    rw [isNaN_of_place? found, number] at notNaN
    cases notNaN

theorem rank_of_place? {v : Value} {p : Place} (h : v.place? = some p) :
    v.rank = toLex (p.level, "") := by
  cases v with
  | text | null | list | object => cases h
  | _ => simp [rank, CatalogOption.levelOf, h, Sku.inputText]

theorem exists_text {v : Value} (h : v.kind = .text) : ∃ s, v = .text s := by
  cases v with
  | text s => exact ⟨s, rfl⟩
  | _ => cases h

variable {a b : Value}

theorem less?_iff_rank (h : Comparable a b) (left : a.isNaN = false) (right : b.isNaN = false) :
    a.less? b = some true ↔ a.rank < b.rank := by
  rcases h with ⟨first, second⟩ | ⟨first, second⟩
  · obtain ⟨s, rfl⟩ := exists_text first
    obtain ⟨t, rfl⟩ := exists_text second
    simp [less?, rank, CatalogOption.levelOf, place?, Sku.inputText, Prod.Lex.toLex_lt_toLex]
  · obtain ⟨p, here⟩ := exists_place? first left
    obtain ⟨q, there⟩ := exists_place? second right
    rw [less?_of_isNumber first second, here, there, rank_of_place? here, rank_of_place? there]
    simp [Place.before_iff, Prod.Lex.toLex_lt_toLex]

theorem agrees_of_rank (h : Comparable a b) (left : a.isNaN = false) (right : b.isNaN = false)
    (same : a.rank = b.rank) : a.agrees b = true := by
  rcases h with ⟨first, second⟩ | ⟨first, second⟩
  · obtain ⟨s, rfl⟩ := exists_text first
    obtain ⟨t, rfl⟩ := exists_text second
    have equal : s = t := congrArg (fun r => (ofLex r).2) same
    simp [agrees, equal]
  · obtain ⟨p, here⟩ := exists_place? first left
    obtain ⟨q, there⟩ := exists_place? second right
    rw [rank_of_place? here, rank_of_place? there] at same
    have level : p.level = q.level := congrArg (fun r => (ofLex r).1) same
    rw [agrees_of_isNumber first, samePlace_iff, here, there, Place.level_inj level]
    exact ⟨first, second, rfl⟩

end Value

namespace CodeField

variable {entries entries' : List CodeField}

def positions (entries : List CodeField) : List (Option Value.Identity) :=
  entries.map (fun e => e.order.identity?)

/-- Positions are keys, and none is a double that is not a number. -/
structure Placed (entries : List CodeField) : Prop where
  key : ∀ e ∈ entries, e.order.isHashable = true
  notNaN : ∀ e ∈ entries, e.order.isNaN = false

theorem Placed.subset (h : Placed entries) (inside : entries' ⊆ entries) : Placed entries' :=
  ⟨fun e member => h.key e (inside member), fun e member => h.notNaN e (inside member)⟩

theorem Placed.ordered (h : Placed entries) :
    entries.all (fun e => e.order.isOrdered) = true := by
  rw [List.all_eq_true]
  intro e member
  exact Value.isOrdered_of_isHashable (h.key e member) (h.notNaN e member)

theorem comparable_iff (key : ∀ e ∈ entries, e.order.isHashable = true) :
    Sorting.comparable (fun a b => a.order.less? b.order) entries = true ↔
      entries.Pairwise (fun a b => a.order.Comparable b.order) := by
  rw [Sorting.comparable_iff_pairwise]
  apply List.Pairwise.iff_of_mem
  intro a b first _
  exact Value.less?_isSome_iff (key a first)

theorem comparable_of_perm (perm : entries.Perm entries')
    (key : ∀ e ∈ entries, e.order.isHashable = true) :
    Sorting.comparable (fun a b => a.order.less? b.order) entries =
      Sorting.comparable (fun a b => a.order.less? b.order) entries' := by
  have key' : ∀ e ∈ entries', e.order.isHashable = true :=
    fun e member => key e (perm.mem_iff.mpr member)
  rw [Bool.eq_iff_iff, comparable_iff key, comparable_iff key']
  exact perm.pairwise_iff Value.Comparable.symm

/-- Comparable entries at distinct positions are ordered by a rank that tells them apart. -/
theorem Placed.ranked (h : Placed entries) (distinct : (positions entries).Nodup)
    (compared : entries.Pairwise (fun a b => a.order.Comparable b.order)) (a : CodeField)
    (first : a ∈ entries) (b : CodeField) (second : b ∈ entries) :
    (a.order.less? b.order = some true ↔ a.order.rank < b.order.rank) ∧
      (a.order.rank = b.order.rank → a = b) := by
  by_cases same : a = b
  · subst same
    have never := Value.not_less?_self (h.key a first)
    exact ⟨by simp [never], fun _ => rfl⟩
  · have symmetric : Std.Symm (fun a b : CodeField => a.order.Comparable b.order) :=
      ⟨fun _ _ => Value.Comparable.symm⟩
    have both := compared.forall first second same
    refine ⟨Value.less?_iff_rank both (h.notNaN a first) (h.notNaN b second), fun level => ?_⟩
    have agreed := Value.agrees_of_rank both (h.notNaN a first) (h.notNaN b second) level
    rw [Value.agrees_iff_identity? (h.key a first)] at agreed
    exact List.inj_on_of_nodup_map distinct first second agreed

/-- Entries at distinct positions come into one order from every arrangement. -/
theorem inOrder_eq_of_perm (perm : entries.Perm entries') (h : Placed entries)
    (distinct : (positions entries).Nodup) : inOrder entries = inOrder entries' := by
  have h' : Placed entries' := h.subset perm.symm.subset
  have compared := comparable_of_perm perm h.key
  unfold inOrder Snapshot.inOrderOf Sorting.sort?
  rw [h.ordered, h'.ordered, if_pos rfl, if_pos rfl, ← compared]
  by_cases all : Sorting.comparable (fun a b : CodeField => a.order.less? b.order) entries = true
  · have ranked := h.ranked distinct ((comparable_iff h.key).mp all)
    have sorted := Sorting.sort_eq_of_rank perm
      (fun a first b second => (ranked a first b second).1)
      (fun a first b second => (ranked a first b second).2)
    rw [if_pos all, if_pos all, sorted]
  · rw [if_neg all, if_neg all]

end CodeField

theorem length_dedup_append_singleton {κ : Type} [DecidableEq κ] (seen : List κ) (k : κ) :
    (seen ++ [k]).dedup.length = seen.dedup.length + if k ∈ seen then 0 else 1 := by
  rw [(List.perm_append_singleton k seen).dedup.length_eq]
  by_cases member : k ∈ seen
  · rw [List.dedup_cons_of_mem member, if_pos member, Nat.add_zero]
  · rw [List.dedup_cons_of_notMem member, if_neg member, List.length_cons]

theorem nodup_of_length_dedup {κ : Type} [DecidableEq κ] {ks : List κ}
    (h : ks.dedup.length = ks.length) : ks.Nodup :=
  List.dedup_eq_self.mp ((List.dedup_sublist ks).eq_of_length h)

namespace Sku

open CodeField (positions)

variable {entries entries' earlier rest : List CodeField}

def enabled (entries : List CodeField) : List CodeField :=
  entries.filter (fun f => f.enabled.truthy)

def collections (entries : List CodeField) : List String := entries.map CodeField.collection

@[simp] theorem length_positions (entries : List CodeField) :
    (positions entries).length = entries.length :=
  List.length_map _

@[simp] theorem length_collections (entries : List CodeField) :
    (collections entries).length = entries.length :=
  List.length_map _

theorem length_dedup_positions_le (entries : List CodeField) :
    (positions entries).dedup.length ≤ entries.length :=
  length_positions entries ▸ (List.dedup_sublist _).length_le

theorem length_dedup_collections_le (entries : List CodeField) :
    (collections entries).dedup.length ≤ entries.length :=
  length_collections entries ▸ (List.dedup_sublist _).length_le

theorem nodup_positions_iff (key : ∀ e ∈ entries, e.order.isHashable = true) :
    (positions entries).Nodup ↔
      entries.Pairwise (fun a b => a.order.agrees b.order = false) := by
  rw [positions, List.Nodup, List.pairwise_map]
  apply List.Pairwise.iff_of_mem
  intro a b first _
  rw [← Bool.not_eq_true, Value.agrees_iff_identity? (key a first)]

theorem sharing?_isSome_iff (key : ∀ e ∈ earlier, e.order.isHashable = true) (entry : CodeField) :
    (sharing? entry earlier).isSome = true ↔ entry.order.identity? ∈ positions earlier := by
  rw [sharing?, List.find?_isSome, positions, List.mem_map]
  constructor
  · rintro ⟨e, member, agreed⟩
    exact ⟨e, member, (Value.agrees_iff_identity? (key e member)).mp agreed⟩
  · rintro ⟨e, member, same⟩
    exact ⟨e, member, (Value.agrees_iff_identity? (key e member)).mpr same⟩

/-- An entry gives a message or a new position. -/
theorem length_positionProblem (key : ∀ e ∈ earlier, e.order.isHashable = true)
    (entry : CodeField) :
    (positionProblem earlier entry).length + (positions (earlier ++ [entry])).dedup.length =
      (positions earlier).dedup.length + 1 := by
  have shared := sharing?_isSome_iff key entry
  rw [positions, List.map_append, List.map_singleton, length_dedup_append_singleton, ← positions]
  unfold positionProblem
  cases found : sharing? entry earlier with
  | none =>
    rw [if_neg (by simp [← shared, found])]
    exact Nat.zero_add _
  | some other =>
    rw [if_pos (by simp [← shared, found])]
    exact Nat.add_comm _ _

/-- An entry gives a message or a new collection. -/
theorem length_collectionProblem (earlier : List CodeField) (entry : CodeField) :
    (collectionProblem earlier entry).length + (collections (earlier ++ [entry])).dedup.length =
      (collections earlier).dedup.length + 1 := by
  rw [collections, List.map_append, List.map_singleton, length_dedup_append_singleton]
  unfold collectionProblem
  split
  · exact Nat.add_comm _ _
  · exact Nat.zero_add _

theorem length_problemsAfter (key : ∀ e ∈ earlier ++ rest, e.order.isHashable = true) :
    (problemsAfter earlier rest).length + (positions (earlier ++ rest)).dedup.length +
        (collections (earlier ++ rest)).dedup.length =
      (positions earlier).dedup.length + (collections earlier).dedup.length + 2 * rest.length := by
  induction rest generalizing earlier with
  | nil => simp [problemsAfter]
  | cons entry rest ih =>
    have position := length_positionProblem
      (fun e member => key e (List.mem_append_left _ member)) entry
    have collection := length_collectionProblem earlier entry
    rw [List.append_cons] at key ⊢
    have others := ih key
    rw [problemsAfter, List.length_append, List.length_append, List.length_cons]
    omega

/-- The check counts the entries whose position, and those whose collection, is not new. -/
theorem length_problems (key : ∀ e ∈ enabled entries, e.order.isHashable = true) :
    (problems entries).length =
      ((enabled entries).length - (positions (enabled entries)).dedup.length) +
        ((enabled entries).length - (collections (enabled entries)).dedup.length) := by
  have counted : (problems entries).length + (positions (enabled entries)).dedup.length +
      (collections (enabled entries)).dedup.length = 0 + 0 + 2 * (enabled entries).length :=
    @length_problemsAfter [] (enabled entries) key
  have fewer := length_dedup_positions_le (enabled entries)
  have fewer' := length_dedup_collections_le (enabled entries)
  omega

theorem problems_eq_nil_iff (key : ∀ e ∈ enabled entries, e.order.isHashable = true) :
    problems entries = [] ↔
      (positions (enabled entries)).Nodup ∧ (collections (enabled entries)).Nodup := by
  have counted := length_problems key
  have fewer := length_dedup_positions_le (enabled entries)
  have fewer' := length_dedup_collections_le (enabled entries)
  constructor
  · intro none
    rw [none, List.length_nil] at counted
    constructor
    · apply nodup_of_length_dedup
      rw [length_positions]
      omega
    · apply nodup_of_length_dedup
      rw [length_collections]
      omega
  · rintro ⟨position, collection⟩
    rw [position.dedup, collection.dedup, length_positions, length_collections] at counted
    apply List.eq_nil_of_length_eq_zero
    omega

theorem check_eq_ok_iff {messages : List String} : check entries = .ok messages ↔
    (∀ e ∈ enabled entries, e.order.isHashable = true) ∧ problems entries = messages := by
  unfold check
  cases found : entries.find? (fun f => f.enabled.truthy && !f.order.isHashable) with
  | none =>
    have key : ∀ e ∈ enabled entries, e.order.isHashable = true := by
      intro e member
      obtain ⟨listed, active⟩ := List.mem_filter.mp member
      simpa [active] using List.find?_eq_none.mp found e listed
    exact ⟨fun same => ⟨key, Except.ok.inj same⟩, fun both => congrArg _ both.2⟩
  | some e =>
    constructor
    · intro never
      cases never
    · rintro ⟨key, _⟩
      have odd := List.find?_some found
      simp only [Bool.and_eq_true, Bool.not_eq_true'] at odd
      have member : e ∈ enabled entries :=
        List.mem_filter.mpr ⟨List.mem_of_find?_eq_some found, odd.1⟩
      rw [key e member] at odd
      cases odd.2

theorem check_eq_nil_iff : check entries = .ok [] ↔
    (∀ e ∈ enabled entries, e.order.isHashable = true) ∧
      (positions (enabled entries)).Nodup ∧ (collections (enabled entries)).Nodup := by
  rw [check_eq_ok_iff]
  constructor
  · rintro ⟨key, none⟩
    exact ⟨key, (problems_eq_nil_iff key).mp none⟩
  · rintro ⟨key, distinct⟩
    exact ⟨key, (problems_eq_nil_iff key).mpr distinct⟩

theorem check_of_perm (perm : entries.Perm entries') (sound : check entries = .ok []) :
    check entries' = .ok [] := by
  have moved : (enabled entries).Perm (enabled entries') := perm.filter _
  obtain ⟨key, position, collection⟩ := check_eq_nil_iff.mp sound
  refine check_eq_nil_iff.mpr ⟨?_, ?_, ?_⟩
  · exact fun e member => key e (moved.mem_iff.mpr member)
  · exact (moved.map _).nodup_iff.mp position
  · exact (moved.map _).nodup_iff.mp collection

theorem enabledOrder_of_perm (perm : entries.Perm entries') (sound : check entries = .ok [])
    (notNaN : ∀ e ∈ enabled entries, e.order.isNaN = false) :
    enabledOrder entries = enabledOrder entries' := by
  obtain ⟨key, position, _⟩ := check_eq_nil_iff.mp sound
  have same : CodeField.enabledInOrder entries = CodeField.enabledInOrder entries' :=
    CodeField.inOrder_eq_of_perm (perm.filter _) ⟨key, notNaN⟩ position
  rw [enabledOrder, enabledOrder, same]

/-- The check finds nothing just where the enabled entries have distinct positions and distinct
collections, and otherwise counts what is not new. An order in which it finds nothing can be
given in any arrangement of its rows: codes are built and read alike. Positions are integers
in a catalog; here they may be anything but a double that is not a number, which has no place. -/
theorem sound_order_in_any_arrangement (entries : List CodeField) :
    (check entries = .ok [] ↔ (∀ e ∈ enabled entries, e.order.isHashable = true) ∧
      (enabled entries).Pairwise (fun a b => a.order.agrees b.order = false) ∧
      (collections (enabled entries)).Nodup) ∧
    ((∀ e ∈ enabled entries, e.order.isHashable = true) →
      ∃ messages, check entries = .ok messages ∧ messages.length =
        ((enabled entries).length - (positions (enabled entries)).dedup.length) +
          ((enabled entries).length - (collections (enabled entries)).dedup.length)) ∧
    (check entries = .ok [] → (∀ e ∈ enabled entries, e.order.isNaN = false) →
      ∀ entries', entries.Perm entries' → check entries' = .ok [] ∧
        (∀ selection overrides snapshot separators,
          build selection overrides entries' snapshot separators =
            build selection overrides entries snapshot separators) ∧
        ∀ sku snapshot line separators,
          parse sku entries' snapshot line separators =
            parse sku entries snapshot line separators) := by
  refine ⟨?_, fun key => ?_, fun sound notNaN entries' perm => ?_⟩
  · rw [check_eq_nil_iff]
    apply and_congr_right
    intro key
    rw [nodup_positions_iff key]
  · exact ⟨_, check_eq_ok_iff.mpr ⟨key, rfl⟩, length_problems key⟩
  · have same := enabledOrder_of_perm perm sound notNaN
    refine ⟨check_of_perm perm sound, ?_, ?_⟩
    · intro selection overrides snapshot separators
      rw [build, build, same]
    · intro sku snapshot line separators
      rw [parse, parse, same]

/-- The fields of a car twice give a message for each position and each collection. Once, they
may be listed from the last to the first. -/
theorem car_fields_in_any_arrangement :
    (∃ messages, check (carFields ++ carFields) = .ok messages ∧ messages.length = 8) ∧
    check carFields = .ok [] ∧ carFields.Perm carFields.reverse ∧
    check carFields.reverse = .ok [] ∧
    build smallWithExtras Rule.Overrides.empty carFields.reverse carOptions ⟨"--", "+"⟩ =
      build smallWithExtras Rule.Overrides.empty carFields carOptions ⟨"--", "+"⟩ ∧
    parse (.text "S--GP") carFields.reverse carOptions .null ⟨"--", "+"⟩ =
      parse (.text "S--GP") carFields carOptions .null ⟨"--", "+"⟩ := by
  have key : ∀ e ∈ enabled carFields, e.order.isHashable = true := by decide
  have key' : ∀ e ∈ enabled (carFields ++ carFields), e.order.isHashable = true := by decide
  obtain ⟨messages, checked, counted⟩ :=
    (sound_order_in_any_arrangement (carFields ++ carFields)).2.1 key'
  obtain ⟨found, _, arranged⟩ := sound_order_in_any_arrangement carFields
  have sound : check carFields = .ok [] := found.mpr ⟨key, by decide +kernel, by decide⟩
  have notNaN : ∀ e ∈ enabled carFields, e.order.isNaN = false := by decide
  have turned : carFields.Perm carFields.reverse := (List.reverse_perm carFields).symm
  obtain ⟨again, builds, parses⟩ := arranged sound notNaN carFields.reverse turned
  have several : ((enabled (carFields ++ carFields)).length -
      (positions (enabled (carFields ++ carFields))).dedup.length) +
      ((enabled (carFields ++ carFields)).length -
        (collections (enabled (carFields ++ carFields))).dedup.length) = 8 := by decide +kernel
  exact ⟨⟨messages, checked, counted.trans several⟩, sound, turned, again, builds _ _ _ _,
    parses _ _ _ _⟩

end Sku

end MadeToOrder
