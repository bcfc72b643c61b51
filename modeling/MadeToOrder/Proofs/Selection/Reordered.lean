import Mathlib.Data.List.Nodup
import MadeToOrder.Configuration
import MadeToOrder.Proofs.Catalog.Alike
import MadeToOrder.Proofs.Selection.Normal

/-!
# Selections in another order

Two selections that hold the same values under the same fields, each field once, may still
list them in different orders. Normalizing them and putting the same value into both keeps
them equal in this sense.
-/

set_option autoImplicit false

namespace MadeToOrder

namespace Keyed

variable {α : Type}

theorem nodup_of_keys {m : Keyed α} (distinct : (keys m).Nodup) : m.Nodup :=
  List.Nodup.of_map Prod.fst distinct

/-- Dictionaries that give the same values hold the same entries. -/
theorem perm_of_get?_eq {m m' : Keyed α} (distinct : (keys m).Nodup)
    (distinct' : (keys m').Nodup) (same : ∀ key, get? m key = get? m' key) : m.Perm m' := by
  apply (List.perm_ext_iff_of_nodup (nodup_of_keys distinct) (nodup_of_keys distinct')).mpr
  rintro ⟨key, value⟩
  constructor
  · intro member
    exact mem_of_get? ((same key).symm.trans (get?_of_mem distinct member))
  · intro member
    exact mem_of_get? ((same key).trans (get?_of_mem distinct' member))

end Keyed

namespace Selection

structure Reordered (a b : Selection) : Prop where
  distinct : (Keyed.keys a).Nodup
  perm : a.Perm b

variable {a b : Selection} {table : FieldTable}

namespace Reordered

theorem distinct' (h : a.Reordered b) : (Keyed.keys b).Nodup :=
  (h.perm.map Prod.fst).nodup_iff.mp h.distinct

theorem get? (h : a.Reordered b) (field : String) : Keyed.get? b field = Keyed.get? a field :=
  (Keyed.get?_eq_of_perm h.perm h.distinct field).symm

theorem at? (h : a.Reordered b) (field : String) :
    Selection.at? b field = Selection.at? a field := by
  rw [Selection.at?, Selection.at?, h.get?]

theorem put (h : a.Reordered b) (field : String) (v : Value) :
    Reordered (Keyed.put a field v) (Keyed.put b field v) where
  distinct := Keyed.nodup_keys_put h.distinct field v
  perm := by
    apply Keyed.perm_of_get?_eq (Keyed.nodup_keys_put h.distinct field v)
      (Keyed.nodup_keys_put h.distinct' field v)
    intro other
    by_cases same : other = field
    · rw [same, Keyed.get?_put_self, Keyed.get?_put_self]
    · rw [Keyed.get?_put_of_ne _ _ same, Keyed.get?_put_of_ne _ _ same, h.get?]

theorem erase (h : a.Reordered b) (field : String) :
    Reordered (Keyed.erase a field) (Keyed.erase b field) where
  distinct := Keyed.nodup_keys_erase h.distinct field
  perm := h.perm.filter _

theorem assign (h : a.Reordered b) (field : String) (v : Value) :
    Reordered (Configuration.assign a field v) (Configuration.assign b field v) := by
  unfold Configuration.assign
  split
  · exact h.erase field
  · exact h.put field v

end Reordered

def normalEntry (table : FieldTable) (e : String × Value) : Option (String × Value) :=
  if e.2.isUnset then none else some (e.1, normalValue (takesSeveral table e.1) e.2)

theorem normalize_eq_filterMap (table : FieldTable) (s : Selection) :
    normalize table s = s.filterMap (normalEntry table) := by
  induction s with
  | nil => rfl
  | cons e rest ih =>
    obtain ⟨field, v⟩ := e
    rw [normalize_cons, ih, List.filterMap_cons, normalEntry]
    by_cases unset : v.isUnset = true <;> simp [unset]

theorem exists_of_mem_normalize {s : Selection} {field : String} {v : Value}
    (h : (field, v) ∈ normalize table s) :
    ∃ given, (field, given) ∈ s ∧ normalValue (takesSeveral table field) given = v := by
  rw [normalize_eq_filterMap] at h
  obtain ⟨⟨field, given⟩, member, normal⟩ := List.mem_filterMap.mp h
  unfold normalEntry at normal
  split at normal
  · cases normal
  · obtain ⟨rfl, rfl⟩ := Prod.mk.inj (Option.some.inj normal)
    exact ⟨given, member, rfl⟩

theorem Reordered.normalize (h : a.Reordered b) (table : FieldTable) :
    Reordered (normalize table a) (normalize table b) where
  distinct := h.distinct.sublist (keys_normalize table a)
  perm := by
    rw [normalize_eq_filterMap, normalize_eq_filterMap]
    exact h.perm.filterMap _

end Selection

end MadeToOrder
