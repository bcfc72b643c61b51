import Mathlib.Data.List.TakeDrop
import Mathlib.Data.List.TakeWhile
import MadeToOrder.Proofs.Catalog.Paging
import MadeToOrder.Proofs.Text.Splitting

/-!
# Names in addresses

The name of a collection is put into an address as it is written. A name of letters, digits and
underscores comes out of it again, so such a collection has an address below every address that
has a scheme. Nothing is said of other names here, some of which change the address they stand in.
-/

set_option autoImplicit false

namespace MadeToOrder

namespace Url

theorem cut_of_clear {stops : Char → Bool} {cs : List Char}
    (clear : ∀ c ∈ cs, stops c = false) : cut stops cs = (cs, none) := by
  have passed : ∀ c ∈ cs, (!stops c) = true := fun c member => by rw [clear c member]; rfl
  have all : cs.span (fun c => !stops c) = (cs, []) := by
    rw [List.span_eq_takeWhile_dropWhile, List.takeWhile_eq_self_iff.mpr passed,
      List.dropWhile_eq_nil_iff.mpr passed]
  rw [cut, all]

def ofPath (path : String) : Url := ⟨"", "", "", none, path, none⟩

theorem parts?_of_clear {cs : List Char} (clear : ∀ c ∈ cs, c ≠ '#' ∧ c ≠ '?' ∧ c ≠ ':')
    (alone : splitAuthority cs = ([], cs)) : parts? cs = some (ofPath (String.ofList cs)) := by
  have fragment : cut (fun c => c = '#') cs = (cs, none) :=
    cut_of_clear fun c member => decide_eq_false (clear c member).1
  have query : cut (fun c => c = '?') cs = (cs, none) :=
    cut_of_clear fun c member => decide_eq_false (clear c member).2.1
  have scheme : splitScheme cs = ([], cs) := by
    rw [splitScheme, cut_of_clear fun c member => decide_eq_false (clear c member).2.2]
  simp only [parts?, fragment, scheme, query, alone]
  rfl

theorem resolved_of_scheme {u : Url} (absolute : u.scheme.isEmpty = false) :
    u.resolved = { u with path := resolvedPath u.path } := by
  rw [resolved, absolute]
  rfl

end Url

namespace Remote

def nameChars : List Char :=
  "abcdefghijklmnopqrstuvwxyzABCDEFGHIJKLMNOPQRSTUVWXYZ0123456789_".toList

def IsPlain (name : String) : Prop :=
  name.toList.all nameChars.contains = true ∧ name.length ≤ 60000

instance (name : String) : Decidable (IsPlain name) := instDecidableAnd

variable {name : String}

def isOrdinary (forbidden : List Char) (c : Char) : Bool :=
  32 ≤ c.toNat && c.toNat < 127 && !forbidden.contains c

theorem isOrdinary_iff {forbidden : List Char} {c : Char} : isOrdinary forbidden c = true ↔
    32 ≤ c.toNat ∧ c.toNat < 127 ∧ c ∉ forbidden := by
  simp [isOrdinary, and_assoc]

theorem ordinary_of_mem {c : Char} (known : c ∈ nameChars) :
    32 ≤ c.toNat ∧ c.toNat < 127 ∧ c ∉ ['#', '?', ':', '/', '%', '.'] := by
  have all : nameChars.all (isOrdinary ['#', '?', ':', '/', '%', '.']) = true := by decide
  exact isOrdinary_iff.mp (List.all_eq_true.mp all c known)

theorem IsPlain.known (plain : IsPlain name) {c : Char} (member : c ∈ name.toList) :
    c ∈ nameChars := by
  simpa using List.all_eq_true.mp plain.1 c member

theorem ordinary_of_plain (plain : IsPlain name) : ∀ c ∈ ("/items/" ++ name).toList,
    32 ≤ c.toNat ∧ c.toNat < 127 ∧ c ≠ '#' ∧ c ≠ '?' ∧ c ≠ ':' := by
  intro c member
  rw [String.toList_append] at member
  rcases List.mem_append.mp member with front | back
  · have all : "/items/".toList.all (isOrdinary ['#', '?', ':']) = true := by decide
    simpa using isOrdinary_iff.mp (List.all_eq_true.mp all c front)
  · obtain ⟨printable, narrow, other⟩ := ordinary_of_mem (plain.known back)
    simp only [List.mem_cons, not_or] at other
    exact ⟨printable, narrow, other.1, other.2.1, other.2.2.1⟩

theorem parse?_of_plain (plain : IsPlain name) :
    Url.parse? ("/items/" ++ name) = some (Url.ofPath ("/items/" ++ name)) := by
  have ordinary := ordinary_of_plain plain
  have parts : Url.parts? ("/items/" ++ name).toList = some (Url.ofPath ("/items/" ++ name)) := by
    rw [Url.parts?_of_clear (fun c member => (ordinary c member).2.2), String.ofList_toList]
    rw [String.toList_append]
    rfl
  have printable : ("/items/" ++ name).toList.any (fun c => c.toNat < 32 || c.toNat == 127) =
      false := by
    rw [List.any_eq_false]
    intro c member
    obtain ⟨low, high, _⟩ := ordinary c member
    simp
    omega
  have short : ¬Url.longest < ("/items/" ++ name).length := by
    have bound := plain.2
    have items : "/items/".length = 7 := rfl
    rw [String.length_append, items, Url.longest]
    omega
  have passes : (Url.ofPath ("/items/" ++ name)).isPlausible = true := by
    have path : (Url.ofPath ("/items/" ++ name)).path.toList = "/items/".toList ++ name.toList :=
      String.toList_append
    rw [Url.isPlausible, Text.startsWith, Text.startsWith, path]
    rfl
  rw [Url.parse?, printable, parts, decide_eq_false short, if_neg (by decide)]
  exact congrArg (Option.map Url.resolved) (if_pos passes)

theorem collectionUrl_of_plain (plain : IsPlain name) :
    collectionUrl name = .ok (Url.ofPath ("/items/" ++ name)) := by
  rw [collectionUrl, parse?_of_plain plain]

def itemsUrl (name : String) (query : Option String) : Url :=
  { bareUrl with path := "/items/" ++ name, query := query }

theorem resolvedPath_of_plain (plain : IsPlain name) :
    Url.resolvedPath ("/items/" ++ name) = "/items/" ++ name := by
  have joined : "/items/" ++ name = Text.join "/" ["", "items", name] := by
    apply String.toList_inj.mp
    simp [Text.join, String.intercalate_cons_cons]
  have other : ∀ c ∈ name.toList, c ≠ '/' ∧ c ≠ '.' := by
    intro c member
    have ordinary := (ordinary_of_mem (plain.known member)).2.2
    simp only [List.mem_cons, not_or] at ordinary
    exact ⟨ordinary.2.2.2.1, ordinary.2.2.2.2.2.1⟩
  have split : Text.split "/" (Text.join "/" ["", "items", name]) = ["", "items", name] := by
    apply Text.split_join (by decide) (by simp)
    simp only [List.forall_mem_cons, List.not_mem_nil, false_implies, implies_true, and_true]
    refine ⟨by decide, by decide, fun c member => ?_⟩
    simpa using (other c member).1
  have noStep : name ≠ "." ∧ name ≠ ".." := by
    constructor
    · rintro rfl
      exact (other '.' (by simp)).2 rfl
    · rintro rfl
      exact (other '.' (by simp)).2 rfl
  have kept : Url.resolvedParts [] ["", "items", name] = ["", "items", name] := by
    simp [Url.resolvedParts, noStep]
  rw [Url.resolvedPath, joined, split, kept]

theorem target_items (name : String) :
    (Url.ofPath ("/items/" ++ name)).target = "/items/" ++ name := by
  have filled : ("/items/" ++ name).isEmpty = false := by simp
  show (if ("/items/" ++ name).isEmpty then "/" else "/items/" ++ name) ++ "" = _
  rw [filled, String.append_empty]
  rfl

theorem below_bareUrl (plain : IsPlain name) :
    (Url.ofPath ("/items/" ++ name)).below bareUrl = itemsUrl name none := by
  have target : bareUrl.target ++ String.ofList
      (("/items/" ++ name).toList.dropWhile (fun c => c = '/')) = "/items/" ++ name := by
    have root : bareUrl.target = "/" := rfl
    apply String.toList_inj.mp
    simp [root]
  have relative : (Url.ofPath ("/items/" ++ name)).isAbsolute = false := rfl
  have clear : ∀ c ∈ ("/items/" ++ name).toList, decide (c = '?') = false :=
    fun c member => decide_eq_false (ordinary_of_plain plain c member).2.2.2.1
  rw [Url.below, relative, if_neg (by decide), target_items, target, Url.withTarget,
    Url.cut_of_clear clear]
  dsimp only
  rw [Url.resolved_of_scheme rfl, String.ofList_toList]
  dsimp only
  rw [resolvedPath_of_plain plain]
  rfl

theorem location_itemsUrl (plain : IsPlain name) (query : Option String) :
    (itemsUrl name query).location = "/items/" ++ name := by
  have noEscape : '%' ∉ (itemsUrl name query).path.toList := by
    have path : (itemsUrl name query).path.toList = "/items/".toList ++ name.toList :=
      String.toList_append
    rw [path, List.mem_append, not_or]
    refine ⟨by decide, fun member => ?_⟩
    exact (ordinary_of_mem (plain.known member)).2.2 (by simp)
  have filled : (itemsUrl name query).path.isEmpty = false := by simp [itemsUrl]
  rw [Url.location, filled, if_neg (by decide), Text.percentDecoded,
    Text.unescapedAfter_of_not_mem _ noEscape, String.ofList_toList]
  rfl

end Remote

end MadeToOrder
