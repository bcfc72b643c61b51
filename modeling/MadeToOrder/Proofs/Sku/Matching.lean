import MadeToOrder.Proofs.Catalog.Filed
import MadeToOrder.Proofs.Text.Splitting
import MadeToOrder.Proofs.Traversal
import MadeToOrder.Sku.Parse

/-!
# Matching codes

A code that no other option of the collection shares, once both are in lower
case, is matched by exactly its option, and a list of such codes by exactly the
options it names, in order.
-/

set_option autoImplicit false

namespace MadeToOrder.Sku

def codeText (o : CatalogOption) : String :=
  match o.code with
  | .text s => s
  | _ => ""

def codeOf (snapshot : Snapshot) (collection id : String) : String :=
  ((snapshot.option? collection id).map codeText).getD ""

/-- An id whose code can be read back: it has no white space at its ends and none
of some characters, and no other option has the same code in lower case. -/
structure Legible (snapshot : Snapshot) (collection : String) (forbidden : List Char)
    (id : String) : Prop where
  coded : codeOf snapshot collection id ≠ ""
  tight : Text.Tight (codeOf snapshot collection id)
  clear : Text.Clear forbidden (codeOf snapshot collection id)
  unlike : ∀ e ∈ snapshot.optionsIn collection, e.1 ≠ id →
    Text.lower (codeText e.2) ≠ Text.lower (codeOf snapshot collection id)

instance (snapshot : Snapshot) (collection : String) (forbidden : List Char) (id : String) :
    Decidable (Legible snapshot collection forbidden id) :=
  decidable_of_iff
    (codeOf snapshot collection id ≠ "" ∧ Text.Tight (codeOf snapshot collection id) ∧
      Text.Clear forbidden (codeOf snapshot collection id) ∧
      ∀ e ∈ snapshot.optionsIn collection, e.1 ≠ id →
        Text.lower (codeText e.2) ≠ Text.lower (codeOf snapshot collection id))
    ⟨fun h => ⟨h.1, h.2.1, h.2.2.1, h.2.2.2⟩, fun h => ⟨h.1, h.2, h.3, h.4⟩⟩

/-- The options of a collection have a display order, and their codes are texts. -/
structure Readable (snapshot : Snapshot) (collection : String) : Prop where
  ordered : ∃ options, snapshot.optionsFor collection = .ok options
  texts : ∀ e ∈ snapshot.optionsIn collection, e.2.code.truthy = true → e.2.code.kind = .text

variable {snapshot : Snapshot} {collection : String} {forbidden : List Char}

theorem keys_nodup (filed : snapshot.Filed) {options : List CatalogOption}
    (h : snapshot.optionsFor collection = .ok options) :
    (options.map CatalogOption.key).Nodup := by
  have same : (Keyed.values (snapshot.optionsIn collection)).map CatalogOption.key =
      Keyed.keys (snapshot.optionsIn collection) := by
    rw [Keyed.values, Keyed.keys, List.map_map]
    exact List.map_congr_left (filed.optionsIn collection).own
  rw [((snapshot.optionsFor_perm h).map CatalogOption.key).nodup_iff, same]
  exact (filed.optionsIn collection).distinct

theorem option_of_codeOf {id : String} (coded : codeOf snapshot collection id ≠ "") :
    ∃ o, snapshot.option? collection id = some o ∧
      o.code = .text (codeOf snapshot collection id) := by
  unfold codeOf at coded ⊢
  cases found : snapshot.option? collection id with
  | none => simp [found] at coded
  | some o =>
    refine ⟨o, rfl, ?_⟩
    simp only [found, Option.map_some, Option.getD_some, codeText] at coded ⊢
    cases code : o.code with
    | text s => rfl
    | _ => simp [code] at coded

/-- A legible id has an option with its code. -/
theorem Legible.option {id : String} (h : Legible snapshot collection forbidden id) :
    ∃ o, snapshot.option? collection id = some o ∧
      o.code = .text (codeOf snapshot collection id) := option_of_codeOf h.coded

theorem Legible.mono {id : String} {fewer : List Char}
    (h : Legible snapshot collection forbidden id) (contained : fewer ⊆ forbidden) :
    Legible snapshot collection fewer id :=
  ⟨h.coded, h.tight, fun c here known => h.clear c here (contained known), h.unlike⟩

theorem eq_singleton_of_nodup {α : Type} {xs : List α} {a : α} (distinct : xs.Nodup)
    (member : a ∈ xs) (only : ∀ x ∈ xs, x = a) : xs = [a] := by
  match xs with
  | [] => simp at member
  | [x] => simp [only x (by simp)]
  | x :: y :: rest =>
    have same : x = y := (only x (by simp)).trans (only y (by simp)).symm
    simp [same] at distinct

def lowerCodes (options : List CatalogOption) : List (String × String) :=
  (options.filter (fun o => o.code.truthy)).map (fun o => (o.key, Text.lower (codeText o)))

theorem lowerCode_of_kind {o : CatalogOption} (h : o.code.kind = .text) :
    lowerCode o = .ok (Text.lower (codeText o)) := by
  cases code : o.code with
  | text s => simp [lowerCode, codeText, code]
  | _ => simp [code, Value.kind] at h

/-- Codes are only looked at where they are texts. -/
theorem exists_codedOptions {options : List CatalogOption} :
    (∃ coded, codedOptions options = .ok coded) ↔
      ∀ o ∈ options, o.code.truthy = true → o.code.kind = .text := by
  have read (o : CatalogOption) :
      (∃ entry, (lowerCode o).map (fun code => (o.key, code)) = .ok entry) ↔
        o.code.kind = .text := by
    cases code : o.code <;> simp [lowerCode, code, Except.map, Value.kind]
  unfold codedOptions
  rw [exists_mapM_eq_ok]
  simp only [read, List.mem_filter, and_imp]

theorem eq_lowerCodes {options : List CatalogOption} {coded : List (String × String)}
    (h : codedOptions options = .ok coded) : coded = lowerCodes options := by
  have texts := exists_codedOptions.mp ⟨coded, h⟩
  have read : codedOptions options = .ok (lowerCodes options) := by
    refine mapM_eq_ok ?_
    intro o member
    obtain ⟨known, filled⟩ := List.mem_filter.mp member
    simp [lowerCode_of_kind (texts o known filled), Except.map]
  exact Except.ok.inj (h.symm.trans read)

theorem codedOptions_of_readable (readable : Readable snapshot collection)
    {options : List CatalogOption} (h : snapshot.optionsFor collection = .ok options) :
    codedOptions options = .ok (lowerCodes options) := by
  have texts : ∀ o ∈ options, o.code.truthy = true → o.code.kind = .text := by
    intro o known
    obtain ⟨e, filed, rfl⟩ := List.mem_map.mp ((snapshot.optionsFor_perm h).mem_iff.mp known)
    exact readable.texts e filed
  obtain ⟨coded, read⟩ := exists_codedOptions.mpr texts
  rw [read, eq_lowerCodes read]

theorem mem_hits_lowerCodes {options : List CatalogOption} {test : String → Bool}
    {key : String} :
    key ∈ hits (lowerCodes options) test ↔
      ∃ o ∈ options, o.code.truthy = true ∧ test (Text.lower (codeText o)) = true ∧
        o.key = key := by
  simp [hits, lowerCodes, List.filter_map, and_assoc, and_left_comm]

theorem hits_sublist (options : List CatalogOption) (test : String → Bool) :
    (hits (lowerCodes options) test).Sublist (options.map CatalogOption.key) := by
  rw [hits, lowerCodes, List.filter_map, List.map_map, List.filter_filter]
  exact List.filter_sublist.map CatalogOption.key

theorem hits_lowerCodes_nodup (filed : snapshot.Filed) {options : List CatalogOption}
    (h : snapshot.optionsFor collection = .ok options) (test : String → Bool) :
    (hits (lowerCodes options) test).Nodup :=
  (keys_nodup filed h).sublist (hits_sublist options test)

/-- The code of a legible id is matched by that id alone. -/
theorem matchCode_of_legible (filed : snapshot.Filed) {options : List CatalogOption}
    (h : snapshot.optionsFor collection = .ok options) {id : String}
    (legible : Legible snapshot collection forbidden id) :
    matchCode (Text.lower (codeOf snapshot collection id)) (lowerCodes options) =
      (.exact, [id]) := by
  have perm := snapshot.optionsFor_perm h
  obtain ⟨o, found, code⟩ := legible.option
  have entry := Keyed.mem_of_get? found
  have known : o ∈ options := perm.mem_iff.mpr (List.mem_map_of_mem entry)
  have hit : hits (lowerCodes options)
      (fun code => code == Text.lower (codeOf snapshot collection id)) = [id] := by
    apply eq_singleton_of_nodup (hits_lowerCodes_nodup filed h _)
    · have text : codeText o = codeOf snapshot collection id := by simp [codeText, code]
      refine mem_hits_lowerCodes.mpr ⟨o, known, ?_, by simp [text],
        (filed.optionsIn collection).own (id, o) entry⟩
      simp [code, Value.truthy, legible.coded]
    · intro key member
      obtain ⟨other, otherKnown, _, same, rfl⟩ := mem_hits_lowerCodes.mp member
      have otherEntry := filed.entry (perm.mem_iff.mp otherKnown)
      by_cases own : other.key = id
      · exact own
      · exact absurd (by simpa using same) (legible.unlike (other.key, other) otherEntry own)
  simp [matchCode, hit, graded?]

theorem union_singleton {keys : IdSet} {id : String} (fresh : id ∉ keys) :
    IdSet.union keys [id] = keys ++ [id] := by
  simp [IdSet.union, IdSet.add, fresh]

/-- The codes of legible ids are matched exactly, one after the other. -/
theorem matchPieces_of_legible (filed : snapshot.Filed) (readable : Readable snapshot collection)
    {options : List CatalogOption} (h : snapshot.optionsFor collection = .ok options)
    {ids : List String} (keys : IdSet)
    (legible : ∀ id ∈ ids, Legible snapshot collection forbidden id)
    (distinct : (keys ++ ids).Nodup) :
    matchPieces options keys (ids.map (codeOf snapshot collection)) =
      .ok (List.replicate ids.length .exact, keys ++ ids) := by
  induction ids generalizing keys with
  | nil => simp [matchPieces]
  | cons id rest ih =>
    have first := legible id (by simp)
    have fresh : id ∉ keys := by
      intro seen
      exact (List.nodup_append.mp distinct).2.2 id seen id (by simp) rfl
    have later := ih (keys ++ [id]) (fun other member => legible other (by simp [member]))
      (by simpa using distinct)
    have filled : (codeOf snapshot collection id).isEmpty = false := by simpa using first.coded
    simp [matchPieces, filled, codedOptions_of_readable readable h,
      matchCode_of_legible filed h first, union_singleton fresh, later, List.replicate_succ, bind,
      Except.bind, pure, Except.pure]

end MadeToOrder.Sku
