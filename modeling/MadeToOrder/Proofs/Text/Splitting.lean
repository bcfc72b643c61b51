import MadeToOrder.Text.Blank
import MadeToOrder.Text.Search

/-!
# Splitting joined texts

Parts without a character of the separator come back when their join is split,
whatever the length of the separator. Trimming leaves a text alone that neither
starts nor ends with white space, and joining such texts gives another one.
-/

set_option autoImplicit false

namespace MadeToOrder.Text

def Clear (forbidden : List Char) (s : String) : Prop := ∀ c ∈ s.toList, c ∉ forbidden

/-- No white space at either end. -/
def Tight (s : String) : Prop :=
  (∀ c ∈ s.toList.head?, isBlank c = false) ∧ ∀ c ∈ s.toList.getLast?, isBlank c = false

instance (forbidden : List Char) (s : String) : Decidable (Clear forbidden s) :=
  List.decidableBAll (fun c => c ∉ forbidden) s.toList

instance (s : String) : Decidable (Tight s) :=
  @instDecidableAnd _ _ (Option.decidableForallMem s.toList.head?)
    (Option.decidableForallMem s.toList.getLast?)

theorem pieces_ne_nil (separator cs : List Char) (skip : Nat) : pieces separator skip cs ≠ [] := by
  induction cs generalizing skip with
  | nil => simp [pieces]
  | cons c rest ih =>
    cases skip with
    | succ skip => exact ih skip
    | zero =>
      rw [pieces]
      split
      · simp
      · split <;> simp

theorem pieces_skip (separator skipped rest : List Char) :
    pieces separator skipped.length (skipped ++ rest) = pieces separator 0 rest := by
  induction skipped with
  | nil => rfl
  | cons c skipped ih => simpa [pieces] using ih

theorem not_isPrefixOf_of_not_mem {separator : List Char} {c : Char} (rest : List Char)
    (nonempty : separator ≠ []) (h : c ∉ separator) : separator.isPrefixOf (c :: rest) = false := by
  cases separator with
  | nil => exact absurd rfl nonempty
  | cons first more =>
    have other : first ≠ c := fun same => h (same ▸ List.mem_cons_self)
    simp [List.isPrefixOf_cons_cons, other]

theorem pieces_of_clear {separator piece : List Char} (nonempty : separator ≠ [])
    (h : ∀ c ∈ piece, c ∉ separator) : pieces separator 0 piece = [piece] := by
  induction piece with
  | nil => rfl
  | cons c rest ih =>
    have here := not_isPrefixOf_of_not_mem rest nonempty (h c (by simp))
    simp [pieces, here, ih (fun d member => h d (by simp [member]))]

/-- The first separator ends the first piece. -/
theorem pieces_append {separator piece : List Char} (nonempty : separator ≠ [])
    (h : ∀ c ∈ piece, c ∉ separator) (rest : List Char) :
    pieces separator 0 (piece ++ (separator ++ rest)) = piece :: pieces separator 0 rest := by
  induction piece with
  | nil =>
    cases separator with
    | nil => exact absurd rfl nonempty
    | cons first more => simp [pieces, pieces_skip]
  | cons c piece ih =>
    have here := not_isPrefixOf_of_not_mem (piece ++ (separator ++ rest)) nonempty
      (h c (by simp))
    simp [pieces, here, ih (fun d member => h d (by simp [member]))]

theorem pieces_intercalate {separator : List Char} {parts : List (List Char)}
    (nonempty : separator ≠ []) (filled : parts ≠ [])
    (h : ∀ part ∈ parts, ∀ c ∈ part, c ∉ separator) :
    pieces separator 0 (separator.intercalate parts) = parts := by
  induction parts with
  | nil => exact absurd rfl filled
  | cons first rest ih =>
    have clear := h first (by simp)
    cases rest with
    | nil => rw [List.intercalate_singleton, pieces_of_clear nonempty clear]
    | cons second rest =>
      rw [List.intercalate_cons_cons, List.append_assoc, pieces_append nonempty clear,
        ih (by simp) (fun part member => h part (by simp [member]))]

/-- Splitting undoes joining. -/
theorem split_join {separator : String} {parts : List String} (nonempty : separator ≠ "")
    (filled : parts ≠ []) (h : ∀ part ∈ parts, Clear separator.toList part) :
    split separator (join separator parts) = parts := by
  have clear : ∀ part ∈ parts.map String.toList, ∀ c ∈ part, c ∉ separator.toList := by
    intro part member
    obtain ⟨s, known, rfl⟩ := List.mem_map.mp member
    exact h s known
  rw [split, join, String.toList_intercalate,
    pieces_intercalate (by simpa using nonempty) (by simpa using filled) clear]
  simp [Function.comp_def]

theorem split_empty {separator : String} : split separator "" = [""] := rfl

theorem clear_empty {forbidden : List Char} : Clear forbidden "" := by
  intro c member
  simp at member

theorem tight_empty : Tight "" := by
  constructor <;> simp

/-- A join has only the characters of its parts and of the separator. -/
theorem clear_join {forbidden : List Char} {separator : String} {parts : List String}
    (between : Clear forbidden separator) (h : ∀ part ∈ parts, Clear forbidden part) :
    Clear forbidden (join separator parts) := by
  induction parts with
  | nil => exact clear_empty
  | cons first rest ih =>
    have others := ih (fun part member => h part (List.mem_cons_of_mem _ member))
    cases rest with
    | nil => simpa [join] using h first (by simp)
    | cons second rest =>
      intro c member
      have cases : c ∈ first.toList ∨ c ∈ separator.toList ∨
          c ∈ (join separator (second :: rest)).toList := by
        simpa [join, String.intercalate_cons_cons] using member
      rcases cases with here | here | here
      · exact h first (by simp) c here
      · exact between c here
      · exact others c here

theorem dropWhile_eq_self {drop : Char → Bool} {cs : List Char}
    (h : ∀ c ∈ cs.head?, drop c = false) : cs.dropWhile drop = cs := by
  cases cs with
  | nil => rfl
  | cons c rest => simp [h c rfl]

theorem trim_of_tight {s : String} (h : Tight s) : trim s = s := by
  have front : s.toList.dropWhile isBlank = s.toList := dropWhile_eq_self h.1
  have back : s.toList.reverse.dropWhile isBlank = s.toList.reverse := by
    apply dropWhile_eq_self
    intro c last
    exact h.2 c (by rwa [List.head?_reverse] at last)
  simp [trim, trimmed, trimBy, front, back]

theorem not_of_head?_dropWhile {drop : Char → Bool} {cs : List Char} :
    ∀ c ∈ (cs.dropWhile drop).head?, drop c = false := by
  intro c first
  have head := List.head?_dropWhile_not drop cs
  rw [first] at head
  exact head

/-- Trimming leaves no white space at either end. -/
theorem tight_trim (s : String) : Tight (trim s) := by
  have whole : (trim s).toList = trimmed s.toList := String.toList_ofList
  rw [Tight, whole, trimmed, trimBy, List.getLast?_reverse]
  refine ⟨?_, not_of_head?_dropWhile⟩
  intro c first
  have start : ((s.toList.dropWhile isBlank).reverse.dropWhile isBlank).reverse <+:
      s.toList.dropWhile isBlank := by
    simpa using List.reverse_prefix.mpr
      (List.dropWhile_suffix isBlank : _ <:+ (s.toList.dropWhile isBlank).reverse)
  obtain ⟨rest, front⟩ := start
  have here : c ∈ (s.toList.dropWhile isBlank).head? := by
    rw [← front, List.head?_append]
    simp [Option.mem_def.mp first]
  exact not_of_head?_dropWhile c here

theorem join_ne_empty (separator : String) {parts : List String} (filled : parts ≠ [])
    (h : ∀ part ∈ parts, part ≠ "") : join separator parts ≠ "" := by
  match parts with
  | [] => exact absurd rfl filled
  | [part] => simpa [join] using h part (by simp)
  | first :: second :: rest =>
    have named := h first (by simp)
    simp [join, String.intercalate_cons_cons, named]

/-- Joining tight texts that are not empty gives one more. -/
theorem tight_join (separator : String) {parts : List String} (filled : parts ≠ [])
    (h : ∀ part ∈ parts, part ≠ "" ∧ Tight part) : Tight (join separator parts) := by
  induction parts with
  | nil => exact absurd rfl filled
  | cons first rest ih =>
    obtain ⟨named, front, _⟩ := h first (by simp)
    cases rest with
    | nil => simpa [join] using (h first (by simp)).2
    | cons second rest =>
      have others : ∀ part ∈ second :: rest, part ≠ "" ∧ Tight part :=
        fun part member => h part (List.mem_cons_of_mem _ member)
      have back := (ih (by simp) others).2
      have behind : (join separator (second :: rest)).toList ≠ [] := by
        simpa using join_ne_empty separator (by simp) (fun part member => (others part member).1)
      have whole : (join separator (first :: second :: rest)).toList =
          first.toList ++ (separator.toList ++ (join separator (second :: rest)).toList) := by
        simp [join, String.intercalate_cons_cons]
      have nonempty : first.toList ≠ [] := by simpa using named
      rw [Tight, whole]
      constructor
      · intro c head
        refine front c ?_
        rwa [List.head?_append, Option.or_of_isSome (by simpa using nonempty)] at head
      · intro c last
        refine back c ?_
        rwa [← List.append_assoc, List.getLast?_append,
          Option.or_of_isSome (by simpa using behind)] at last

end MadeToOrder.Text
