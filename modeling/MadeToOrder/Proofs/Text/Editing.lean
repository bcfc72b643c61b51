import Mathlib.Data.List.Forall2
import MadeToOrder.Proofs.Text.Splitting
import MadeToOrder.Text.LowerCase

/-!
# Edits that trimming and lower case undo

Letters of the alphabet in either case are alike: they are split alike, trimmed alike, and the
same in lower case, since neither is a blank and both count as cased. White space next to a
separator ends up at an end of a piece, where trimming takes it away.
-/

set_option autoImplicit false

namespace MadeToOrder.Text

def Alike (c d : Char) : Prop := c.toLower = d.toLower

def Recased : List Char → List Char → Prop := List.Forall₂ Alike

theorem letters_are_cased : ∀ n < 128, (Char.ofNat n).isAlpha = true →
    isBlank (Char.ofNat n) = false ∧ isCased (Char.ofNat n) = true ∧
      isCaseIgnorable (Char.ofNat n) = false ∧ (Char.ofNat n).toLower.isAlpha = true := by
  decide +kernel

theorem isAlpha_of_isUpper {c : Char} (upper : c.isUpper = true) : c.isAlpha = true :=
  (Bool.or_eq_true _ _).mpr (Or.inl upper)

theorem toNat_of_letter {c : Char} (letter : c.isAlpha = true) : c.toNat < 128 := by
  have last : c.val ≤ 'z'.val := by
    rcases (Bool.or_eq_true _ _).mp letter with upper | lower
    · have bounds : 'A'.val ≤ c.val ∧ c.val ≤ 'Z'.val := of_decide_eq_true upper
      exact UInt32.le_trans bounds.2 (by decide)
    · exact of_decide_eq_true ((Bool.and_eq_true _ _).mp lower).2
  exact Nat.lt_of_le_of_lt (UInt32.le_iff_toNat_le.mp last) (by decide)

theorem of_letter {c : Char} (letter : c.isAlpha = true) :
    isBlank c = false ∧ isCased c = true ∧ isCaseIgnorable c = false ∧
      c.toLower.isAlpha = true := by
  have known := letters_are_cased c.toNat (toNat_of_letter letter)
  rw [Char.ofNat_toNat] at known
  exact known letter

theorem isUpper_or_toLower_eq (c : Char) : c.isUpper = true ∨ c.toLower = c := by
  by_cases upper : c.isUpper = true
  · exact Or.inl upper
  · exact Or.inr (dif_neg fun bounds => upper (decide_eq_true bounds))

/-- Alike characters that are not the same are letters. -/
theorem Alike.letters {c d : Char} (h : Alike c d) (other : c ≠ d) :
    c.isAlpha = true ∧ d.isAlpha = true := by
  have letter {a b : Char} (alike : a.toLower = b.toLower) (upper : a.isUpper = true) :
      b.isAlpha = true := by
    rcases isUpper_or_toLower_eq b with also | same
    · exact isAlpha_of_isUpper also
    · rw [← same, ← alike]
      exact (of_letter (isAlpha_of_isUpper upper)).2.2.2
  rcases isUpper_or_toLower_eq c with upper | same
  · exact ⟨isAlpha_of_isUpper upper, letter h upper⟩
  · rcases isUpper_or_toLower_eq d with upper | also
    · exact ⟨letter h.symm upper, isAlpha_of_isUpper upper⟩
    · exact absurd (same.symm.trans (h.trans also)) other

/-- What holds of all letters or of none does not tell alike characters apart. -/
theorem Alike.congr {c d : Char} (h : Alike c d) {test : Char → Bool} {value : Bool}
    (letters : ∀ a : Char, a.isAlpha = true → test a = value) : test c = test d := by
  by_cases same : c = d
  · rw [same]
  · obtain ⟨first, second⟩ := h.letters same
    rw [letters c first, letters d second]

theorem Alike.isBlank {c d : Char} (h : Alike c d) : isBlank c = isBlank d :=
  h.congr fun _ letter => (of_letter letter).1

theorem Alike.isCased {c d : Char} (h : Alike c d) : isCased c = isCased d :=
  h.congr fun _ letter => (of_letter letter).2.1

theorem Alike.isCaseIgnorable {c d : Char} (h : Alike c d) :
    isCaseIgnorable c = isCaseIgnorable d :=
  h.congr fun _ letter => (of_letter letter).2.2.1

/-- A character that is no letter has no other like it. -/
theorem Alike.eq_iff {c d separator : Char} (h : Alike c d) (plain : separator.isAlpha = false) :
    c = separator ↔ d = separator := by
  by_cases same : c = d
  · rw [same]
  · obtain ⟨first, second⟩ := h.letters same
    constructor
    · rintro rfl
      rw [plain] at first
      cases first
    · rintro rfl
      rw [plain] at second
      cases second

theorem Recased.dropWhile {x y : List Char} (h : Recased x y) {drop : Char → Bool}
    (same : ∀ c d, Alike c d → drop c = drop d) : Recased (x.dropWhile drop) (y.dropWhile drop) := by
  induction h with
  | nil => exact .nil
  | @cons c d rest others alike later ih =>
    rw [List.dropWhile_cons, List.dropWhile_cons, same c d alike]
    split
    · exact ih
    · exact .cons alike later

theorem Recased.trimmed {x y : List Char} (h : Recased x y) : Recased (trimmed x) (trimmed y) := by
  have blanks : ∀ c d, Alike c d → isBlank c = isBlank d := fun _ _ => Alike.isBlank
  have turned : Recased (x.dropWhile Text.isBlank).reverse (y.dropWhile Text.isBlank).reverse :=
    List.rel_reverse (h.dropWhile blanks)
  exact List.rel_reverse (turned.dropWhile blanks)

theorem Recased.startsCased {x y : List Char} (h : Recased x y) :
    startsCased x = startsCased y := by
  have kept := h.dropWhile fun _ _ => Alike.isCaseIgnorable
  unfold Text.startsCased
  generalize x.dropWhile Text.isCaseIgnorable = left at kept
  generalize y.dropWhile Text.isCaseIgnorable = right at kept
  cases kept with
  | nil => rfl
  | cons alike _ => exact alike.isCased

theorem Alike.lowerOne {c d : Char} (h : Alike c d) (inWord : Bool) {rest others : List Char}
    (later : Recased rest others) : lowerOne inWord c rest = lowerOne inWord d others := by
  unfold Text.lowerOne
  simp only [h.eq_iff (show 'Σ'.isAlpha = false by decide),
    h.eq_iff (show 'İ'.isAlpha = false by decide), later.startsCased]
  by_cases same : c = d
  · rw [same]
  · obtain ⟨first, second⟩ := h.letters same
    rw [lowerChar, lowerChar, if_pos (toNat_of_letter first), if_pos (toNat_of_letter second), h]

/-- Lower case does away with the difference. -/
theorem Recased.lowered {x y : List Char} (h : Recased x y) : lowered x = lowered y := by
  have anywhere (inWord : Bool) : lowerFrom inWord x = lowerFrom inWord y := by
    induction h generalizing inWord with
    | nil => rfl
    | @cons c d rest others alike later ih =>
      rw [lowerFrom, lowerFrom, alike.lowerOne inWord later, ih, stillInWord, stillInWord,
        alike.isCaseIgnorable, alike.isCased]
  exact anywhere false

section

variable {separator : Char} {x y : List Char}

theorem pieces_cons (separator c : Char) (rest : List Char) :
    pieces [separator] 0 (c :: rest) =
      if c = separator then [] :: pieces [separator] 0 rest
      else (pieces [separator] 0 rest).modifyHead (c :: ·) := by
  have ends : pieces [separator] 0 rest ≠ [] := pieces_ne_nil _ _ _
  rw [pieces]
  by_cases same : c = separator
  · simp [same]
  · have apart : (separator == c) = false := by simpa using Ne.symm same
    rw [if_neg same, List.isPrefixOf_cons_cons, apart, Bool.false_and]
    cases found : pieces [separator] 0 rest with
    | nil => exact absurd found ends
    | cons piece more => rfl

theorem Recased.pieces (plain : separator.isAlpha = false) (h : Recased x y) :
    List.Forall₂ Recased (pieces [separator] 0 x) (pieces [separator] 0 y) := by
  induction h with
  | nil => exact .cons .nil .nil
  | @cons c d rest others alike _ ih =>
    rw [pieces_cons, pieces_cons]
    by_cases here : c = separator
    · rw [if_pos here, if_pos ((alike.eq_iff plain).mp here)]
      exact .cons .nil ih
    · rw [if_neg here, if_neg (mt (alike.eq_iff plain).mpr here)]
      generalize Text.pieces [separator] 0 rest = left at ih
      generalize Text.pieces [separator] 0 others = right at ih
      cases ih with
      | nil => exact .nil
      | cons first more => exact .cons (.cons alike first) more

/-- A separator ends a piece whatever stands before it. -/
theorem pieces_append_cons (x y : List Char) :
    pieces [separator] 0 (x ++ separator :: y) =
      pieces [separator] 0 x ++ pieces [separator] 0 y := by
  induction x with
  | nil =>
    rw [List.nil_append, pieces_cons, if_pos rfl]
    rfl
  | cons c rest ih =>
    rw [List.cons_append, pieces_cons, pieces_cons, ih]
    split
    · rfl
    · have ends : pieces [separator] 0 rest ≠ [] := pieces_ne_nil _ _ _
      cases found : pieces [separator] 0 rest with
      | nil => exact absurd found ends
      | cons piece more => rfl

theorem length_pieces (x : List Char) :
    (pieces [separator] 0 x).length = x.count separator + 1 := by
  induction x with
  | nil => rfl
  | cons c rest ih =>
    rw [pieces_cons]
    by_cases here : c = separator
    · simp [here, ih]
    · simp [here, ih]

/-- Around a place the pieces are those before it, the one with the place in it, and those
behind it. -/
theorem pieces_around (separator : Char) (before after : List Char) :
    ∃ front x y back, separator ∉ x ∧ separator ∉ y ∧ x <:+ before ∧ y <+: after ∧
      front.length = before.count separator ∧ ∀ inserted, separator ∉ inserted →
        pieces [separator] 0 (before ++ (inserted ++ after)) =
          front ++ (x ++ (inserted ++ y)) :: back := by
  obtain ⟨front, x, clear, ending, count, left⟩ : ∃ front x, separator ∉ x ∧ x <:+ before ∧
      front.length = before.count separator ∧ ∀ rest,
        pieces [separator] 0 (before ++ rest) = front ++ pieces [separator] 0 (x ++ rest) := by
    by_cases here : separator ∈ before
    · obtain ⟨x, past, turned, clear⟩ := List.eq_append_cons_of_mem (List.mem_reverse.mpr here)
      have parts : before = past.reverse ++ separator :: x.reverse := by
        simpa using congrArg List.reverse turned
      refine ⟨pieces [separator] 0 past.reverse, x.reverse, by simpa using clear, ?_, ?_, ?_⟩
      · exact ⟨past.reverse ++ [separator], by simp [parts]⟩
      · have none : x.count separator = 0 := List.count_eq_zero.mpr clear
        simp [length_pieces, parts, none]
      · intro rest
        rw [parts, List.append_assoc, List.cons_append, pieces_append_cons]
    · exact ⟨[], before, here, List.suffix_rfl, by simp [List.count_eq_zero.mpr here],
        fun _ => rfl⟩
  obtain ⟨y, back, apart, start, right⟩ : ∃ y back, separator ∉ y ∧ y <+: after ∧
      ∀ past, separator ∉ past → pieces [separator] 0 (past ++ after) = (past ++ y) :: back := by
    have single {piece : List Char} (clear : separator ∉ piece) :
        pieces [separator] 0 piece = [piece] :=
      pieces_of_clear (by simp) fun c member => by
        rw [List.mem_singleton]
        rintro rfl
        exact clear member
    by_cases here : separator ∈ after
    · obtain ⟨y, rest, rfl, clear⟩ := List.eq_append_cons_of_mem here
      refine ⟨y, pieces [separator] 0 rest, clear, List.prefix_append _ _, fun past free => ?_⟩
      rw [← List.append_assoc, pieces_append_cons, single (by simp [free, clear])]
      rfl
    · exact ⟨after, [], here, List.prefix_rfl, fun past free => single (by simp [free, here])⟩
  refine ⟨front, x, y, back, clear, apart, ending, start, count, fun inserted free => ?_⟩
  rw [left, ← List.append_assoc, right _ (by simp [clear, free]), List.append_assoc]

end

theorem trimmed_cons_blank {c : Char} (blank : isBlank c = true) (x : List Char) :
    trimmed (c :: x) = trimmed x := by
  simp [trimmed, trimBy, blank]

theorem trimmed_append_blank {c : Char} (blank : isBlank c = true) (x : List Char) :
    trimmed (x ++ [c]) = trimmed x := by
  unfold trimmed trimBy
  rw [List.dropWhile_append]
  split
  · rename_i empty
    rw [List.isEmpty_iff.mp empty]
    simp [blank]
  · simp [blank]

/-- What blanks at the ends do not change, trimming does not change. -/
theorem trimmed_invariant {α : Type} {f : List Char → α}
    (front : ∀ c x, isBlank c = true → f (c :: x) = f x)
    (behind : ∀ c x, isBlank c = true → f (x ++ [c]) = f x) (x : List Char) :
    f (trimmed x) = f x := by
  have dropped {g : List Char → α} (same : ∀ c x, isBlank c = true → g (c :: x) = g x)
      (x : List Char) : g (x.dropWhile isBlank) = g x := by
    induction x with
    | nil => rfl
    | cons c rest ih =>
      rw [List.dropWhile_cons]
      split
      · rename_i blank
        rw [ih, same c rest blank]
      · rfl
  have turned (c : Char) (x : List Char) (blank : isBlank c = true) :
      f (c :: x).reverse = f x.reverse := by
    rw [List.reverse_cons, behind c _ blank]
  calc f (trimmed x) = f (x.dropWhile isBlank).reverse.reverse :=
        @dropped (fun y => f y.reverse) turned (x.dropWhile isBlank).reverse
    _ = f (x.dropWhile isBlank) := by rw [List.reverse_reverse]
    _ = f x := dropped front x

theorem trimmed_eq_nil_iff {x : List Char} : trimmed x = [] ↔ ∀ c ∈ x, isBlank c = true := by
  constructor
  · intro none
    have same : (trimmed x).all isBlank = x.all isBlank :=
      trimmed_invariant (f := fun y => y.all isBlank) (fun c y blank => by simp [blank])
        (fun c y blank => by simp [blank]) x
    rw [none, List.all_nil] at same
    exact List.all_eq_true.mp same.symm
  · intro blank
    induction x with
    | nil => rfl
    | cons c rest ih =>
      obtain ⟨here, later⟩ := List.forall_mem_cons.mp blank
      rw [trimmed_cons_blank here, ih later]

/-- The place is next to a separator or at an end of the text. -/
def Touches (separator : Char) (before after : List Char) : Prop :=
  (∀ c ∈ before.getLast?, c = separator) ∨ ∀ c ∈ after.head?, c = separator

section

variable {separator blank : Char} {before after x y : List Char}

/-- A part of the text around the place is touched alike. -/
theorem Touches.part (h : Touches separator before after) (ending : x <:+ before)
    (start : y <+: after) : Touches separator x y := by
  refine h.imp (fun last c here => last c ?_) (fun first c here => first c ?_)
  · obtain ⟨front, rfl⟩ := ending
    have some : x ≠ [] := by
      rintro rfl
      cases here
    rwa [List.getLast?_append_of_ne_nil _ some]
  · obtain ⟨rest, rfl⟩ := start
    have some : y ≠ [] := by
      rintro rfl
      cases here
    rwa [List.head?_append_of_ne_nil _ some]

/-- So it is at an end of its piece. -/
theorem Touches.eq_nil (h : Touches separator x y) (clear : separator ∉ x)
    (apart : separator ∉ y) : x = [] ∨ y = [] := by
  refine h.imp (fun last => ?_) (fun first => ?_)
  · by_contra some
    have own := last (x.getLast some) (List.getLast?_eq_getLast_of_ne_nil some)
    exact clear (own ▸ List.getLast_mem some)
  · by_contra some
    have own := first (y.head some) (List.head?_eq_some_head some)
    exact apart (own ▸ List.head_mem some)

theorem trimmed_insert_blank (isBlank : isBlank blank = true) (edge : x = [] ∨ y = []) :
    trimmed (x ++ blank :: y) = trimmed (x ++ y) := by
  rcases edge with rfl | rfl
  · exact trimmed_cons_blank isBlank y
  · rw [trimmed_append_blank isBlank, List.append_nil]

/-- A blank next to a separator is trimmed away. -/
theorem pieces_insert_blank (plain : Text.isBlank separator = false)
    (isBlank : isBlank blank = true) (touches : Touches separator before after) :
    (pieces [separator] 0 (before ++ blank :: after)).map trimmed =
      (pieces [separator] 0 (before ++ after)).map trimmed := by
  obtain ⟨front, x, y, back, clear, apart, ending, start, _, around⟩ :=
    pieces_around separator before after
  have other : separator ∉ [blank] := by
    rw [List.mem_singleton]
    rintro rfl
    rw [plain] at isBlank
    cases isBlank
  have edge := (touches.part ending start).eq_nil clear apart
  have padded := around [blank] other
  have bare := around [] List.not_mem_nil
  simp only [List.singleton_append, List.nil_append] at padded bare
  rw [padded, bare, List.map_append, List.map_append, List.map_cons, List.map_cons,
    trimmed_insert_blank isBlank edge]

/-- Trimming before the cut makes no difference. -/
theorem pieces_trimmed (plain : isBlank separator = false) (x : List Char) :
    (pieces [separator] 0 (trimmed x)).map trimmed = (pieces [separator] 0 x).map trimmed :=
  trimmed_invariant (f := fun x => (pieces [separator] 0 x).map trimmed)
    (fun c x blank => pieces_insert_blank plain blank (Or.inl nofun : Touches _ [] x))
    (fun c x blank => by
      simpa using pieces_insert_blank plain blank (Or.inr nofun : Touches separator x [])) x

end

end MadeToOrder.Text
