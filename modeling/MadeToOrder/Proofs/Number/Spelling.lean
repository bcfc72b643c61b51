import MadeToOrder.Number.Numeral
import MadeToOrder.Proofs.Text.Editing

/-!
# Texts that stand for no number

A decimal numeral is rounded to a double with a place on the number line. The only texts
that are read as the double without a place are the three letters of the word for it, in
either case, behind at most one sign and between blanks.
-/

set_option autoImplicit false

namespace MadeToOrder

namespace Double

theorem ofQuotient_ne_nan (negative : Bool) (num den : Nat) :
    ofQuotient negative num den ≠ .nan := by
  unfold ofQuotient
  dsimp only
  split <;> exact fun same => nomatch same

theorem ofDecimal_ne_nan (negative : Bool) (digits : Nat) (exponent : Int) :
    ofDecimal negative digits exponent ≠ .nan := by
  unfold ofDecimal
  dsimp only
  split
  · exact fun same => nomatch same
  split
  · exact fun same => nomatch same
  split
  · exact fun same => nomatch same
  split <;> exact ofQuotient_ne_nan _ _ _

/-- An integer has a finite double or none. -/
theorem ne_nan_of_ofInt? {i : Int} {d : Double} (h : ofInt? i = some d) : d ≠ .nan := by
  -- As a whole the function is its body; an application of it would be evaluated.
  have body : ∃ f : Int → Option Double, f = ofInt? ∧ ∀ i d, f i = some d → d ≠ .nan := by
    delta ofInt?
    refine ⟨_, rfl, fun i d h => ?_⟩
    generalize ofQuotient (decide (i < 0)) i.natAbs 1 = nearest at h
    cases nearest with
    | finite =>
      obtain rfl := Option.some.inj h
      exact fun same => nomatch same
    | infinite | nan => cases h
  obtain ⟨_, rfl, known⟩ := body
  exact known i d h

end Double

namespace Numeral

open MadeToOrder.Text

def unsigned : List Char → List Char
  | '-' :: rest => rest
  | '+' :: rest => rest
  | cs => cs

/-- The word for no number, in letters of either case, perhaps behind a sign. -/
def spellsNaN (s : String) : Bool :=
  (unsigned (trimmed s.toList)).map Char.toLower == ['n', 'a', 'n']

theorem plainDecimal?_ne_nan (negative : Bool) (ms : List Mark) :
    plainDecimal? negative ms ≠ some .nan := by
  have rounded : ∀ (empty : Bool) (exponent : Option Int) (digits : Nat) (places : Int),
      (if empty then none
        else exponent.map (fun e => Double.ofDecimal negative digits (e - places))) ≠
          some .nan := by
    intro empty exponent digits places found
    cases empty with
    | true => cases found
    | false =>
      obtain ⟨e, _, same⟩ := Option.map_eq_some_iff.mp found
      exact Double.ofDecimal_ne_nan _ _ _ same
  exact rounded _ _ _ _

section Marks

variable {c d : Char}

theorem ofChar_eq_other : Mark.ofChar c = .other d ↔ digitValue? c = none ∧ c = d := by
  unfold Mark.ofChar
  cases digitValue? c <;> simp

theorem letters_are_no_digits : ∀ n < 128, (Char.ofNat n).isAlpha = true →
    digitValue? (Char.ofNat n) = none := by
  decide +kernel

/-- A character that is a letter of the alphabet in lower case is its own mark. -/
theorem ofChar_of_letter (lower : c.toLower.isAlpha = true) : Mark.ofChar c = .other c := by
  have letter : c.isAlpha = true := by
    rcases isUpper_or_toLower_eq c with upper | same
    · exact isAlpha_of_isUpper upper
    · rwa [same] at lower
  have known := letters_are_no_digits c.toNat (toNat_of_letter letter)
  rw [Char.ofNat_toNat] at known
  exact ofChar_eq_other.mpr ⟨known letter, rfl⟩

theorem splitSign_map (cs : List Char) :
    (splitSign (cs.map Mark.ofChar)).2 = (unsigned cs).map Mark.ofChar := by
  cases cs with
  | nil => rfl
  | cons c rest =>
    have signs : digitValue? '-' = none ∧ digitValue? '+' = none := by decide
    rw [List.map_cons]
    by_cases minus : c = '-'
    · subst minus
      rw [ofChar_eq_other.mpr ⟨signs.1, rfl⟩]
      rfl
    by_cases plus : c = '+'
    · subst plus
      rw [ofChar_eq_other.mpr ⟨signs.2, rfl⟩]
      rfl
    have kept : unsigned (c :: rest) = c :: rest := by
      simp [unsigned, minus, plus]
    have front : ∀ d, (d = '-' ∨ d = '+') → Mark.ofChar c ≠ .other d := by
      rintro d (rfl | rfl) same
      · exact minus (ofChar_eq_other.mp same).2
      · exact plus (ofChar_eq_other.mp same).2
    rw [kept, List.map_cons]
    unfold splitSign
    split
    · rename_i more same
      exact absurd (List.cons.inj same).1 (front '-' (Or.inl rfl))
    · rename_i more same
      exact absurd (List.cons.inj same).1 (front '+' (Or.inr rfl))
    · rfl

end Marks

theorem no_underscore {ms : List Mark} (plain : ∀ m ∈ ms, m.isDigit = false) {afterDigit : Bool}
    (separate : underscoresSeparate afterDigit ms = true) : ∀ m ∈ ms, m ≠ .other '_' := by
  induction ms generalizing afterDigit with
  | nil => simp
  | cons m rest ih =>
    obtain ⟨first, others⟩ := List.forall_mem_cons.mp plain
    by_cases under : m = .other '_'
    · subst under
      cases rest with
      | nil => simp [underscoresSeparate] at separate
      | cons next more =>
        have after := others next (by simp)
        simp [underscoresSeparate, after] at separate
    · have later : underscoresSeparate m.isDigit rest = true := by
        cases m with
        | digit value => exact separate
        | other c =>
          have apart : c ≠ '_' := fun same => under (same ▸ rfl)
          simpa [underscoresSeparate, apart] using separate
      exact List.forall_mem_cons.mpr ⟨under, ih others later⟩

theorem joined?_of_plain {ms joined : List Mark} (h : joined? ms = some joined)
    (plain : ∀ m ∈ joined, m.isDigit = false) : joined = ms := by
  unfold joined? at h
  split at h
  · rename_i separate
    obtain rfl := Option.some.inj h
    have all : ∀ m ∈ ms, m.isDigit = false := by
      intro m member
      by_cases under : m = .other '_'
      · rw [under]
        rfl
      · exact plain m (List.mem_filter.mpr ⟨member, by simpa using under⟩)
    apply List.filter_eq_self.mpr
    intro m member
    simpa using no_underscore all separate m member
  · cases h

theorem joined?_eq_self {ms : List Mark} (clear : ∀ m ∈ ms, m ≠ .other '_') :
    joined? ms = some ms := by
  have separate : ∀ afterDigit, underscoresSeparate afterDigit ms = true := by
    induction ms with
    | nil => exact fun _ => rfl
    | cons m rest ih =>
      obtain ⟨first, others⟩ := List.forall_mem_cons.mp clear
      intro afterDigit
      cases m with
      | digit value => exact ih others true
      | other c =>
        have apart : c ≠ '_' := fun same => first (same ▸ rfl)
        simpa [underscoresSeparate, apart, Mark.isDigit] using ih others false
  have kept : ms.filter (· != .other '_') = ms := by
    apply List.filter_eq_self.mpr
    intro m member
    simpa using clear m member
  rw [joined?, if_pos (separate false), kept]

theorem word_eq_nan (ms : List Mark) : word ms = "nan" ↔
    ∃ cs : List Char, ms = cs.map Mark.other ∧ cs.map Char.toLower = ['n', 'a', 'n'] := by
  constructor
  · intro spelled
    have letters := congrArg String.toList spelled
    rw [word, String.toList_ofList, show "nan".toList = ['n', 'a', 'n'] from rfl] at letters
    obtain ⟨x, _, rfl, first, letters⟩ := List.map_eq_cons_iff.mp letters
    obtain ⟨y, _, rfl, second, letters⟩ := List.map_eq_cons_iff.mp letters
    obtain ⟨z, _, rfl, third, letters⟩ := List.map_eq_cons_iff.mp letters
    obtain rfl := List.map_eq_nil_iff.mp letters
    cases x with
    | digit => simp at first
    | other a =>
      cases y with
      | digit => simp at second
      | other b =>
        cases z with
        | digit => simp at third
        | other c => exact ⟨[a, b, c], rfl, by simpa using ⟨first, second, third⟩⟩
  · rintro ⟨cs, rfl, lower⟩
    have letters : word (cs.map Mark.other) = String.ofList (cs.map Char.toLower) := by
      rw [word, List.map_map]
      rfl
    rw [letters, lower]

theorem decimal?_eq_nan (s : String) : decimal? s = some .nan ↔
    ∃ ms, joined? (marks s) = some ms ∧ word (splitSign ms).2 = "nan" := by
  unfold decimal?
  cases joined? (marks s) with
  | none => simp
  | some ms =>
    simp only [Option.bind_eq_bind, Option.bind_some, Option.some.injEq, exists_eq_left']
    split
    · rename_i same
      simp [same]
    · rename_i same
      simp [same]
    · rename_i same
      simp [same]
    · rename_i other
      exact ⟨fun read => absurd read (plainDecimal?_ne_nan _ _), fun same => absurd same other⟩

theorem marks_trim (s : String) : marks (trim s) = (trimmed s.toList).map Mark.ofChar := by
  have whole : (trim s).toList = trimmed s.toList := String.toList_ofList
  obtain ⟨first, last⟩ := tight_trim s
  have unpadded : ∀ c, isBlank c = false → isPadding c = false := by
    intro c visible
    simp [isPadding, visible]
  rw [whole] at first last
  have front : (trimmed s.toList).dropWhile isPadding = trimmed s.toList :=
    dropWhile_eq_self (fun c here => unpadded c (first c here))
  have back : (trimmed s.toList).reverse.dropWhile isPadding = (trimmed s.toList).reverse := by
    apply dropWhile_eq_self
    intro c here
    rw [List.head?_reverse] at here
    exact unpadded c (last c here)
  rw [marks, whole, trimBy, front, back, List.reverse_reverse]

/-- Signs and letters are marks of their own, and nothing else of a word is a mark. -/
theorem plain_of_unsigned {ms : List Mark} {cs : List Char}
    (h : (splitSign ms).2 = cs.map Mark.other) : ∀ m ∈ ms, ∃ c, m = .other c := by
  have letters : ∀ m ∈ (splitSign ms).2, ∃ c, m = .other c := by
    intro m member
    obtain ⟨c, _, rfl⟩ := List.mem_map.mp (h ▸ member)
    exact ⟨c, rfl⟩
  unfold splitSign at letters
  split at letters
  · exact List.forall_mem_cons.mpr ⟨⟨'-', rfl⟩, letters⟩
  · exact List.forall_mem_cons.mpr ⟨⟨'+', rfl⟩, letters⟩
  · exact letters

theorem eq_of_map_ofChar {cs letters : List Char}
    (h : cs.map Mark.ofChar = letters.map Mark.other) : cs = letters := by
  induction cs generalizing letters with
  | nil => exact (List.map_eq_nil_iff.mp h.symm).symm
  | cons c rest ih =>
    cases letters with
    | nil => cases h
    | cons d more =>
      obtain ⟨first, later⟩ := List.cons.inj h
      rw [(ofChar_eq_other.mp first).2, ih later]

theorem mem_unsigned {cs : List Char} {c : Char} (member : c ∈ cs) :
    c ∈ unsigned cs ∨ c = '-' ∨ c = '+' := by
  unfold unsigned
  split
  · exact (List.mem_cons.mp member).elim (fun sign => Or.inr (Or.inl sign)) Or.inl
  · exact (List.mem_cons.mp member).elim (fun sign => Or.inr (Or.inr sign)) Or.inl
  · exact Or.inl member

/-- A trimmed text is read as no number if it spells the word, and in no other way. -/
theorem decimal?_trim_eq_nan (s : String) :
    decimal? (trim s) = some .nan ↔ spellsNaN s = true := by
  rw [decimal?_eq_nan, marks_trim, spellsNaN, beq_iff_eq]
  generalize trimmed s.toList = cs
  constructor
  · rintro ⟨ms, joined, spelled⟩
    obtain ⟨letters, body, lower⟩ := (word_eq_nan _).mp spelled
    have plain : ∀ m ∈ ms, m.isDigit = false := by
      intro m member
      obtain ⟨c, rfl⟩ := plain_of_unsigned body m member
      rfl
    obtain rfl := joined?_of_plain joined plain
    rw [splitSign_map] at body
    rw [eq_of_map_ofChar body, lower]
  · intro lower
    have letters : ∀ c ∈ unsigned cs, c.toLower.isAlpha = true := by
      intro c member
      have listed : c.toLower ∈ ['n', 'a', 'n'] := lower ▸ List.mem_map_of_mem member
      have known : ['n', 'a', 'n'].all Char.isAlpha = true := by decide
      exact List.all_eq_true.mp known _ listed
    have clear : ∀ m ∈ cs.map Mark.ofChar, m ≠ .other '_' := by
      intro m member same
      obtain ⟨c, listed, rfl⟩ := List.mem_map.mp member
      obtain rfl := (ofChar_eq_other.mp same).2
      rcases mem_unsigned listed with inside | sign | sign
      · exact absurd (letters _ inside) (by decide)
      · exact absurd sign (by decide)
      · exact absurd sign (by decide)
    refine ⟨_, joined?_eq_self clear, (word_eq_nan _).mpr ⟨unsigned cs, ?_, lower⟩⟩
    rw [splitSign_map]
    exact List.map_congr_left (fun c member => ofChar_of_letter (letters c member))

example : spellsNaN " -NaN" = true ∧ spellsNaN "--nan" = false ∧ spellsNaN "nano" = false := by
  decide

end Numeral

end MadeToOrder
