import MadeToOrder.Proofs.Condition.Meaning
import MadeToOrder.Rule.Compiled

/-!
# Opposite operators

A field under one operator answers false where the context has nothing at its path, and
otherwise what the operator finds about the value there. Half of the operators answer the
opposite of another one. A test against a list asks what the tests against its items ask,
and of two numbers exactly one of below, equal and above is true.
-/

set_option autoImplicit false

namespace MadeToOrder

theorem Place.before_trichotomy (p q : Place) :
    [p.before q, decide (p = q), q.before p].count true = 1 := by
  cases p with
  | lowest | highest => cases q <;> rfl
  | steps a =>
    cases q with
    | lowest | highest => rfl
    | steps b =>
      simp only [before, Place.steps.injEq]
      rcases Int.lt_trichotomy a b with less | rfl | more
      · simp [less, Int.ne_of_lt less, Int.not_lt.mpr (Int.le_of_lt less)]
      · simp
      · simp [more, Int.ne_of_gt more, Int.not_lt.mpr (Int.le_of_lt more)]

namespace Double

theorem exists_place? {d : Double} (h : d ≠ .nan) : ∃ p, d.place? = some p := by
  cases d with
  | nan => exact absurd rfl h
  | finite | infinite => exact ⟨_, rfl⟩

variable {x y : Double} (hx : x ≠ .nan) (hy : y ≠ .nan)

include hx hy

theorem less_trichotomy : [less x y, equal x y, less y x].count true = 1 := by
  obtain ⟨p, left⟩ := exists_place? hx
  obtain ⟨q, right⟩ := exists_place? hy
  simpa only [less, equal, related, left, right] using p.before_trichotomy q

theorem lessEqual_eq_not_less : lessEqual x y = !less y x := by
  obtain ⟨p, left⟩ := exists_place? hx
  obtain ⟨q, right⟩ := exists_place? hy
  simp only [less, lessEqual, related, left, right]

end Double

namespace Condition

def answer (context : Context) (written : Value) : Except Fault Bool := do
  let c ← Rule.orFault (ofValue written)
  evaluate context c

def under (path : String) (op : Operator) (literal : Value) : Value :=
  .object [(path, .object [(op.key, literal)])]

def underEach (key path : String) (op : Operator) (literals : List Value) : Value :=
  .object [(key, .list (literals.map (under path op)))]

/-- The second operator asks whether the first one fails. -/
inductive Opposite : Operator → Operator → Prop
  | equal : Opposite .equal .notEqual
  | oneOf : Opposite .oneOf .noneOf
  | contains : Opposite .contains .lacks
  | empty : Opposite .empty .filled

section Reading

variable {path : String} (free : isReserved path = false)

include free

theorem ne_logical {key : String} (named : key = "_and" ∨ key = "_or") : path ≠ key := by
  rintro rfl
  rw [isReserved_logical named] at free
  cases free

theorem readItem_under (key : String) (op : Operator) (literal : Value) :
    readItem "" key (under path op literal) =
      .ok (.test op path (operatorLiteral op literal)) := by
  have notAnd := ne_logical free (Or.inl rfl)
  have notOr := ne_logical free (Or.inr rfl)
  have reserved := isReserved_operator op
  simp [under, readItem, readEntries, readEntry, readOperators, notAnd, notOr, free, reserved,
    Operator.ofKey?_key, conjunction, Except.map, bind, Except.bind, pure, Except.pure]

theorem readItems_under (key : String) (op : Operator) (literals : List Value) :
    readItems "" key (literals.map (under path op)) =
      .ok (literals.map (fun v => .test op path (operatorLiteral op v))) := by
  rw [readItems_eq_mapM]
  induction literals with
  | nil => rfl
  | cons v rest ih => exact mapM_cons_eq_ok (readItem_under free key op v) ih

theorem ofValue_underEach {key : String} {join : List Condition → Condition}
    (logical : key = "_or" ∧ join = .any ∨ key = "_and" ∧ join = .all) (op : Operator)
    (literals : List Value) : ofValue (underEach key path op literals) =
      .ok (join (literals.map (fun v => .test op path (operatorLiteral op v)))) := by
  rcases logical with ⟨rfl, rfl⟩ | ⟨rfl, rfl⟩ <;>
    simp [underEach, ofValue, readEntries, readEntry, readItems_under free, conjunction,
      Except.map, bind, Except.bind, pure, Except.pure]

end Reading

section Answering

variable {context : Context} {path : String}

theorem evaluate_operatorLiteral (op : Operator) (path : String) (literal : Value) :
    evaluate context (.test op path (operatorLiteral op literal)) =
      evaluate context (.test op path literal) := by
  rw [evaluate, evaluate]
  simp only [testValue_operatorLiteral]

/-- Conditions are tried one by one, as items are. -/
theorem evaluateAny_map (test : Value → Condition) (literals : List Value) :
    evaluateAny context (literals.map test) =
      anyItem (fun v => evaluate context (test v)) literals := by
  induction literals with
  | nil => rfl
  | cons v rest ih => rw [List.map_cons, evaluateAny, anyItem, ih]

/-- All hold if none fails, and both stop at the same condition. -/
theorem evaluateAll_map (test : Value → Condition) (literals : List Value) :
    evaluateAll context (literals.map test) =
      (anyItem (fun v => (evaluate context (test v)).map not) literals).map not := by
  induction literals with
  | nil => rfl
  | cons v rest ih =>
    rw [List.map_cons, evaluateAll, anyItem, ih]
    cases evaluate context (test v) with
    | error fault => rfl
    | ok holds => cases holds <;> rfl

variable (free : isReserved path = false)

include free

theorem answer_under (op : Operator) (literal : Value) :
    answer context (under path op literal) = evaluate context (.test op path literal) := by
  have read : ofValue (under path op literal) = _ := readItem_under free "" op literal
  rw [answer, read]
  exact evaluate_operatorLiteral op path literal

theorem answer_under_of_none (missing : resolve? context path = none) (op : Operator)
    (literal : Value) : answer context (under path op literal) = .ok false := by
  rw [answer_under free, evaluate, missing]

theorem answer_under_of_some {actual : Value} (found : resolve? context path = some actual)
    (op : Operator) (literal : Value) :
    answer context (under path op literal) = testValue op actual literal := by
  rw [answer_under free, evaluate, found]

theorem answer_or (op : Operator) (literals : List Value) :
    answer context (underEach "_or" path op literals) =
      anyItem (fun v => answer context (under path op v)) literals := by
  rw [answer, ofValue_underEach free (Or.inl ⟨rfl, rfl⟩)]
  show evaluateAny context _ = _
  rw [evaluateAny_map]
  simp only [evaluate_operatorLiteral, answer_under free]

theorem answer_and (op : Operator) (literals : List Value) :
    answer context (underEach "_and" path op literals) =
      (anyItem (fun v => (answer context (under path op v)).map not) literals).map not := by
  rw [answer, ofValue_underEach free (Or.inr ⟨rfl, rfl⟩)]
  show evaluateAll context _ = _
  rw [evaluateAll_map]
  simp only [evaluate_operatorLiteral, answer_under free]

end Answering

theorem return_not (work : Except Fault Bool) :
    (do return !(← work) : Except Fault Bool) = work.map not := by
  cases work <;> rfl

theorem map_not_map_not (work : Except Fault Bool) : (work.map not).map not = work := by
  cases work with
  | error fault => rfl
  | ok b => cases b <;> rfl

/-- Opposite operators find the opposite about every value, or stop at the same fault. -/
theorem testValue_opposite {op opposite : Operator} (h : Opposite op opposite)
    (actual literal : Value) :
    testValue opposite actual literal = (testValue op actual literal).map not := by
  cases h with
  | equal => cases actual <;> exact return_not _
  | oneOf => cases actual <;> exact return_not _
  | contains =>
    cases actual with
    | list items => exact return_not _
    | null | bool | int | float | text | object => rfl
  | empty => rfl

theorem sameAsAny_eq_anyItem (actual : Value) (literals : List Value) :
    actual.sameAsAny literals = anyItem actual.same literals := by
  induction literals with
  | nil => rfl
  | cons literal rest ih => rw [Value.sameAsAny, anyItem, ih]

section

variable {passes : Value → Except Fault Bool} {items : List Value}

theorem anyItem_eq_false :
    anyItem passes items = .ok false ↔ ∀ item ∈ items, passes item = .ok false := by
  induction items with
  | nil => simp [anyItem]
  | cons item rest ih =>
    rw [anyItem, List.forall_mem_cons, ← ih]
    cases passes item with
    | error fault => simp [bind, Except.bind]
    | ok found => cases found <;> simp [bind, Except.bind, pure, Except.pure]

end

/-- Pairs may be tried row by row or column by column. An overflow that one of the ways
meets may lie behind the pair at which the other one ends. -/
theorem anyItem_swap {same : Value → Value → Except Fault Bool} {items literals : List Value}
    {a b : Bool} (rows : anyItem (fun item => anyItem (same item) literals) items = .ok a)
    (columns : anyItem (fun literal => anyItem (fun item => same item literal) items) literals =
      .ok b) : a = b := by
  have empty : a = false ↔ b = false := by
    constructor
    · rintro rfl
      have none : ∀ literal ∈ literals, anyItem (fun item => same item literal) items =
          .ok false := by
        intro literal asked
        apply anyItem_eq_false.mpr
        intro item listed
        exact anyItem_eq_false.mp (anyItem_eq_false.mp rows item listed) literal asked
      exact Except.ok.inj (columns.symm.trans (anyItem_eq_false.mpr none))
    · rintro rfl
      have none : ∀ item ∈ items, anyItem (same item) literals = .ok false := by
        intro item listed
        apply anyItem_eq_false.mpr
        intro literal asked
        exact anyItem_eq_false.mp (anyItem_eq_false.mp columns literal asked) item listed
      exact Except.ok.inj (rows.symm.trans (anyItem_eq_false.mpr none))
  cases a <;> cases b <;> simp_all

/-- A value is one of a list if it equals an item of it. -/
theorem testValue_oneOf {actual : Value} {literals : List Value} {a b : Bool}
    (together : testValue .oneOf actual (.list literals) = .ok a)
    (apart : anyItem (testValue .equal actual) literals = .ok b) : a = b := by
  cases actual with
  | list items =>
    have rows : testValue .oneOf (.list items) (.list literals) =
        anyItem (fun item => anyItem item.same literals) items := by
      simp only [← sameAsAny_eq_anyItem]
      rfl
    rw [rows] at together
    exact anyItem_swap together apart
  | null | bool | int | float | text | object =>
    exact Except.ok.inj (together.symm.trans ((sameAsAny_eq_anyItem _ literals).trans apart))

section Ordering

variable {actual literal : Value} {x y : Double} (left : actual.double? = .ok (some x))
  (right : literal.double? = .ok (some y))

include left right

theorem same_of_double? : actual.same literal = .ok (Double.equal x y) := by
  rw [Value.same, left, right]
  rfl

theorem ordered_of_double? (order : Double → Double → Bool) :
    ordered order actual literal = .ok (order x y) := by
  rw [ordered, left, right]
  rfl

/-- Two numbers are compared as doubles. -/
theorem testValue_of_double? :
    testValue .below actual literal = .ok (Double.less x y) ∧
      testValue .equal actual literal = .ok (Double.equal x y) ∧
      testValue .above actual literal = .ok (Double.less y x) ∧
      testValue .atMost actual literal = .ok (Double.lessEqual x y) ∧
      testValue .atLeast actual literal = .ok (Double.lessEqual y x) := by
  have compared := ordered_of_double? left right
  have equal := same_of_double? left right
  cases actual with
  | list | object | null | bool => cases left
  | int | float | text => exact ⟨compared _, equal, compared _, compared _, compared _⟩

end Ordering

/-- A field that the context lacks fails every test. Where it has a value, the operators go
in pairs of opposites, a test against a list is the disjunction (its opposite, for a list
that is not empty, the conjunction) of the tests against the items wherever both are
answered, and two numbers stand in exactly one order. -/
theorem operators_in_pairs (context : Context) {path : String} (free : isReserved path = false) :
    (resolve? context path = none →
      ∀ op literal, answer context (under path op literal) = .ok false) ∧
    (∀ actual op opposite, resolve? context path = some actual → Opposite op opposite →
      ∀ literal, answer context (under path opposite literal) =
        (answer context (under path op literal)).map not) ∧
    (∀ literals a b, answer context (under path .oneOf (.list literals)) = .ok a →
      answer context (underEach "_or" path .equal literals) = .ok b → a = b) ∧
    (∀ literals a b, literals ≠ [] →
      answer context (under path .noneOf (.list literals)) = .ok a →
      answer context (underEach "_and" path .notEqual literals) = .ok b → a = b) ∧
    ∀ actual literal x y, resolve? context path = some actual →
      actual.double? = .ok (some x) → literal.double? = .ok (some y) → x ≠ .nan → y ≠ .nan →
      ∃ below equal above,
        answer context (under path .below literal) = .ok below ∧
        answer context (under path .equal literal) = .ok equal ∧
        answer context (under path .above literal) = .ok above ∧
        [below, equal, above].count true = 1 ∧
        answer context (under path .atMost literal) = .ok (!above) ∧
        answer context (under path .atLeast literal) = .ok (!below) := by
  have missing : resolve? context path = none → ∀ op literal,
      answer context (under path op literal) = .ok false := answer_under_of_none free
  have present : ∀ {actual}, resolve? context path = some actual → ∀ op literal,
      answer context (under path op literal) = testValue op actual literal :=
    answer_under_of_some free
  have oneOf : ∀ literals a b, answer context (under path .oneOf (.list literals)) = .ok a →
      answer context (underEach "_or" path .equal literals) = .ok b → a = b := by
    intro literals a b together apart
    rw [answer_or free] at apart
    cases found : resolve? context path with
    | none =>
      have none : anyItem (fun v => answer context (under path .equal v)) literals = .ok false :=
        anyItem_eq_false.mpr (fun v _ => missing found .equal v)
      rw [missing found] at together
      exact Except.ok.inj (together.symm.trans (none.symm.trans apart))
    | some actual =>
      simp only [present found] at together apart
      exact testValue_oneOf together apart
  refine ⟨missing, ?_, oneOf, ?_, ?_⟩
  · intro actual op opposite found h literal
    rw [present found, present found]
    exact testValue_opposite h actual literal
  · intro literals a b filled together apart
    rw [answer_and free] at apart
    cases found : resolve? context path with
    | none =>
      obtain ⟨literal, rest, rfl⟩ := List.exists_cons_of_ne_nil filled
      rw [missing found] at together
      simp only [anyItem, missing found] at apart
      exact Except.ok.inj (together.symm.trans apart)
    | some actual =>
      have opposite : ∀ v, (answer context (under path .notEqual v)).map not =
          answer context (under path .equal v) := by
        intro v
        rw [present found, present found, testValue_opposite .equal, map_not_map_not]
      rw [present found, testValue_opposite .oneOf, ← present found] at together
      obtain ⟨a, inside, rfl⟩ := map_eq_ok.mp together
      obtain ⟨b, among, rfl⟩ := map_eq_ok.mp apart
      simp only [opposite] at among
      rw [oneOf literals a b inside ((answer_or free _ _).trans among)]
  · intro actual literal x y found left right hx hy
    obtain ⟨below, equal, above, atMost, atLeast⟩ := testValue_of_double? left right
    simp only [present found, below, equal, above, atMost, atLeast]
    rw [Double.lessEqual_eq_not_less hx hy, Double.lessEqual_eq_not_less hy hx]
    exact ⟨_, _, _, rfl, rfl, rfl, Double.less_trichotomy hx hy, rfl, rfl⟩

def striped : Context :=
  [("width", .float (.finite false 2)), ("colors", .list [.text "red", .text "blue"])]

theorem striped_in_pairs :
    (resolve? striped "shape" = none ∧
      answer striped (under "shape" .notEqual (.text "round")) = .ok false) ∧
    (resolve? striped "colors" = some (.list [.text "red", .text "blue"]) ∧
      answer striped (under "colors" .lacks (.text "red")) =
        (answer striped (under "colors" .contains (.text "red"))).map not) ∧
    (∃ a, answer striped (under "colors" .oneOf (.list [.text "green", .text "red"])) = .ok a ∧
      answer striped (underEach "_or" "colors" .equal [.text "green", .text "red"]) = .ok a) ∧
    (∃ a, answer striped (under "colors" .noneOf (.list [.text "green"])) = .ok a ∧
      answer striped (underEach "_and" "colors" .notEqual [.text "green"]) = .ok a) ∧
    ∃ below equal above,
      answer striped (under "width" .below (.float (.finite false 3))) = .ok below ∧
      answer striped (under "width" .equal (.float (.finite false 3))) = .ok equal ∧
      answer striped (under "width" .above (.float (.finite false 3))) = .ok above ∧
      [below, equal, above].count true = 1 ∧
      answer striped (under "width" .atMost (.float (.finite false 3))) = .ok (!above) ∧
      answer striped (under "width" .atLeast (.float (.finite false 3))) = .ok (!below) := by
  have shape := operators_in_pairs striped (show isReserved "shape" = false by decide)
  have colors := operators_in_pairs striped (show isReserved "colors" = false by decide)
  have width := operators_in_pairs striped (show isReserved "width" = false by decide)
  have listed : resolve? striped "colors" = some (.list [.text "red", .text "blue"]) := rfl
  refine ⟨⟨rfl, shape.1 rfl _ _⟩, ⟨listed, colors.2.1 _ _ _ listed .contains _⟩, ?_, ?_,
    width.2.2.2.2 _ _ _ _ rfl rfl rfl (by decide) (by decide)⟩
  · obtain ⟨b, apart⟩ : ∃ b, answer striped
        (underEach "_or" "colors" .equal [.text "green", .text "red"]) = .ok b := ⟨_, rfl⟩
    obtain rfl := colors.2.2.1 _ true b rfl apart
    exact ⟨true, rfl, apart⟩
  · obtain ⟨b, apart⟩ : ∃ b, answer striped
        (underEach "_and" "colors" .notEqual [.text "green"]) = .ok b := ⟨_, rfl⟩
    obtain rfl := colors.2.2.2.1 _ true b (by simp) rfl apart
    exact ⟨true, rfl, apart⟩

end Condition

end MadeToOrder
