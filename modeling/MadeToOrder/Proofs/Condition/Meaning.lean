import MadeToOrder.Condition.Evaluation
import MadeToOrder.Condition.Reading
import MadeToOrder.Proofs.Traversal

/-!
# What condition objects mean

The reader accepts the well-formed objects and no others. The condition that it
reads holds when the object does, taken directly: every entry holds, logical keys
are conjunctions and disjunctions, names of nested fields are joined by points.
Nothing is said of an evaluation that stops at a fault.
-/

set_option autoImplicit false

namespace MadeToOrder.Condition

mutual

inductive WellFormed : Value → Prop
  | object {fields : List (String × Value)} (entries : ∀ f ∈ fields, WellFormedEntry f.1 f.2) :
    WellFormed (.object fields)

inductive WellFormedEntry : String → Value → Prop
  | logical {key : String} {items : List Value} (named : key = "_and" ∨ key = "_or")
    (parts : ∀ v ∈ items, WellFormed v) : WellFormedEntry key (.list items)
  | scalar {key : String} {v : Value} (free : isReserved key = false)
    (flat : v.isHashable = true) : WellFormedEntry key v
  | list {key : String} {items : List Value} (free : isReserved key = false) :
    WellFormedEntry key (.list items)
  | operators {key : String} {fields : List (String × Value)} (free : isReserved key = false)
    (filled : fields ≠ []) (known : ∀ f ∈ fields, ∃ op : Operator, f.1 = op.key) :
    WellFormedEntry key (.object fields)
  | nested {key : String} {fields : List (String × Value)} (free : isReserved key = false)
    (filled : fields ≠ []) (names : ∀ f ∈ fields, isReserved f.1 = false)
    (inner : WellFormed (.object fields)) : WellFormedEntry key (.object fields)

end

section

variable (context : Context)

/-- The context has a value at the path, and it passes the test. -/
def Passes (op : Operator) (path : String) (literal : Value) : Prop :=
  ∃ actual, resolve? context path = some actual ∧ testValue op actual literal = .ok true

mutual

/-- An object holds under a path in front of its field names. -/
inductive Holds : String → Value → Prop
  | object {path : String} {fields : List (String × Value)}
    (entries : ∀ f ∈ fields, HoldsEntry path f.1 f.2) : Holds path (.object fields)

inductive HoldsEntry : String → String → Value → Prop
  | every {path key : String} {items : List Value} (named : key = "_and")
    (parts : ∀ v ∈ items, Holds path v) : HoldsEntry path key (.list items)
  | some {path key : String} {items : List Value} {v : Value} (named : key = "_or")
    (member : v ∈ items) (part : Holds path v) : HoldsEntry path key (.list items)
  | oneOf {path key : String} {items : List Value} (free : isReserved key = false)
    (passes : Passes context .oneOf (path ++ key) (.list items)) :
    HoldsEntry path key (.list items)
  | equal {path key : String} {v : Value} (free : isReserved key = false)
    (flat : v.isHashable = true) (passes : Passes context .equal (path ++ key) v) :
    HoldsEntry path key v
  | operators {path key : String} {fields : List (String × Value)}
    (free : isReserved key = false) (filled : fields ≠ [])
    (tests : ∀ f ∈ fields, ∃ op : Operator, f.1 = op.key ∧ Passes context op (path ++ key) f.2) :
    HoldsEntry path key (.object fields)
  | nested {path key : String} {fields : List (String × Value)}
    (free : isReserved key = false) (filled : fields ≠ [])
    (names : ∀ f ∈ fields, isReserved f.1 = false)
    (inner : Holds (path ++ key ++ ".") (.object fields)) : HoldsEntry path key (.object fields)

end

end

theorem isReserved_operator (op : Operator) : isReserved op.key = true := by
  cases op <;> decide

theorem isReserved_logical {key : String} (named : key = "_and" ∨ key = "_or") :
    isReserved key = true := by
  rcases named with rfl | rfl <;> decide

theorem key_of_ofKey? {key : String} {op : Operator} (h : Operator.ofKey? key = some op) :
    key = op.key := by
  have found := List.find?_some h
  exact (of_decide_eq_true found).symm

section Shapes

variable {context : Context} {path key : String} {items : List Value}
  {fields : List (String × Value)}

theorem wellFormed_object :
    WellFormed (.object fields) ↔ ∀ f ∈ fields, WellFormedEntry f.1 f.2 :=
  ⟨fun | .object entries => entries, .object⟩

theorem holds_object :
    Holds context path (.object fields) ↔ ∀ f ∈ fields, HoldsEntry context path f.1 f.2 :=
  ⟨fun | .object entries => entries, .object⟩

theorem wellFormedEntry_logical (named : key = "_and" ∨ key = "_or") :
    WellFormedEntry key (.list items) ↔ ∀ v ∈ items, WellFormed v := by
  have reserved := isReserved_logical named
  constructor
  · intro formed
    cases formed with
    | logical _ parts => exact parts
    | scalar free | list free => simp [reserved] at free
  · exact .logical named

theorem wellFormedEntry_reserved {v : Value} (reserved : isReserved key = true)
    (formed : WellFormedEntry key v) :
    (key = "_and" ∨ key = "_or") ∧ ∃ items, v = .list items := by
  cases formed with
  | logical named _ => exact ⟨named, _, rfl⟩
  | scalar free | list free | operators free | nested free => simp [reserved] at free

theorem holdsEntry_and :
    HoldsEntry context path "_and" (.list items) ↔ ∀ v ∈ items, Holds context path v := by
  have reserved := isReserved_logical (Or.inl rfl)
  constructor
  · intro holds
    cases holds with
    | every _ parts => exact parts
    | some named => exact absurd named (by decide)
    | oneOf free | equal free => simp [reserved] at free
  · exact .every rfl

theorem holdsEntry_or :
    HoldsEntry context path "_or" (.list items) ↔ ∃ v ∈ items, Holds context path v := by
  have reserved := isReserved_logical (Or.inr rfl)
  constructor
  · intro holds
    cases holds with
    | every named => exact absurd named (by decide)
    | some _ member part => exact ⟨_, member, part⟩
    | oneOf free | equal free => simp [reserved] at free
  · rintro ⟨v, member, part⟩
    exact .some rfl member part

theorem holdsEntry_list (free : isReserved key = false) :
    HoldsEntry context path key (.list items) ↔
      Passes context .oneOf (path ++ key) (.list items) := by
  constructor
  · intro holds
    cases holds with
    | every named => simp [isReserved_logical (Or.inl named)] at free
    | some named => simp [isReserved_logical (Or.inr named)] at free
    | oneOf _ passes => exact passes
    | equal _ flat => cases flat
  · exact .oneOf free

theorem holdsEntry_scalar {v : Value} (free : isReserved key = false)
    (flat : v.isHashable = true) :
    HoldsEntry context path key v ↔ Passes context .equal (path ++ key) v := by
  constructor
  · intro holds
    cases holds with
    | every | some | oneOf | operators | nested => cases flat
    | equal _ _ passes => exact passes
  · exact .equal free flat

theorem not_reserved_and_free (filled : fields ≠ [])
    (reserved : ∀ f ∈ fields, isReserved f.1 = true)
    (names : ∀ f ∈ fields, isReserved f.1 = false) : False := by
  obtain ⟨f, member⟩ := List.exists_mem_of_ne_nil fields filled
  have both := reserved f member
  rw [names f member] at both
  cases both

theorem reserved_of_operators (known : ∀ f ∈ fields, ∃ op : Operator, f.1 = op.key) :
    ∀ f ∈ fields, isReserved f.1 = true := by
  intro f member
  obtain ⟨op, named⟩ := known f member
  rw [named, isReserved_operator]

theorem wellFormedEntry_operators (free : isReserved key = false) (filled : fields ≠ [])
    (reserved : ∀ f ∈ fields, isReserved f.1 = true) :
    WellFormedEntry key (.object fields) ↔ ∀ f ∈ fields, ∃ op : Operator, f.1 = op.key := by
  constructor
  · intro formed
    cases formed with
    | scalar _ flat => cases flat
    | operators _ _ known => exact known
    | nested _ _ names => exact absurd names (not_reserved_and_free filled reserved)
  · exact .operators free filled

theorem wellFormedEntry_nested (free : isReserved key = false) (filled : fields ≠ [])
    (names : ∀ f ∈ fields, isReserved f.1 = false) :
    WellFormedEntry key (.object fields) ↔ ∀ f ∈ fields, WellFormedEntry f.1 f.2 := by
  constructor
  · intro formed
    cases formed with
    | scalar _ flat => cases flat
    | operators _ _ known =>
      exact (not_reserved_and_free filled (reserved_of_operators known) names).elim
    | nested _ _ _ inner => exact wellFormed_object.mp inner
  · intro entries
    exact .nested free filled names (wellFormed_object.mpr entries)

theorem holdsEntry_operators (free : isReserved key = false) (filled : fields ≠ [])
    (reserved : ∀ f ∈ fields, isReserved f.1 = true) :
    HoldsEntry context path key (.object fields) ↔
      ∀ f ∈ fields, ∃ op : Operator, f.1 = op.key ∧ Passes context op (path ++ key) f.2 := by
  constructor
  · intro holds
    cases holds with
    | equal _ flat => cases flat
    | operators _ _ tests => exact tests
    | nested _ _ names => exact absurd names (not_reserved_and_free filled reserved)
  · exact .operators free filled

theorem holdsEntry_nested (free : isReserved key = false) (filled : fields ≠ [])
    (names : ∀ f ∈ fields, isReserved f.1 = false) :
    HoldsEntry context path key (.object fields) ↔
      ∀ f ∈ fields, HoldsEntry context (path ++ key ++ ".") f.1 f.2 := by
  constructor
  · intro holds
    cases holds with
    | equal _ flat => cases flat
    | operators _ _ tests =>
      have known : ∀ f ∈ fields, ∃ op : Operator, f.1 = op.key := by
        intro f member
        obtain ⟨op, named, _⟩ := tests f member
        exact ⟨op, named⟩
      exact (not_reserved_and_free filled (reserved_of_operators known) names).elim
    | nested _ _ _ inner => exact holds_object.mp inner
  · intro entries
    exact .nested free filled names (holds_object.mpr entries)

/-- The keys of an object under a field are all reserved, or none is. -/
theorem wellFormedEntry_unmixed (formed : WellFormedEntry key (.object fields)) :
    (∀ f ∈ fields, isReserved f.1 = true) ∨ ∀ f ∈ fields, isReserved f.1 = false := by
  cases formed with
  | scalar _ flat => cases flat
  | operators _ _ known => exact Or.inl (reserved_of_operators known)
  | nested _ _ names => exact Or.inr names

theorem wellFormedEntry_filled (formed : WellFormedEntry key (.object fields)) : fields ≠ [] := by
  cases formed with
  | scalar _ flat => cases flat
  | operators _ filled | nested _ filled => exact filled

end Shapes

/-- Every evaluation that ends tells whether the statement holds. -/
def Tells (context : Context) (c : Condition) (p : Prop) : Prop :=
  ∀ b, evaluate context c = .ok b → (b = true ↔ p)

section Telling

variable {context : Context} {α : Type} {statement : α → Prop} {xs : List α}
  {parts : List Condition}

theorem tells_all (h : List.Forall₂ (fun x c => Tells context c (statement x)) xs parts) :
    Tells context (.all parts) (∀ x ∈ xs, statement x) := by
  induction h with
  | nil =>
    intro b evaluated
    cases evaluated
    simp
  | @cons x part xs parts first _ ih =>
    intro b evaluated
    obtain ⟨held, tested, rest⟩ := bind_eq_ok.mp evaluated
    have here := first held tested
    cases held with
    | false =>
      -- The parts after one that fails are not evaluated, so they may be faulty.
      cases rest
      simpa using fun stated => absurd (here.mpr stated) (by decide)
    | true => simpa [here.mp rfl] using ih b rest

theorem tells_any (h : List.Forall₂ (fun x c => Tells context c (statement x)) xs parts) :
    Tells context (.any parts) (∃ x ∈ xs, statement x) := by
  induction h with
  | nil =>
    intro b evaluated
    cases evaluated
    simp
  | @cons x part xs parts first _ ih =>
    intro b evaluated
    obtain ⟨held, tested, rest⟩ := bind_eq_ok.mp evaluated
    have here := first held tested
    cases held with
    | false =>
      have refuted : ¬statement x := fun stated => absurd (here.mpr stated) (by decide)
      simpa [refuted] using ih b rest
    | true =>
      cases rest
      simp [here.mp rfl]

theorem evaluate_conjunction (parts : List Condition) :
    evaluate context (conjunction parts) = evaluate context (.all parts) := by
  match parts with
  | [part] =>
    show evaluate context part =
      (evaluate context part >>= fun held => if held then .ok true else .ok false)
    cases evaluate context part with
    | error fault => rfl
    | ok held => cases held <;> rfl
  | [] | _ :: _ :: _ => rfl

theorem tells_conjunction {p : Prop} (h : Tells context (.all parts) p) :
    Tells context (conjunction parts) p := by
  intro b evaluated
  rw [evaluate_conjunction] at evaluated
  exact h b evaluated

theorem tells_test (op : Operator) (path : String) (literal : Value) :
    Tells context (.test op path literal) (Passes context op path literal) := by
  intro b evaluated
  rw [evaluate] at evaluated
  cases found : resolve? context path with
  | none =>
    rw [found] at evaluated
    cases evaluated
    simp [Passes, found]
  | some actual =>
    rw [found] at evaluated
    simp [Passes, found, evaluated]

theorem testValue_operatorLiteral (op : Operator) (actual literal : Value) :
    testValue op actual (operatorLiteral op literal) = testValue op actual literal := by
  have unwrapped : (Value.list literal.elements).elements = literal.elements := rfl
  cases op with
  | oneOf | noneOf =>
    cases actual <;> simp only [operatorLiteral, Operator.takesList, if_true, testValue,
      testList, testScalar, unwrapped]
  | _ => rfl

end Telling

/-- A reading that succeeds exactly on what is accepted, with a condition that means
what the text states. -/
structure Faithful (context : Context) (accepted : Prop) (read : Except Rule.Defect Condition)
    (stated : Prop) : Prop where
  reads : (∃ c, read = .ok c) ↔ accepted
  means : ∀ c, read = .ok c → Tells context c stated

section Reading

variable {context : Context} {accepted stated : Prop} {read : Except Rule.Defect Condition}

namespace Faithful

theorem congr {accepted' stated' : Prop} (h : Faithful context accepted read stated)
    (accepting : accepted' ↔ accepted) (stating : stated' ↔ stated) :
    Faithful context accepted' read stated' :=
  ⟨h.reads.trans accepting.symm, fun c succeeded b evaluated =>
    (h.means c succeeded b evaluated).trans stating.symm⟩

theorem error (defect : Rule.Defect) (refused : ¬accepted) :
    Faithful context accepted (.error defect) stated :=
  ⟨by simp [refused], fun _ succeeded => by cases succeeded⟩

theorem test (op : Operator) (path : String) (literal : Value) (h : accepted) :
    Faithful context accepted (.ok (.test op path literal)) (Passes context op path literal) := by
  refine ⟨by simp [h], ?_⟩
  intro c succeeded
  cases succeeded
  exact tells_test op path literal

section

variable {α : Type} {f : α → Except Rule.Defect Condition} {xs : List α}
  {accepts states : α → Prop} (h : ∀ x ∈ xs, Faithful context (accepts x) (f x) (states x))

include h

/-- Parts read one by one are put together by anything that keeps what they say. -/
theorem mapM (join : List Condition → Condition)
    (joined : ∀ parts, List.Forall₂ (fun x c => Tells context c (states x)) xs parts →
      Tells context (join parts) stated) :
    Faithful context (∀ x ∈ xs, accepts x) ((xs.mapM f).map join) stated := by
  constructor
  · rw [exists_map_mapM_eq_ok]
    exact forall₂_congr (fun x member => (h x member).reads)
  · intro c succeeded
    cases each : xs.mapM f with
    | error defect => simp [each, Except.map] at succeeded
    | ok parts =>
      simp only [each, Except.map, Except.ok.injEq] at succeeded
      subst succeeded
      have together := (List.forall₂_and_left xs parts).mpr
        ⟨fun x member => (h x member).means, mapM_eq_ok_iff.mp each⟩
      exact joined parts (together.imp (fun _ _ both => both.1 _ both.2))

theorem all : Faithful context (∀ x ∈ xs, accepts x) ((xs.mapM f).map Condition.all)
    (∀ x ∈ xs, states x) :=
  mapM h _ (fun _ => tells_all)

theorem any : Faithful context (∀ x ∈ xs, accepts x) ((xs.mapM f).map Condition.any)
    (∃ x ∈ xs, states x) :=
  mapM h _ (fun _ => tells_any)

theorem conjunction : Faithful context (∀ x ∈ xs, accepts x)
    ((xs.mapM f).map Condition.conjunction) (∀ x ∈ xs, states x) :=
  mapM h _ (fun _ each => tells_conjunction (tells_all each))

end

end Faithful

end Reading

section Reader

variable {context : Context} {path key : String} {items : List Value}
  {fields : List (String × Value)}

theorem readEntries_eq_mapM (path : String) (fields : List (String × Value)) :
    readEntries path fields = fields.mapM (fun f => readEntry path f.1 f.2) := by
  induction fields with
  | nil => rfl
  | cons f rest ih =>
    rw [List.mapM_cons, ← ih]
    rfl

theorem readItems_eq_mapM (path key : String) (items : List Value) :
    readItems path key items = items.mapM (readItem path key) := by
  induction items with
  | nil => rfl
  | cons v rest ih =>
    rw [List.mapM_cons, ← ih]
    rfl

def readOperator (path : String) (f : String × Value) : Except Rule.Defect Condition :=
  match Operator.ofKey? f.1 with
  | none => .error (.testOperator f.1 path)
  | some op => .ok (.test op path (operatorLiteral op f.2))

theorem readOperators_eq_mapM (path : String) (fields : List (String × Value)) :
    readOperators path fields = fields.mapM (readOperator path) := by
  induction fields with
  | nil => rfl
  | cons f rest ih =>
    obtain ⟨key, literal⟩ := f
    rw [List.mapM_cons, ← ih, readOperators, readOperator]
    cases Operator.ofKey? key with
    | none => rfl
    | some op => cases readOperators path rest <;> rfl

theorem faithful_operator (path : String) (f : String × Value) :
    Faithful context (∃ op : Operator, f.1 = op.key) (readOperator path f)
      (∃ op : Operator, f.1 = op.key ∧ Passes context op path f.2) := by
  rw [readOperator]
  cases found : Operator.ofKey? f.1 with
  | none =>
    refine .error _ ?_
    rintro ⟨op, named⟩
    rw [named, Operator.ofKey?_key] at found
    cases found
  | some op =>
    have named := key_of_ofKey? found
    refine (Faithful.test op path _ ⟨op, named⟩).congr Iff.rfl ?_
    constructor
    · rintro ⟨other, named', passes⟩
      rw [named', Operator.ofKey?_key] at found
      cases found
      simpa only [Passes, testValue_operatorLiteral] using passes
    · intro passes
      exact ⟨op, named, by simpa only [Passes, testValue_operatorLiteral] using passes⟩

/-- Only a list can stand under a reserved key. -/
theorem faithful_unlisted {v : Value} {body : Except Rule.Defect Condition} {stated : Prop}
    (unlisted : v.isList = false)
    (h : isReserved key = false → Faithful context (WellFormedEntry key v) body stated) :
    Faithful context (WellFormedEntry key v)
      (if key = "_and" || key = "_or" then .error (.conditionList key)
        else if isReserved key then .error (.conditionOperator key) else body) stated := by
  cases reserved : isReserved key with
  | false =>
    have plain : ¬(key = "_and" ∨ key = "_or") := by
      intro named
      simp [isReserved_logical named] at reserved
    simpa only [Bool.or_eq_true, decide_eq_true_eq, plain, if_false, Bool.false_eq_true]
      using h reserved
  | true =>
    have refused : ¬WellFormedEntry key v := by
      intro formed
      obtain ⟨_, items, rfl⟩ := wellFormedEntry_reserved reserved formed
      cases unlisted
    split
    · exact .error _ refused
    · rw [if_pos rfl]
      exact .error _ refused

theorem readEntry_scalar {v : Value} (flat : v.isHashable = true) : readEntry path key v =
    if key = "_and" || key = "_or" then .error (.conditionList key)
    else if isReserved key then .error (.conditionOperator key)
    else .ok (.test .equal (path ++ key) v) := by
  cases v with
  | list | object => cases flat
  | _ => rfl

theorem faithful_scalar {v : Value} (flat : v.isHashable = true) :
    Faithful context (WellFormedEntry key v) (readEntry path key v)
      (HoldsEntry context path key v) := by
  have unlisted : v.isList = false := by
    cases v with
    | list => cases flat
    | _ => rfl
  rw [readEntry_scalar flat]
  refine faithful_unlisted unlisted (fun free => ?_)
  exact (Faithful.test _ _ _ (.scalar free flat)).congr Iff.rfl (holdsEntry_scalar free flat)

theorem faithful_list (h : ∀ v ∈ items, Faithful context (WellFormed v) (readItem path key v)
    (Holds context path v)) :
    Faithful context (WellFormedEntry key (.list items)) (readEntry path key (.list items))
      (HoldsEntry context path key (.list items)) := by
  rw [readEntry, readItems_eq_mapM]
  split
  next named =>
    subst named
    exact (Faithful.all h).congr (wellFormedEntry_logical (Or.inl rfl)) holdsEntry_and
  split
  next named =>
    subst named
    exact (Faithful.any h).congr (wellFormedEntry_logical (Or.inr rfl)) holdsEntry_or
  split
  next notAnd notOr reserved =>
    refine .error _ ?_
    intro formed
    exact (wellFormedEntry_reserved reserved formed).1.elim notAnd notOr
  next notAnd notOr reserved =>
    have free : isReserved key = false := by simpa using reserved
    exact (Faithful.test _ _ _ (.list free)).congr Iff.rfl (holdsEntry_list free)

theorem faithful_object (h : ∀ f ∈ fields, ∀ path key, Faithful context
    (WellFormedEntry key f.2) (readEntry path key f.2) (HoldsEntry context path key f.2)) :
    Faithful context (WellFormedEntry key (.object fields)) (readEntry path key (.object fields))
      (HoldsEntry context path key (.object fields)) := by
  rw [readEntry, readEntries_eq_mapM, readOperators_eq_mapM]
  refine faithful_unlisted rfl (fun free => ?_)
  -- No keys, operators only, both kinds, nested fields only.
  split
  next empty =>
    refine .error _ ?_
    intro formed
    exact wellFormedEntry_filled formed (by simpa using empty)
  next nonempty =>
    have filled : fields ≠ [] := by simpa using nonempty
    split
    next all =>
      have reserved : ∀ f ∈ fields, isReserved f.1 = true := by simpa using all
      exact (Faithful.conjunction (fun f _ => faithful_operator (path ++ key) f)).congr
        (wellFormedEntry_operators free filled reserved)
        (holdsEntry_operators free filled reserved)
    next notAll =>
      split
      next any =>
        refine .error _ ?_
        intro formed
        rcases wellFormedEntry_unmixed formed with reserved | names
        · exact notAll (by simpa using reserved)
        · obtain ⟨f, member, reserved⟩ := List.any_eq_true.mp any
          rw [names f member] at reserved
          cases reserved
      next none =>
        have names : ∀ f ∈ fields, isReserved f.1 = false := by simpa using none
        exact (Faithful.conjunction (fun f member => h f member _ f.1)).congr
          (wellFormedEntry_nested free filled names) (holdsEntry_nested free filled names)

/-- The reader at any depth, for an item of a list and for the value of a key. -/
theorem faithful (context : Context) (v : Value) :
    (∀ path key, Faithful context (WellFormed v) (readItem path key v) (Holds context path v)) ∧
      ∀ path key, Faithful context (WellFormedEntry key v) (readEntry path key v)
        (HoldsEntry context path key v) := by
  induction v using Value.induction with
  | scalar v flat =>
    refine ⟨fun path key => ?_, fun path key => faithful_scalar flat⟩
    have read : readItem path key v = .error (.conditionEntry key) := by
      cases v with
      | list | object => cases flat
      | _ => rfl
    rw [read]
    refine .error _ ?_
    intro formed
    cases formed
    cases flat
  | list items ih =>
    refine ⟨fun path key => .error _ ?_, fun path key =>
      faithful_list (fun v member => (ih v member).1 path key)⟩
    intro formed
    cases formed
  | object fields ih =>
    refine ⟨fun path key => ?_, fun path key => faithful_object (fun f member => (ih f member).2)⟩
    rw [readItem, readEntries_eq_mapM]
    exact (Faithful.conjunction (fun f member => (ih f member).2 path f.1)).congr
      wellFormed_object holds_object

theorem faithful_ofValue (context : Context) (v : Value) :
    Faithful context (WellFormed v) (ofValue v) (Holds context "" v) := by
  cases v with
  | object fields =>
    have read : ofValue (.object fields) = readItem "" "" (.object fields) := by
      rw [ofValue, readItem]
    rw [read]
    exact (faithful context (.object fields)).1 "" ""
  | _ =>
    refine .error _ ?_
    intro formed
    cases formed

end Reader

/-- Reading succeeds exactly on the well-formed objects and meets a defect of the
condition otherwise; what was read evaluates to the direct reading of the object. -/
theorem ofValue_reads_directly (v : Value) :
    ((∃ c, ofValue v = .ok c) ↔ WellFormed v) ∧
      (¬WellFormed v → ∃ defect, ofValue v = .error defect ∧
        (Fault.defect defect).category = "ConditionParseError") ∧
      ∀ (c : Condition) (context : Context) (b : Bool), ofValue v = .ok c →
        evaluate context c = .ok b → (b = true ↔ Holds context "" v) := by
  have accepted := (faithful_ofValue [] v).reads
  refine ⟨accepted, ?_, ?_⟩
  · intro malformed
    cases read : ofValue v with
    | error defect => exact ⟨defect, rfl, rfl⟩
    | ok c => exact absurd (accepted.mp ⟨c, read⟩) malformed
  · intro c context b succeeded evaluated
    exact (faithful_ofValue context v).means c succeeded b evaluated

def largeOrColored : Value :=
  .object [("_or", .list [
    .object [("size", .text "large")],
    .object [("shirt", .object [
      ("color", .object [("_neq", .text "red"), ("_nempty", .bool true)])])]])]

def mixedShirt : Value :=
  .object [("shirt", .object [("_eq", .text "red"), ("color", .text "red")])]

def smallShirt (color : String) : Context :=
  [("size", .text "small"), ("shirt", .object [("color", .text color)])]

theorem small_shirts_read :
    (∃ c, ofValue largeOrColored = .ok c ∧ evaluate (smallShirt "blue") c = .ok true ∧
      evaluate (smallShirt "red") c = .ok false) ∧
    Holds (smallShirt "blue") "" largeOrColored ∧
    ¬Holds (smallShirt "red") "" largeOrColored ∧
    ¬WellFormed mixedShirt ∧
    ∃ defect, ofValue mixedShirt = .error defect ∧
      (Fault.defect defect).category = "ConditionParseError" := by
  have read : ∃ c, ofValue largeOrColored = .ok c ∧ evaluate (smallShirt "blue") c = .ok true ∧
      evaluate (smallShirt "red") c = .ok false := ⟨_, rfl, rfl, rfl⟩
  have malformed : ¬WellFormed mixedShirt := by
    intro formed
    obtain ⟨c, succeeded⟩ := (ofValue_reads_directly mixedShirt).1.mpr formed
    cases succeeded
  obtain ⟨_, _, directly⟩ := ofValue_reads_directly largeOrColored
  obtain ⟨c, succeeded, blue, red⟩ := read
  refine ⟨⟨c, succeeded, blue, red⟩, ?_, ?_, malformed,
    (ofValue_reads_directly mixedShirt).2.1 malformed⟩
  · exact (directly c _ true succeeded blue).mp rfl
  · intro holds
    exact absurd ((directly c _ false succeeded red).mpr holds) (by decide)

end MadeToOrder.Condition
