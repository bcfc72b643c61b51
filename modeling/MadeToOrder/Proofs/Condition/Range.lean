import MadeToOrder.Proofs.Condition.Meaning

/-!
# Integers past the range of doubles

Numbers are compared as doubles, so an integer without a double stops the evaluation of
a condition that meets it. Nothing else does: where every integer of the condition and
of the context has a double, evaluation says whether the condition holds.
-/

set_option autoImplicit false

namespace MadeToOrder

namespace Value

mutual

/-- Every integer in the value has a double. -/
def isMeasurable : Value → Bool
  | .int i => (Double.ofInt? i).isSome
  | .list items => itemsMeasurable items
  | .object fs => fieldsMeasurable fs
  | _ => true
termination_by structural v => v

def itemsMeasurable : List Value → Bool
  | [] => true
  | v :: rest => isMeasurable v && itemsMeasurable rest
termination_by structural items => items

def fieldsMeasurable : List (String × Value) → Bool
  | [] => true
  | (_, v) :: rest => isMeasurable v && fieldsMeasurable rest
termination_by structural fs => fs

end

theorem isMeasurable_list (items : List Value) :
    (Value.list items).isMeasurable = true ↔ ∀ v ∈ items, v.isMeasurable = true := by
  change itemsMeasurable items = true ↔ _
  induction items with
  | nil => simp [itemsMeasurable]
  | cons v rest ih => simp [itemsMeasurable, ih]

theorem isMeasurable_object (fs : List (String × Value)) :
    (Value.object fs).isMeasurable = true ↔ ∀ f ∈ fs, f.2.isMeasurable = true := by
  change fieldsMeasurable fs = true ↔ _
  induction fs with
  | nil => simp [fieldsMeasurable]
  | cons f rest ih => simp only [fieldsMeasurable, Bool.and_eq_true, List.forall_mem_cons, ih]

def Foreseen (wide : Prop) (v : Value) : Prop := v.isMeasurable = false → wide

section

variable {wide : Prop} {v w : Value} {items : List Value} {fs : List (String × Value)}

theorem Foreseen.item (h : Foreseen wide (.list items)) {item : Value} (member : item ∈ items) :
    Foreseen wide item := by
  intro past
  refine h (Bool.eq_false_iff.mpr (fun all => ?_))
  rw [(isMeasurable_list items).mp all item member] at past
  cases past

theorem Foreseen.field (h : Foreseen wide (.object fs)) {f : String × Value} (member : f ∈ fs) :
    Foreseen wide f.2 := by
  intro past
  refine h (Bool.eq_false_iff.mpr (fun all => ?_))
  rw [(isMeasurable_object fs).mp all f member] at past
  cases past

theorem Foreseen.get? (h : Foreseen wide (.object fs)) {key : String}
    (found : Keyed.get? fs key = some v) : Foreseen wide v :=
  h.field (Keyed.mem_of_get? found)

theorem Foreseen.elements (h : Foreseen wide v) {item : Value} (member : item ∈ v.elements) :
    Foreseen wide item := by
  cases v with
  | list items => exact h.item member
  | null | bool | int | float | text | object =>
    obtain rfl := List.mem_singleton.mp member
    exact h

end

end Value

def Fault.IsOverflow (wide : Prop) (fault : Fault) : Prop := fault = .integerTooLarge ∧ wide

abbrev OverflowsOnlyIf {α : Type} (wide : Prop) (work : Except Fault α) : Prop :=
  FailsOnly (Fault.IsOverflow wide) work

namespace Condition

open Value (Foreseen)

section Testing

variable {wide : Prop} {actual literal : Value} {items : List Value}

theorem overflows_double? {v : Value} (h : Foreseen wide v) : OverflowsOnlyIf wide v.double? := by
  -- The equations of the function would evaluate the bound of doubles, its cases do not.
  fun_cases Value.double? v with
  | case2 i past => exact failsOnly_error ⟨rfl, h (by simp [Value.isMeasurable, past])⟩
  | case1 | case3 | case4 | case5 => exact failsOnly_ok _

theorem overflows_same (ha : Foreseen wide actual) (hl : Foreseen wide literal) :
    OverflowsOnlyIf wide (actual.same literal) := by
  refine (overflows_double? ha).bind (fun x => (overflows_double? hl).bind (fun y => ?_))
  cases x <;> cases y <;> exact failsOnly_ok _

theorem overflows_sameAsAny (ha : Foreseen wide actual)
    (hl : ∀ literal ∈ items, Foreseen wide literal) :
    OverflowsOnlyIf wide (actual.sameAsAny items) := by
  induction items with
  | nil => exact failsOnly_ok _
  | cons literal rest ih =>
    obtain ⟨first, others⟩ := List.forall_mem_cons.mp hl
    refine (overflows_same ha first).bind (fun found => ?_)
    split
    · exact failsOnly_ok _
    · exact ih others

theorem overflows_ordered (order : Double → Double → Bool) (ha : Foreseen wide actual)
    (hl : Foreseen wide literal) : OverflowsOnlyIf wide (ordered order actual literal) := by
  refine (overflows_double? ha).bind (fun x => (overflows_double? hl).bind (fun y => ?_))
  cases x <;> cases y <;> exact failsOnly_ok _

theorem overflows_testScalar (op : Operator) (ha : Foreseen wide actual)
    (hl : Foreseen wide literal) : OverflowsOnlyIf wide (testScalar op actual literal) := by
  have anyOf := overflows_sameAsAny ha (fun _ => hl.elements)
  cases op with
  | equal => exact overflows_same ha hl
  | notEqual => exact (overflows_same ha hl).bind (fun _ => failsOnly_ok _)
  | oneOf => exact anyOf
  | noneOf => exact anyOf.bind (fun _ => failsOnly_ok _)
  | contains | lacks | empty | filled => exact failsOnly_ok _
  | above | atLeast | below | atMost => exact overflows_ordered _ ha hl

theorem overflows_anyItem {passes : Value → Except Fault Bool}
    (h : ∀ item ∈ items, OverflowsOnlyIf wide (passes item)) :
    OverflowsOnlyIf wide (anyItem passes items) := by
  induction items with
  | nil => exact failsOnly_ok _
  | cons item rest ih =>
    obtain ⟨first, others⟩ := List.forall_mem_cons.mp h
    refine first.bind (fun found => ?_)
    split
    · exact failsOnly_ok _
    · exact ih others

theorem overflows_testList (op : Operator) (ha : ∀ item ∈ items, Foreseen wide item)
    (hl : Foreseen wide literal) : OverflowsOnlyIf wide (testList op items literal) := by
  have same := overflows_anyItem (fun item member => overflows_same (ha item member) hl)
  have anyOf := overflows_anyItem (fun item member =>
    overflows_sameAsAny (ha item member) (fun _ => hl.elements))
  cases op with
  | equal | contains => exact same
  | notEqual | lacks => exact same.bind (fun _ => failsOnly_ok _)
  | oneOf => exact anyOf
  | noneOf => exact anyOf.bind (fun _ => failsOnly_ok _)
  | above | atLeast | below | atMost =>
    exact overflows_anyItem (fun item member => overflows_testScalar _ (ha item member) hl)
  | empty | filled => exact failsOnly_ok _

theorem overflows_testValue (op : Operator) (ha : Foreseen wide actual)
    (hl : Foreseen wide literal) : OverflowsOnlyIf wide (testValue op actual literal) := by
  unfold testValue
  split
  · exact failsOnly_ok _
  · exact failsOnly_ok _
  · exact overflows_testList op (fun _ => ha.item) hl
  · exact overflows_testScalar op ha hl

theorem foreseen_walk {names : List String} {v w : Value} (h : Foreseen wide v)
    (found : walk names v = some w) : Foreseen wide w := by
  induction names generalizing v with
  | nil => exact Option.some.inj found ▸ h
  | cons name rest ih =>
    cases v with
    | object fs =>
      obtain ⟨inner, here, found⟩ := Option.bind_eq_some_iff.mp found
      exact ih (h.get? here) found
    | null | bool | int | float | text | list => cases found

theorem foreseen_resolve? {context : Context} {path : String} (h : Foreseen wide (.object context))
    (found : resolve? context path = some actual) : Foreseen wide actual := by
  unfold resolve? at found
  split at found
  · rename_i v here
    obtain rfl := Option.some.inj found
    exact h.get? here
  · split at found
    · split at found
      · rename_i v walked
        obtain rfl := Option.some.inj found
        exact foreseen_walk h walked
      · exact h.get? found
    · cases found

end Testing

mutual

def isMeasurable : Condition → Bool
  | .all parts => partsMeasurable parts
  | .any parts => partsMeasurable parts
  | .test _ _ literal => literal.isMeasurable
termination_by structural c => c

def partsMeasurable : List Condition → Bool
  | [] => true
  | part :: rest => isMeasurable part && partsMeasurable rest
termination_by structural parts => parts

end

theorem partsMeasurable_iff (parts : List Condition) :
    partsMeasurable parts = true ↔ ∀ part ∈ parts, part.isMeasurable = true := by
  induction parts with
  | nil => simp [partsMeasurable]
  | cons part rest ih => simp [partsMeasurable, ih]

section Evaluating

variable {wide : Prop} {context : Context}

mutual

theorem overflows_evaluate (h : Foreseen wide (.object context)) :
    ∀ c : Condition, (c.isMeasurable = false → wide) → OverflowsOnlyIf wide (evaluate context c)
  | .all parts, hc => overflows_evaluateAll h parts hc
  | .any parts, hc => overflows_evaluateAny h parts hc
  | .test op path literal, hc => by
    rw [evaluate]
    split
    · exact failsOnly_ok _
    · rename_i actual found
      exact overflows_testValue op (foreseen_resolve? h found) hc

theorem overflows_evaluateAll (h : Foreseen wide (.object context)) :
    ∀ parts : List Condition, (partsMeasurable parts = false → wide) →
      OverflowsOnlyIf wide (evaluateAll context parts)
  | [], _ => failsOnly_ok _
  | part :: rest, hc => by
    refine (overflows_evaluate h part ?_).bind (fun holds => ?_)
    · intro past
      exact hc (by simp [partsMeasurable, past])
    · split
      · exact overflows_evaluateAll h rest (fun past => hc (by simp [partsMeasurable, past]))
      · exact failsOnly_ok _

theorem overflows_evaluateAny (h : Foreseen wide (.object context)) :
    ∀ parts : List Condition, (partsMeasurable parts = false → wide) →
      OverflowsOnlyIf wide (evaluateAny context parts)
  | [], _ => failsOnly_ok _
  | part :: rest, hc => by
    refine (overflows_evaluate h part ?_).bind (fun holds => ?_)
    · intro past
      exact hc (by simp [partsMeasurable, past])
    · split
      · exact failsOnly_ok _
      · exact overflows_evaluateAny h rest (fun past => hc (by simp [partsMeasurable, past]))

end

end Evaluating

section Reading

variable {path key : String} {c : Condition}

theorem isMeasurable_all {parts : List Condition}
    (h : ∀ part ∈ parts, part.isMeasurable = true) : (all parts).isMeasurable = true :=
  (partsMeasurable_iff parts).mpr h

theorem isMeasurable_any {parts : List Condition}
    (h : ∀ part ∈ parts, part.isMeasurable = true) : (any parts).isMeasurable = true :=
  (partsMeasurable_iff parts).mpr h

theorem isMeasurable_conjunction {parts : List Condition}
    (h : ∀ part ∈ parts, part.isMeasurable = true) : (conjunction parts).isMeasurable = true := by
  match parts with
  | [part] => exact h part (by simp)
  | [] | _ :: _ :: _ => exact isMeasurable_all h

theorem forall_mem_of_mapM {α : Type} {f : α → Except Rule.Defect Condition} {xs : List α}
    {parts : List Condition} (each : ∀ x ∈ xs, ∀ c, f x = .ok c → c.isMeasurable = true)
    (read : xs.mapM f = .ok parts) : ∀ part ∈ parts, part.isMeasurable = true := by
  intro part member
  obtain ⟨x, listed, result⟩ := (mem_iff_of_mapM read).mp member
  exact each x listed part result

theorem isMeasurable_map_join {α : Type} {f : α → Except Rule.Defect Condition} {xs : List α}
    {join : List Condition → Condition}
    (joins : ∀ parts, (∀ part ∈ parts, part.isMeasurable = true) →
      (join parts).isMeasurable = true)
    (each : ∀ x ∈ xs, ∀ c, f x = .ok c → c.isMeasurable = true)
    (read : (xs.mapM f).map join = .ok c) : c.isMeasurable = true := by
  cases pieces : xs.mapM f with
  | error defect => simp [pieces, Except.map] at read
  | ok parts =>
    simp only [pieces, Except.map, Except.ok.injEq] at read
    rw [← read]
    exact joins parts (forall_mem_of_mapM each pieces)

theorem isMeasurable_operatorLiteral {op : Operator} {literal : Value}
    (h : literal.isMeasurable = true) : (operatorLiteral op literal).isMeasurable = true := by
  unfold operatorLiteral
  split
  · rw [Value.isMeasurable_list]
    cases literal with
    | list items => exact (Value.isMeasurable_list items).mp h
    | null | bool | int | float | text | object => exact List.forall_mem_singleton.mpr h
  · exact h

theorem isMeasurable_readOperator {f : String × Value} (h : f.2.isMeasurable = true)
    (read : readOperator path f = .ok c) : c.isMeasurable = true := by
  unfold readOperator at read
  split at read
  · cases read
  · obtain rfl := Except.ok.inj read
    exact isMeasurable_operatorLiteral h

theorem isMeasurable_readEntry_scalar {v : Value} (h : v.isMeasurable = true)
    (flat : v.isHashable = true) (read : readEntry path key v = .ok c) :
    c.isMeasurable = true := by
  rw [readEntry_scalar flat] at read
  split at read
  · cases read
  · split at read
    · cases read
    · obtain rfl := Except.ok.inj read
      exact h

theorem isMeasurable_readEntry_list {items : List Value}
    (h : (Value.list items).isMeasurable = true)
    (each : ∀ item ∈ items, ∀ c, readItem path key item = .ok c → c.isMeasurable = true)
    (read : readEntry path key (.list items) = .ok c) : c.isMeasurable = true := by
  rw [readEntry, readItems_eq_mapM] at read
  split at read
  · exact isMeasurable_map_join (fun _ => isMeasurable_all) each read
  split at read
  · exact isMeasurable_map_join (fun _ => isMeasurable_any) each read
  split at read
  · cases read
  · obtain rfl := Except.ok.inj read
    exact h

theorem isMeasurable_readEntry_object {fs : List (String × Value)}
    (h : (Value.object fs).isMeasurable = true)
    (nested : ∀ path c, (readEntries path fs).map conjunction = .ok c → c.isMeasurable = true)
    (read : readEntry path key (.object fs) = .ok c) : c.isMeasurable = true := by
  have each := (Value.isMeasurable_object fs).mp h
  rw [readEntry, readOperators_eq_mapM] at read
  split at read
  · cases read
  split at read
  · cases read
  split at read
  · cases read
  split at read
  · exact isMeasurable_map_join (fun _ => isMeasurable_conjunction)
      (fun f member _ => isMeasurable_readOperator (each f member)) read
  split at read
  · cases read
  · exact nested _ c read

theorem isMeasurable_read (v : Value) (h : v.isMeasurable = true) :
    (∀ path key c, readEntry path key v = .ok c → c.isMeasurable = true) ∧
      ∀ path key c, readItem path key v = .ok c → c.isMeasurable = true := by
  induction v using Value.induction with
  | scalar v flat =>
    refine ⟨fun path key c => isMeasurable_readEntry_scalar h flat, fun path key c read => ?_⟩
    cases v with
    | object fs => cases flat
    | null | bool | int | float | text | list => cases read
  | list items ih =>
    have each := (Value.isMeasurable_list items).mp h
    refine ⟨fun path key c => ?_, fun path key c read => by cases read⟩
    exact isMeasurable_readEntry_list h
      (fun item member => (ih item member (each item member)).2 path key)
  | object fs ih =>
    have each := (Value.isMeasurable_object fs).mp h
    have nested : ∀ path c, (readEntries path fs).map conjunction = .ok c →
        c.isMeasurable = true := by
      intro path c read
      rw [readEntries_eq_mapM] at read
      exact isMeasurable_map_join (fun _ => isMeasurable_conjunction)
        (fun f member => (ih f member (each f member)).1 path f.1) read
    exact ⟨fun path key c => isMeasurable_readEntry_object h nested,
      fun path key c => nested path c⟩

/-- A condition has the integers of the value it was read from. -/
theorem isMeasurable_ofValue {v : Value} (h : v.isMeasurable = true) (read : ofValue v = .ok c) :
    c.isMeasurable = true := by
  cases v with
  | object fs => exact (isMeasurable_read (.object fs) h).2 "" "" c read
  | null | bool | int | float | text | list => cases read

end Reading

end Condition

end MadeToOrder
