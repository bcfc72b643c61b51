import MadeToOrder.Diagnostic
import MadeToOrder.Rule
import MadeToOrder.Rule.Actions

/-!
# Compiled rules

A rule whose condition, assignments, constraint and priority have been read.
Compiling a list leaves out inactive rules, reports each defective one and
keeps the place of every rule in the list. Only a priority past the range of
doubles stops it.
-/

set_option autoImplicit false

namespace MadeToOrder.Rule

inductive RestrictionKind where
  | exactly
  | enable
  | disable
  deriving DecidableEq, Repr

namespace RestrictionKind

def name : RestrictionKind → String
  | .exactly => "set_value"
  | .enable => "enable_option"
  | .disable => "disable_option"

def all : List RestrictionKind := [.exactly, .enable, .disable]

def ofValue? : Value → Option RestrictionKind
  | .text s => all.find? (fun kind => kind.name = s)
  | _ => none

end RestrictionKind

structure Restriction where
  kind : RestrictionKind
  field : Value
  value : Value
  deriving Repr

structure Compiled where
  rule : Rule
  condition : Condition
  assignments : List Assignment
  restriction : Option Restriction
  position : Nat
  priority : Double
  deriving Repr

def readPriority (raw : Value) : Except Fault Double :=
  match raw with
  | .null => .ok Double.zero
  | .int i =>
    match Double.ofInt? i with
    | some d => .ok d
    | none => .error .integerTooLarge
  | .float d => .ok d
  | .text s =>
    if s.isEmpty then .ok Double.zero
    else match Numeral.decimal? s with
      | some d => .ok d
      | none => .error (.defect (.priority raw))
  | _ => .error (.defect (.priority raw))

def priorityOf (raw : Value) : Except Fault Double := do
  let d ← readPriority raw
  if d.isFinite then .ok d else .error (.defect (.priority raw))

def restrictionOf (rule : Rule) : Except Defect (Option Restriction) :=
  if rule.constraintKind.isNull then .ok none
  else match RestrictionKind.ofValue? rule.constraintKind with
    | none => .error (.unknownAction rule.constraintKind)
    | some kind =>
      if rule.constraintField.truthy then
        .ok (some ⟨kind, rule.constraintField, rule.constraintValue⟩)
      else .error (.actionWithoutField rule.constraintKind)

def conditionOf (rule : Rule) : Except Defect Condition :=
  if rule.condition.isNull then .error .noCondition else Condition.ofValue rule.condition

def orFault {α : Type} : Except Defect α → Except Fault α
  | .ok a => .ok a
  | .error d => .error (.defect d)

def compile (rule : Rule) (position : Nat) : Except Fault Compiled := do
  let condition ← orFault (conditionOf rule)
  let assigned ← orFault (assignments rule.actions)
  let restriction ← orFault (restrictionOf rule)
  let priority ← priorityOf rule.priority
  return ⟨rule, condition, assigned, restriction, position, priority⟩

def skipped (rule : Rule) (d : Defect) : Diagnostic :=
  let shownName := (rule.name.orElse (.text "unnamed")).plain
  ⟨.ruleSkipped, s!"Rule {rule.id.plain} ({shownName}) skipped: {d.message}",
    .text rule.id.plain⟩

def compileFrom (position : Nat) : List Rule → Except Fault (List Compiled × List Diagnostic)
  | [] => .ok ([], [])
  | rule :: rest =>
    if !rule.active.truthy then compileFrom (position + 1) rest
    else match compile rule position with
      | .ok c => do
        let (compiled, diagnostics) ← compileFrom (position + 1) rest
        return (c :: compiled, diagnostics)
      | .error (.defect d) => do
        let (compiled, diagnostics) ← compileFrom (position + 1) rest
        return (compiled, skipped rule d :: diagnostics)
      | .error fault => .error fault

def compileAll (rules : List Rule) : Except Fault (List Compiled × List Diagnostic) :=
  compileFrom 0 rules

def Restriction.describe (r : Restriction) : String :=
  s!"{r.kind.name}({r.field.plain}, {r.value.literal})"

def Compiled.describe (c : Compiled) : String :=
  let effects := c.assignments.map (fun a => s!"{a.1} = {a.2.literal}") ++
    c.restriction.toList.map Restriction.describe
  s!"IF {c.condition.describe} THEN " ++
    (if effects.isEmpty then "nothing" else ", ".intercalate effects)

def describe (rule : Rule) : Except Fault String :=
  match compile rule 0 with
  | .ok c => .ok c.describe
  | .error (.defect d) => .ok s!"[invalid rule {rule.id.plain}: {d.message}]"
  | .error fault => .error fault

end MadeToOrder.Rule
