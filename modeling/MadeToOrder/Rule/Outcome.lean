import MadeToOrder.Condition.Evaluation
import MadeToOrder.FieldTable
import MadeToOrder.IdSet
import MadeToOrder.Rule.Compiled
import MadeToOrder.Sorting

/-!
# Outcome of rules

The rules whose condition holds in a context, and what they do together. They
are merged from the lowest priority to the highest, so the last assignment of
the highest rule stands; among equal priorities the later rule is merged last.
Codes are kept apart from plain assignments.
-/

set_option autoImplicit false

namespace MadeToOrder.Rule

structure Overrides where
  product : Option String
  line : Option String
  segments : Keyed String
  fields : Keyed Value
  deriving Repr

namespace Overrides

def empty : Overrides := ⟨none, none, [], []⟩

def isEmpty (o : Overrides) : Bool :=
  (o.product.getD "").isEmpty && (o.line.getD "").isEmpty && o.segments.isEmpty &&
    o.fields.isEmpty

def codeEnding : String := "_sku_code"

inductive Slot where
  | product
  | line
  | segment (collection : String)
  | field (key : String)
  deriving DecidableEq, Repr

/-- A key that ends in a code suffix goes to the collection that the table gives
for the rest of it. -/
def slotOf (table : Option FieldTable) (key : String) : Slot :=
  if key = "sku_code" then .product
  else if key = "product_line_sku_code" then .line
  else match Text.beforeEnding? key codeEnding with
    | none => .field key
    | some base =>
      match table.bind (fun t => t.resolve? base) with
      | some spec => if spec.isLine then .line else .segment spec.collection
      | none => .field key

def assign (table : Option FieldTable) (o : Overrides) (a : Assignment) : Overrides :=
  match slotOf table a.1 with
  | .product => { o with product := some a.2.plain }
  | .line => { o with line := some a.2.plain }
  | .segment collection => { o with segments := Keyed.put o.segments collection a.2.plain }
  | .field key => { o with fields := Keyed.put o.fields key a.2 }

end Overrides

structure Constraint where
  allow : IdSet
  deny : IdSet
  deriving Repr

def idsOf : Value → List String
  | .null => []
  | .list items => items.map Value.plain
  | v => [v.plain]

def Constraint.restrict (c : Constraint) (kind : RestrictionKind) (ids : List String) :
    Constraint :=
  match kind with
  | .exactly => ⟨IdSet.ofList ids, []⟩
  | .enable => { c with allow := IdSet.union c.allow ids }
  | .disable => { c with deny := IdSet.union c.deny ids }

/-- Constraints by the collection they are about. What a rule names need not be
a collection, nor a text. -/
abbrev Constraints := List (Value × Constraint)

namespace Constraints

def get? : Constraints → Value → Option Constraint
  | [], _ => none
  | (target, c) :: rest, wanted => if target.agrees wanted then some c else get? rest wanted

def put : Constraints → Value → Constraint → Constraints
  | [], target, c => [(target, c)]
  | (t, old) :: rest, target, c =>
    if t.agrees target then (t, c) :: rest else (t, old) :: put rest target c

def targetOf (table : Option FieldTable) (field : Value) : Value :=
  match field with
  | .text name =>
    match table.bind (fun t => t.resolve? name) with
    | some spec => .text spec.collection
    | none => field
  | v => v

def restrict (table : Option FieldTable) (cs : Constraints) (r : Restriction) :
    Except Fault Constraints :=
  if r.field.isHashable then
    let target := targetOf table r.field
    .ok (put cs target (((get? cs target).getD ⟨[], []⟩).restrict r.kind (idsOf r.value)))
  else .error (.unhashable r.field.kind)

end Constraints

structure Outcome where
  matched : List Rule
  overrides : Overrides
  constraints : Constraints
  diagnostics : List Diagnostic
  deriving Repr

def matching (context : Context) : List Compiled → Except Fault (List Compiled)
  | [] => .ok []
  | c :: rest => do
    let holds ← c.condition.evaluate context
    let others ← matching context rest
    return if holds then c :: others else others

def Compiled.sameRank (a b : Compiled) : Bool :=
  a.priority.equal b.priority && decide (a.position ≤ b.position)

def Compiled.mergesBefore (a b : Compiled) : Bool := a.priority.less b.priority || a.sameRank b

def Compiled.listedBefore (a b : Compiled) : Bool := b.priority.less a.priority || a.sameRank b

def mergeOne (table : Option FieldTable) (o : Overrides) (cs : Constraints) (c : Compiled) :
    Except Fault (Overrides × Constraints) :=
  let o := c.assignments.foldl (Overrides.assign table) o
  match c.restriction with
  | none => .ok (o, cs)
  | some r => (Constraints.restrict table cs r).map (fun cs => (o, cs))

def merge (table : Option FieldTable) (o : Overrides) (cs : Constraints) :
    List Compiled → Except Fault (Overrides × Constraints)
  | [] => .ok (o, cs)
  | c :: rest =>
    match mergeOne table o cs c with
    | .ok (o, cs) => merge table o cs rest
    | .error fault => .error fault

def outcomeOf (table : Option FieldTable) (context : Context) (compiled : List Compiled)
    (diagnostics : List Diagnostic) : Except Fault Outcome := do
  let matched ← matching context compiled
  let (overrides, constraints) ←
    merge table Overrides.empty [] (Sorting.sort Compiled.mergesBefore matched)
  return ⟨(Sorting.sort Compiled.listedBefore matched).map Compiled.rule, overrides,
    constraints, diagnostics⟩

/-- Evaluates rules, of which the first ones may have been compiled before. The
others are counted on from the number of compiled ones. -/
def evaluate (ready : List Compiled) (rules : List Rule) (context : Context)
    (table : Option FieldTable) : Except Fault Outcome := do
  let (compiled, diagnostics) ← compileAll rules
  let moved := compiled.map (fun c => { c with position := ready.length + c.position })
  outcomeOf table context (ready ++ moved) diagnostics

end MadeToOrder.Rule
