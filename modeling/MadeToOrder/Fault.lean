import MadeToOrder.Rule.Defect
import MadeToOrder.Number.Numeral

/-!
# Faults

Everything that can stop an operation. The first group are the faults of the
domain: no catalog, no field order, a collection without a field, an unknown
product line, a defective rule. The others say that a record or an argument has
the wrong shape. Each has a category and a message.
-/

set_option autoImplicit false

namespace MadeToOrder

inductive Fault where
  | unavailable (reason : String)
  | noFieldOrder
  | unmapped (collection : Value) (usedBy : String)
  | unknownLine (line : Value)
  | defect (d : Rule.Defect)
  | missingKey (key : String)
  | notIterable (kind : Kind)
  | notMapping (kind : Kind)
  | notIndexable (kind : Kind)
  | nameIndex (kind : Kind)
  | unhashable (kind : Kind)
  | incomparable
  | notText (kind : Kind)
  | notNumber (kind : Kind)
  /-- A rule is given fields that rules do not have, or lacks its id. -/
  | badArguments
  /-- A record of a kind of its own is asked for something that only another kind has. -/
  | noAttribute (kind : Kind) (name : String)
  | notNumeral (s : String)
  | longNumeral (digits : Nat)
  | emptySeparator
  | duplicate (what key : String)
  | unknownTenant (id : String) (known : List String)
  | integerTooLarge
  | infiniteInteger
  | integerOfNaN
  | invalidSettings
  | endlessPages
  | invalidUrl
  /-- An address does not say what kind of address it is. -/
  | untypedUrl (url : String)
  | wideHeader
  /-- A number has no form in a request or in a reply. -/
  | noForm
  | tooDeep
  deriving Repr

namespace Fault

def category : Fault → String
  | .unavailable _ => "CatalogUnavailable"
  | .noFieldOrder => "MissingFieldOrder"
  | .unmapped _ _ => "UnmappedCollection"
  | .unknownLine _ => "UnknownProductLine"
  | .defect _ => "ConditionParseError"
  | .missingKey _ => "KeyError"
  | .notIterable _ | .notMapping _ | .notIndexable _ | .nameIndex _ | .unhashable _
  | .incomparable | .notText _ | .notNumber _ | .badArguments => "TypeError"
  | .noAttribute _ _ => "AttributeError"
  | .notNumeral _ | .longNumeral _ | .emptySeparator | .duplicate _ _
  | .unknownTenant _ _ | .untypedUrl _ | .noForm | .integerOfNaN =>
    "ValueError"
  | .integerTooLarge | .infiniteInteger => "OverflowError"
  | .invalidSettings => "ValidationError"
  | .endlessPages => "RuntimeError"
  | .invalidUrl => "InvalidURL"
  | .wideHeader => "UnicodeEncodeError"
  | .tooDeep => "RecursionError"

/-- The faults of the domain, as opposed to records of the wrong shape. -/
def isDomain : Fault → Bool
  | .unavailable _ | .noFieldOrder | .unmapped _ _ | .unknownLine _ | .defect _ => true
  | _ => false

def message : Fault → String
  | .unavailable reason => reason
  | .noFieldOrder => "No enabled SKU field order entries in the catalog"
  | .unmapped collection usedBy =>
    s!"Collection '{collection.plain}' has no field mapping" ++
      (if usedBy.isEmpty then "" else s!" (referenced by {usedBy})")
  | .unknownLine line => s!"Product line '{line.plain}' not found in catalog"
  | .defect d => d.message
  | .missingKey key => Text.quoted key
  | .notIterable kind => s!"'{kind.name}' object is not iterable"
  | .notMapping kind => s!"'{kind.name}' object is not a mapping"
  | .notIndexable kind => s!"'{kind.name}' object is not subscriptable"
  | .nameIndex kind =>
    if kind = .text then "string indices must be integers, not 'str'"
    else s!"{kind.name} indices must be integers or slices, not str"
  | .unhashable kind => s!"unhashable type: '{kind.name}'"
  | .incomparable => "values cannot be ordered"
  | .notText kind => s!"expected str instance, {kind.name} found"
  | .notNumber kind =>
    s!"int() argument must be a string, a bytes-like object or a real number, not '{kind.name}'"
  | .badArguments => "unexpected rule fields"
  | .noAttribute kind name => s!"'{kind.name}' object has no attribute '{name}'"
  | .notNumeral s =>
    let shown := String.ofList ((Text.quoted s).toList.take 200)
    s!"invalid literal for int() with base 10: {shown}"
  | .longNumeral digits =>
    "Exceeds the limit (4300 digits) for integer string conversion: " ++
      s!"value has {digits} digits; use sys.set_int_max_str_digits() to increase the limit"
  | .emptySeparator => "empty separator"
  | .duplicate what key => s!"Duplicate {what} '{key}' in field mapping"
  | .unknownTenant id known =>
    s!"Unknown tenant '{id}'. Available: " ++ (Value.list (known.map Value.text)).literal
  | .integerTooLarge => "int too large to convert to float"
  | .infiniteInteger => "cannot convert float infinity to integer"
  | .integerOfNaN => "cannot convert float NaN to integer"
  | .invalidSettings => "settings row is not valid"
  | .endlessPages => "the last page was never reached"
  | .invalidUrl => "address is not valid"
  | .untypedUrl url => "unknown url type: " ++ Text.quoted url
  | .wideHeader => "header has characters past ASCII"
  | .noForm => "Out of range float values are not JSON compliant"
  | .tooDeep => "maximum recursion depth exceeded"

def ofRefusal (s : String) : Numeral.Refusal → Fault
  | .malformed => .notNumeral s
  | .tooLong digits => .longNumeral digits

end Fault

/-- Two steps give a result when both of them do. -/
theorem bind_eq_ok {α β : Type} {first : Except Fault α} {next : α → Except Fault β} {b : β} :
    (first >>= next) = .ok b ↔ ∃ a, first = .ok a ∧ next a = .ok b := by
  cases first with
  | error fault => simp [bind, Except.bind]
  | ok a => simp [bind, Except.bind]

theorem map_eq_ok {α β : Type} {f : α → β} {first : Except Fault α} {b : β} :
    first.map f = .ok b ↔ ∃ a, first = .ok a ∧ f a = b := by
  cases first with
  | error fault => simp [Except.map]
  | ok a => simp [Except.map]

theorem map_eq_error {α β : Type} {f : α → β} {first : Except Fault α} {fault : Fault} :
    first.map f = .error fault ↔ first = .error fault := by
  cases first with
  | error other => simp [Except.map]
  | ok a => simp [Except.map]

theorem mapM_eq_ok {α β : Type} {f : α → Except Fault β} {g : α → β} {xs : List α}
    (h : ∀ x ∈ xs, f x = .ok (g x)) : xs.mapM f = .ok (xs.map g) := by
  induction xs with
  | nil => rfl
  | cons x rest ih =>
    have others := ih (fun y member => h y (List.mem_cons_of_mem _ member))
    simp [List.mapM_cons, h x (by simp), others, bind, Except.bind, pure, Except.pure]

/-- Work that only some faults can stop. -/
def FailsOnly {α : Type} (P : Fault → Prop) (work : Except Fault α) : Prop :=
  ∀ fault, work = .error fault → P fault

section

variable {P Q : Fault → Prop} {α β : Type}

theorem failsOnly_ok (a : α) : FailsOnly P (.ok a) := by
  intro fault stopped
  cases stopped

theorem failsOnly_error {fault : Fault} (h : P fault) :
    FailsOnly P (.error fault : Except Fault α) := by
  intro other stopped
  cases stopped
  exact h

theorem FailsOnly.bind {first : Except Fault α} {next : α → Except Fault β}
    (h : FailsOnly P first) (later : ∀ a, FailsOnly P (next a)) :
    FailsOnly P (first >>= next) := by
  cases first with
  | error fault => exact failsOnly_error (h fault rfl)
  | ok a => exact later a

theorem FailsOnly.bind_of_ok {first : Except Fault α} {next : α → Except Fault β}
    (h : FailsOnly P first) (later : ∀ a, first = .ok a → FailsOnly P (next a)) :
    FailsOnly P (first >>= next) := by
  cases first with
  | error fault => exact failsOnly_error (h fault rfl)
  | ok a => exact later a rfl

theorem FailsOnly.map {work : Except Fault α} (h : FailsOnly P work) (f : α → β) :
    FailsOnly P (work.map f) := by
  intro fault stopped
  exact h fault (map_eq_error.mp stopped)

theorem FailsOnly.mapM {f : α → Except Fault β} {xs : List α}
    (h : ∀ a ∈ xs, FailsOnly P (f a)) : FailsOnly P (xs.mapM f) := by
  induction xs with
  | nil => exact failsOnly_ok _
  | cons x rest ih =>
    obtain ⟨here, others⟩ := List.forall_mem_cons.mp h
    rw [List.mapM_cons]
    exact here.bind (fun _ => (ih others).bind (fun _ => failsOnly_ok _))

theorem FailsOnly.mono {work : Except Fault α} (h : FailsOnly P work)
    (more : ∀ fault, P fault → Q fault) : FailsOnly Q work :=
  fun fault stopped => more fault (h fault stopped)

theorem FailsOnly.returns {work : Except Fault α} (h : FailsOnly P work)
    (never : ∀ fault, ¬P fault) : ∃ a, work = .ok a := by
  cases work with
  | error fault => exact absurd (h fault rfl) (never fault)
  | ok a => exact ⟨a, rfl⟩

end

def integerOf (s : String) : Except Fault Int :=
  match Numeral.integer s with
  | .ok i => .ok i
  | .error refusal => .error (.ofRefusal s refusal)

end MadeToOrder
