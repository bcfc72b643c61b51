import MadeToOrder.Proofs.Condition.Opposites
import MadeToOrder.Proofs.Condition.Range
import MadeToOrder.Proofs.Number.Spelling
import MadeToOrder.Proofs.Rule.Context
import MadeToOrder.Proofs.Rule.Ranking

/-!
# Equality of values in conditions

Equality is tried as numbers first, and only then as data and as text. Of two scalars it
does not matter which one stands in the context and which one in the condition. A scalar
equals itself unless it is taken for no number, and an integer past the range of doubles
cannot be compared at all.
-/

set_option autoImplicit false

namespace MadeToOrder

theorem Double.equal_self {d : Double} (h : d ≠ .nan) : Double.equal d d = true := by
  obtain ⟨p, place⟩ := exists_place? h
  simp [equal, related, place]

namespace Value

variable {a b v : Value}

theorem agrees_comm (ha : a.isHashable = true) (hb : b.isHashable = true) :
    a.agrees b = b.agrees a := by
  rw [Bool.eq_iff_iff, agrees_iff_identity? ha, agrees_iff_identity? hb, eq_comm]

theorem matchesAsData_comm (ha : a.isHashable = true) (hb : b.isHashable = true) :
    a.matchesAsData b = b.matchesAsData a := by
  rw [matchesAsData, matchesAsData, agrees_comm ha hb, Bool.and_comm (!a.isNull), BEq.comm]

theorem eq_of_double?_error {fault : Fault} (h : v.double? = .error fault) :
    fault = .integerTooLarge := by
  have overflows : OverflowsOnlyIf True v.double? :=
    Condition.overflows_double? (fun _ => trivial)
  exact (overflows fault h).1

/-- Which of two scalars comes first makes no difference. -/
theorem same_comm (ha : a.isHashable = true) (hb : b.isHashable = true) :
    a.same b = b.same a := by
  have data : matchesAsData a b = matchesAsData b a := matchesAsData_comm ha hb
  unfold same
  cases left : a.double? with
  | error fault =>
    cases right : b.double? with
    | error other =>
      rw [eq_of_double?_error left, eq_of_double?_error right]
      rfl
    | ok y => rfl
  | ok x =>
    cases right : b.double? with
    | error other => rfl
    | ok y =>
      cases x with
      | none => cases y <;> exact congrArg Except.ok data
      | some x =>
        cases y with
        | none => exact congrArg Except.ok data
        | some y => exact congrArg Except.ok (Double.equal_symm x y)

/-- A scalar equals itself unless it stands for no number. -/
theorem same_self (flat : v.isHashable = true) :
    v.same v = v.double?.map (fun d => d != some .nan) := by
  unfold same
  cases v.double? with
  | error fault => rfl
  | ok d =>
    cases d with
    | none =>
      have itself : v.agrees v = true := (agrees_iff_identity? flat).mpr rfl
      have data : matchesAsData v v = true := by simp [matchesAsData, itself]
      exact congrArg Except.ok data
    | some d =>
      by_cases lost : d = .nan
      · rw [lost]
        rfl
      · have known : (some d != some Double.nan) = true := by simpa using lost
        exact congrArg Except.ok ((Double.equal_self lost).trans known.symm)

theorem double?_text (s : String) :
    (text s).double?.map (fun d => d != some .nan) = .ok (!Numeral.spellsNaN s) := by
  apply congrArg Except.ok
  rw [Bool.eq_iff_iff, bne_iff_ne, Ne, Numeral.decimal?_trim_eq_nan]
  simp

theorem double?_finite {d : Double} (finite : d.isFinite = true) :
    (float d).double?.map (fun d => d != some .nan) = .ok true := by
  cases d with
  | finite => rfl
  | infinite | nan => cases finite

theorem double?_int (i : Int) :
    (int i).double?.map (fun d => d != some .nan) =
      if (Double.ofInt? i).isSome then .ok true else .error .integerTooLarge := by
  generalize same : int i = v
  fun_cases Value.double? v with
  | case1 j d found =>
    obtain rfl := Value.int.inj same
    have known : (some d != some Double.nan) = true := by
      simpa using Double.ne_nan_of_ofInt? found
    rw [found, Option.isSome_some, if_pos rfl, Except.map, known]
  | case2 j past =>
    obtain rfl := Value.int.inj same
    rw [past, Option.isSome_none, if_neg Bool.false_ne_true]
    rfl
  | case3 | case4 => cases same
  | case5 v integer => exact absurd same.symm (integer i)

end Value

namespace Condition

theorem testValue_equal {actual : Value} (flat : actual.isHashable = true) (literal : Value) :
    testValue .equal actual literal = actual.same literal := by
  cases actual with
  | list | object => cases flat
  | null | bool | int | float | text => rfl

section

variable {context : Context} {field : String} (free : isReserved field = false)

include free

/-- A scalar beside a field is compared with what the context has there. -/
theorem answer_scalar {v actual : Value} (flat : v.isHashable = true)
    (found : resolve? context field = some actual) :
    answer context (.object [(field, v)]) = testValue .equal actual v := by
  have notAnd := ne_logical free (Or.inl rfl)
  have notOr := ne_logical free (Or.inr rfl)
  have read : ofValue (.object [(field, v)]) = .ok (.test .equal field v) := by
    rw [ofValue, readEntries, readEntry_scalar flat]
    simp [readEntries, notAnd, notOr, free, conjunction, Except.map, bind, Except.bind, pure,
      Except.pure]
  rw [answer, read]
  show evaluate context (.test .equal field v) = _
  rw [evaluate, found]

theorem answer_itself {v : Value} (flat : v.isHashable = true)
    (found : resolve? context field = some v) :
    answer context (.object [(field, v)]) = v.double?.map (fun d => d != some .nan) := by
  rw [answer_scalar free flat found, testValue_equal flat, Value.same_self flat]

end

theorem resolve?_of_get? {context : Context} {path : String} {v : Value}
    (h : Keyed.get? context path = some v) : resolve? context path = some v := by
  rw [resolve?, h]

end Condition

namespace Rule

open Overrides (codeEnding)

def asking (name : String) (v : Value) : Rule where
  id := .null
  name := .null
  priority := .null
  active := .bool true
  condition := .object [(name, v)]
  actions := .null
  constraintKind := .null
  constraintField := .null
  constraintValue := .null

/-- A rule is matched if its condition is answered with yes. -/
theorem evaluate_asking {context : Context} {name : String} {v : Value} {holds : Bool}
    (table : Option FieldTable)
    (answered : Condition.answer context (.object [(name, v)]) = .ok holds) :
    ∃ outcome, evaluate [] [asking name v] context table = .ok outcome ∧
      outcome.matched = if holds then [asking name v] else [] := by
  obtain ⟨c, read, evaluated⟩ := bind_eq_ok.mp answered
  let asked : Compiled := ⟨asking name v, c, [], none, 0, Double.zero⟩
  have compiled : compile (asking name v) 0 = .ok asked := by
    have condition : orFault (conditionOf (asking name v)) = .ok c := read
    rw [compile, condition]
    rfl
  have all : compileAll [asking name v] = .ok ([asked], []) := by
    have active : (!(asking name v).active.truthy) = false := rfl
    rw [compileAll, compileFrom, active, if_neg Bool.false_ne_true, compiled]
    rfl
  have held : asked.condition.evaluate context = .ok holds := evaluated
  have matched : matching context [asked] = .ok (if holds then [asked] else []) := by
    rw [matching, held]
    rfl
  rw [evaluate_nil, all]
  show ∃ outcome, outcomeOf table context [asked] [] = .ok outcome ∧ _
  rw [outcomeOf, matched]
  cases holds with
  | true => exact ⟨_, rfl, rfl⟩
  | false => exact ⟨_, rfl, rfl⟩

/-- A chosen option puts its code into the context. -/
theorem get?_code {s : Snapshot} {spec : FieldSpec} {o : CatalogOption} {key : String}
    {context : Context} (row : s.table.byField? spec.field = some spec)
    (option : s.option? spec.collection key = some o) (named : key ≠ "")
    (read : contextOf s [(spec.field, .text key)] = .ok context) :
    Keyed.get? context (spec.contextKey ++ codeEnding) = some o.code := by
  have chosen : (Value.text key).isUnset = false := by
    simpa [Value.isUnset] using named
  have entries : contextEntries s spec (.text key) = (numeric (.text key)).map (fun id =>
      [(spec.contextKey, id), (spec.contextKey ++ codeEnding, o.code)]) := by
    unfold contextEntries
    dsimp only
    rw [Value.plain_text, option]
    cases numeric (.text key) <;> rfl
  rw [contextOf, contextFrom, chosen, if_neg Bool.false_ne_true, row] at read
  obtain ⟨added, found, done⟩ := bind_eq_ok.mp read
  rw [entries] at found
  obtain ⟨id, _, rfl⟩ := map_eq_ok.mp found
  obtain rfl := Except.ok.inj done
  exact Keyed.get?_put_self _ _ _

end Rule

namespace Condition

open Rule.Overrides (codeEnding)

/-- Equality in conditions is reflexive but for the texts that spell no number, which equal
nothing, and the integers past the range of doubles, at which evaluation stops. It is
symmetric for scalars. A rule that asks for the code of an option is matched where the option
is chosen, unless the code spells no number. -/
theorem scalars_equal_themselves {field : String} (free : isReserved field = false) :
    (∀ context s, resolve? context field = some (.text s) →
      answer context (.object [(field, .text s)]) = .ok (!Numeral.spellsNaN s)) ∧
    (∀ context b, resolve? context field = some (.bool b) →
      answer context (.object [(field, .bool b)]) = .ok true) ∧
    (∀ context d, d.isFinite = true → resolve? context field = some (.float d) →
      answer context (.object [(field, .float d)]) = .ok true) ∧
    (∀ context i, resolve? context field = some (.int i) →
      answer context (.object [(field, .int i)]) =
        if (Double.ofInt? i).isSome then .ok true else .error .integerTooLarge) ∧
    (∀ context context' a b, a.isHashable = true → b.isHashable = true →
      resolve? context field = some a → resolve? context' field = some b →
      answer context (under field .equal b) =
        answer context' (under field .equal a)) ∧
    ∀ (s : Snapshot) spec o key code context, s.table.byField? spec.field = some spec →
      s.option? spec.collection key = some o → o.code = .text code → key ≠ "" →
      field = spec.contextKey ++ codeEnding →
      Rule.contextOf s [(spec.field, .text key)] = .ok context →
      ∃ outcome, Rule.evaluate [] [Rule.asking field o.code] context (some s.table) = .ok outcome ∧
        outcome.matched =
          if Numeral.spellsNaN code then [] else [Rule.asking field o.code] := by
  have text : ∀ context s, resolve? context field = some (.text s) →
      answer context (.object [(field, .text s)]) = .ok (!Numeral.spellsNaN s) :=
    fun context s found => (answer_itself free rfl found).trans (Value.double?_text s)
  refine ⟨text, ?_, ?_, ?_, ?_, ?_⟩
  · intro context b found
    exact answer_itself free rfl found
  · intro context d finite found
    exact (answer_itself free rfl found).trans (Value.double?_finite finite)
  · intro context i found
    exact (answer_itself free rfl found).trans (Value.double?_int i)
  · intro context context' a b flat flat' found found'
    rw [answer_under_of_some free found, answer_under_of_some free found',
      testValue_equal flat, testValue_equal flat', Value.same_comm flat flat']
  · intro s spec o key code context row option coded named same read
    have stored := resolve?_of_get? (Rule.get?_code row option named read)
    rw [← same, coded] at stored
    obtain ⟨outcome, evaluated, matched⟩ :=
      Rule.evaluate_asking (some s.table) (text context code stored)
    refine ⟨outcome, coded ▸ evaluated, ?_⟩
    rw [matched, coded]
    cases Numeral.spellsNaN code <;> rfl

def colors : FieldSpec := ⟨"colors", "color", "color", "Color", false, false, false⟩

def reds : Snapshot where
  table := ⟨[colors], by decide, by decide, by decide⟩
  lines := []
  options := [("colors", [("red", ⟨.text "red", .text "Red", .text "RD", "colors", .null,
    .bool true⟩)])]
  products := []
  overrides := []
  rules := []
  codeFields := []
  diagnostics := []
  asOf := ""

def colorCode (v : Value) : Context := [("color_sku_code", v)]

theorem red_is_asked_for :
    isReserved "color_sku_code" = false ∧
    answer (colorCode (.text "RD")) (.object [("color_sku_code", .text "RD")]) =
      .ok (!Numeral.spellsNaN "RD") ∧
    answer (colorCode (.bool true)) (.object [("color_sku_code", .bool true)]) = .ok true ∧
    ((Double.finite true 3).isFinite = true ∧
      answer (colorCode (.float (.finite true 3)))
        (.object [("color_sku_code", .float (.finite true 3))]) = .ok true) ∧
    answer (colorCode (.int 7)) (.object [("color_sku_code", .int 7)]) =
      (if (Double.ofInt? 7).isSome then .ok true else .error .integerTooLarge) ∧
    answer (colorCode (.text "7")) (under "color_sku_code" .equal (.int 7)) =
      answer (colorCode (.int 7)) (under "color_sku_code" .equal (.text "7")) ∧
    ∃ context outcome, Rule.contextOf reds [("color", .text "red")] = .ok context ∧
      Rule.evaluate [] [Rule.asking "color_sku_code" (.text "RD")] context (some reds.table) =
        .ok outcome ∧
      outcome.matched = [Rule.asking "color_sku_code" (.text "RD")] := by
  have free : isReserved "color_sku_code" = false := by decide
  obtain ⟨text, bool, float, int, symmetric, code⟩ := scalars_equal_themselves free
  obtain ⟨outcome, evaluated, matched⟩ := code reds colors _ "red" "RD"
    [("color", .text "red"), ("color_sku_code", .text "RD")] rfl rfl rfl (by decide) rfl rfl
  exact ⟨free, text _ "RD" rfl, bool _ true rfl, ⟨rfl, float _ _ rfl rfl⟩, int _ 7 rfl,
    symmetric _ _ (.text "7") (.int 7) rfl rfl rfl rfl, _, outcome, rfl, evaluated, matched⟩

def vast : Int := Nat.pow 10 400

def isPlain : Value → Bool
  | .text _ | .int _ | .bool _ => true
  | .float d => d.isFinite
  | _ => false

theorem plain_values_missed :
    answer [("size", .text "nan")] (.object [("size", .text "nan")]) = .ok false ∧
    answer [("size", .int vast)] (.object [("size", .int vast)]) = .error .integerTooLarge ∧
    ¬∀ (field : String) (context : Context) (v : Value), isReserved field = false →
      isPlain v = true → Keyed.get? context field = some v →
      answer context (.object [(field, v)]) = .ok true := by
  have free : isReserved "size" = false := by decide
  have text : answer [("size", .text "nan")] (.object [("size", .text "nan")]) = .ok false := rfl
  have past : Double.ofInt? vast = none := by decide +kernel
  have integer : answer [("size", .int vast)] (.object [("size", .int vast)]) =
      .error .integerTooLarge := by
    rw [answer_itself free rfl (resolve?_of_get? rfl), Value.double?_int, past]
    rfl
  refine ⟨text, integer, fun all => ?_⟩
  have both := text.symm.trans (all "size" [("size", .text "nan")] (.text "nan") free rfl rfl)
  cases both

end Condition

end MadeToOrder
