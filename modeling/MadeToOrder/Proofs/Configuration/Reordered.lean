import MadeToOrder.Proofs.Configuration.Faults
import MadeToOrder.Proofs.Rule.Context

/-!
# The order of choices

Options, rules and codes look the values of a selection up by field, and rules see them by
name. So two selections that differ only in the order of their fields go through the same
passes, are adjusted alike and come to the same end. If a value stops the work, another
one may be met first, but it stops the work in the same way.
-/

set_option autoImplicit false

namespace MadeToOrder

variable {s : Snapshot} {a b : Selection} {trigger : Trigger} {line : Value}

open Selection (Reordered)

namespace Rule

theorem counts_valueError (id : String) :
    Counts (fun fault => fault.category = "ValueError") id := by
  intro refusal _ _
  cases refusal <;> rfl

/-- Only a text that looks like an integer and is none stops the reading of a field. -/
theorem failsOnly_entriesOf (s : Snapshot) (e : String × Value) :
    FailsOnly (fun fault => fault.category = "ValueError") (entriesOf s e) := by
  unfold entriesOf
  split
  · exact failsOnly_ok _
  · split
    · exact failsOnly_ok _
    · exact failsOnly_contextEntries _ fun id _ => counts_valueError id

variable (names : s.table.contextNames.Nodup)
include names

theorem contexts_inStep (reordered : a.Reordered b) (apart : a.Apart s.table) :
    InStep Context.Same (contextOf s a) (contextOf s b) := by
  unfold contextOf
  rw [contextFrom_eq, contextFrom_eq]
  have read := InStep.mapM_of_perm reordered.perm fun e _ => failsOnly_entriesOf s e
  apply (read.imp (Q := fun entries entries' => entries.Perm entries' ∧
    (Keyed.keys entries.flatten).Nodup) _).map
  · exact fun _ _ ⟨perm, distinct⟩ => same_of_perm perm distinct
  · intro entries _ here _ perm
    exact ⟨perm, nodup_keys_flatten names apart reordered.distinct here⟩

theorem outcomes_inStep (reordered : a.Reordered b) (apart : a.Apart s.table) :
    InStep Eq (outcomeFor s a) (outcomeFor s b) := by
  apply (contexts_inStep names reordered apart).bind
  intro context context' same
  rw [evaluate_congr same]
  exact .refl _

end Rule

namespace Availability

theorem discriminators_of_reordered (h : a.Reordered b) (specs : List FieldSpec) :
    discriminators b specs = discriminators a specs := by
  induction specs with
  | nil => rfl
  | cons spec rest ih => rw [discriminators, discriminators, h.at?, ih]

theorem compute_of_reordered (h : a.Reordered b) :
    compute b line s trigger = compute a line s trigger := by
  unfold compute
  rw [discriminators_of_reordered h]

theorem invalidIn_of_reordered (h : a.Reordered b) (offered : Availability) (spec : FieldSpec) :
    offered.invalidIn b spec = offered.invalidIn a spec := by
  unfold invalidIn
  rw [h.at?]

end Availability

namespace Sku

theorem buildSegments_of_reordered (h : a.Reordered b) (overrides : Rule.Overrides)
    (multi : String) (fields : List CodeField) :
    buildSegments s b overrides multi fields = buildSegments s a overrides multi fields := by
  induction fields with
  | nil => rfl
  | cons entry rest ih =>
    rw [buildSegments, buildSegments, ih]
    simp only [fieldCode, h.at?]

theorem build_of_reordered (h : a.Reordered b) (overrides : Rule.Overrides)
    (fields : List CodeField) (separators : Separators) :
    build b overrides fields s separators = build a overrides fields s separators := by
  unfold build
  simp only [buildSegments_of_reordered h]

end Sku

structure State.Reordered (t t' : State) : Prop where
  selection : t.selection.Reordered t'.selection
  line : t'.line = t.line
  configured : t'.configured = t.configured
  asOf : t'.asOf = t.asOf

namespace Configuration

theorem firstInvalid?_of_reordered (h : a.Reordered b) (p : Pass) :
    firstInvalid? s p b = firstInvalid? s p a := by
  unfold firstInvalid?
  simp only [Availability.invalidIn_of_reordered h]

theorem lineOf?_of_reordered (h : a.Reordered b) (table : FieldTable) :
    lineOf? table b = lineOf? table a := by
  unfold lineOf?
  simp only [h.get?]

structure Settled.Reordered (t t' : Settled) : Prop where
  selection : t.selection.Reordered t'.selection
  pass : t'.pass = t.pass
  adjustments : t'.adjustments = t.adjustments

theorem Settled.Reordered.after {t t' : Settled} (h : t.Reordered t') (event : Event) :
    (t.after event).Reordered (t'.after event) :=
  ⟨h.selection, h.pass, congrArg (event :: ·) h.adjustments⟩

section

variable (names : s.table.contextNames.Nodup)
include names

theorem passes_inStep (reordered : a.Reordered b) (apart : a.Apart s.table) :
    InStep Eq (pass s trigger line a) (pass s trigger line b) := by
  unfold pass
  rw [Availability.compute_of_reordered reordered]
  apply (InStep.refl _).bind
  rintro offered _ rfl
  apply (Rule.outcomes_inStep names reordered apart).bind
  rintro outcome _ rfl
  exact .ok rfl

theorem clear_inStep (reordered : a.Reordered b) (apart : a.Apart s.table) :
    InStep Settled.Reordered (clear s trigger line a) (clear s trigger line b) := by
  -- the cases are those of the first run; the second meets the same passes
  induction a using clear.induct s trigger line generalizing b with
  | case1 a fault computed =>
    obtain ⟨fault', computed', alike⟩ :=
      (computed ▸ passes_inStep names reordered apart).exists_error
    rw [clear, computed, clear, computed']
    exact .error alike
  | case2 a p computed valid =>
    obtain ⟨_, computed', rfl⟩ := (computed ▸ passes_inStep names reordered apart).exists_ok
    rw [clear_of_valid computed valid, clear_of_valid computed'
      ((firstInvalid?_of_reordered reordered p).trans valid)]
    exact .ok ⟨reordered, rfl, rfl⟩
  | case3 a p computed spec bad invalid ih =>
    obtain ⟨_, computed', rfl⟩ := (computed ▸ passes_inStep names reordered apart).exists_ok
    rw [clear_of_invalid computed invalid, clear_of_invalid computed'
      ((firstInvalid?_of_reordered reordered p).trans invalid), reordered.at?]
    have fewer : Selection.Apart s.table (Keyed.erase a spec.field) :=
      fun e member => apart e (Keyed.mem_of_mem_erase member)
    exact (ih (reordered.erase spec.field) fewer).map fun _ _ settled => settled.after _

theorem settle_inStep (left : Nat) (reordered : a.Reordered b) (apart : a.Apart s.table) :
    InStep Settled.Reordered (settle s trigger line left a) (settle s trigger line left b) := by
  induction left generalizing a b with
  | zero => exact clear_inStep names reordered apart
  | succ left ih =>
    apply (passes_inStep names reordered apart).bind
    rintro p _ rfl
    rw [firstInvalid?_of_reordered reordered]
    cases invalid : firstInvalid? s p a with
    | none => exact .ok ⟨reordered, rfl, rfl⟩
    | some found =>
      obtain ⟨spec, bad⟩ := found
      obtain ⟨row, _⟩ := firstInvalid?_eq_some invalid
      dsimp only
      rw [reordered.at?]
      apply (InStep.refl _).bind
      rintro next _ rfl
      apply (ih (reordered.assign spec.field next) (apart.assign row next)).bind
      exact fun _ _ settled => .ok (settled.after _)

end

/-- The order in which fields were chosen changes nothing but the order in which the
fields of the final selection stand. No two names under which rules see fields are equal,
and no field outside the table has such a name. -/
theorem choice_order_is_free (s : Snapshot) (settings : Settings) (a b : Selection)
    (reordered : a.Reordered b) (names : s.table.contextNames.Nodup) (apart : a.Apart s.table) :
    InStep (fun (r r' : State × List Event) => r.1.Reordered r'.1 ∧ r'.2 = r.2)
      (recompute a s settings) (recompute b s settings) := by
  have normal := reordered.normalize s.table
  have apart := apart.of_keys (Selection.keys_normalize s.table a).subset
  rw [recompute_eq_configure, recompute_eq_configure, configure, configure]
  rw [lineOf?_of_reordered normal]
  split
  · exact .ok ⟨⟨normal, rfl, rfl, rfl⟩, rfl⟩
  · apply (settle_inStep names (budget s) normal apart).bind
    intro t t' same
    dsimp only
    rw [Sku.build_of_reordered same.selection, same.pass]
    apply (InStep.refl _).bind
    rintro sku _ rfl
    exact .ok ⟨⟨same.selection, rfl, rfl, rfl⟩, congrArg (· ++ _) same.adjustments⟩

def noMattRed : Snapshot :=
  twoColors [{ withdrawal "red" with condition := .object [("finish", .text "matt")] }]

def finishFirst : Selection :=
  [("finish", .text "matt"), ("line", .text "deco"), ("color", .text "red")]

def finishLast : Selection :=
  [("color", .text "red"), ("line", .text "deco"), ("finish", .text "matt")]

theorem finish_first_or_last :
    finishFirst.Reordered finishLast ∧ noMattRed.table.contextNames.Nodup ∧
    finishFirst.Apart noMattRed.table ∧
    ∃ state events state',
      recompute finishFirst noMattRed Settings.standard = .ok (state, events) ∧
      recompute finishLast noMattRed Settings.standard = .ok (state', events) ∧
      state.Reordered state' ∧
      events.filter Event.isAdjustment = [.adjusted "color" (.text "red") (.text "blue")] ∧
      state.selection = [("finish", .text "matt"), ("line", .text "deco"), ("color", .text "blue")] ∧
      state'.selection =
        [("color", .text "blue"), ("line", .text "deco"), ("finish", .text "matt")] := by
  have reordered : finishFirst.Reordered finishLast :=
    ⟨by decide, List.reverse_perm finishLast⟩
  have names : noMattRed.table.contextNames.Nodup := by decide
  have apart : finishFirst.Apart noMattRed.table := by
    unfold Selection.Apart
    decide
  have ran : recompute finishFirst noMattRed Settings.standard = .ok (_, _) := rfl
  have ran' : recompute finishLast noMattRed Settings.standard = .ok (_, _) := rfl
  have both := choice_order_is_free noMattRed Settings.standard _ _ reordered names apart
  rw [ran, ran'] at both
  cases both with
  | ok related => exact ⟨reordered, names, apart, _, _, _, ran, ran', related.1, rfl, rfl, rfl⟩

end Configuration

end MadeToOrder
