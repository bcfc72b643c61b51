import MadeToOrder.Proofs.Availability.Partition
import MadeToOrder.Proofs.Configuration.Adjusting
import MadeToOrder.Proofs.Rule.Defects
import MadeToOrder.Proofs.Sku.Faults
import MadeToOrder.Report

/-!
# What stops the work on a configuration
-/

set_option autoImplicit false

namespace MadeToOrder

variable {P : Fault → Prop} {s : Snapshot} {line : Value} {trigger : Trigger}
  {selection : Selection}

def Counts (P : Fault → Prop) (id : String) : Prop :=
  ∀ refusal, Rule.looksNumeric id = true → Numeral.integer id = .error refusal →
    P (.ofRefusal id refusal)

def Selection.AllCount (P : Fault → Prop) (selection : Selection) : Prop :=
  ∀ e ∈ selection, ∀ id, .text id ∈ e.2.elements → Counts P id

theorem failsOnly_integerOf {id : String}
    (h : ∀ refusal, Numeral.integer id = .error refusal → P (.ofRefusal id refusal)) :
    FailsOnly P (integerOf id) := by
  unfold integerOf
  split
  · exact failsOnly_ok _
  · rename_i refused
    exact failsOnly_error (h _ refused)

namespace Rule

theorem failsOnly_numeric {v : Value} (h : ∀ id, v = .text id → Counts P id) :
    FailsOnly P (numeric v) := by
  unfold numeric
  split
  · rename_i id
    split
    · rename_i looks
      exact (failsOnly_integerOf fun refusal => h id rfl refusal looks).map _
    · exact failsOnly_ok _
  · exact failsOnly_ok _

theorem failsOnly_contextEntries (spec : FieldSpec) {v : Value}
    (h : ∀ id, .text id ∈ v.elements → Counts P id) : FailsOnly P (contextEntries s spec v) := by
  unfold contextEntries
  dsimp only
  split
  · rename_i items
    apply FailsOnly.bind
    · apply FailsOnly.mapM
      intro item member
      exact failsOnly_numeric (fun id text => h id (text ▸ member))
    · exact fun _ => failsOnly_ok _
  · rename_i single
    apply FailsOnly.bind
    · apply failsOnly_numeric
      rintro id rfl
      exact h id (by simp [Value.elements])
    · intro id
      split <;> exact failsOnly_ok _

theorem failsOnly_contextFrom (context : Context) (h : selection.AllCount P) :
    FailsOnly P (contextFrom s context selection) := by
  induction selection generalizing context with
  | nil => exact failsOnly_ok _
  | cons e rest ih =>
    obtain ⟨here, others⟩ := List.forall_mem_cons.mp h
    unfold contextFrom
    split
    · exact ih context others
    · split
      · exact ih _ others
      · rename_i spec _
        exact (failsOnly_contextEntries spec here).bind fun _ => ih _ others

theorem failsOnly_outcomeFor (rules : s.rules = [] ∨ ∀ fault, Stops fault → P fault)
    (h : selection.AllCount P) : FailsOnly P (outcomeFor s selection) := by
  apply (failsOnly_contextFrom [] h).bind
  intro context
  rcases rules with none | allowed
  · rw [none]
    exact failsOnly_ok _
  · exact (failsOnly_evaluate _ _ _).mono allowed

end Rule

/-- Faults that the work on a snapshot may meet: each part of the snapshot is in order,
or else the fault that it leads to is allowed. -/
structure Snapshot.Admits (P : Fault → Prop) (s : Snapshot) : Prop where
  sortable : P .incomparable ∨ s.Sortable
  unknown : ∀ line, s.hasLine line = false → P (.unknownLine line)
  rules : s.rules = [] ∨ ∀ fault, Rule.Stops fault → P fault
  counted : ∀ collection, ∀ o ∈ Keyed.values (s.optionsIn collection), Counts P o.key
  covered : s.table.Covers s.codeFields
  numbered : P .incomparable ∨ CodeField.Numbered s.codeFields
  enabled : (∀ e ∈ s.codeFields, e.enabled.truthy = false) → P .noFieldOrder
  spelled : Sku.AllSpelled (fun kind => P (.notText kind)) s

theorem Availability.failsOnly_compute (h : s.Admits P) :
    FailsOnly P (compute selection line s trigger) := by
  rw [compute_eq]
  exact (Snapshot.failsOnly_lineDefaults h.sortable (h.unknown line)).map _

namespace Configuration

theorem failsOnly_pass (h : s.Admits P) (counted : selection.AllCount P) :
    FailsOnly P (pass s trigger line selection) :=
  (Availability.failsOnly_compute h).bind fun _ =>
    (Rule.failsOnly_outcomeFor h.rules counted).bind fun _ => failsOnly_ok _

theorem failsOnly_replacement (sortable : P .incomparable ∨ s.Sortable) (a : Availability)
    (spec : FieldSpec) (previous : Value) (bad : List String) :
    FailsOnly P (replacement s a spec previous bad) := by
  unfold replacement
  split
  · exact failsOnly_ok _
  · apply FailsOnly.map
    exact (Snapshot.failsOnly_optionsFor sortable _).bind fun _ => failsOnly_ok _

/-- A replacement has some of the ids that it replaces, or the key of an option. -/
theorem counts_of_replacement (h : s.Admits P) {a : Availability} {spec : FieldSpec}
    {previous v : Value} {bad : List String}
    (before : ∀ id, .text id ∈ previous.elements → Counts P id)
    (replaced : replacement s a spec previous bad = .ok v) :
    ∀ id, .text id ∈ v.elements → Counts P id := by
  intro id member
  unfold replacement at replaced
  split at replaced
  · obtain rfl := Except.ok.inj replaced
    split at member
    · simp [Value.elements] at member
    · exact before id (List.mem_filter.mp member).1
  · obtain ⟨first, found, rfl⟩ := map_eq_ok.mp replaced
    obtain ⟨options, shown, found⟩ := bind_eq_ok.mp found
    obtain rfl := Except.ok.inj found
    cases chosen : (options.map CatalogOption.key).find?
        (fun key => key ∈ a.availableIn spec.collection) with
    | none => simp [chosen, Value.elements] at member
    | some key =>
      obtain rfl : id = key := by simpa [chosen, Value.elements] using member
      obtain ⟨o, listed, rfl⟩ := List.mem_map.mp (List.mem_of_find?_eq_some chosen)
      exact h.counted spec.collection o ((s.optionsFor_perm shown).mem_iff.mp listed)

theorem counts_at? (counted : selection.AllCount P) (field : String) :
    ∀ id, .text id ∈ (Selection.at? selection field).elements → Counts P id := by
  intro id member
  unfold Selection.at? at member
  cases found : Keyed.get? selection field with
  | none => simp [found, Value.elements] at member
  | some v =>
    rw [found] at member
    exact counted (field, v) (Keyed.mem_of_get? found) id member

theorem failsOnly_successor (sortable : P .incomparable ∨ s.Sortable) (p : Pass) (stage : Stage)
    (spec : FieldSpec) (bad : List String) : FailsOnly P (successor s p stage spec bad) := by
  unfold successor
  split
  · exact failsOnly_replacement sortable _ _ _ _
  · exact failsOnly_ok _

theorem failsOnly_next? (sortable : P .incomparable ∨ s.Sortable) {stage : Stage}
    (passes : FailsOnly P (pass s trigger line stage.selection)) :
    FailsOnly P (next? s trigger line stage) := by
  apply passes.bind
  intro p
  split
  · exact failsOnly_ok _
  · exact (failsOnly_successor sortable _ _ _ _).bind fun _ => failsOnly_ok _

theorem failsOnly_settle (sortable : P .incomparable ∨ s.Sortable)
    (passes : ∀ events last, Run s trigger line ⟨0, selection⟩ events last →
      FailsOnly P (pass s trigger line last.selection)) :
    FailsOnly P (settle s trigger line (budget s) selection) := by
  obtain ⟨events, last, run, ends⟩ :=
    @reaches_settle s trigger line ⟨0, selection⟩ (budget s) (Nat.zero_add _)
  intro fault stopped
  rw [stopped] at ends
  cases ends with
  | failed stuck => exact failsOnly_next? sortable (passes events last run) fault stuck

/-- A turn puts nothing into the selection that cannot be counted. -/
theorem allCount_next? (h : s.Admits P) {stage later : Stage} {event : Event}
    (counted : stage.selection.AllCount P)
    (turn : next? s trigger line stage = .ok (some (later, event))) :
    later.selection.AllCount P := by
  obtain ⟨p, spec, bad, v, _, _, chosen, rfl, _⟩ := next?_eq_some turn
  have counts : ∀ id, .text id ∈ v.elements → Counts P id := by
    unfold successor at chosen
    split at chosen
    · exact counts_of_replacement h (counts_at? counted spec.field) chosen
    · obtain rfl := Except.ok.inj chosen
      simp [Value.elements]
  intro e member
  unfold assign at member
  dsimp only at member
  split at member
  · exact counted e (Keyed.mem_of_mem_erase member)
  · rcases Keyed.mem_put member with earlier | rfl
    · exact counted e earlier
    · exact counts

theorem allCount_run (h : s.Admits P) {stage last : Stage} {events : List Event}
    (counted : stage.selection.AllCount P) (run : Run s trigger line stage events last) :
    last.selection.AllCount P := by
  induction run with
  | stay _ => exact counted
  | turn first _ ih => exact ih (allCount_next? h counted first)

theorem failsOnly_recompute (h : s.Admits P) (settings : Settings)
    (counted : (Selection.normalize s.table selection).AllCount P) :
    FailsOnly P (recompute selection s settings) := by
  rw [recompute_eq_configure, configure]
  split
  · exact failsOnly_ok _
  · apply FailsOnly.bind
    · exact failsOnly_settle h.sortable
        fun _ _ run => failsOnly_pass h (allCount_run h counted run)
    · intro settled
      exact (Sku.failsOnly_build h.spelled h.covered h.numbered h.enabled _ _ _).bind
        fun _ => failsOnly_ok _

end Configuration

end MadeToOrder
