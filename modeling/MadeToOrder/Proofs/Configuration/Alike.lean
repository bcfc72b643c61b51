import MadeToOrder.Proofs.Availability.Alike
import MadeToOrder.Proofs.Configuration.Adjusting
import MadeToOrder.Proofs.Sku.Alike

/-!
# Configurations from alike snapshots

Each pass offers the same options and evaluates the same rules, so the loop adjusts the
same fields in the same order and ends with the same selection.
-/

set_option autoImplicit false

namespace MadeToOrder

variable {s s' : Snapshot}

namespace Rule

theorem contextEntries_of_alike (h : s.Alike s') (spec : FieldSpec) (v : Value) :
    contextEntries s' spec v = contextEntries s spec v := by
  unfold contextEntries
  simp only [h.option?]

theorem contextFrom_of_alike (h : s.Alike s') (context : Context) (selection : Selection) :
    contextFrom s' context selection = contextFrom s context selection := by
  induction selection generalizing context with
  | nil => rfl
  | cons e rest ih =>
    obtain ⟨field, v⟩ := e
    unfold contextFrom
    rw [h.table]
    simp only [contextEntries_of_alike h, ih]

theorem outcomeFor_of_alike (h : s.Alike s') (selection : Selection) :
    outcomeFor s' selection = outcomeFor s selection := by
  unfold outcomeFor contextOf
  rw [contextFrom_of_alike h, h.rules, h.table]

end Rule

structure Pass.Alike (p p' : Pass) : Prop where
  availability : p.availability.Alike p'.availability
  outcome : p'.outcome = p.outcome

structure Configured.Alike (c c' : Configured) : Prop where
  availability : c.availability.Alike c'.availability
  outcome : c'.outcome = c.outcome
  sku : c'.sku = c.sku

structure State.Alike (t t' : State) : Prop where
  selection : t'.selection = t.selection
  line : t'.line = t.line
  configured : Option.Rel Configured.Alike t.configured t'.configured

namespace Configuration

variable {trigger : Trigger} {line : Value} {p p' : Pass}

structure Settled.Alike (t t' : Settled) : Prop where
  selection : t'.selection = t.selection
  pass : t.pass.Alike t'.pass
  adjustments : t'.adjustments = t.adjustments

theorem Settled.Alike.after {t t' : Settled} (h : t.Alike t') (event : Event) :
    (t.after event).Alike (t'.after event) :=
  ⟨h.selection, h.pass, congrArg (event :: ·) h.adjustments⟩

theorem paired_pass (h : s.Alike s') (trigger : Trigger) (line : Value) (selection : Selection) :
    Paired Pass.Alike (pass s trigger line selection) (pass s' trigger line selection) := by
  apply (Availability.paired_compute h selection line trigger).bind
  intro a a' alike
  rw [Rule.outcomeFor_of_alike h]
  apply (Paired.refl _).bind
  rintro outcome _ rfl
  exact .ok ⟨alike.constrain _, rfl⟩

theorem firstInvalid?_of_alike (h : s.Alike s') (passes : p.Alike p') (selection : Selection) :
    firstInvalid? s' p' selection = firstInvalid? s p selection := by
  unfold firstInvalid?
  simp only [h.table, passes.availability.invalidIn]

theorem replacement_of_alike (h : s.Alike s') {a a' : Availability} (alike : a.Alike a')
    (spec : FieldSpec) (previous : Value) (bad : List String) :
    replacement s' a' spec previous bad = replacement s a spec previous bad := by
  have offered : ∀ key, decide (key ∈ a'.availableIn spec.collection) =
      decide (key ∈ a.availableIn spec.collection) :=
    fun key => decide_eq_decide.mpr (alike.mem_availableIn spec.collection key)
  unfold replacement firstAvailable
  simp only [h.optionsFor, offered]

theorem paired_clear (h : s.Alike s') (trigger : Trigger) (line : Value) (selection : Selection) :
    Paired Settled.Alike (clear s trigger line selection) (clear s' trigger line selection) := by
  -- the cases are those of the run on the first snapshot; the pass on the second is alike
  induction selection using clear.induct s trigger line with
  | case1 selection fault computed =>
    obtain computed' := (computed ▸ paired_pass h trigger line selection).eq_error
    rw [clear, computed, clear, computed']
    exact .error fault
  | case2 selection p computed valid =>
    obtain ⟨p', computed', alike⟩ := (computed ▸ paired_pass h trigger line selection).exists_ok
    rw [clear_of_valid computed valid, clear_of_valid computed'
      ((firstInvalid?_of_alike h alike selection).trans valid)]
    exact .ok ⟨rfl, alike, rfl⟩
  | case3 selection p computed spec bad invalid ih =>
    obtain ⟨p', computed', alike⟩ := (computed ▸ paired_pass h trigger line selection).exists_ok
    rw [clear_of_invalid computed invalid, clear_of_invalid computed'
      ((firstInvalid?_of_alike h alike selection).trans invalid)]
    exact ih.map fun _ _ settled => settled.after _

theorem paired_settle (h : s.Alike s') (trigger : Trigger) (line : Value) (left : Nat)
    (selection : Selection) : Paired Settled.Alike (settle s trigger line left selection)
      (settle s' trigger line left selection) := by
  induction left generalizing selection with
  | zero => exact paired_clear h trigger line selection
  | succ left ih =>
    apply (paired_pass h trigger line selection).bind
    intro p p' alike
    rw [firstInvalid?_of_alike h alike]
    split
    · exact .ok ⟨rfl, alike, rfl⟩
    · dsimp only
      rw [replacement_of_alike h alike.availability]
      apply (Paired.refl _).bind
      rintro next _ rfl
      apply (ih _).bind
      exact fun _ _ settled => .ok (settled.after _)

/-- From alike snapshots a selection leads to alike states by the same adjustments, or
to the same fault. -/
theorem paired_recompute (h : s.Alike s') (selection : Selection) (settings : Settings) :
    Paired (fun (r r' : State × List Event) => r.1.Alike r'.1 ∧
        r'.2.filter Event.isAdjustment = r.2.filter Event.isAdjustment)
      (recompute selection s settings) (recompute selection s' settings) := by
  simp only [recompute_eq_configure, configure, budget, h.table]
  split
  · exact .ok ⟨⟨rfl, rfl, .none⟩, rfl⟩
  · apply (paired_settle h _ _ _ _).bind
    intro t t' alike
    rw [Sku.build_of_alike h, h.codeFields, alike.selection, alike.pass.outcome]
    apply (Paired.refl _).bind
    rintro sku _ rfl
    apply Paired.ok
    refine ⟨⟨rfl, rfl, .some ⟨alike.pass.availability, rfl, rfl⟩⟩, ?_⟩
    simp only [List.filter_append, filter_closingEvents, alike.adjustments]

end Configuration

end MadeToOrder
