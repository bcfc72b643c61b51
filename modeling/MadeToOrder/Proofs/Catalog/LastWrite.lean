import MadeToOrder.Catalog.Store

/-!
# The last write wins

Any number of refreshes and installs may share a store. A refresh takes its
generation in one step and ends in another one, and the others may take theirs in
between. Whatever the order, the store holds the snapshot of the highest
generation that was written. A refresh that was given up on waits no longer, and
its generation is never given out again, so what its fetch brings goes nowhere.
-/

set_option autoImplicit false

namespace MadeToOrder.Store

inductive Act where
  | install (s : Snapshot)
  | begin
  | finish (generation : Nat) (fetched : Fetched)

structure Shared where
  store : Store
  waiting : List Nat

namespace Shared

def idle : Shared := ⟨Store.empty, []⟩

def step (c : Shared) : Act → Shared
  | .install s => ⟨c.store.install s, c.waiting⟩
  | .begin => ⟨c.store.begin.1, c.store.begin.2 :: c.waiting⟩
  | .finish g fetched =>
    if g ∈ c.waiting then
      ⟨(c.store.finish g fetched).1, c.waiting.filter (fun other => other ≠ g)⟩
    else c

def run (c : Shared) (acts : List Act) : Shared := acts.foldl step c

/-- The generation and the snapshot of an install, or of a refresh that ends with one. -/
def written (c : Shared) : Act → List (Nat × Snapshot)
  | .install s => [((c.store.install s).generation, s)]
  | .begin => []
  | .finish g (.built s) => if g ∈ c.waiting then [(g, s)] else []
  | .finish _ (.timedOut _) => []
  | .finish _ (.failed _) => []

def history : Shared → List Act → List (Nat × Snapshot)
  | _, [] => []
  | c, act :: rest => c.written act ++ history (c.step act) rest

variable {c : Shared} {writes : List (Nat × Snapshot)} {g : Nat}

theorem history_append (first second : List Act) :
    c.history (first ++ second) = c.history first ++ (c.run first).history second := by
  induction first generalizing c with
  | nil => rfl
  | cons act rest ih =>
    rw [List.cons_append, history, history, ih, List.append_assoc]
    rfl

/-- What holds of a store after everything that was written to it. -/
structure Kept (c : Shared) (writes : List (Nat × Snapshot)) : Prop where
  stored : ∀ s, c.store.snapshot = some s ↔ (c.store.installed, s) ∈ writes
  unused : c.store.snapshot = none → writes = [] ∧ c.store.installed = 0
  highest : ∀ w ∈ writes, w.1 ≤ c.store.installed
  counted : c.store.installed ≤ c.store.generation
  begun : ∀ g ∈ c.waiting, g ≤ c.store.generation
  unwritten : ∀ g ∈ c.waiting, ∀ w ∈ writes, w.1 ≠ g

theorem kept_idle : Kept idle [] where
  stored := by simp [idle, Store.empty]
  unused := fun _ => ⟨rfl, rfl⟩
  highest := by simp
  counted := Nat.le_refl 0
  begun := by simp [idle]
  unwritten := by simp

theorem mem_others {other : Nat} (waits : other ∈ c.waiting.filter (fun other => other ≠ g)) :
    other ∈ c.waiting ∧ other ≠ g := by
  simpa using waits

theorem Kept.unwritten_append (h : Kept c writes) (s : Snapshot) {waiting : List Nat}
    (others : ∀ other ∈ waiting, other ∈ c.waiting ∧ other ≠ g) :
    ∀ other ∈ waiting, ∀ w ∈ writes ++ [(g, s)], w.1 ≠ other := by
  intro other waits w member
  obtain ⟨earlier, apart⟩ := others other waits
  rcases List.mem_append.mp member with old | new
  · exact h.unwritten other earlier w old
  · rw [List.mem_singleton.mp new]
    exact apart.symm

/-- A new generation that is not below the installed one takes its place. -/
theorem Kept.overwrite (h : Kept c writes) {s : Snapshot} {generation : Nat}
    {waiting : List Nat} (newer : c.store.installed ≤ g) (fresh : ∀ w ∈ writes, w.1 ≠ g)
    (counted : g ≤ generation) (begun : ∀ other ∈ waiting, other ≤ generation)
    (others : ∀ other ∈ waiting, other ∈ c.waiting ∧ other ≠ g) :
    Kept ⟨⟨some s, generation, g⟩, waiting⟩ (writes ++ [(g, s)]) where
  stored := by
    intro t
    have absent : (g, t) ∉ writes := fun member => fresh _ member rfl
    simp [absent, eq_comm]
  unused := by simp
  highest := by
    intro w member
    rcases List.mem_append.mp member with old | new
    · exact Nat.le_trans (h.highest w old) newer
    · exact Nat.le_of_eq (congrArg Prod.fst (List.mem_singleton.mp new))
  counted := counted
  begun := begun
  unwritten := h.unwritten_append s others

/-- An older snapshot that is discarded leaves the store as it was. -/
theorem Kept.discard (h : Kept c writes) {s : Snapshot} (older : g < c.store.installed)
    {waiting : List Nat} (others : ∀ other ∈ waiting, other ∈ c.waiting ∧ other ≠ g) :
    Kept ⟨c.store, waiting⟩ (writes ++ [(g, s)]) where
  stored := by
    intro t
    have other : c.store.installed ≠ g := Nat.ne_of_gt older
    simp [h.stored t, other]
  unused := by
    intro none
    have start := (h.unused none).2
    omega
  highest := by
    intro w member
    rcases List.mem_append.mp member with old | new
    · exact h.highest w old
    · rw [List.mem_singleton.mp new]
      exact Nat.le_of_lt older
  counted := h.counted
  begun := fun other waits => h.begun other (others other waits).1
  unwritten := h.unwritten_append s others

theorem Kept.fewer (h : Kept c writes) {waiting : List Nat}
    (others : ∀ other ∈ waiting, other ∈ c.waiting) : Kept ⟨c.store, waiting⟩ writes where
  stored := h.stored
  unused := h.unused
  highest := h.highest
  counted := h.counted
  begun := fun other waits => h.begun other (others other waits)
  unwritten := fun other waits => h.unwritten other (others other waits)

theorem Kept.install (h : Kept c writes) (s : Snapshot) :
    Kept (c.step (.install s)) (writes ++ c.written (.install s)) := by
  have counted := h.counted
  refine h.overwrite (by omega) ?_ (Nat.le_refl _) ?_ ?_
  · intro w member
    have below := h.highest w member
    omega
  · intro other waits
    exact Nat.le_succ_of_le (h.begun other waits)
  · intro other waits
    have below := h.begun other waits
    exact ⟨waits, by omega⟩

theorem Kept.begin (h : Kept c writes) : Kept (c.step .begin) (writes ++ c.written .begin) := by
  rw [written, List.append_nil]
  refine ⟨h.stored, h.unused, h.highest, Nat.le_succ_of_le h.counted, ?_, ?_⟩
  · intro g waits
    rcases List.mem_cons.mp waits with rfl | earlier
    · exact Nat.le_refl _
    · exact Nat.le_succ_of_le (h.begun g earlier)
  · intro g waits w member
    rcases List.mem_cons.mp waits with rfl | earlier
    · have below := h.highest w member
      have counted := h.counted
      simp only [Store.begin]
      omega
    · exact h.unwritten g earlier w member

theorem Kept.finish_built (h : Kept c writes) (waits : g ∈ c.waiting) (s : Snapshot) :
    Kept (c.step (.finish g (.built s))) (writes ++ c.written (.finish g (.built s))) := by
  rw [step, if_pos waits, written, if_pos waits]
  rcases Store.finish_built c.store g s with
    ⟨_, _, older, same⟩ | ⟨newer, same⟩
  · rw [same]
    exact h.discard older (fun _ => mem_others)
  · rw [same]
    have reached : c.store.installed ≤ g := by
      -- Before the first write the installed generation is zero.
      rcases newer with none | newer
      · have start := (h.unused none).2
        omega
      · exact newer
    exact h.overwrite reached (h.unwritten g waits) (h.begun g waits)
      (fun other member => h.begun other (mem_others member).1) (fun _ => mem_others)

theorem Kept.finish_of_not_built (h : Kept c writes) {fetched : Fetched}
    (failed : ∀ s, fetched ≠ .built s) :
    Kept (c.step (.finish g fetched)) writes := by
  rw [step]
  split
  · rw [Store.finish_of_not_built failed]
    exact h.fewer (fun _ member => (mem_others member).1)
  · exact h

/-- Every step keeps the invariant, with what it writes. -/
theorem Kept.step (h : Kept c writes) (act : Act) :
    Kept (c.step act) (writes ++ c.written act) := by
  cases act with
  | install s => exact h.install s
  | begin => exact h.begin
  | finish g fetched =>
    cases fetched with
    | built s =>
      by_cases waits : g ∈ c.waiting
      · exact h.finish_built waits s
      · rw [Shared.step, if_neg waits, written, if_neg waits, List.append_nil]
        exact h
    | timedOut limit =>
      rw [written, List.append_nil]
      exact h.finish_of_not_built (by simp)
    | failed fault =>
      rw [written, List.append_nil]
      exact h.finish_of_not_built (by simp)

theorem Kept.run (h : Kept c writes) (acts : List Act) :
    Kept (c.run acts) (writes ++ c.history acts) := by
  induction acts generalizing c writes with
  | nil => simpa [Shared.run, history] using h
  | cons act rest ih =>
    rw [history, ← List.append_assoc]
    exact ih (h.step act)

theorem kept_run (acts : List Act) : Kept (idle.run acts) (idle.history acts) := by
  simpa using kept_idle.run acts

def Over (c : Shared) (g : Nat) : Prop := g ≤ c.store.generation ∧ g ∉ c.waiting

theorem Over.step (h : c.Over g) (act : Act) : (c.step act).Over g := by
  obtain ⟨given, gone⟩ := h
  cases act with
  | install s => exact ⟨Nat.le_succ_of_le given, gone⟩
  | begin =>
    refine ⟨Nat.le_succ_of_le given, fun waits => ?_⟩
    rcases List.mem_cons.mp waits with rfl | earlier
    · exact Nat.not_succ_le_self _ given
    · exact gone earlier
  | finish other fetched =>
    rw [Shared.step]
    split
    · exact ⟨by rwa [generation_finish], fun waits => gone (mem_others waits).1⟩
    · exact ⟨given, gone⟩

theorem Over.run (h : c.Over g) (acts : List Act) : (c.run acts).Over g := by
  induction acts generalizing c with
  | nil => exact h
  | cons act rest ih => exact ih (h.step act)

theorem over_finish (h : Kept c writes) (waits : g ∈ c.waiting) (fetched : Fetched) :
    (c.step (.finish g fetched)).Over g := by
  rw [step, if_pos waits]
  refine ⟨?_, fun again => (mem_others again).2 rfl⟩
  rw [generation_finish]
  exact h.begun g waits

/-- What a run writes on top never lowers the installed generation and never
takes the snapshot away. -/
theorem Kept.mono {c' : Shared} {more : List (Nat × Snapshot)} (h : Kept c writes)
    (later : Kept c' (writes ++ more)) : c.store.installed ≤ c'.store.installed ∧
      (c.store.snapshot ≠ none → c'.store.snapshot ≠ none) := by
  constructor
  · cases stored : c.store.snapshot with
    | none =>
      rw [(h.unused stored).2]
      exact Nat.zero_le _
    | some s =>
      exact later.highest _ (List.mem_append_left more ((h.stored s).mp stored))
  · intro some none
    obtain ⟨s, stored⟩ := Option.ne_none_iff_exists'.mp some
    have member := (h.stored s).mp stored
    rw [(List.append_eq_nil_iff.mp (later.unused none).1).1] at member
    simp at member

/-- The store always holds the snapshot of the highest generation that was written,
which never falls and was given out. A refresh that ends with a snapshot answers
with one of its generation or a later one, and a fetch that was given up on
changes nothing, however late it ends. -/
theorem last_write_wins (acts : List Act) :
    let c := idle.run acts
    let writes := idle.history acts
    ((∀ s, c.store.snapshot = some s ↔ (c.store.installed, s) ∈ writes) ∧
      (c.store.snapshot = none ↔ writes = []) ∧ ∀ w ∈ writes, w.1 ≤ c.store.installed) ∧
    c.store.installed ≤ c.store.generation ∧
    (∀ later, c.store.installed ≤ (c.run later).store.installed ∧
      (c.store.snapshot ≠ none → (c.run later).store.snapshot ≠ none)) ∧
    (∀ g ∈ c.waiting, ∀ s, ∃ t h, (c.store.finish g (.built s)).2 = .ok ⟨t, false, none⟩ ∧
      g ≤ h ∧ (h, t) ∈ idle.history (acts ++ [.finish g (.built s)])) ∧
    ∀ g ∈ c.waiting, ∀ limit later fetched,
      let abandoned := c.step (.finish g (.timedOut limit))
      abandoned.store = c.store ∧
        (abandoned.run later).step (.finish g fetched) = abandoned.run later := by
  intro c writes
  have kept : Kept c writes := kept_run acts
  refine ⟨⟨kept.stored, ⟨fun none => (kept.unused none).1, fun empty => ?_⟩, kept.highest⟩,
    kept.counted, fun later => kept.mono (kept.run later), ?_, ?_⟩
  · rw [Option.eq_none_iff_forall_ne_some]
    intro s stored
    have member := (kept.stored s).mp stored
    rw [empty] at member
    simp at member
  · intro g waits s
    rw [history_append]
    rcases Store.finish_built c.store g s with
      ⟨newer, stored, older, same⟩ | ⟨_, same⟩
    · refine ⟨newer, c.store.installed, by rw [same], Nat.le_of_lt older, ?_⟩
      exact List.mem_append_left _ ((kept.stored newer).mp stored)
    · refine ⟨s, g, by rw [same], Nat.le_refl g, List.mem_append_right _ ?_⟩
      rw [history, written, if_pos waits]
      exact List.mem_append_left _ (List.mem_singleton.mpr rfl)
  · intro g waits limit later fetched
    have gone := ((over_finish kept waits (.timedOut limit)).run later).2
    exact ⟨by rw [step, if_pos waits]; rfl, by rw [step, if_neg gone]⟩

def dated (asOf : String) : Snapshot := ⟨FieldTable.empty, [], [], [], [], [], [], [], asOf⟩

/-- An install overtakes a refresh, which then answers with the installed snapshot; the
same refresh, given up on, no longer counts. -/
theorem overtaken_refresh_discarded :
    let c := idle.run [.begin, .install (dated "newer")]
    let abandoned := c.step (.finish 1 (.timedOut (.int 5)))
    1 ∈ c.waiting ∧
    (∃ t h, (c.store.finish 1 (.built (dated "older"))).2 = .ok ⟨t, false, none⟩ ∧
      t = dated "newer" ∧ 1 ≤ h ∧
      (h, t) ∈ idle.history
        ([.begin, .install (dated "newer")] ++ [.finish 1 (.built (dated "older"))])) ∧
    (abandoned.run [.begin]).step (.finish 1 (.built (dated "older"))) =
      abandoned.run [.begin] := by
  intro c abandoned
  obtain ⟨_, _, _, answers, late⟩ := last_write_wins [.begin, .install (dated "newer")]
  have waits : 1 ∈ c.waiting := by decide
  obtain ⟨t, h, answer, reached, member⟩ := answers 1 waits (dated "older")
  refine ⟨waits, ⟨t, h, answer, ?_, reached, member⟩, (late 1 waits _ _ _).2⟩
  exact (congrArg Refreshed.snapshot (Except.ok.inj answer)).symm

end Shared

end MadeToOrder.Store
