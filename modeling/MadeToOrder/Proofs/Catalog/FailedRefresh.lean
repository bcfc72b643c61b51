import MadeToOrder.Catalog.Supply
import MadeToOrder.Proofs.Catalog.Faults

/-!
# Failed refreshes

When nothing comes between the two steps of a refresh, one that fails leaves the
snapshot in use and takes a generation. Later steps read the snapshot, and
compare only generations that they take themselves, so a sequence of steps answers
as it would without its failed refreshes.
-/

set_option autoImplicit false

namespace MadeToOrder

inductive Failure where
  | timedOut (limit : Value)
  | unavailable (reason : String)
  | malformed (fault : Fault) (shape : fault.isDomain = false)
  | unmapped (collection : Value) (usedBy : String)

abbrev Outcome := Except Failure Snapshot

namespace Failure

def fetched : Failure → Fetched
  | .timedOut limit => .timedOut limit
  | .unavailable reason => .failed (.unavailable reason)
  | .malformed fault _ => .failed fault
  | .unmapped collection usedBy => .failed (.unmapped collection usedBy)

def isUnmapped : Failure → Bool
  | .unmapped _ _ => true
  | _ => false

def text : Failure → String
  | .timedOut limit => s!"Catalog refresh timed out after {limit.plain}s"
  | .unavailable reason => reason
  | .malformed fault _ => s!"Catalog refresh failed: {fault.category}: {fault.message}"
  | .unmapped collection usedBy => (Fault.unmapped collection usedBy).message

def fault : Failure → Fault
  | .unmapped collection usedBy => .unmapped collection usedBy
  | failure => .unavailable failure.text

def answer (failure : Failure) : Option Snapshot → Except Fault Refreshed
  | none => .error failure.fault
  | some s => if failure.isUnmapped then .error failure.fault else .ok ⟨s, true, some failure.text⟩

/-- Every fault that reading a catalog can meet is one of these failures. -/
theorem exists_fetched {fault : Fault} (h : fault.isOfCatalog = true) :
    ∃ failure : Failure, failure.fetched = .failed fault := by
  by_cases domain : fault.isDomain = true
  · cases fault with
    | unavailable reason => exact ⟨.unavailable reason, rfl⟩
    | unmapped collection usedBy => exact ⟨.unmapped collection usedBy, rfl⟩
    | noFieldOrder | unknownLine | defect => cases h
    | _ => cases domain
  · exact ⟨.malformed fault (by simpa using domain), rfl⟩

end Failure

def Outcome.fetched : Outcome → Fetched
  | .ok s => .built s
  | .error failure => failure.fetched

namespace Store

variable {store : Store}

def refresh (store : Store) (outcome : Outcome) : Store × Except Fault Refreshed :=
  store.begin.1.finish store.begin.2 outcome.fetched

def current (store : Store) (outcome : Outcome) : Store × Except Fault Snapshot :=
  match store.snapshot with
  | some s => (store, .ok s)
  | none => ((store.refresh outcome).1, (store.refresh outcome).2.map Refreshed.snapshot)

def Counted (store : Store) : Prop := store.installed ≤ store.generation

theorem refresh_ok (counted : store.Counted) (s : Snapshot) :
    store.refresh (.ok s) =
      (⟨some s, store.generation + 1, store.generation + 1⟩, .ok ⟨s, false, none⟩) := by
  rcases finish_built store.begin.1 store.begin.2 s with
    ⟨_, _, older, _⟩ | ⟨_, kept⟩
  · simp only [begin, Counted] at older counted
    omega
  · exact kept

theorem refresh_error (failure : Failure) :
    store.refresh (.error failure) =
      ({ store with generation := store.generation + 1 }, failure.answer store.snapshot) := by
  obtain ⟨current, generation, installed⟩ := store
  cases current with
  | none =>
    cases failure with
    | malformed fault shape => cases fault <;> first | rfl | cases shape
    | timedOut | unavailable | unmapped => rfl
  | some s =>
    cases failure with
    | malformed fault shape => cases fault <;> first | rfl | cases shape
    | timedOut | unavailable | unmapped => rfl

/-- A step of those who use a store one after the other. -/
inductive Operation where
  | install (s : Snapshot)
  | refresh (outcome : Outcome)
  | access (outcome : Outcome)
  /-- The source changes, which shows in the outcomes of later steps only. -/
  | changeSource

inductive Answer where
  | done
  | refreshed (result : Except Fault Refreshed)
  | shown (result : Except Fault Snapshot)

def perform (store : Store) : Operation → Store × Answer
  | .install s => (store.install s, .done)
  | .refresh outcome => ((store.refresh outcome).1, .refreshed (store.refresh outcome).2)
  | .access outcome => ((store.current outcome).1, .shown (store.current outcome).2)
  | .changeSource => (store, .done)

def transcript : Store → List Operation → List (Operation × Answer)
  | _, [] => []
  | store, op :: rest => (op, (store.perform op).2) :: transcript (store.perform op).1 rest

def Operation.isFailedRefresh : Operation → Bool
  | .refresh (.error _) => true
  | _ => false

structure Alike (a b : Store) : Prop where
  snapshot : a.snapshot = b.snapshot
  left : a.Counted
  right : b.Counted

variable {a b : Store}

theorem alike_install (s : Snapshot) : Alike (a.install s) (b.install s) :=
  ⟨rfl, Nat.le_refl _, Nat.le_refl _⟩

theorem Alike.refresh (h : Alike a b) (outcome : Outcome) :
    (a.refresh outcome).2 = (b.refresh outcome).2 ∧
      Alike (a.refresh outcome).1 (b.refresh outcome).1 := by
  cases outcome with
  | ok s =>
    rw [refresh_ok h.left, refresh_ok h.right]
    exact ⟨rfl, rfl, Nat.le_refl _, Nat.le_refl _⟩
  | error failure =>
    rw [refresh_error, refresh_error, h.snapshot]
    exact ⟨rfl, rfl, Nat.le_succ_of_le h.left, Nat.le_succ_of_le h.right⟩

theorem Alike.current (h : Alike a b) (outcome : Outcome) :
    (a.current outcome).2 = (b.current outcome).2 ∧
      Alike (a.current outcome).1 (b.current outcome).1 := by
  unfold Store.current
  rw [h.snapshot]
  cases stored : b.snapshot with
  | some s => exact ⟨rfl, h⟩
  | none =>
    obtain ⟨same, after⟩ := h.refresh outcome
    exact ⟨by rw [same], after⟩

/-- A step answers from the snapshot alone. -/
theorem Alike.perform (h : Alike a b) (op : Operation) :
    (a.perform op).2 = (b.perform op).2 ∧ Alike (a.perform op).1 (b.perform op).1 := by
  cases op with
  | install s => exact ⟨rfl, alike_install s⟩
  | refresh outcome =>
    obtain ⟨same, after⟩ := h.refresh outcome
    exact ⟨congrArg Answer.refreshed same, after⟩
  | access outcome =>
    obtain ⟨same, after⟩ := h.current outcome
    exact ⟨congrArg Answer.shown same, after⟩
  | changeSource => exact ⟨rfl, h⟩

theorem Alike.left_failed (h : Alike a b) {op : Operation} (failed : op.isFailedRefresh = true) :
    Alike (a.perform op).1 b := by
  cases op with
  | refresh outcome =>
    cases outcome with
    | ok s => cases failed
    | error failure =>
      rw [Store.perform, refresh_error]
      exact ⟨h.snapshot, Nat.le_succ_of_le h.left, h.right⟩
  | install | access | changeSource => cases failed

/-- One run takes every step, the other one leaves the failed refreshes out. -/
theorem Alike.transcript (h : Alike a b) (ops : List Operation) :
    b.transcript (ops.filter (fun op => !op.isFailedRefresh)) =
      (a.transcript ops).filter (fun entry => !entry.1.isFailedRefresh) := by
  induction ops generalizing a b with
  | nil => rfl
  | cons op rest ih =>
    cases failed : op.isFailedRefresh with
    | true =>
      simp only [Store.transcript, List.filter_cons, failed, Bool.not_true, Bool.false_eq_true,
        if_false]
      exact ih (h.left_failed failed)
    | false =>
      obtain ⟨same, after⟩ := h.perform op
      simp only [Store.transcript, List.filter_cons, failed, Bool.not_false, if_true]
      rw [ih after, same]

end Store

namespace Supply

variable {supply : Supply}

/-- Without a rival a fetch leaves the supply as it was, and fails as fetches fail. -/
theorem fetch_undisturbed (alone : supply.feed.rival = none) (limit : Value) (asOf : String) :
    ∃ outcome : Outcome, supply.fetch limit asOf = (supply, outcome.fetched) := by
  unfold fetch
  cases supply.feed.response with
  | fails reason => exact ⟨.error (.unavailable reason), rfl⟩
  | hangs => exact ⟨.error (.timedOut limit), rfl⟩
  | delivers =>
    unfold build yieldToRival
    simp only [alone]
    cases read : supply.feed.file.snapshot supply.table asOf with
    | ok s => exact ⟨.ok s, rfl⟩
    | error fault =>
      have ofCatalog := Source.confined_snapshot supply.feed.file.confined_source supply.table
        asOf fault read
      obtain ⟨failure, same⟩ := Failure.exists_fetched ofCatalog
      exact ⟨.error failure, by rw [Outcome.fetched, same]⟩

/-- Without a rival a refresh is one of the store, with some outcome. -/
theorem refresh_undisturbed (alone : supply.feed.rival = none) (limit : Value) (asOf : String) :
    ∃ outcome : Outcome, supply.refresh limit asOf =
      ({ supply with store := (supply.store.refresh outcome).1 },
        (supply.store.refresh outcome).2) := by
  have begun : { supply with store := supply.store.begin.1 }.feed.rival = none := alone
  obtain ⟨outcome, fetched⟩ := fetch_undisturbed begun
    (if limit.isNull then supply.timeout else limit) asOf
  refine ⟨outcome, ?_⟩
  unfold refresh
  simp only [fetched]
  rfl

theorem current_undisturbed (alone : supply.feed.rival = none) (asOf : String) :
    ∃ outcome : Outcome, supply.current asOf =
      ({ supply with store := (supply.store.current outcome).1 },
        (supply.store.current outcome).2) := by
  obtain ⟨outcome, refreshed⟩ := refresh_undisturbed alone .null asOf
  refine ⟨outcome, ?_⟩
  unfold current Store.current
  cases stored : supply.store.snapshot with
  | some s => rfl
  | none => simp only [refreshed]

end Supply

namespace Store

/-- A failed refresh keeps the snapshot and answers with it, stale and with the reason,
unless there is none or a collection has no field. Leaving the failed refreshes
out of a sequence of steps changes no answer of the others. The steps are those
of a supply that nobody races. -/
theorem failed_refreshes_leave_no_trace :
    (∀ (store : Store) (failure : Failure),
      (store.refresh (.error failure)).1.snapshot = store.snapshot ∧
      (∀ s, store.snapshot = some s → failure.isUnmapped = false →
        (store.refresh (.error failure)).2 = .ok ⟨s, true, some failure.text⟩) ∧
      (store.snapshot = none ∨ failure.isUnmapped = true →
        (store.refresh (.error failure)).2 = .error failure.fault)) ∧
    (∀ ops : List Operation,
      Store.empty.transcript (ops.filter (fun op => !op.isFailedRefresh)) =
        (Store.empty.transcript ops).filter (fun entry => !entry.1.isFailedRefresh)) ∧
    ∀ supply : Supply, supply.feed.rival = none → ∀ limit asOf,
      (∃ outcome : Outcome, supply.refresh limit asOf =
        ({ supply with store := (supply.store.refresh outcome).1 },
          (supply.store.refresh outcome).2)) ∧
      ∃ outcome : Outcome, supply.current asOf =
        ({ supply with store := (supply.store.current outcome).1 },
          (supply.store.current outcome).2) := by
  refine ⟨fun store failure => ?_, fun ops => ?_, fun supply alone limit asOf => ?_⟩
  · rw [refresh_error]
    refine ⟨rfl, fun s stored mapped => ?_, fun unanswered => ?_⟩
    · rw [stored, Failure.answer, if_neg (by simp [mapped])]
    · rcases unanswered with none | unmapped
      · rw [none, Failure.answer]
      · cases store.snapshot with
        | none => rfl
        | some s => rw [Failure.answer, if_pos unmapped]
  · have start : Alike Store.empty Store.empty := ⟨rfl, Nat.le_refl 0, Nat.le_refl 0⟩
    exact start.transcript ops
  · exact ⟨Supply.refresh_undisturbed alone limit asOf, Supply.current_undisturbed alone asOf⟩

def bereft : Supply :=
  ((Supply.ofFeed FieldTable.empty (Feed.ofFile (.document (.object []))) .null).refresh .null
    "first").1.deliver .absent

theorem absent_catalog_answered_stale :
    ∃ s, bereft.store.snapshot = some s ∧ s.asOf = "first" ∧
      (bereft.store.refresh (.error (.unavailable "Cannot read catalog file"))).2 =
        .ok ⟨s, true, some "Cannot read catalog file"⟩ ∧
      (Store.empty.refresh (.error (.unmapped (.text "sizes") ""))).2 =
        .error (.unmapped (.text "sizes") "") ∧
      bereft.feed.rival = none ∧ ∃ outcome : Outcome, bereft.refresh .null "second" =
        ({ bereft with store := (bereft.store.refresh outcome).1 },
          (bereft.store.refresh outcome).2) := by
  obtain ⟨failing, _, supplied⟩ := failed_refreshes_leave_no_trace
  obtain ⟨s, stored⟩ : ∃ s, bereft.store.snapshot = some s := ⟨_, rfl⟩
  refine ⟨s, stored, ?_, (failing bereft.store _).2.1 s stored rfl,
    (failing Store.empty _).2.2 (Or.inl rfl), rfl, (supplied bereft rfl .null "second").1⟩
  obtain rfl := Option.some.inj stored
  rfl

end Store

end MadeToOrder
