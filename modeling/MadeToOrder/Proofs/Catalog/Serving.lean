import MadeToOrder.Proofs.Catalog.Assembled
import MadeToOrder.Proofs.Catalog.Paging

/-!
# Rows that a remote keeps

A remote keeps rows in a collection if it answers every page with that part of them, whenever it
is asked and whatever else is asked for. All rows then come to a client, whatever the client did
before. A collection without an address is never read, and nothing is read where no attempt is
allowed.
-/

set_option autoImplicit false

namespace MadeToOrder

def Client.Task.Gives {α : Type} (task : Client.Task α) (a : α) : Prop :=
  ∀ client, ∃ after, task.on client = (.ok a, after)

namespace Client.Task

variable {α β : Type} {task : Client.Task α} {next : α → Client.Task β} {a : α} {b : β}

theorem Gives.bind (first : task.Gives a) (later : (next a).Gives b) :
    Gives (task >>= next) b := by
  intro client
  obtain ⟨between, first⟩ := first client
  rw [on_bind_ok first]
  exact later between

theorem gives_pure (a : α) : Gives (pure a) a := fun client => ⟨client, rfl⟩

theorem gives_ofExcept {result : Except Fault α} (h : result = .ok a) :
    Gives (MonadExcept.ofExcept result) a :=
  fun client => ⟨client, by rw [on_ofExcept, h]⟩

theorem Gives.eq_of_answers (h : task.Gives a) {other : α}
    (answered : Answering.task.answers task other) : other = a := by
  obtain ⟨before, after, answered⟩ := answered
  obtain ⟨_, given⟩ := h before
  exact Except.ok.inj (Prod.mk.inj (Eq.trans answered.symm given)).1

end Client.Task

namespace Remote

/-- Every page of a collection, at the address of the collection, is answered with its part of
the rows, and there are not too many pages. -/
structure Keeps (r : Remote) (collection : String) (rows : List Value) : Prop where
  pages : ∃ url, r.Located collection url ∧ ∀ n q k,
    Delivers (r.network n (r.request url q (k + 1)))
      ((rows.drop (r.pageSize.toNat * k)).take r.pageSize.toNat)
  patient : rows.length / r.pageSize.toNat < r.patience

def promptTurns (r : Remote) (url : Url) (q : Query) : Nat → Nat → Nat → List Turn
  | _, _, 0 => []
  | start, page, count + 1 =>
    ⟨[], r.network start (r.request url q page)⟩ ::
      promptTurns r url q (start + 1) (page + 1) count

variable {r : Remote} {collection : String} {url : Url} {q : Query} {rows : List Value}
  {start page count : Nat}

theorem length_promptTurns : (r.promptTurns url q start page count).length = count := by
  induction count generalizing start page with
  | zero => rfl
  | succ count ih => rw [promptTurns, List.length_cons, ih]

theorem plays_promptTurns (count : Nat) :
    r.Plays url q start page (r.promptTurns url q start page count) := by
  induction count generalizing start page with
  | zero => trivial
  | succ count ih => exact ⟨⟨fun i reason found => (by cases found), rfl⟩, ih⟩

theorem getElem?_promptTurns {k : Nat} {turn : Turn}
    (found : (r.promptTurns url q start page count)[k]? = some turn) :
    turn = ⟨[], r.network (start + k) (r.request url q (page + k))⟩ := by
  induction count generalizing start page k with
  | zero => cases found
  | succ count ih =>
    cases k with
    | zero => exact (Option.some.inj found).symm
    | succ k =>
      rw [ih found, Nat.add_right_comm, Nat.add_assoc, Nat.add_right_comm page, Nat.add_assoc page]

/-- The rows that are kept come to a client, which sends requests and does nothing else. -/
theorem Keeps.exists_on_items (kept : r.Keeps collection rows) (positive : 1 ≤ r.pageSize)
    (tried : 0 ≤ r.maxRetries) (q : Query) (client : Client) :
    ∃ requests, (r.items collection q).on client = (.ok rows, client.after requests) := by
  obtain ⟨url, located, pages⟩ := kept.pages
  have limit : r.pageSize = r.pageSize.toNat := by omega
  have retried : r.maxRetries = r.maxRetries.toNat := by omega
  refine ⟨_, on_items_of_all located limit (by omega) retried kept.patient
    (plays_promptTurns (rows.length / r.pageSize.toNat + 1)) ?_ length_promptTurns⟩
  intro k turn found
  rw [getElem?_promptTurns found, Nat.add_comm 1]
  exact ⟨Nat.zero_le _, pages _ q k⟩

theorem Keeps.gives_items (kept : r.Keeps collection rows) (positive : 1 ≤ r.pageSize)
    (tried : 0 ≤ r.maxRetries) (q : Query) : (r.items collection q).Gives rows := by
  intro client
  obtain ⟨_, items⟩ := kept.exists_on_items positive tried q client
  exact ⟨_, items⟩

theorem place_of_answers (answered : Answering.task.answers (r.locate collection) url) :
    ∃ base own, r.connection = .ok base ∧ collectionUrl collection = .ok own ∧
      own.below base = url := by
  obtain ⟨base, connected, answered⟩ := Answering.task.bind answered
  obtain ⟨own, found, answered⟩ := Answering.task.bind answered
  exact ⟨base, own, Answering.task.ofExcept connected, Answering.task.ofExcept found,
    (Answering.task.pure answered).symm⟩

theorem not_answers_throw {α : Type} (fault : Fault) (a : α) :
    ¬Answering.task.answers (throw fault : Client.Task α) a := by
  rintro ⟨before, after, answered⟩
  cases answered

theorem located_of_answers_attempt {reason : String} {tries : Nat} {v : Value}
    (answered : Answering.task.answers (r.attempt collection q page reason tries) v) :
    (∃ url, r.Located collection url) ∧ tries ≠ 0 := by
  induction tries generalizing reason with
  | zero => exact absurd answered (not_answers_throw _ _)
  | succ tries ih =>
    refine ⟨?_, Nat.succ_ne_zero tries⟩
    obtain ⟨url, found, answered⟩ := Answering.task.bind answered
    obtain ⟨reply, sent, answered⟩ := Answering.task.bind answered
    cases reply with
    | lost reason => exact (ih answered).1
    | broken fault => exact absurd answered (not_answers_throw _ _)
    | answer status body =>
      dsimp only at answered
      split at answered
      · rename_i typed
        exact ⟨url, place_of_answers found, typed⟩
      · exact absurd answered (not_answers_throw _ _)

/-- A collection that is read has an address, and attempts are allowed. -/
theorem located_of_answers_items
    (answered : Answering.task.answers (r.items collection q) rows) :
    (∃ url, r.Located collection url) ∧ 0 ≤ r.maxRetries := by
  unfold items at answered
  cases enough : r.patience with
  | zero =>
    rw [enough] at answered
    exact absurd answered (not_answers_throw _ _)
  | succ patience =>
    rw [enough] at answered
    obtain ⟨_, paged, _⟩ := Answering.task.bind answered
    obtain ⟨_, attempted, _⟩ := Answering.task.bind paged
    obtain ⟨located, tried⟩ := located_of_answers_attempt attempted
    exact ⟨located, by omega⟩

end Remote

end MadeToOrder
