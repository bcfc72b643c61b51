import MadeToOrder.Catalog.Remote
import MadeToOrder.Json.Reader

/-!
# Pages of a remote catalog

A collection is asked for page by page, and each page again as long as the request is lost and
an attempt is left. If every page is answered in time the rows are those of the pages, each
once and in order, and the page that is not full is the last one asked for. If a page is lost
too often, or its answer is refused, the work ends there.
-/

set_option autoImplicit false

namespace MadeToOrder

open Value (entry)

def Client.Task.on {α : Type} (task : Client.Task α) (client : Client) :
    Except Fault α × Client := task.run.run client

def Client.after (client : Client) (requests : List Request) : Client :=
  { client with sent := client.sent ++ requests }

theorem Client.after_after (client : Client) (first second : List Request) :
    (client.after first).after second = client.after (first ++ second) := by
  simp [after]

theorem Client.length_after (client : Client) (requests : List Request) :
    (client.after requests).sent.length = client.sent.length + requests.length :=
  List.length_append

theorem Client.after_nil (client : Client) : client.after [] = client := by
  simp [after]

namespace Client.Task

variable {α β : Type} {task : Client.Task α} {next : α → Client.Task β} {client after : Client}

theorem on_bind_ok {a : α} (h : task.on client = (.ok a, after)) :
    (task >>= next).on client = (next a).on after := by
  simp only [on, ExceptT.run_bind, StateT.run_bind] at h ⊢
  rw [h]
  rfl

theorem on_bind_error {fault : Fault} (h : task.on client = (.error fault, after)) :
    (task >>= next).on client = (.error fault, after) := by
  simp only [on, ExceptT.run_bind, StateT.run_bind] at h ⊢
  rw [h]
  rfl

theorem on_ofExcept (result : Except Fault α) :
    Task.on (MonadExcept.ofExcept result) client = (result, client) := by
  cases result <;> rfl

end Client.Task

namespace Json

theorem readValue_bracket (fuel levels n : Nat) :
    readValue (fuel + 1) levels (List.replicate (n + 1) '[') =
      if levels = 0 then .error .tooDeep
      else (readItems fuel (levels - 1) (List.replicate n '[')).map
        (fun (items, rest) => (.list items, rest)) := by
  rw [List.replicate_succ, readValue]
  cases n with
  | zero => rfl
  | succ n => rfl

/-- Lists that are opened in one another past the limit. -/
theorem readValue_brackets {levels fuel n : Nat} (deep : levels < n) (enough : 2 * levels < fuel) :
    readValue fuel levels (List.replicate n '[') = .error .tooDeep := by
  induction levels generalizing fuel n with
  | zero =>
    obtain ⟨n, rfl⟩ := Nat.exists_eq_succ_of_ne_zero (Nat.ne_of_gt deep)
    obtain ⟨fuel, rfl⟩ := Nat.exists_eq_succ_of_ne_zero (Nat.ne_of_gt enough)
    rw [readValue_bracket, if_pos rfl]
  | succ levels ih =>
    obtain ⟨n, rfl⟩ : ∃ m, n = m + 1 := ⟨n - 1, by omega⟩
    obtain ⟨fuel, rfl⟩ : ∃ m, fuel = m + 2 := ⟨fuel - 2, by omega⟩
    rw [readValue_bracket, if_neg (Nat.succ_ne_zero levels), readItems]
    have inner : readValue fuel levels (List.replicate n '[') = .error .tooDeep :=
      ih (by omega) (by omega)
    rw [Nat.add_sub_cancel, inner]
    rfl

/-- Lists that are never closed are no value, however many may stand in one another. -/
theorem readValue_brackets_ne_ok (fuel levels n : Nat) (read : Value × List Char) :
    readValue fuel levels (List.replicate n '[') ≠ .ok read := by
  -- A list inside a list is read with two less of the fuel.
  induction fuel using Nat.strongRecOn generalizing levels n read with
  | ind fuel ih =>
    cases fuel with
    | zero => simp [readValue]
    | succ fuel =>
      cases n with
      | zero =>
        have refused : readValue (fuel + 1) levels [] = .error .malformed := rfl
        simp [refused]
      | succ n =>
        rw [readValue_bracket]
        split
        · simp
        · cases fuel with
          | zero => simp [readItems, Except.map]
          | succ fuel =>
            rw [readItems]
            cases inner : readValue fuel (levels - 1) (List.replicate n '[') with
            | error refusal => simp [bind, Except.bind, Except.map]
            | ok read => exact absurd inner (ih fuel (by omega) _ _ _)

theorem read_brackets {n : Nat} (deep : deepest < n) :
    read (List.replicate n '[') = .error .tooDeep := by
  rw [read, readValue_brackets deep (by rw [List.length_replicate]; omega)]
  rfl

end Json

namespace Remote

structure Located (r : Remote) (collection : String) (url : Url) : Prop where
  place : ∃ base own, r.connection = .ok base ∧ collectionUrl collection = .ok own ∧
    own.below base = url
  typed : url.hasType = true

def Loses (r : Remote) (request : Request) (start : Nat) (reasons : List String) : Prop :=
  ∀ i reason, reasons[i]? = some reason → r.network (start + i) request = .lost reason

/-- What becomes of a page: some requests are lost, and one is not. -/
structure Turn where
  lost : List String
  reply : Reply

structure Happens (r : Remote) (request : Request) (start : Nat) (turn : Turn) : Prop where
  lost : r.Loses request start turn.lost
  replied : r.network (start + turn.lost.length) request = turn.reply

/-- Turns happen to the pages from one on, each after the one before. -/
def Plays (r : Remote) (url : Url) (q : Query) : Nat → Nat → List Turn → Prop
  | _, _, [] => True
  | start, page, turn :: rest =>
    r.Happens (r.request url q page) start turn ∧
      r.Plays url q (start + (turn.lost.length + 1)) (page + 1) rest

def pagesAsked : Nat → List Turn → List Nat
  | _, [] => []
  | page, turn :: rest =>
    List.replicate (turn.lost.length + 1) page ++ pagesAsked (page + 1) rest

/-- An answer that carries rows. -/
def Delivers (reply : Reply) (rows : List Value) : Prop :=
  ∃ status fs, 200 ≤ status ∧ status < 300 ∧ reply = .answer status (.ok (.object fs)) ∧
    entry fs "data" = .list rows

def Serves (retries size : Nat) (rows : List Value) (turns : List Turn) : Prop :=
  ∀ (k : Nat) (turn : Turn), turns[k]? = some turn →
    turn.lost.length ≤ retries ∧ Delivers turn.reply ((rows.drop (size * k)).take size)

/-- An answer that ends the work, and how. -/
inductive Refuses (collection : String) : Reply → Fault → Prop where
  | status {n : Nat} {body : Except Json.Refusal Value} (outside : n < 200 ∨ 300 ≤ n) :
    Refuses collection (.answer n body)
      (.unavailable s!"Catalog request failed with HTTP {n}")
  | malformed {n : Nat} (low : 200 ≤ n) (high : n < 300) :
    Refuses collection (.answer n (.error .malformed))
      (.unavailable s!"Catalog returned a non-JSON body for {collection}")
  | unexpected {n : Nat} {body : Value} (low : 200 ≤ n) (high : n < 300)
    (other : ∀ fs, body ≠ .object fs) :
    Refuses collection (.answer n (.ok body))
      (.unavailable s!"Catalog returned an unexpected body for {collection}")
  | tooDeep {n : Nat} (low : 200 ≤ n) (high : n < 300) :
    Refuses collection (.answer n (.error .tooDeep)) .tooDeep

variable {r : Remote} {collection : String} {url : Url} {q : Query} {client : Client}
  {request : Request} {turn : Turn} {turns first second : List Turn} {rows : List Value}
  {start number size retries : Nat}

theorem on_locate (located : r.Located collection url) (client : Client) :
    (r.locate collection).on client = (.ok url, client) := by
  obtain ⟨base, own, connected, found, rfl⟩ := located.place
  have first : r.connect.on client = (.ok base, client) := by
    rw [connect, Client.Task.on_ofExcept, connected]
  rw [locate, Client.Task.on_bind_ok first]
  exact Client.Task.on_bind_ok ((Client.Task.on_ofExcept _).trans (by rw [found]))

theorem on_send (request : Request) (client : Client) :
    (r.send request).on client =
      (.ok (r.network client.sent.length request), client.after [request]) := rfl

/-- One attempt: a request, and what becomes of it. -/
theorem on_attempt (located : r.Located collection url) (page : Nat) (reason : String)
    (tries : Nat) (client : Client) :
    (r.attempt collection q page reason (tries + 1)).on client =
      match r.network client.sent.length (r.request url q page) with
      | .lost reason =>
        (r.attempt collection q page reason tries).on (client.after [r.request url q page])
      | .broken fault => (.error fault, client.after [r.request url q page])
      | .answer status body =>
        (rowsOf collection status body, client.after [r.request url q page]) := by
  rw [attempt, Client.Task.on_bind_ok (on_locate located client),
    Client.Task.on_bind_ok (on_send _ client)]
  cases r.network client.sent.length (r.request url q page) with
  | lost reason => rfl
  | broken fault => rfl
  | answer status body =>
    dsimp only
    rw [if_pos located.typed, Client.Task.on_ofExcept]

theorem Loses.head {reason : String} {reasons : List String}
    (h : r.Loses request start (reason :: reasons)) : r.network start request = .lost reason :=
  h 0 reason rfl

theorem Loses.tail {reason : String} {reasons : List String}
    (h : r.Loses request start (reason :: reasons)) : r.Loses request (start + 1) reasons := by
  intro i later found
  rw [Nat.add_right_comm, Nat.add_assoc]
  exact h (i + 1) later found

/-- Lost requests use up attempts, and nothing else happens. -/
theorem on_attempt_of_lost (located : r.Located collection url) {reasons : List String}
    (lost : r.Loses (r.request url q number) client.sent.length reasons) (reason : String)
    (tries : Nat) :
    (r.attempt collection q number reason (reasons.length + tries)).on client =
      (r.attempt collection q number (reasons.getLastD reason) tries).on
        (client.after (List.replicate reasons.length (r.request url q number))) := by
  induction reasons generalizing client reason with
  | nil => simp [Client.after_nil]
  | cons next reasons ih =>
    have later : r.Loses (r.request url q number)
        (client.after [r.request url q number]).sent.length reasons := by
      rw [Client.length_after]
      exact lost.tail
    rw [List.length_cons, Nat.add_right_comm, on_attempt located, lost.head]
    dsimp only
    rw [ih later next, Client.after_after, List.getLastD_cons, List.replicate_succ]
    rfl

/-- A page is given up when the last attempt is lost. -/
theorem on_page_of_lost (located : r.Located collection url) (retried : r.maxRetries = retries)
    {reasons : List String} (all : reasons.length = retries + 1)
    (lost : r.Loses (r.request url q number) client.sent.length reasons) :
    (r.page collection q number).on client =
      (.error (r.unreachable (reasons.getLastD "None")),
        client.after (List.replicate (retries + 1) (r.request url q number))) := by
  have tries : (r.maxRetries + 1).toNat = reasons.length + 0 := by omega
  refine Client.Task.on_bind_error ?_
  rw [tries, on_attempt_of_lost located lost, all]
  rfl

/-- An answer in time decides about the page. -/
theorem on_page_of_answer (located : r.Located collection url) (retried : r.maxRetries = retries)
    (inTime : turn.lost.length ≤ retries)
    (happens : r.Happens (r.request url q number) client.sent.length turn) {status : Nat}
    {body : Except Json.Refusal Value} (answer : turn.reply = .answer status body) :
    (r.page collection q number).on client =
      (rowsOf collection status body >>= Value.iterate,
        client.after (List.replicate (turn.lost.length + 1) (r.request url q number))) := by
  have tries : (r.maxRetries + 1).toNat =
      turn.lost.length + (retries - turn.lost.length + 1) := by omega
  have attempted : (r.attempt collection q number "None" (r.maxRetries + 1).toNat).on client =
      (rowsOf collection status body,
        client.after (List.replicate (turn.lost.length + 1) (r.request url q number))) := by
    rw [tries, on_attempt_of_lost located happens.lost, on_attempt located, Client.length_after,
      List.length_replicate, happens.replied, answer]
    dsimp only
    rw [Client.after_after, List.replicate_succ']
  cases given : rowsOf collection status body with
  | error fault => exact Client.Task.on_bind_error (given ▸ attempted)
  | ok rows =>
    exact (Client.Task.on_bind_ok (given ▸ attempted)).trans (Client.Task.on_ofExcept _)

theorem not_outside {status : Nat} (low : 200 ≤ status) (high : status < 300) :
    ¬(decide (status < 200) || decide (300 ≤ status)) = true := by
  simp
  omega

theorem Delivers.answered {reply : Reply} (h : Delivers reply rows) (collection : String) :
    ∃ status body, reply = .answer status body ∧
      rowsOf collection status body >>= Value.iterate = .ok rows := by
  obtain ⟨status, fs, low, high, answer, listed⟩ := h
  refine ⟨status, _, answer, ?_⟩
  unfold rowsOf
  rw [if_neg (not_outside low high)]
  dsimp only
  rw [listed]
  cases rows with
  | nil => rfl
  | cons row rows => rfl

theorem Refuses.answered {reply : Reply} {fault : Fault} (h : Refuses collection reply fault) :
    ∃ status body, reply = .answer status body ∧
      rowsOf collection status body >>= Value.iterate = .error fault := by
  cases h with
  | status outside =>
    refine ⟨_, _, rfl, ?_⟩
    unfold rowsOf
    rw [if_pos (by simpa using outside)]
    rfl
  | malformed low high =>
    refine ⟨_, _, rfl, ?_⟩
    unfold rowsOf
    rw [if_neg (not_outside low high)]
    rfl
  | unexpected low high other =>
    refine ⟨_, _, rfl, ?_⟩
    unfold rowsOf
    rw [if_neg (not_outside low high)]
    split
    · contradiction
    · contradiction
    · rename_i same
      exact absurd (Except.ok.inj same) (other _)
    · rfl
  | tooDeep low high =>
    refine ⟨_, _, rfl, ?_⟩
    unfold rowsOf
    rw [if_neg (not_outside low high)]
    rfl

theorem le_of_mem_pagesAsked {page : Nat} (h : page ∈ pagesAsked number turns) :
    number ≤ page := by
  induction turns generalizing number with
  | nil => cases h
  | cons turn rest ih =>
    rcases List.mem_append.mp h with repeated | later
    · exact Nat.le_of_eq (List.eq_of_mem_replicate repeated).symm
    · exact Nat.le_of_succ_le (ih later)

/-- Each page is asked for, in order, and no other. -/
theorem eraseDups_pagesAsked :
    (pagesAsked number turns).eraseDups = List.range' number turns.length := by
  induction turns generalizing number with
  | nil => rfl
  | cons turn rest ih =>
    have others : (pagesAsked (number + 1) rest).filter (fun page => !page == number) =
        pagesAsked (number + 1) rest := by
      refine List.filter_eq_self.mpr (fun page member => ?_)
      have above := le_of_mem_pagesAsked member
      simp
      omega
    rw [pagesAsked, List.replicate_succ, List.cons_append, List.eraseDups_cons,
      List.filter_append, others, List.filter_eq_nil_iff.mpr (by simp), List.nil_append, ih]
    rfl

theorem pagesAsked_append : pagesAsked number (first ++ second) =
    pagesAsked number first ++ pagesAsked (number + first.length) second := by
  induction first generalizing number with
  | nil => rfl
  | cons turn rest ih =>
    rw [List.cons_append, pagesAsked, pagesAsked, ih, List.append_assoc, List.length_cons,
      Nat.add_right_comm, Nat.add_assoc]

theorem plays_append : r.Plays url q start number (first ++ second) ↔
    r.Plays url q start number first ∧
      r.Plays url q (start + (pagesAsked number first).length) (number + first.length) second := by
  induction first generalizing start number with
  | nil => simp [Plays, pagesAsked]
  | cons turn rest ih =>
    simp only [List.cons_append, Plays, ih, pagesAsked, List.length_append, List.length_replicate,
      List.length_cons, and_assoc, Nat.add_assoc, Nat.add_comm 1]

theorem Serves.head (h : Serves retries size rows (turn :: turns)) :
    turn.lost.length ≤ retries ∧ Delivers turn.reply (rows.take size) := by
  simpa using h 0 turn rfl

theorem Serves.tail (h : Serves retries size rows (turn :: turns)) :
    Serves retries size (rows.drop size) turns := by
  intro k later found
  obtain ⟨inTime, delivers⟩ := h (k + 1) later found
  rw [Nat.mul_succ, Nat.add_comm, ← List.drop_drop] at delivers
  exact ⟨inTime, delivers⟩

theorem on_pagesFrom_of_full {after last : Client} {patience : Nat}
    {others : Except Fault (List Value)}
    (page : (r.page collection q number).on client = (.ok rows, after))
    (full : r.pageSize ≤ rows.length)
    (behind : (r.pagesFrom collection q (number + 1) patience).on after = (others, last)) :
    (r.pagesFrom collection q number (patience + 1)).on client =
      (others.map (rows ++ ·), last) := by
  rw [pagesFrom, Client.Task.on_bind_ok page, if_neg (by omega)]
  cases others with
  | error fault => exact Client.Task.on_bind_error behind
  | ok others => exact Client.Task.on_bind_ok behind

theorem on_pagesFrom_of_last {after : Client}
    (page : (r.page collection q number).on client = (.ok rows, after))
    (last : rows.length < r.pageSize) (patience : Nat) :
    (r.pagesFrom collection q number (patience + 1)).on client = (.ok rows, after) := by
  rw [pagesFrom, Client.Task.on_bind_ok page, if_pos last]
  rfl

theorem on_pagesFrom_of_error {after : Client} {fault : Fault}
    (page : (r.page collection q number).on client = (.error fault, after)) (patience : Nat) :
    (r.pagesFrom collection q number (patience + 1)).on client = (.error fault, after) := by
  rw [pagesFrom, Client.Task.on_bind_error page]

theorem on_page_of_delivered (located : r.Located collection url)
    (retried : r.maxRetries = retries) (inTime : turn.lost.length ≤ retries)
    (happens : r.Happens (r.request url q number) client.sent.length turn)
    (delivers : Delivers turn.reply rows) :
    (r.page collection q number).on client = (.ok rows,
      client.after (List.replicate (turn.lost.length + 1) (r.request url q number))) := by
  obtain ⟨status, body, answer, carried⟩ := delivers.answered collection
  rw [on_page_of_answer located retried inTime happens answer, carried]

theorem on_page_of_refused (located : r.Located collection url)
    (retried : r.maxRetries = retries) (inTime : turn.lost.length ≤ retries)
    (happens : r.Happens (r.request url q number) client.sent.length turn) {fault : Fault}
    (refused : Refuses collection turn.reply fault) :
    (r.page collection q number).on client = (.error fault,
      client.after (List.replicate (turn.lost.length + 1) (r.request url q number))) := by
  obtain ⟨status, body, answer, ends⟩ := refused.answered
  rw [on_page_of_answer located retried inTime happens answer, ends]

/-- Full pages come before what the pages behind them give. -/
theorem on_pagesFrom_of_served (located : r.Located collection url) (limit : r.pageSize = size)
    (retried : r.maxRetries = retries)
    (plays : r.Plays url q client.sent.length number turns)
    (serves : Serves retries size rows turns) (full : size * turns.length ≤ rows.length)
    {patience : Nat} {others : Except Fault (List Value)} {last : Client}
    (behind : (r.pagesFrom collection q (number + turns.length) patience).on
      (client.after ((pagesAsked number turns).map (r.request url q))) = (others, last)) :
    (r.pagesFrom collection q number (turns.length + patience)).on client =
      (others.map (rows.take (size * turns.length) ++ ·), last) := by
  induction turns generalizing rows number client others with
  | nil =>
    rw [List.length_nil, Nat.zero_add]
    cases others <;> simpa [pagesAsked, Client.after_nil, Except.map] using behind
  | cons turn rest ih =>
    obtain ⟨inTime, delivers⟩ := serves.head
    obtain ⟨happens, later⟩ := plays
    have paged := on_page_of_delivered located retried inTime happens delivers
    rw [List.length_cons, Nat.mul_succ] at full
    have taken : r.pageSize ≤ (rows.take size).length := by
      rw [limit, List.length_take]
      omega
    have remaining : size * rest.length ≤ (rows.drop size).length := by
      rw [List.length_drop]
      omega
    have next : r.Plays url q (client.after (List.replicate (turn.lost.length + 1)
        (r.request url q number))).sent.length (number + 1) rest := by
      rw [Client.length_after, List.length_replicate]
      exact later
    -- What lies behind all pages lies behind the rest of them, once this page was asked for.
    rw [pagesAsked, List.map_append, List.map_replicate, ← Client.after_after, List.length_cons,
      ← Nat.add_assoc, Nat.add_right_comm] at behind
    rw [List.length_cons, Nat.add_right_comm,
      on_pagesFrom_of_full paged taken (ih next serves.tail remaining behind), Nat.mul_succ,
      Nat.add_comm (size * rest.length), List.take_add]
    cases others with
    | error fault => rfl
    | ok others => simp [Except.map]

/-- What ends the work on a page ends it for the collection. -/
theorem on_items_of_error (located : r.Located collection url) (limit : r.pageSize = size)
    (positive : 1 ≤ size) (retried : r.maxRetries = retries)
    (patient : rows.length / size < r.patience)
    (plays : r.Plays url q client.sent.length 1 turns)
    (serves : Serves retries size rows turns) (few : turns.length ≤ rows.length / size)
    {fault : Fault} {last : Client}
    (page : (r.page collection q (turns.length + 1)).on
      (client.after ((pagesAsked 1 turns).map (r.request url q))) = (.error fault, last)) :
    (r.items collection q).on client = (.error fault, last) := by
  obtain ⟨patience, enough⟩ : ∃ patience, r.patience = turns.length + (patience + 1) :=
    ⟨r.patience - turns.length - 1, by omega⟩
  have full : size * turns.length ≤ rows.length :=
    Nat.mul_comm _ _ ▸ (Nat.le_div_iff_mul_le positive).mp few
  rw [Nat.add_comm] at page
  rw [items, enough, on_pagesFrom_of_served located limit retried plays serves full
    (on_pagesFrom_of_error page patience)]
  rfl

/-- The page that is not full is the last one. -/
theorem on_items_of_all (located : r.Located collection url) (limit : r.pageSize = size)
    (positive : 1 ≤ size) (retried : r.maxRetries = retries)
    (patient : rows.length / size < r.patience)
    (plays : r.Plays url q client.sent.length 1 turns)
    (serves : Serves retries size rows turns) (all : turns.length = rows.length / size + 1) :
    (r.items collection q).on client =
      (.ok rows, client.after ((pagesAsked 1 turns).map (r.request url q))) := by
  obtain ⟨full, last, rfl⟩ : ∃ full last, turns = full ++ [last] := by
    rcases List.eq_nil_or_concat turns with rfl | split
    · cases all
    · simpa using split
  have pages : full.length = rows.length / size := by simpa using all
  obtain ⟨patience, enough⟩ : ∃ patience, r.patience = full.length + (patience + 1) :=
    ⟨r.patience - full.length - 1, by omega⟩
  obtain ⟨playsFull, happens, -⟩ := plays_append.mp plays
  have servesFull : Serves retries size rows full := fun k turn found =>
    serves k turn (by rw [List.getElem?_append_left (List.getElem?_eq_some_iff.mp found).1, found])
  have bounded : size * full.length ≤ rows.length := pages ▸ Nat.mul_div_le rows.length size
  have short : rows.length - size * full.length < size := by
    have remainder := Nat.div_add_mod rows.length size
    have less := Nat.mod_lt rows.length positive
    rw [← pages] at remainder
    omega
  -- The part that is left for the last page is shorter than a page, so it is all that is left.
  obtain ⟨inTime, delivers⟩ := serves full.length last (by simp)
  rw [List.take_of_length_le (by rw [List.length_drop]; omega)] at delivers
  have placed : r.Happens (r.request url q (1 + full.length)) (client.after
      ((pagesAsked 1 full).map (r.request url q))).sent.length last := by
    rw [Client.length_after, List.length_map]
    exact happens
  have paged := on_page_of_delivered located retried inTime placed delivers
  have notFull : (rows.drop (size * full.length)).length < r.pageSize := by
    rw [limit, List.length_drop]
    omega
  rw [items, enough, on_pagesFrom_of_served located limit retried playsFull servesFull bounded
    (on_pagesFrom_of_last paged notFull patience), Client.after_after, pagesAsked_append,
    List.map_append]
  simp [Except.map, pagesAsked]

def scripted (replies : List Reply) : Remote where
  baseUrl := "https://catalog.example.com"
  token := none
  pageSize := 2
  maxRetries := 1
  network n _ := replies[n]?.getD (.lost "closed")
  patience := 3

def bareUrl : Url := ⟨"https", "", "catalog.example.com", none, "", none⟩

theorem connection_of_bare (address : r.baseUrl = "https://catalog.example.com")
    (bare : r.token = none) : r.connection = .ok bareUrl := by
  rw [connection, tokenHeader, address, bare]
  rfl

def rulesUrl : Url := ⟨"https", "", "catalog.example.com", none, "/items/rules", none⟩

theorem located_of_bare (address : r.baseUrl = "https://catalog.example.com")
    (bare : r.token = none) : r.Located "rules" rulesUrl :=
  ⟨⟨bareUrl, ⟨"", "", "", none, "/items/rules", none⟩, connection_of_bare address bare, rfl, rfl⟩,
    rfl⟩

def script (turns : List Turn) : List Reply :=
  turns.flatMap (fun turn => turn.lost.map Reply.lost ++ [turn.reply])

theorem plays_after_script (before behind : List Reply) (number : Nat) :
    (scripted (before ++ (script turns ++ behind))).Plays url q before.length number turns := by
  induction turns generalizing before number with
  | nil => trivial
  | cons turn rest ih =>
    refine ⟨⟨fun i reason found => ?_, ?_⟩, ?_⟩
    · obtain ⟨within, rfl⟩ := List.getElem?_eq_some_iff.mp found
      simp [scripted, script, List.getElem?_append_right, List.getElem?_append_left, within]
    · simp [scripted, script]
    · have later := ih (before ++ (turn.lost.map Reply.lost ++ [turn.reply])) (number + 1)
      simpa [script] using later

/-- Any turns can happen, one after the other. -/
theorem plays_script (turns : List Turn) (behind : List Reply) :
    (scripted (script turns ++ behind)).Plays url q 0 number turns :=
  plays_after_script [] behind number

def fourRules : List Value :=
  [.object [("id", .int 1)], .object [("id", .int 2)], .object [("id", .int 3)],
    .object [("id", .int 4)]]

def sheet (rows : List Value) : Reply := .answer 200 (.ok (.object [("data", .list rows)]))

theorem delivers_sheet (rows : List Value) : Delivers (sheet rows) rows :=
  ⟨200, _, by decide, by decide, rfl, rfl⟩

def firstTurn : Turn := ⟨["timed out"], sheet (fourRules.take 2)⟩

def threeTurns : List Turn := [firstTurn, ⟨[], sheet (fourRules.drop 2)⟩, ⟨["reset"], sheet []⟩]

theorem serves_threeTurns : Serves 1 2 fourRules threeTurns := by
  intro k turn found
  rcases k with _ | _ | _ | k <;> cases found
  all_goals exact ⟨by decide, delivers_sheet _⟩

theorem serves_firstTurn : Serves 1 2 fourRules [firstTurn] := by
  intro k turn found
  rcases k with _ | k <;> cases found
  exact ⟨by decide, delivers_sheet _⟩

/-- Rows of a remote catalog are gathered page by page, each page asked for at most as often as
there are attempts. If all pages up to the one that is not full are answered in time, the rows
come in order, each once. If the next page is lost as often as it may be asked for, or answered by
something that is no page, the work ends with that, without a further request. -/
theorem items_of_turns (located : r.Located collection url) (limit : r.pageSize = size)
    (positive : 1 ≤ size) (retried : r.maxRetries = retries)
    (patient : rows.length / size < r.patience)
    (plays : r.Plays url q client.sent.length 1 turns)
    (serves : Serves retries size rows turns) :
    (turns.length = rows.length / size + 1 →
      (r.items collection q).on client =
        (.ok rows, client.after ((pagesAsked 1 turns).map (r.request url q))) ∧
      (pagesAsked 1 turns).eraseDups = List.range' 1 (rows.length / size + 1)) ∧
    (turns.length ≤ rows.length / size → ∀ sofar next,
      sofar = client.after ((pagesAsked 1 turns).map (r.request url q)) →
      next = r.request url q (turns.length + 1) →
      (∀ reasons, reasons.length = retries + 1 → r.Loses next sofar.sent.length reasons →
        (r.items collection q).on client =
          (.error (r.unreachable (reasons.getLastD "None")),
            sofar.after (List.replicate (retries + 1) next))) ∧
      ∀ turn fault, turn.lost.length ≤ retries → r.Happens next sofar.sent.length turn →
        Refuses collection turn.reply fault →
        (r.items collection q).on client =
          (.error fault, sofar.after (List.replicate (turn.lost.length + 1) next))) := by
  refine ⟨fun all => ⟨on_items_of_all located limit positive retried patient plays serves all,
    by rw [eraseDups_pagesAsked, all]⟩, ?_⟩
  rintro few sofar next rfl rfl
  refine ⟨fun reasons all lost => ?_, fun turn fault inTime happens refused => ?_⟩
  · exact on_items_of_error located limit positive retried patient plays serves few
      (on_page_of_lost located retried all lost)
  · exact on_items_of_error located limit positive retried patient plays serves few
      (on_page_of_refused located retried inTime happens refused)

/-- Four rows come on three pages, of which the last is empty. Where the second page is lost twice
or not found, that is the end. -/
theorem four_rules_on_three_pages :
    (∀ replies, (scripted replies).Located "rules" rulesUrl) ∧
    fourRules.length / 2 < (scripted []).patience ∧
    (scripted (script threeTurns)).Plays rulesUrl .all 0 1 threeTurns ∧
    Serves 1 2 fourRules threeTurns ∧ Serves 1 2 fourRules [firstTurn] ∧
    ((scripted (script threeTurns)).items "rules" .all).on Client.fresh =
      (.ok fourRules, Client.fresh.after
        ([1, 1, 2, 3, 3].map ((scripted (script threeTurns)).request rulesUrl .all))) ∧
    ((scripted (script [firstTurn] ++ [.lost "reset", .lost "timed out"])).items "rules" .all).on
        Client.fresh =
      (.error (.unavailable "Catalog unreachable after 2 attempts: timed out"),
        Client.fresh.after ([1, 1, 2, 2].map ((scripted (script [firstTurn] ++
          [.lost "reset", .lost "timed out"])).request rulesUrl .all))) ∧
    ((scripted (script [firstTurn] ++ [.answer 404 (.error .malformed)])).items "rules" .all).on
        Client.fresh =
      (.error (.unavailable "Catalog request failed with HTTP 404"),
        Client.fresh.after ([1, 1, 2].map ((scripted (script [firstTurn] ++
          [.answer 404 (.error .malformed)])).request rulesUrl .all))) := by
  have plays : (scripted (script threeTurns)).Plays rulesUrl .all 0 1 threeTurns :=
    List.append_nil (script threeTurns) ▸ plays_script threeTurns []
  refine ⟨fun _ => located_of_bare rfl rfl, by decide, plays, serves_threeTurns, serves_firstTurn,
    ?_, ?_, ?_⟩
  · exact ((items_of_turns (located_of_bare rfl rfl) rfl (by decide) rfl (by decide) plays
      serves_threeTurns).1 rfl).1
  · refine ((items_of_turns (located_of_bare rfl rfl) rfl (by decide) rfl (by decide)
      (plays_script [firstTurn] _) serves_firstTurn).2 (by decide) _ _ rfl rfl).1
      ["reset", "timed out"] rfl ?_
    rintro (_ | _ | i) reason found <;> cases found
    all_goals rfl
  · refine ((items_of_turns (located_of_bare rfl rfl) rfl (by decide) rfl (by decide)
      (plays_script [firstTurn] _) serves_firstTurn).2 (by decide) _ _ rfl rfl).2
      ⟨[], .answer 404 (.error .malformed)⟩ _ (by decide) ⟨?_, rfl⟩ (.status (by decide))
    rintro i reason found
    cases found

/-- Opening brackets alone are no document, but the page is not refused as one that is none. -/
theorem brackets_end_as_too_deep :
    (∀ fuel levels read, Json.readValue fuel levels (List.replicate 20000 '[') ≠ .ok read) ∧
    ((scripted [.answer 200 (Json.read (List.replicate 20000 '['))]).items "rules" .all).on
        Client.fresh =
      (.error .tooDeep, Client.fresh.after
        [(scripted [.answer 200 (Json.read (List.replicate 20000 '['))]).request rulesUrl .all 1]) ∧
    ∀ message, Fault.tooDeep ≠ .unavailable message := by
  refine ⟨fun fuel levels => Json.readValue_brackets_ne_ok fuel levels 20000, ?_, by simp⟩
  rw [Json.read_brackets (by decide)]
  let r := scripted [.answer 200 (.error .tooDeep)]
  have located : r.Located "rules" rulesUrl := located_of_bare rfl rfl
  have plays : r.Plays rulesUrl .all Client.fresh.sent.length 1 [] := trivial
  have serves : Serves 1 2 [] [] := fun k turn found => by cases found
  have happens : r.Happens (r.request rulesUrl .all 1) Client.fresh.sent.length
      ⟨[], .answer 200 (.error .tooDeep)⟩ := ⟨fun i reason found => (by cases found), rfl⟩
  have refused : Refuses "rules" (.answer 200 (.error .tooDeep)) .tooDeep :=
    .tooDeep (by decide) (by decide)
  exact on_items_of_error located rfl (by decide) rfl (by decide) plays serves (by decide)
    (on_page_of_refused located rfl (by decide) happens refused)

end Remote

end MadeToOrder
