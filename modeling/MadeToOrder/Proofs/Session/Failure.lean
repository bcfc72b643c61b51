import MadeToOrder.Session

/-!
# Failed operations

An operation computes before it writes, so one that fails leaves the session as
it was and sends nothing. There are two exceptions. A refresh pins the new
snapshot first, so the state that stays may not be of the snapshot. A reset that
presets options is two operations, and the first one stays done when the second
one fails.
-/

set_option autoImplicit false

namespace MadeToOrder

def Ran.done {α : Type} (r : Ran α) : Ran Unit :=
  ⟨r.session, r.events, r.answer.map (fun _ => ())⟩

def Ran.Untouched {α : Type} (r : Ran α) (s : Session) : Prop := r.session = s ∧ r.events = []

theorem Ran.answer_of_done {α : Type} {r : Ran α} {fault : Fault}
    (h : r.done.answer = .error fault) : r.answer = .error fault :=
  map_eq_error.mp h

namespace Session

inductive Operation where
  | set (field : String) (v : Value)
  | update (changes : Selection)
  | reset (useFirst : Bool)
  | load (sku : Value)
  | refresh (limit : Value)

def perform (s : Session) (supply : Supply) (asOf : String) (now : Moment) :
    Operation → Ran Unit
  | .set field v => (s.set field v now).done
  | .update changes => (s.update changes now).done
  | .reset useFirst => (s.reset useFirst now).done
  | .load sku => (s.load sku now).done
  | .refresh limit => (s.refreshWithin supply limit asOf now).2.done

/-- Sessions that come of operations, failed ones among them, while the source
behaves in any way and the catalog changes. -/
inductive Reachable : Session → Prop
  | start {supply : Supply} {snapshot : Snapshot} {asOf : String} {settings : Settings}
      {line : Value} {now : Moment} {s : Session}
      (current : (supply.current asOf).2 = .ok snapshot)
      (started : start snapshot settings line now = .ok s) : Reachable s
  | perform {s : Session} (h : Reachable s) (supply : Supply) (asOf : String) (now : Moment)
      (op : Operation) : Reachable (s.perform supply asOf now op).session
  | subscribe {s : Session} (h : Reachable s) (listener : String) :
      Reachable (s.subscribe listener)
  | unsubscribe {s : Session} (h : Reachable s) (listener : String) :
      Reachable (s.unsubscribe listener)

variable {s : Session} {now : Moment} {fault : Fault}

theorem apply_failed {selection : Selection} {leading : List Event}
    (h : (s.apply selection leading now).answer = .error fault) :
    (s.apply selection leading now).Untouched s := by
  unfold apply at h ⊢
  cases computed : Configuration.recompute selection s.snapshot s.settings with
  | error other => exact ⟨rfl, rfl⟩
  | ok r =>
    rw [computed] at h
    cases h

theorem update_failed {changes : Selection} (h : (s.update changes now).answer = .error fault) :
    (s.update changes now).Untouched s := by
  unfold update at h ⊢
  cases checked : s.checkLine changes with
  | error other => exact ⟨rfl, rfl⟩
  | ok found =>
    rw [checked] at h
    exact apply_failed h

theorem load_failed {sku : Value} (h : (s.load sku now).answer = .error fault) :
    (s.load sku now).Untouched s := by
  unfold load at h ⊢
  cases read : Sku.parse sku s.snapshot.codeFields s.snapshot .null s.settings.separators with
  | error other => exact ⟨rfl, rfl⟩
  | ok parsed =>
    rw [read] at h
    exact apply_failed (map_eq_error.mp h)

theorem preset_failed {state : State} (h : (s.preset state now).answer = .error fault) :
    (s.preset state now).Untouched s := by
  unfold preset at h ⊢
  cases configured : state.configured with
  | none =>
    rw [configured] at h
    cases h
  | some c =>
    rw [configured] at h
    dsimp only at h ⊢
    cases found : firstOptions s.snapshot c.availability s.snapshot.table.specs with
    | error other => exact ⟨rfl, rfl⟩
    | ok chosen =>
      rw [found] at h
      cases chosen with
      | nil => cases h
      | cons first rest => exact update_failed h

/-- A plain reset is the first half of a reset that presets options. -/
theorem reset_failed {useFirst : Bool} (h : (s.reset useFirst now).answer = .error fault) :
    (s.reset useFirst now).Untouched s ∨ useFirst = true ∧ ∃ state,
      s.reset false now =
        ⟨(s.reset useFirst now).session, (s.reset useFirst now).events, .ok state⟩ := by
  unfold reset Ran.andThen at h ⊢
  cases cleared : (s.apply s.lineOnly [.cleared] now).answer with
  | error other =>
    obtain ⟨same, silent⟩ := apply_failed cleared
    exact Or.inl ⟨same, silent⟩
  | ok state =>
    rw [cleared] at h
    dsimp only at h ⊢
    cases useFirst with
    | false => cases h
    | true =>
      -- The presets are an update of their own, and that one did nothing.
      obtain ⟨same, silent⟩ := preset_failed h
      refine Or.inr ⟨rfl, state, ?_⟩
      simp only [if_true, Bool.false_eq_true, if_false, same, silent]

theorem refreshWithin_failed {supply : Supply} {limit : Value} {asOf : String}
    (h : (s.refreshWithin supply limit asOf now).2.answer = .error fault) :
    (s.refreshWithin supply limit asOf now).2.Untouched s ∨
      ∃ refreshed, (supply.refresh limit asOf).2 = .ok refreshed ∧
        (s.refreshWithin supply limit asOf now).2.Untouched
          { s with snapshot := refreshed.snapshot } := by
  unfold refreshWithin at h ⊢
  cases fetched : supply.refresh limit asOf with
  | mk after result =>
    rw [fetched] at h
    cases result with
    | error other => exact Or.inl ⟨rfl, rfl⟩
    | ok refreshed => exact Or.inr ⟨refreshed, rfl, apply_failed h⟩

/-- A failed operation leaves the session as it was and sends nothing, but for a
refresh, which leaves the snapshot that it fetched, and a reset that presets
options, which leaves the session and the events of a plain reset. -/
theorem perform_failed (s : Session) (supply : Supply) (asOf : String) (now : Moment)
    (op : Operation) (fault : Fault) (h : (s.perform supply asOf now op).answer = .error fault) :
    (s.perform supply asOf now op).Untouched s ∨
    (∃ limit refreshed, op = .refresh limit ∧ (supply.refresh limit asOf).2 = .ok refreshed ∧
      (s.perform supply asOf now op).Untouched { s with snapshot := refreshed.snapshot }) ∨
    op = .reset true ∧ ∃ state, s.reset false now =
      ⟨(s.perform supply asOf now op).session, (s.perform supply asOf now op).events,
        .ok state⟩ := by
  cases op with
  | set field v => exact Or.inl (update_failed (Ran.answer_of_done h))
  | update changes => exact Or.inl (update_failed (Ran.answer_of_done h))
  | load sku => exact Or.inl (load_failed (Ran.answer_of_done h))
  | reset useFirst =>
    rcases reset_failed (Ran.answer_of_done h) with untouched | ⟨rfl, state, plain⟩
    · exact Or.inl untouched
    · exact Or.inr (Or.inr ⟨rfl, state, plain⟩)
  | refresh limit =>
    rcases refreshWithin_failed (Ran.answer_of_done h) with untouched | ⟨refreshed, fetched, kept⟩
    · exact Or.inl untouched
    · exact Or.inr (Or.inl ⟨limit, refreshed, rfl, fetched, kept⟩)

def mirrorTable : FieldTable :=
  ⟨[⟨"product_lines", "line", "line", "Line", true, false, false⟩,
    ⟨"sizes", "size", "size", "Size", true, false, false⟩,
    ⟨"colors", "color", "color", "Color", false, false, false⟩], by decide, by decide, by decide⟩

def lineDocument (line : String) : Value :=
  .object [
    ("product_lines", .list [.object [("id", .text line), ("sku_code", .text "D"),
      ("default_options", .object [("sizes", .list [.text "--1"]),
        ("colors", .list [.text "red"])])]]),
    ("options", .object [("sizes", .list [.object [("id", .text "--1")]]),
      ("colors", .list [.object [("id", .text "red")]])]),
    ("sku_code_order", .list [.object [("collection", .text "product_lines"), ("order", .int 1),
      ("enabled", .bool true)]])]

def supplyOf (line : String) : Supply :=
  Supply.ofFeed mirrorTable (Feed.ofFile (.document (lineDocument line))) .null

def openDeco : Except Fault Session := do
  let snapshot ← ((supplyOf "deco").current "first").2
  start snapshot Settings.standard (.text "deco") 0

theorem unknown_line_refused :
    ∃ s, openDeco = .ok s ∧
      (s.perform (supplyOf "deco") "second" 1 (.set "line" (.text "neo"))).Untouched s := by
  obtain ⟨s, opened⟩ : ∃ s, openDeco = .ok s := ⟨_, rfl⟩
  refine ⟨s, opened, ?_⟩
  have failed : (s.perform (supplyOf "deco") "second" 1 (.set "line" (.text "neo"))).answer =
      .error (.unknownLine (.text "neo")) := by
    obtain rfl := Except.ok.inj opened
    rfl
  rcases perform_failed s _ _ _ _ _ failed with untouched | ⟨_, _, other, _⟩ | ⟨other, _⟩
  · exact untouched
  · cases other
  · cases other

/-- When the line of a session is gone, a refresh fails and leaves the new
snapshot. When no size can be preset, a reset that presets options fails after it
cleared the color and told the listeners. -/
theorem failures_leave_traces :
    (¬∀ s, Reachable s → ∀ supply asOf now op fault,
      (s.perform supply asOf now op).answer = .error fault →
      (s.perform supply asOf now op).session.snapshot = s.snapshot) ∧
    (¬∀ s, Reachable s → ∀ supply asOf now op fault,
      (s.perform supply asOf now op).answer = .error fault →
      (s.perform supply asOf now op).session.state = s.state) ∧
    ¬∀ s, Reachable s → ∀ supply asOf now op fault,
      (s.perform supply asOf now op).answer = .error fault →
      deliveries s.listeners (s.perform supply asOf now op).events = [] := by
  have reached : ∃ s, openDeco = .ok s ∧ Reachable s :=
    ⟨_, rfl, @Reachable.start (supplyOf "deco") _ "first" Settings.standard (.text "deco") 0 _
      rfl rfl⟩
  refine ⟨fun kept => ?_, fun kept => ?_, fun silent => ?_⟩
  · obtain ⟨s, opened, reachable⟩ := reached
    obtain rfl := Except.ok.inj opened
    have same := kept _ reachable (supplyOf "neo") "second" 1 (.refresh .null)
      (.unknownLine (.text "deco")) rfl
    exact absurd (congrArg Snapshot.asOf same) (by decide)
  · obtain ⟨s, opened, reachable⟩ := reached
    obtain rfl := Except.ok.inj opened
    have same := kept _ ((reachable.perform (supplyOf "deco") "first" 1
      (.set "color" (.text "red")))) (supplyOf "deco") "first" 2 (.reset true) _ rfl
    exact absurd (congrArg (fun state => state.selection.length) same) (by decide)
  · obtain ⟨s, opened, reachable⟩ := reached
    obtain rfl := Except.ok.inj opened
    have none_sent := silent _ (reachable.subscribe "page") (supplyOf "deco") "first" 1
      (.reset true) _ rfl
    exact absurd (congrArg List.length none_sent) (by decide)

end Session

end MadeToOrder
