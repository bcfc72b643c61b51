import MadeToOrder.Catalog.Supply
import MadeToOrder.Configuration
import MadeToOrder.Sku.Parse

/-!
# Sessions

One configuration in progress. A session works on the snapshot it was opened
with until it is told to refresh it. Every operation answers with the session
afterwards, the events it sent to the listeners, and its result or its fault;
what was done before a fault stays done.

Listeners are taken to return, and not to call the session back. The operations of a session
take values only; tuples and sets are read where a configuration is computed directly.
-/

set_option autoImplicit false

namespace MadeToOrder

abbrev Moment := Int

structure Session where
  snapshot : Snapshot
  settings : Settings
  state : State
  /-- Listeners in the order of their subscriptions; one may subscribe twice. -/
  listeners : List String
  lastActivity : Moment

structure Ran (α : Type) where
  session : Session
  events : List Event
  answer : Except Fault α

namespace Ran

def andThen {α β : Type} (r : Ran α) (next : Session → α → Ran β) : Ran β :=
  match r.answer with
  | .error fault => ⟨r.session, r.events, .error fault⟩
  | .ok a =>
    let after := next r.session a
    { after with events := r.events ++ after.events }

end Ran

namespace Session

def initialSelection (snapshot : Snapshot) (line : Value) : Except Fault Selection :=
  match snapshot.table.lineSpec? with
  | none => .ok []
  | some spec =>
    if line.isNull then .ok []
    else do
      let _ ← snapshot.line line
      return [(spec.field, .text line.plain)]

def start (snapshot : Snapshot) (settings : Settings) (line : Value) (now : Moment) :
    Except Fault Session := do
  let selection ← initialSelection snapshot line
  let (state, _) ← Configuration.recompute selection snapshot settings
  return ⟨snapshot, settings, state, [], now⟩

variable (s : Session)

def selection : Selection := s.state.selection

def get (field : String) : Value := Selection.at? s.selection field

def refuse {α : Type} (fault : Fault) : Ran α := ⟨s, [], .error fault⟩

def apply (selection : Selection) (leading : List Event) (now : Moment) : Ran State :=
  match Configuration.recompute selection s.snapshot s.settings with
  | .error fault => s.refuse fault
  | .ok (state, events) =>
    ⟨{ s with state := state, lastActivity := now }, leading ++ events, .ok state⟩

def checkLine (changes : Selection) : Except Fault Unit :=
  match s.snapshot.table.lineSpec? with
  | none => .ok ()
  | some spec =>
    match Selection.at? changes spec.field with
    | .null => .ok ()
    | line => (s.snapshot.line line).map (fun _ => ())

def update (changes : Selection) (now : Moment) : Ran State :=
  match s.checkLine changes with
  | .error fault => s.refuse fault
  | .ok () => s.apply (Keyed.putAll s.selection changes) [.changed changes] now

def set (field : String) (v : Value) (now : Moment) : Ran State := s.update [(field, v)] now

def lineOnly : Selection :=
  match s.snapshot.table.lineSpec?, s.state.line with
  | some spec, some line => [(spec.field, line)]
  | _, _ => []

def firstOptions (snapshot : Snapshot) (a : Availability) :
    List FieldSpec → Except Fault Selection
  | [] => .ok []
  | spec :: rest =>
    if !spec.required || spec.isLine then firstOptions snapshot a rest
    else do
      let first ← Configuration.firstAvailable snapshot a spec.collection
      let others ← firstOptions snapshot a rest
      match first with
      | some key => return (spec.field, .text key) :: others
      | none => return others

def preset (state : State) (now : Moment) : Ran State :=
  match state.configured with
  | none => ⟨s, [], .ok state⟩
  | some c =>
    match firstOptions s.snapshot c.availability s.snapshot.table.specs with
    | .error fault => s.refuse fault
    | .ok [] => ⟨s, [], .ok state⟩
    | .ok chosen => s.update chosen now

def reset (useFirst : Bool) (now : Moment) : Ran State :=
  (s.apply s.lineOnly [.cleared] now).andThen (fun s state =>
    if useFirst then s.preset state now else ⟨s, [], .ok state⟩)

def load (sku : Value) (now : Moment) : Ran (Sku.Parsed × State) :=
  match Sku.parse sku s.snapshot.codeFields s.snapshot .null s.settings.separators with
  | .error fault => s.refuse fault
  | .ok parsed =>
    let ran := s.apply parsed.selection [.loaded sku parsed.confidence.name] now
    ⟨ran.session, ran.events, ran.answer.map (fun state => (parsed, state))⟩

def adopt (refreshed : Refreshed) (now : Moment) : Ran State :=
  { s with snapshot := refreshed.snapshot }.apply s.selection
    [.refreshed refreshed.snapshot.asOf refreshed.stale refreshed.error] now

def refreshWithin (supply : Supply) (limit : Value) (asOf : String) (now : Moment) :
    Supply × Ran State :=
  match supply.refresh limit asOf with
  | (supply, .error fault) => (supply, s.refuse fault)
  | (supply, .ok refreshed) => (supply, s.adopt refreshed now)

def refresh (supply : Supply) (asOf : String) (now : Moment) : Supply × Ran State :=
  s.refreshWithin supply .null asOf now

def subscribe (listener : String) : Session := { s with listeners := s.listeners ++ [listener] }

def unsubscribe (listener : String) : Session :=
  { s with listeners := s.listeners.erase listener }

/-- What listeners that return, and do not call the session back, receive, in order. -/
def deliveries (listeners : List String) (events : List Event) : List (String × Event) :=
  events.flatMap (fun event => listeners.map (fun listener => (listener, event)))

end Session

end MadeToOrder
