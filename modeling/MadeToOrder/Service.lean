import MadeToOrder.Report
import MadeToOrder.Service.Reply
import MadeToOrder.Service.Request
import MadeToOrder.Service.Route
import MadeToOrder.Session.Registry
import MadeToOrder.Tenant.Directory

/-!
# The service

Everything of one tenant behind a single interface: questions about the
catalog, computations without a session, and sessions by id. A step takes a
request and gives the service afterwards and the reply. Faults of the domain
have a status and a code of their own; any other fault is a failure of the
service.
-/

set_option autoImplicit false

namespace MadeToOrder

structure Service where
  supply : Supply
  settings : Settings
  registry : Registry
  opened : Nat
  tenant : String

namespace Service

structure Call where
  method : String
  target : String
  body : Option Value

/-- A reply; one about a body that cannot be read shows no body. -/
structure Answer where
  status : Nat
  body : Option Value

inductive Failure where
  | unreadable
  | refused (status : Nat) (detail : String)
  | fault (f : Fault)

structure Now where
  moment : Moment
  stamp : String

def statusOf : Fault → Nat
  | .unavailable _ => 503
  | .unknownLine _ => 404
  | _ => 500

def detail (text : String) : Value := .object [("detail", .text text)]

def Failure.answer : Failure → Answer
  | .unreadable => ⟨422, none⟩
  | .refused status text => ⟨status, some (detail text)⟩
  | .fault f =>
    if f.isDomain then
      ⟨statusOf f, some (.object [("detail", .text f.message), ("code", .text f.category)])⟩
    else ⟨500, some (.text "Internal Server Error")⟩

abbrev Result := Except Failure Value

def ofFault {α : Type} : Except Fault α → Except Failure α
  | .ok a => .ok a
  | .error f => .error (.fault f)

def readBody {α : Type} (read : List (String × Value) → Except Fault α) :
    Option Value → Except Failure α
  | some (.object fs) =>
    match read fs with
    | .ok a => .ok a
    | .error _ => .error .unreadable
  | _ => .error .unreadable

def shownText (v : Value) : Except Fault Value :=
  match v with
  | .text _ => .ok v
  | _ => .error .invalidSettings

def shownTextOrNull (v : Value) : Except Fault Value := if v.isNull then .ok v else shownText v

def shownNumber (v : Value) : Except Fault Value :=
  if v.isNull then .ok .null
  else match Value.asDouble? v with
    | some d => .ok (.float d)
    | none => .error .invalidSettings

def lineView (key : String) (l : ProductLine) : Except Fault Value := do
  let name ← shownText l.name
  let code ← shownTextOrNull l.code
  return .object [("id", .text key), ("name", name), ("sku_code", code),
    ("default_option_count", Report.number l.defaults.length)]

def linesView (s : Snapshot) : Except Fault Value :=
  (s.lines.mapM (fun l => lineView l.1 l.2)).map Value.list

def optionView (o : CatalogOption) : Except Fault Value := do
  let name ← shownText o.name
  let code ← shownText o.code
  let sort ← shownNumber o.sort
  return .object [("id", .text o.key), ("name", name), ("short_code", code), ("sort", sort)]

def defaultsIn (s : Snapshot) : Keyed (List String) → Except Fault (List (String × Value))
  | [] => .ok []
  | (collection, keys) :: rest => do
    let options ← (keys.filterMap (s.option? collection)).mapM optionView
    let others ← defaultsIn s rest
    return (collection, .list options) :: others

def defaultsView (s : Snapshot) (line : Value) : Except Fault Value := do
  let defaults ← s.lineDefaults line
  return .object (← defaultsIn s defaults)

def optionsView (s : Snapshot) (settings : Settings) (r : OptionsRequest) : Except Fault Value := do
  let normal := Selection.normalize s.table r.selection
  let selection :=
    match s.table.lineSpec? with
    | some spec => Keyed.put normal spec.field (.text r.line)
    | none => normal
  let p ← Configuration.pass s settings.trigger (.text r.line) selection
  let options ← Report.availability p.availability
  if p.outcome.constraints.any (fun c => !isShowable c.1) then throw .noForm
  return .object [("options", options), ("matched_rules", Report.ruleIds p.outcome.matched),
    ("constraints", Report.constraints p.outcome.constraints)]

def isAdjustment : Event → Bool
  | .adjusted _ _ _ => true
  | _ => false

def buildView (s : Snapshot) (settings : Settings) (selection : Selection) : Result := do
  let (state, events) ← ofFault (Configuration.recompute selection s settings)
  match state.configured with
  | none => .error (.refused 400 "Selection has no product line")
  | some c =>
    return .object [("sku", Report.built c.sku), ("selection", .object state.selection),
      ("adjustments",
        .list ((events.filter isAdjustment).map (fun e => .object (Report.payload e))))]

def parseView (s : Snapshot) (settings : Settings) (r : ParseRequest) : Except Fault Value :=
  (Sku.parse (.text r.sku) s.codeFields s (lineId r.line) settings.separators).map Report.parsed

def suggestionsView (s : Snapshot) (settings : Settings) (r : SuggestionsRequest) :
    Except Fault Value :=
  let limit := r.limit.getD settings.suggestionLimit
  match r.position with
  | none =>
    (Sku.suggestProducts s (.text r.query) (some limit) (lineId r.line)).map (fun found =>
      .object [("products", .list (found.map Report.productSuggestion))])
  | some position =>
    (Sku.suggestSegment s s.codeFields position (.text r.query) (some limit)
      (lineId r.line)).map (fun found =>
        .object [("codes", .list (found.map Report.codeSuggestion))])

def tenantView (id : String) : Except Fault Value := do
  let available ← Directory.available
  let tenant ← Directory.tenant id
  return .object [("current", .text id), ("available", .list available),
    ("summary", Report.summary tenant)]

def sessionIds : Nat := Nat.pow 2 128

def sessionStride : Nat := 0x9e3779b97f4a7c15f39cc0605cedc835

/-- The id of the n-th session. The stride is odd, so ids repeat only after all
of them were used. -/
def sessionId (n : Nat) : String :=
  String.ofList (Text.hexadecimal 32 ((n + 1) * sessionStride % sessionIds))

def sessionView (id : String) (state : State) (events : List Event) : Except Fault Value := do
  let shown ← Report.state state
  return .object [("session_id", .text id), ("state", shown), ("events", Report.events events)]

def loadedView (id : String) (loaded : Sku.Parsed × State) : Except Fault Value := do
  let shown ← Report.state loaded.2
  return .object [("parse", Report.parsed loaded.1), ("session_id", .text id), ("state", shown)]

variable (service : Service)

def start (supply : Supply) (settings : Settings) : Service :=
  ⟨supply, settings, [], 0, Bundled.tenantId⟩

def withSnapshot (now : Now) (view : Snapshot → Result) : Service × Result :=
  match service.supply.current now.stamp with
  | (supply, .error f) => ({ service with supply := supply }, .error (.fault f))
  | (supply, .ok s) => ({ service with supply := supply }, view s)

def noSession (id : String) : Failure := .refused 404 s!"Session {id} not found"

def askSession (id : String) (view : Session → Result) : Service × Result :=
  match Keyed.get? service.registry id with
  | none => (service, .error (noSession id))
  | some session => (service, view session)

def runSession {α : Type} (id : String) (operation : Session → Ran α)
    (view : α → List Event → Except Fault Value) : Service × Result :=
  match Keyed.get? service.registry id with
  | none => (service, .error (noSession id))
  | some session =>
    let ran := operation session
    ({ service with registry := Keyed.put service.registry id ran.session },
      ofFault (do view (← ran.answer) ran.events))

def openSession (now : Now) (line : Option String) : Service × Result :=
  match service.supply.current now.stamp with
  | (supply, .error f) => ({ service with supply := supply }, .error (.fault f))
  | (supply, .ok s) =>
    match Session.start s service.settings (lineId line) now.moment with
    | .error f => ({ service with supply := supply }, .error (.fault f))
    | .ok session =>
      let id := sessionId service.opened
      ({ service with
          supply := supply
          registry := Keyed.put service.registry id session
          opened := service.opened + 1 },
        ofFault (sessionView id session.state []))

def closeSession (id : String) : Service × Result :=
  if Keyed.has service.registry id then
    ({ service with registry := Keyed.erase service.registry id },
      .ok (.object [("deleted", .text id)]))
  else (service, .error (noSession id))

def refreshSession (now : Now) (id : String) : Service × Result :=
  match Keyed.get? service.registry id with
  | none => (service, .error (noSession id))
  | some session =>
    let (supply, ran) := session.refresh service.supply now.stamp now.moment
    ({ service with supply := supply, registry := Keyed.put service.registry id ran.session },
      ofFault (do sessionView id (← ran.answer) ran.events))

def refresh (now : Now) : Service × Result :=
  let (supply, result) := service.supply.refresh .null now.stamp
  ({ service with supply := supply },
    ofFault (result.map (fun r =>
      .object [("as_of", .text r.snapshot.asOf), ("stale", .bool r.stale),
        ("error", Report.orNull Value.text r.error)])))

def health : Value :=
  .object [("status", .text "healthy"),
    ("catalog_loaded", .bool service.supply.store.snapshot.isSome),
    ("sessions", Report.number service.registry.length)]

def greeting : Value := .object [("message", .text "Product Configurator API is running")]

def withBody {α : Type} (body : Option Value) (read : List (String × Value) → Except Fault α)
    (next : α → Service × Result) : Service × Result :=
  match readBody read body with
  | .error failure => (service, .error failure)
  | .ok a => next a

def perform (now : Now) (body : Option Value) : Route → Service × Result
  | .greeting => (service, .ok greeting)
  | .health => (service, .ok service.health)
  | .tenant => (service, ofFault (tenantView service.tenant))
  | .lines => service.withSnapshot now (fun s => ofFault (linesView s))
  | .lineDefaults line =>
    service.withSnapshot now (fun s => ofFault (defaultsView s (.text line)))
  | .refresh => service.refresh now
  | .options => service.withBody body OptionsRequest.read (fun r =>
      service.withSnapshot now (fun s => ofFault (optionsView s service.settings r)))
  | .buildSku => service.withBody body readBuild (fun selection =>
      service.withSnapshot now (fun s => buildView s service.settings selection))
  | .parseSku => service.withBody body ParseRequest.read (fun r =>
      service.withSnapshot now (fun s => ofFault (parseView s service.settings r)))
  | .suggestions => service.withBody body SuggestionsRequest.read (fun r =>
      service.withSnapshot now (fun s => ofFault (suggestionsView s service.settings r)))
  | .openSession => service.withBody body readLine (service.openSession now)
  | .session id =>
    service.askSession id (fun session => ofFault (sessionView id session.state []))
  | .closeSession id => service.closeSession id
  | .field id name => service.askSession id (fun session =>
      .ok (.object [("field", .text name), ("value", session.get name)]))
  | .setField id name => service.withBody body readValue (fun v =>
      service.runSession id (fun session => session.set name v now.moment) (sessionView id))
  | .update id => service.withBody body readChanges (fun changes =>
      service.runSession id (fun session => session.update changes now.moment) (sessionView id))
  | .reset id => service.withBody body readReset (fun first =>
      service.runSession id (fun session => session.reset first now.moment) (sessionView id))
  | .loadSku id => service.withBody body readSku (fun sku =>
      service.runSession id (fun session => session.load (.text sku) now.moment)
        (fun loaded _ => loadedView id loaded))
  | .refreshSession id => service.refreshSession now id

def answerOf (r : Route) : Result → Answer
  | .ok v =>
    match shownAs r.hasFixedReply v with
    | some shown => ⟨200, some shown⟩
    | none => Failure.answer (.fault .noForm)
  | .error failure => failure.answer

def answer (now : Now) (body : Option Value) : Route.Found → Service × Answer
  | .unknown => (service, ⟨404, some (detail "Not Found")⟩)
  | .wrongMethod => (service, ⟨405, some (detail "Method Not Allowed")⟩)
  | .route r =>
    let (service, result) := service.perform now body r
    (service, answerOf r result)

def Answer.headOnly (a : Answer) : Answer := { a with body := some (.text "") }

/-- One request and its reply. A request without a valid address, or with a body
that cannot be shown, is not sent. -/
def step (now : Now) (call : Call) : Except Fault (Service × Answer) :=
  match Route.find? call.method call.target with
  | none => .error .invalidUrl
  | some found =>
    if (call.body.map isShowable).getD true then
      let (service, answer) := service.answer now call.body found
      .ok (service, if call.method = "HEAD" then answer.headOnly else answer)
    else .error .noForm

end Service

end MadeToOrder
