import MadeToOrder.Url

/-!
# Routes

The questions that the service answers, by the method and the path of a
request. The escapes of an address are read twice, once by the sender and once
by the service. A path that is only known without the slashes at its end sends
the request on to the address without them.
-/

set_option autoImplicit false

namespace MadeToOrder.Service

inductive Route where
  | greeting
  | health
  | tenant
  | lines
  | lineDefaults (line : String)
  | refresh
  | options
  | buildSku
  | parseSku
  | suggestions
  | openSession
  | session (id : String)
  | closeSession (id : String)
  | field (id name : String)
  | setField (id name : String)
  | update (id : String)
  | reset (id : String)
  | loadSku (id : String)
  | refreshSession (id : String)
  deriving DecidableEq, Repr

namespace Route

def hasFixedReply : Route → Bool
  | .lines | .lineDefaults _ | .refresh | .parseSku | .openSession | .session _
  | .setField _ _ | .update _ | .reset _ | .refreshSession _ => true
  | _ => false

def atPath : List String → List (String × Route)
  | [""] => [("GET", .greeting)]
  | ["health"] => [("GET", .health)]
  | ["config", "tenant"] => [("GET", .tenant)]
  | ["product-lines"] => [("GET", .lines)]
  | ["product-lines", line, "defaults"] => if line.isEmpty then [] else [("GET", .lineDefaults line)]
  | ["catalog", "refresh"] => [("POST", .refresh)]
  | ["configure", "options"] => [("POST", .options)]
  | ["sku", "build"] => [("POST", .buildSku)]
  | ["sku", "parse"] => [("POST", .parseSku)]
  | ["sku", "suggestions"] => [("POST", .suggestions)]
  | ["sessions"] => [("POST", .openSession)]
  | ["sessions", id] =>
    if id.isEmpty then [] else [("GET", .session id), ("DELETE", .closeSession id)]
  | ["sessions", id, "fields", name] =>
    if id.isEmpty || name.isEmpty then []
    else [("GET", .field id name), ("PUT", .setField id name)]
  | ["sessions", id, "selection"] => if id.isEmpty then [] else [("PATCH", .update id)]
  | ["sessions", id, "reset"] => if id.isEmpty then [] else [("POST", .reset id)]
  | ["sessions", id, "sku"] => if id.isEmpty then [] else [("POST", .loadSku id)]
  | ["sessions", id, "catalog", "refresh"] =>
    if id.isEmpty then [] else [("POST", .refreshSession id)]
  | _ => []

def parts (path : String) : List String := (Text.split "/" path).tail

def withoutLineBreak (path : String) : String := (Text.beforeEnding? path "\n").getD path

def withoutEndSlashes (path : String) : String :=
  String.ofList (path.toList.reverse.dropWhile (fun c => c = '/')).reverse

/-- The methods of a path; a line break may follow the last word of a known path. -/
def methods (path : String) : List (String × Route) :=
  match atPath (parts path) with
  | [] => atPath (parts (withoutLineBreak path))
  | routes => routes

inductive Found where
  | unknown
  | wrongMethod
  | route (r : Route)
  deriving DecidableEq, Repr

def choose (method : String) : List (String × Route) → Found
  | [] => .unknown
  | routes =>
    match routes.find? (fun r => r.1 = method) with
    | some r => .route r.2
    | none => .wrongMethod

def home : Url := ⟨"http", "", "localhost", none, "/", none⟩

/-- Where a request is sent on to. What then follows a number sign is lost. -/
def elsewhere? (path : String) : Option Url :=
  let short := withoutEndSlashes path
  if short = path || (methods short).isEmpty then none
  else some (home.withTarget (String.ofList (short.toList.takeWhile (fun c => c ≠ '#'))))

def pathAt (u : Url) : String := Text.percentDecoded u.location

def mostMoves : Nat := 20

def follow (method : String) : Nat → Url → Found
  | 0, u => choose method (methods (pathAt u))
  | moves + 1, u =>
    match choose method (methods (pathAt u)) with
    | .unknown => ((elsewhere? (pathAt u)).map (follow method moves)).getD .unknown
    | found => found

def find? (method target : String) : Option Found :=
  (Url.parse? target).map (fun u => follow method mostMoves (u.below home))

end Route

end MadeToOrder.Service
