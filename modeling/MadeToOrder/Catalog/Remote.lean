import MadeToOrder.Catalog.Assembly
import MadeToOrder.Json.Encoding
import MadeToOrder.Json.Writer
import MadeToOrder.Url

/-!
# Remote catalogs

A catalog behind a query interface that delivers collections page by page. A
request that is not answered is repeated a few times; an answer that is no
page of rows ends the work. The rows that attach defaults to lines are asked
for once after each listing of the lines. What is asked is kept in order. The
collections stand below the address of the catalog.
-/

set_option autoImplicit false

namespace MadeToOrder

open Value (entry)

structure Request where
  path : String
  params : List (String × String)
  auth : Option String
  deriving DecidableEq, Repr

inductive Reply where
  | lost (reason : String)
  | answer (status : Nat) (body : Except Json.Refusal Value)
  | broken (fault : Fault)

structure Remote where
  baseUrl : String
  token : Option String
  pageSize : Int
  maxRetries : Int
  network : Nat → Request → Reply
  /-- The number of pages of one collection after which the remote is given up. -/
  patience : Nat

structure Client where
  sent : List Request
  attachments : Option (List Value)

def Client.fresh : Client := ⟨[], none⟩

abbrev Client.Task := ExceptT Fault (StateM Client)

namespace Remote

structure Query where
  filter : Value
  fields : List String
  sort : List String

def Query.all : Query := ⟨.null, [], []⟩

def Query.sorted (sort : List String) : Query := ⟨.null, [], sort⟩

def activeFilter : Value := .object [("active", .object [("_eq", .bool true)])]

def Query.active : Query := ⟨activeFilter, [], ["sort", "id"]⟩

def listParam (name : String) (parts : List String) : List (String × String) :=
  if parts.isEmpty then [] else [(name, Text.join "," parts)]

def params (q : Query) (pageSize : Int) (page : Nat) : List (String × String) :=
  [("limit", toString pageSize), ("page", toString page)] ++
    (if q.filter.truthy then [("filter", Json.write Json.Style.spaced q.filter)] else []) ++
    listParam "fields" q.fields ++ listParam "sort" q.sort

def collectionUrl (collection : String) : Except Fault Url :=
  match Url.parse? ("/items/" ++ collection) with
  | some url => .ok url
  | none => .error .invalidUrl

variable (r : Remote)

def tokenHeader : Option String :=
  match r.token with
  | some token => if token.isEmpty then none else some ("Bearer " ++ token)
  | none => none

def auth (url : Url) : Option String :=
  match url.credentials? with
  | some credentials => some (Url.basicHeader credentials)
  | none => r.tokenHeader

def request (url : Url) (q : Query) (page : Nat) : Request :=
  ⟨url.location, params q r.pageSize page, r.auth url⟩

def connection : Except Fault Url :=
  if r.baseUrl.isEmpty then .error (.unavailable "DIRECTUS_URL is not configured")
  else match Url.parse? r.baseUrl with
    | none => .error .invalidUrl
    | some base =>
      if (r.tokenHeader.getD "").toList.all (fun c => c.toNat < 128) then .ok base.folder
      else .error .wideHeader

def connect : Client.Task Url := MonadExcept.ofExcept r.connection

def locate (collection : String) : Client.Task Url := do
  let base ← r.connect
  let url ← MonadExcept.ofExcept (collectionUrl collection)
  return url.below base

def send (request : Request) : Client.Task Reply := do
  let client ← get
  set { client with sent := client.sent ++ [request] }
  return r.network client.sent.length request

def rowsOf (collection : String) (status : Nat) (body : Except Json.Refusal Value) :
    Except Fault Value :=
  if status < 200 || 300 ≤ status then
    .error (.unavailable s!"Catalog request failed with HTTP {status}")
  else match body with
    | .error .malformed =>
      .error (.unavailable s!"Catalog returned a non-JSON body for {collection}")
    | .error .tooDeep => .error .tooDeep
    | .ok (.object fs) => .ok ((entry fs "data").orElse (.list []))
    | .ok _ =>
      .error (.unavailable s!"Catalog returned an unexpected body for {collection}")

def unreachable (reason : String) : Fault :=
  .unavailable s!"Catalog unreachable after {r.maxRetries + 1} attempts: {reason}"

/-- Sends a request until it is answered, at most a number of times. An answer
counts only if its address says what kind of address it is. -/
def attempt (collection : String) (q : Query) (page : Nat) (reason : String) :
    Nat → Client.Task Value
  | 0 => throw (r.unreachable reason)
  | tries + 1 => do
    let url ← r.locate collection
    match ← r.send (r.request url q page) with
    | .lost reason => attempt collection q page reason tries
    | .broken fault => throw fault
    | .answer status body =>
      if url.hasType then MonadExcept.ofExcept (rowsOf collection status body)
      else throw (.untypedUrl url.path)

def page (collection : String) (q : Query) (number : Nat) : Client.Task (List Value) := do
  let rows ← r.attempt collection q number "None" (r.maxRetries + 1).toNat
  MonadExcept.ofExcept rows.iterate

/-- The rows from a page on; a page that is not full is the last one. -/
def pagesFrom (collection : String) (q : Query) (number : Nat) : Nat → Client.Task (List Value)
  | 0 => throw .endlessPages
  | patience + 1 => do
    let rows ← r.page collection q number
    if (rows.length : Int) < r.pageSize then return rows
    else
      let others ← pagesFrom collection q (number + 1) patience
      return rows ++ others

def items (collection : String) (q : Query) : Client.Task (List Value) :=
  r.pagesFrom collection q 1 r.patience

def attachments : Client.Task (List Value) := do
  match (← get).attachments with
  | some rows => return rows
  | none =>
    let rows ← r.items "product_lines_default_options" (.sorted ["id"])
    modify (fun client => { client with attachments := some rows })
    return rows

def attachedTo (line : String) : List Value → Except Fault (List Value)
  | [] => .ok []
  | row :: rest => do
    let fs ← row.fields
    if (entry fs "product_lines_id").plain = line then
      let collection ← row.field "collection"
      let item ← row.field "item"
      let others ← attachedTo line rest
      return .object [("collection", collection), ("item", .text item.plain)] :: others
    else attachedTo line rest

def defaultsOf (line : Value) : Client.Task (List Value) := do
  let rows ← r.attachments
  MonadExcept.ofExcept (attachedTo line.plain rows)

def withDefaults : List Value → Client.Task (List Value)
  | [] => pure []
  | record :: rest => do
    let fs ← MonadExcept.ofExcept record.spread
    let id ← MonadExcept.ofExcept (record.field "id")
    let defaults ← r.defaultsOf id
    let others ← withDefaults rest
    return .object (Keyed.put fs "default_options" (.list defaults)) :: others

def lines : Client.Task (List Value) := do
  modify (fun client => { client with attachments := none })
  let records ← r.items "product_lines" .active
  r.withDefaults records

def options (collection : String) : Client.Task (List Value) := r.items collection .active

def productsOf (line : Value) : Client.Task (List Value) :=
  r.items "products"
    (if line.isNull then .all
      else ⟨.object [("product_line", .object [("_eq", line)])], [], []⟩)

def overrides : Client.Task (List Value) := r.items "products_options_overrides" .all

def rules : Client.Task (List Value) := r.items "rules" (.sorted ["-priority", "id"])

def codeFields : Client.Task (List Value) := r.items "sku_code_order" (.sorted ["order"])

def source : Source Client.Task where
  lines := r.lines
  options := r.options
  products := r.productsOf .null
  overrides := r.overrides
  rules := r.rules
  codeFields := r.codeFields

def snapshot (table : FieldTable) (asOf : String) : Client.Task Snapshot :=
  r.source.snapshot table asOf

end Remote

end MadeToOrder
