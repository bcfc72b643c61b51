import MadeToOrder.Configuration
import MadeToOrder.FieldTable.Row

/-!
# Tenants

What differs from one tenant to another: who it is, the rows of its field
table, when override rows count, how codes are written and where the catalog
comes from. All of it is read from one document, and each part has a standard.
-/

set_option autoImplicit false

namespace MadeToOrder

open Value (entryOr asText? asInt? asDouble? fieldAs optionally limited)

inductive SourceKind where
  | file
  | remote
  deriving DecidableEq, Repr

namespace SourceKind

def name : SourceKind → String
  | .file => "file"
  | .remote => "directus"

def ofValue? : Value → Option SourceKind
  | .text s => if s = "file" then some .file else if s = "directus" then some .remote else none
  | _ => none

end SourceKind

structure SourceConfig where
  kind : SourceKind
  path : String
  urlVariable : String
  tokenVariable : String
  timeout : Double
  refreshTimeout : Double
  pageSize : Int
  maxRetries : Int
  deriving Repr

structure Tenant where
  id : Value
  name : Value
  company : Value
  description : Value
  version : String
  collections : List FieldSpec
  settings : Settings
  catalog : SourceConfig
  deriving Repr

namespace Tenant

def seconds (n : Nat) : Double := Double.ofQuotient false n 1

def readTrigger (fs : List (String × Value)) : Except Fault Trigger := do
  let least ← fieldAs (limited asInt? (fun n => decide (0 ≤ n))) 1 fs "min_selected_fields"
  let most ← fieldAs (optionally (limited asInt? (fun n => decide (1 ≤ n)))) none fs
    "max_candidates"
  return ⟨least, most⟩

def readSeparators (fs : List (String × Value)) : Except Fault (Sku.Separators × Int) := do
  let delimiter ← fieldAs asText? "-" fs "delimiter"
  let multi ← fieldAs asText? "+" fs "multi_value_separator"
  let limit ← fieldAs asInt? 20 fs "suggestion_limit"
  return (⟨delimiter, multi⟩, limit)

def readSource (fs : List (String × Value)) : Except Fault SourceConfig := do
  let kind ← fieldAs SourceKind.ofValue? .file fs "kind"
  let path ← fieldAs asText? "catalog.yaml" fs "path"
  let urlVariable ← fieldAs asText? "DIRECTUS_URL" fs "base_url_env"
  let tokenVariable ← fieldAs asText? "DIRECTUS_TOKEN" fs "token_env"
  let timeout ← fieldAs asDouble? (seconds 10) fs "timeout_seconds"
  let refreshTimeout ← fieldAs asDouble? (seconds 30) fs "refresh_timeout_seconds"
  let pageSize ← fieldAs asInt? 200 fs "page_size"
  let maxRetries ← fieldAs asInt? 2 fs "max_retries"
  return ⟨kind, path, urlVariable, tokenVariable, timeout, refreshTimeout, pageSize, maxRetries⟩

def part (fs : List (String × Value)) (key : String) : Except Fault (List (String × Value)) :=
  (entryOr fs key (.object [])).spread

/-- The tenant of a document. An id that is given counts before that of the
document, and the name of the folder stands in for both. -/
def ofDocument (doc id : Value) (folder : String) : Except Fault Tenant := do
  let fs ← (doc.orElse (.object [])).fields
  let domain ← (entryOr fs "domain" (.object [])).fields
  let rows ← (entryOr fs "collections" (.list [])).iterate
  let collections ← rows.mapM FieldSpec.ofValue
  let trigger ← readTrigger (← part fs "override_trigger")
  let (separators, limit) ← readSeparators (← part fs "sku")
  let catalog ← readSource (← part fs "catalog")
  return {
    id := id.orElse (entryOr domain "id" (.text folder))
    name := entryOr domain "name" (.text "")
    company := entryOr domain "company" (.text "")
    description := entryOr domain "description" (.text "")
    version := (entryOr domain "version" (.text "1.0")).plain
    collections := collections
    settings := ⟨trigger, separators, limit⟩
    catalog := catalog }

def collection? (t : Tenant) (name : String) : Option FieldSpec :=
  t.collections.find? (fun spec => spec.collection = name)

def requiredFields (t : Tenant) : List String :=
  (t.collections.filter FieldSpec.required).map FieldSpec.field

def table (t : Tenant) : Except Fault FieldTable := FieldTable.ofSpecs t.collections

def isAbsolute (path : String) : Bool := Text.startsWith path "/"

/-- Two slashes in front are kept apart from one or more than two. -/
def rootOf (path : String) : String :=
  if Text.startsWith path "///" then "/"
  else if Text.startsWith path "//" then "//"
  else if Text.startsWith path "/" then "/"
  else ""

def tidyPath (path : String) : String :=
  let parts := (Text.split "/" path).filter (fun p => !p.isEmpty && p ≠ ".")
  let tidy := rootOf path ++ Text.join "/" parts
  if tidy.isEmpty then "." else tidy

def catalogPath (t : Tenant) : String := tidyPath t.catalog.path

end Tenant

end MadeToOrder
