import MadeToOrder.Bundled

/-!
# The directory of tenants

The tenants that can be switched to. A tenant is named by its folder, and a
folder may be written in more than one way.
-/

set_option autoImplicit false

namespace MadeToOrder.Directory

open Value (entryOr)

def tenants : List (String × Value) := [(Bundled.tenantId, Bundled.settings)]

def ids : List String := tenants.map Prod.fst

def settings? (id : String) : Option Value :=
  (tenants.find? (fun t => t.1 = Tenant.tidyPath id)).map Prod.snd

def tenant (id : String) : Except Fault Tenant :=
  match settings? id with
  | some doc => Tenant.ofDocument doc (.text id) id
  | none => .error (.unknownTenant id ids)

def listing (folder : String) (doc : Value) : Except Fault Value := do
  let fs ← (doc.orElse (.object [])).fields
  let domain ← (entryOr fs "domain" (.object [])).fields
  return .object [("id", .text folder), ("name", entryOr domain "name" (.text folder)),
    ("company", entryOr domain "company" (.text "Unknown")),
    ("description", entryOr domain "description" (.text "")),
    ("version", entryOr domain "version" (.text "1.0"))]

def available : Except Fault (List Value) := tenants.mapM (fun t => listing t.1 t.2)

end MadeToOrder.Directory
