import MadeToOrder.Catalog.Remote
import MadeToOrder.Tenant

/-!
# Connections to remote catalogs

The address and the token of a remote catalog are given or taken from the
environment.
-/

set_option autoImplicit false

namespace MadeToOrder

abbrev Environment := Keyed String

structure Connection where
  baseUrl : String
  token : Option String
  timeout : Double
  pageSize : Int
  maxRetries : Int
  deriving Repr

namespace Connection

def withoutEndSlashes (s : String) : String :=
  String.ofList (s.toList.reverse.dropWhile (fun c => c = '/')).reverse

def addressOf (given : Option String) (env : Environment) : String :=
  match given.filter (fun s => !s.isEmpty) with
  | some s => s
  | none => (Keyed.get? env "DIRECTUS_URL").getD ""

def make (url token : Option String) (timeout : Double) (pageSize maxRetries : Int)
    (env : Environment) : Connection where
  baseUrl := withoutEndSlashes (addressOf url env)
  token := token.or (Keyed.get? env "DIRECTUS_TOKEN")
  timeout := timeout
  pageSize := pageSize
  maxRetries := maxRetries

def ofConfig (config : SourceConfig) (env : Environment) : Connection :=
  make (Keyed.get? env config.urlVariable) (Keyed.get? env config.tokenVariable) config.timeout
    config.pageSize config.maxRetries env

def remote (c : Connection) (network : Nat → Request → Reply) (patience : Nat) : Remote :=
  ⟨c.baseUrl, c.token, c.pageSize, c.maxRetries, network, patience⟩

end Connection

end MadeToOrder
