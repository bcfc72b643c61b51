import MadeToOrder.Number.Numeral
import MadeToOrder.Text.Base64
import MadeToOrder.Text.Percent
import MadeToOrder.Url.Host

/-!
# Addresses on the network

An address has a scheme, an authority with a host, a path and a query; each
part may be left out. An address can stand below another one: its path and its
query then go on where those of the other one end. Steps up and steps in place
are taken out of the path of an address that has a scheme or an authority.
-/

set_option autoImplicit false

namespace MadeToOrder

structure Url where
  scheme : String
  userinfo : String
  host : String
  port : Option Int
  path : String
  query : Option String
  deriving DecidableEq, Repr

namespace Url

def longest : Nat := 65536

def cut (stops : Char → Bool) (cs : List Char) : List Char × Option (List Char) :=
  match cs.span (fun c => !stops c) with
  | (front, _ :: rest) => (front, some rest)
  | (front, []) => (front, none)

def isSchemeChar (c : Char) : Bool :=
  c.isAlpha || Host.isDigit c || c = '+' || c = '.' || c = '-'

def splitScheme (cs : List Char) : List Char × List Char :=
  match cut (fun c => c = ':') cs with
  | (front, some rest) =>
    if (front.head?.map Char.isAlpha).getD true && front.all isSchemeChar then
      (front.map Char.toLower, rest)
    else ([], cs)
  | (_, none) => ([], cs)

def splitAuthority : List Char → List Char × List Char
  | '/' :: '/' :: rest => rest.span (fun c => c ≠ '/')
  | cs => ([], cs)

def cutLast? (stop : Char) (cs : List Char) : Option (List Char × List Char) :=
  match cut (fun c => c = stop) cs.reverse with
  | (back, some front) => some (front.reverse, back.reverse)
  | (_, none) => none

def splitHost (cs : List Char) : List Char × List Char :=
  match cs with
  | '[' :: _ =>
    match cutLast? ']' cs with
    | some (front, back) => (front ++ [']'], back)
    | none => cs.span (fun c => c ≠ ':')
  | _ => cs.span (fun c => c ≠ ':')

def port? (cs : List Char) : Option (Option Int) :=
  match (match cs with | ':' :: rest => rest | rest => rest) with
  | [] => some none
  | digits => ((Numeral.integer (String.ofList digits)).toOption).map some

variable (u : Url)

def hasAuthority : Bool := !u.userinfo.isEmpty || !u.host.isEmpty || u.port.isSome

def isAbsolute : Bool := !u.scheme.isEmpty && !u.host.isEmpty

def resolvedParts (done : List String) : List String → List String
  | [] => done
  | "." :: rest => resolvedParts done rest
  | ".." :: rest => resolvedParts (if done = [""] then done else done.dropLast) rest
  | part :: rest => resolvedParts (done ++ [part]) rest

def resolvedPath (path : String) : String :=
  Text.join "/" (resolvedParts [] (Text.split "/" path))

def resolved : Url :=
  if !u.scheme.isEmpty || u.hasAuthority then { u with path := resolvedPath u.path } else u

def parts? (cs : List Char) : Option Url := do
  let (scheme, cs) := splitScheme (cut (fun c => c = '#') cs).1
  let (hierarchy, query) := cut (fun c => c = '?') cs
  let (authority, path) := splitAuthority hierarchy
  let (userinfo, location) := (cutLast? '@' authority).getD ([], authority)
  let (host, behind) := splitHost location
  let port ← port? behind
  if Host.isHost (String.ofList host) then
    return ⟨String.ofList scheme, String.ofList userinfo, String.ofList host, port,
      String.ofList path, query.map String.ofList⟩
  else none

def isPlausible : Bool :=
  u.hasAuthority || !u.scheme.isEmpty ||
    !(Text.startsWith u.path "//" || Text.startsWith u.path ":")

def parse? (s : String) : Option Url :=
  if longest < s.length || s.toList.any (fun c => c.toNat < 32 || c.toNat == 127) then none
  else ((parts? s.toList).filter isPlausible).map resolved

def target : String :=
  (if u.path.isEmpty then "/" else u.path) ++ ((u.query.map (fun q => "?" ++ q)).getD "")

def withTarget (target : String) : Url :=
  let (path, query) := cut (fun c => c = '?') target.toList
  resolved { u with path := String.ofList path, query := query.map String.ofList }

def folder : Url :=
  if u.target.toList.getLast? = some '/' then u else u.withTarget (u.target ++ "/")

def below (folder : Url) : Url :=
  if u.isAbsolute then u
  else folder.withTarget
    (folder.target ++ String.ofList (u.target.toList.dropWhile (fun c => c = '/')))

def location : String := Text.percentDecoded (if u.path.isEmpty then "/" else u.path)

/-- Something comes before the first colon, and no slash comes before that. -/
def hasType : Bool :=
  !u.scheme.isEmpty ||
    (!u.hasAuthority &&
      match cut (fun c => c = ':' || c = '/') u.path.toList with
      | (front, some _) => !front.isEmpty && u.path.toList[front.length]? = some ':'
      | (_, none) => false)

def credentials? : Option (String × String) :=
  let (name, password) := cut (fun c => c = ':') u.userinfo.toList
  let name := Text.percentDecoded (String.ofList name)
  let password := Text.percentDecoded (String.ofList (password.getD []))
  if name.isEmpty && password.isEmpty then none else some (name, password)

def basicHeader (credentials : String × String) : String :=
  "Basic " ++ String.ofList
    (Text.base64 (Text.utf8 (credentials.1 ++ ":" ++ credentials.2)))

end Url

end MadeToOrder
