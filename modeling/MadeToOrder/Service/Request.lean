import MadeToOrder.Selection
import MadeToOrder.Value.Reading

/-!
# Requests to the service

The bodies that the service understands. A body is refused as a whole when one
of its fields is missing or has a value that cannot be read.
-/

set_option autoImplicit false

namespace MadeToOrder.Service

open Value (asText? asInt? asBool? fieldAs requiredAs optionally limited)

def choice? : Value → Option Value
  | .text s => some (.text s)
  | v => (asInt? v).map Value.int

def selectionValue? : Value → Option Value
  | .null => some .null
  | .list items => (items.mapM choice?).map Value.list
  | v => choice? v

def selection? : Value → Option Selection
  | .object fs => fs.mapM (fun f => (selectionValue? f.2).map (fun v => (f.1, v)))
  | _ => none

def lineId (line : Option String) : Value := (line.map Value.text).getD .null

structure OptionsRequest where
  line : String
  selection : Selection

def OptionsRequest.read (fs : List (String × Value)) : Except Fault OptionsRequest := do
  let line ← requiredAs asText? fs "product_line"
  let selection ← fieldAs selection? [] fs "selection"
  return ⟨line, selection⟩

def readBuild (fs : List (String × Value)) : Except Fault Selection :=
  requiredAs selection? fs "selection"

structure ParseRequest where
  sku : String
  line : Option String

def ParseRequest.read (fs : List (String × Value)) : Except Fault ParseRequest := do
  let sku ← requiredAs asText? fs "sku"
  let line ← fieldAs (optionally asText?) none fs "product_line"
  return ⟨sku, line⟩

structure SuggestionsRequest where
  query : String
  position : Option Int
  line : Option String
  limit : Option Int

def SuggestionsRequest.read (fs : List (String × Value)) : Except Fault SuggestionsRequest := do
  let query ← fieldAs asText? "" fs "query"
  let position ← fieldAs (optionally asInt?) none fs "position"
  let line ← fieldAs (optionally asText?) none fs "product_line"
  let limit ← fieldAs (optionally (limited asInt? (fun n => decide (1 ≤ n ∧ n ≤ 100)))) none fs
    "limit"
  return ⟨query, position, line, limit⟩

def readLine (fs : List (String × Value)) : Except Fault (Option String) :=
  fieldAs (optionally asText?) none fs "product_line"

def readValue (fs : List (String × Value)) : Except Fault Value :=
  fieldAs selectionValue? .null fs "value"

def readChanges (fs : List (String × Value)) : Except Fault Selection :=
  requiredAs selection? fs "changes"

def readReset (fs : List (String × Value)) : Except Fault Bool :=
  fieldAs asBool? false fs "use_first_options"

def readSku (fs : List (String × Value)) : Except Fault String := requiredAs asText? fs "sku"

end MadeToOrder.Service
