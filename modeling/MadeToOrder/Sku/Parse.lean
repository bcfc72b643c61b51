import MadeToOrder.Sku.Build
import MadeToOrder.Text.LowerCase

/-!
# Parsing a code

A text is cut at the delimiter, and each piece is matched against the codes of
the options at its position: equal codes first, then codes that start with it,
then codes that contain it, all in lower case. Only exact segments enter the
recovered selection.
-/

set_option autoImplicit false

namespace MadeToOrder.Sku

inductive MatchStatus where
  | exact
  | inexact
  | missing
  | ambiguous
  | notFound
  deriving DecidableEq, Repr

namespace MatchStatus

def name : MatchStatus → String
  | .exact => "exact"
  | .inexact => "partial"
  | .missing => "missing"
  | .ambiguous => "ambiguous"
  | .notFound => "not_found"

def words : MatchStatus → String
  | .notFound => "not found"
  | status => status.name

def rank : MatchStatus → Nat
  | .exact => 0
  | .inexact => 1
  | .missing => 1
  | .ambiguous => 2
  | .notFound => 3

def worstFrom : MatchStatus → List MatchStatus → MatchStatus
  | worst, [] => worst
  | worst, status :: rest =>
    worstFrom (if worst.rank < status.rank then status else worst) rest

def worst : List MatchStatus → MatchStatus
  | [] => .missing
  | status :: rest => worstFrom status rest

end MatchStatus

inductive Confidence where
  | exact
  | inexact
  | ambiguous
  | invalid
  deriving DecidableEq, Repr

namespace Confidence

def name : Confidence → String
  | .exact => "exact"
  | .inexact => "partial"
  | .ambiguous => "ambiguous"
  | .invalid => "invalid"

def ofStatuses (statuses : List MatchStatus) : Confidence :=
  if .notFound ∈ statuses then .invalid
  else if .ambiguous ∈ statuses then .ambiguous
  else if .inexact ∈ statuses ∨ .missing ∈ statuses then .inexact
  else .exact

end Confidence

structure ParsedSegment where
  position : Nat
  raw : Option String
  status : MatchStatus
  collection : String
  order : Value
  matched : IdSet
  deriving Repr

structure Parsed where
  input : String
  rawSegments : List String
  segments : List ParsedSegment
  confidence : Confidence
  selection : Selection
  issues : List String
  deriving Repr

def trimmedPieces (separator s : String) : Except Fault (List String) :=
  if separator.isEmpty then .error .emptySeparator
  else .ok ((Text.split separator s).map Text.trim)

def lowerCode (o : CatalogOption) : Except Fault String :=
  match o.code with
  | .text s => .ok (Text.lower s)
  | v => .error (.noAttribute v.kind "lower")

def codedOptions (options : List CatalogOption) : Except Fault (List (String × String)) :=
  (options.filter (fun o => o.code.truthy)).mapM (fun o =>
    (lowerCode o).map (fun code => (o.key, code)))

def hits (coded : List (String × String)) (test : String → Bool) : List String :=
  (coded.filter (fun entry => test entry.2)).map Prod.fst

def graded? (single : MatchStatus) : List String → Option (MatchStatus × List String)
  | [] => none
  | [key] => some (single, [key])
  | keys => some (.ambiguous, keys)

def matchCode (needle : String) (coded : List (String × String)) : MatchStatus × List String :=
  ((graded? .exact (hits coded (fun code => code == needle))).or
    ((graded? .inexact (hits coded (fun code => Text.startsWith code needle))).or
      (graded? .inexact (hits coded (fun code => Text.contains code needle))))).getD
    (.notFound, [])

def candidates (snapshot : Snapshot) (offer : Option (Keyed (List String)))
    (collection : String) : Except Fault (List CatalogOption) := do
  let options ← snapshot.optionsFor collection
  match offer.bind (fun defaults => Keyed.get? defaults collection) with
  | some keys => return options.filter (fun o => o.key ∈ keys)
  | none => return options

def matchPieces (options : List CatalogOption) :
    IdSet → List String → Except Fault (List MatchStatus × IdSet)
  | keys, [] => .ok ([], keys)
  | keys, piece :: rest =>
    if piece.isEmpty then do
      let (statuses, keys) ← matchPieces options keys rest
      return (.missing :: statuses, keys)
    else do
      let coded ← codedOptions options
      let (status, found) := matchCode (Text.lower piece) coded
      let (statuses, keys) ← matchPieces options (IdSet.union keys found) rest
      return (status :: statuses, keys)

def readSegment (snapshot : Snapshot) (offer : Option (Keyed (List String)))
    (separators : Separators) (spec : FieldSpec) (position : Nat) (order : Value)
    (raw : Option String) : Except Fault ParsedSegment :=
  let text := raw.getD ""
  if text.isEmpty then .ok ⟨position, raw, .missing, spec.collection, order, []⟩
  else do
    let options ← candidates snapshot offer spec.collection
    let pieces ← if spec.multiSelect then trimmedPieces separators.multi text else pure [text]
    let (statuses, keys) ← matchPieces options [] pieces
    return ⟨position, raw, MatchStatus.worst statuses, spec.collection, order, keys⟩

def readSegments (snapshot : Snapshot) (offer : Option (Keyed (List String)))
    (separators : Separators) : Nat → List CodeField → List String →
    Except Fault (List (FieldSpec × ParsedSegment))
  | _, [], _ => .ok []
  | position, entry :: rest, raws => do
    let spec ← snapshot.table.rowOf entry.collection "SKU field order"
    let segment ←
      readSegment snapshot offer separators spec position entry.order raws.head?
    let others ← readSegments snapshot offer separators (position + 1) rest raws.tail
    return (spec, segment) :: others

def recovered? (spec : FieldSpec) (segment : ParsedSegment) : Option Value :=
  if segment.status = .exact then
    match segment.matched with
    | [] => none
    | [key] => some (if spec.multiSelect then .list [.text key] else .text key)
    | keys => if spec.multiSelect then some (.list (keys.map Value.text)) else none
  else none

def recovered (selection : Selection) : List (FieldSpec × ParsedSegment) → Selection
  | [] => selection
  | (spec, segment) :: rest =>
    match recovered? spec segment with
    | some v => recovered (Keyed.put selection spec.field v) rest
    | none => recovered selection rest

def issueOf? (spec : FieldSpec) (segment : ParsedSegment) : Option String :=
  let text := segment.raw.getD ""
  if text.isEmpty then some s!"Segment {segment.position + 1} ({spec.field}) is missing"
  else if segment.status = .exact then none
  else some (s!"Segment {segment.position + 1} ({spec.field}) '{text}' is " ++
    segment.status.words)

def surplusIssue (surplus : List String) : List String :=
  if surplus.isEmpty then []
  else ["Input contains more segments than expected: " ++
    ", ".intercalate (surplus.map Text.quoted)]

def inputText : Value → String
  | .text s => s
  | _ => ""

def offerOf (snapshot : Snapshot) (line : Value) :
    Except Fault (Option (Keyed (List String))) :=
  if !line.isNull && snapshot.hasLine line then (snapshot.lineDefaults line).map some
  else .ok none

def parse (sku : Value) (fields : List CodeField) (snapshot : Snapshot) (line : Value)
    (separators : Separators) : Except Fault Parsed := do
  let ordered ← enabledOrder fields
  let input := inputText sku
  let raws ← trimmedPieces separators.delimiter input
  let offer ← offerOf snapshot line
  let read ← readSegments snapshot offer separators 0 ordered raws
  let segments := read.map Prod.snd
  return {
    input := input
    rawSegments := raws
    segments := segments
    confidence := Confidence.ofStatuses (segments.map ParsedSegment.status)
    selection := recovered [] read
    issues := read.filterMap (fun r => issueOf? r.1 r.2) ++
      surplusIssue (raws.drop ordered.length) }

end MadeToOrder.Sku
