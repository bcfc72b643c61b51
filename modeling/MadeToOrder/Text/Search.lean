/-!
# Searching and splitting text

Looking for one text in another, and cutting a text at every occurrence of a
separator from the left. Joining the pieces with the separator gives the text
back.
-/

set_option autoImplicit false

namespace MadeToOrder.Text

def startsWith (s start : String) : Bool := start.toList.isPrefixOf s.toList

def occurs (needle : List Char) : List Char → Bool
  | [] => needle.isEmpty
  | c :: rest => needle.isPrefixOf (c :: rest) || occurs needle rest

def contains (s needle : String) : Bool := occurs needle.toList s.toList

def pieces (separator : List Char) : Nat → List Char → List (List Char)
  | _, [] => [[]]
  | skip + 1, _ :: rest => pieces separator skip rest
  | 0, c :: rest =>
    if separator.isPrefixOf (c :: rest) then [] :: pieces separator (separator.length - 1) rest
    else match pieces separator 0 rest with
      | piece :: more => (c :: piece) :: more
      | [] => [[c]]

def split (separator s : String) : List String :=
  (pieces separator.toList 0 s.toList).map String.ofList

def join (separator : String) (parts : List String) : String := separator.intercalate parts

def replace (s : String) (old new : Char) : String :=
  String.ofList (s.toList.map (fun c => if c = old then new else c))

def beforeEnding? (s ending : String) : Option String :=
  if ending.toList.isSuffixOf s.toList then
    some (String.ofList (s.toList.take (s.length - ending.length)))
  else none

end MadeToOrder.Text
