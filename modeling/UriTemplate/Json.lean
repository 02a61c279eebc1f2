import UriTemplate.Number
import UriTemplate.Text.Loose
import UriTemplate.Value

set_option autoImplicit false

namespace UriTemplate

inductive Json
  | null
  | bool (b : Bool)
  | int (n : Int)
  | float (x : Binary64)
  | text (t : Loose)
  | array (items : List Json)
  | object (members : List (Loose × Json))
  deriving Inhabited

namespace Json

def ofText (t : Text) : Json := .text (.ofText t)

def ofValue : Value → Json
  | .scalar t => ofText t
  | .list items => .array (items.map ofText)
  | .mapping entries => .object (entries.map fun e => (.ofText e.1, ofText e.2))

def printChar (c : Char) : Text :=
  if c = '"' then ['\\', '"']
  else if c = '\\' then ['\\', '\\']
  else if c = '\n' then ['\\', 'n']
  else if c = '\r' then ['\\', 'r']
  else if c = '\t' then ['\\', 't']
  else if c = '\x08' then ['\\', 'b']
  else if c = '\x0c' then ['\\', 'f']
  else if c.toNat < 0x20 then '\\' :: 'u' :: Quoted.hexDigits 4 c.toNat
  else [c]

def printPoint : CodePoint → Text
  | .char c => printChar c
  | .surrogate s => '\\' :: 'u' :: Quoted.hexDigits 4 (0xD800 + s)

def printText (t : Loose) : Text := '"' :: t.flatMap printPoint ++ ['"']

def printFloat : Binary64 → Text
  | .nan => "NaN".toList
  | .infinity negative => (if negative then "-Infinity" else "Infinity").toList
  | x => Shortest.text x

mutual

def print : Json → Text
  | .null => "null".toList
  | .bool b => (if b then "true" else "false").toList
  | .int n => if n < 0 then '-' :: Digits.ofNat n.natAbs else Digits.ofNat n.natAbs
  | .float x => printFloat x
  | .text t => printText t
  | .array items => Quoted.enclose '[' (printAll items) ']'
  | .object members => Quoted.enclose '{' (printMembers members) '}'

def printAll : List Json → List Text
  | [] => []
  | item :: rest => print item :: printAll rest

def printMembers : List (Loose × Json) → List Text
  | [] => []
  | (name, item) :: rest => (printText name ++ ": ".toList ++ print item) :: printMembers rest

end

end Json

end UriTemplate
