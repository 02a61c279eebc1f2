import UriTemplate.Text.Percent
import UriTemplate.Text.Printable

set_option autoImplicit false

/-!
Text as messages show it, between quotes on one line. Single quotes are used unless the text holds
a single quote and no double one; the quote in use and the backslash are escaped, and so is
everything that is not printable.
-/

namespace UriTemplate.Quoted

def hexDigits : Nat → Nat → Text
  | 0, _ => []
  | width + 1, n => hexDigits width (n / 16) ++ [(Percent.hexDigit (n % 16)).toLower]

def quoteFor (content : Text) : Char :=
  if content.contains '\'' && !content.contains '"' then '"' else '\''

def shortEscape? (quote c : Char) : Option Text :=
  if c = '\\' ∨ c = quote then some ['\\', c]
  else if c = '\n' then some ['\\', 'n']
  else if c = '\r' then some ['\\', 'r']
  else if c = '\t' then some ['\\', 't']
  else none

def char (quote c : Char) : Text :=
  match shortEscape? quote c with
  | some escape => escape
  | none =>
    if Printable.isPrintable c then [c]
    else if c.toNat < 0x100 then '\\' :: 'x' :: hexDigits 2 c.toNat
    else if c.toNat < 0x10000 then '\\' :: 'u' :: hexDigits 4 c.toNat
    else '\\' :: 'U' :: hexDigits 8 c.toNat

def text (t : Text) : Text :=
  let quote := quoteFor t
  quote :: t.flatMap (char quote) ++ [quote]

def byte (quote c : Char) : Text :=
  match shortEscape? quote c with
  | some escape => escape
  | none =>
    if 0x20 ≤ c.toNat ∧ c.toNat < 0x7F then [c] else '\\' :: 'x' :: hexDigits 2 c.toNat

/-- A byte string, behind a `b`. If it is mutable, single quotes are escaped between double ones
    too. -/
def bytes (mutable : Bool) (content : List Nat) : Text :=
  let ascii := content.map Char.ofNat
  let quote := quoteFor ascii
  'b' :: quote :: ascii.flatMap (byte (if mutable then '\'' else quote)) ++ [quote]

def enclose (left : Char) (items : List Text) (right : Char) : Text :=
  left :: ", ".toList.intercalate items ++ [right]

def tuple : List Text → Text
  | [item] => '(' :: item ++ [',', ')']
  | items => enclose '(' items ')'

def call (name : String) (arguments : List Text) : Text :=
  name.toList ++ enclose '(' arguments ')'

end UriTemplate.Quoted
