set_option autoImplicit false

namespace UriTemplate

/-- Text is a list of characters, so positions, lengths and limits count characters. No surrogate
    stands alone in it, and all of it can be encoded; where one may, text is `Loose`. -/
abbrev Text := List Char

namespace Character

def hexValue? (c : Char) : Option Nat :=
  if '0' ≤ c ∧ c ≤ '9' then some (c.toNat - 48)
  else if 'A' ≤ c ∧ c ≤ 'F' then some (c.toNat - 55)
  else if 'a' ≤ c ∧ c ≤ 'f' then some (c.toNat - 87)
  else none

def isHexDigit (c : Char) : Bool := (hexValue? c).isSome

def isUnreserved (c : Char) : Bool := c.isAlphanum || ['-', '.', '_', '~'].contains c

def isGenDelim (c : Char) : Bool := [':', '/', '?', '#', '[', ']', '@'].contains c

def isSubDelim (c : Char) : Bool :=
  ['!', '$', '&', '\'', '(', ')', '*', '+', ',', ';', '='].contains c

def isReserved (c : Char) : Bool := isGenDelim c || isSubDelim c

/-- Characters of a variable name, escapes and dots apart. -/
def isVarchar (c : Char) : Bool := c.isAlphanum || c = '_'

end Character

end UriTemplate
