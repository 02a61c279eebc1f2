import UriTemplate.Text.Digit
import UriTemplate.Text.Split

set_option autoImplicit false

namespace UriTemplate

/-- The number `coefficient · 10 ^ exponent`, with a sign that zero has too. -/
structure Numeral where
  negative : Bool
  coefficient : Nat
  exponent : Int
  deriving DecidableEq, Repr

namespace Numeral

/-- White space of any script, but for the separators of files, groups, records and units. -/
def isBlank (c : Char) : Bool :=
  let n := c.toNat
  (9 ≤ n && n ≤ 13) || (0x2000 ≤ n && n ≤ 0x200A) ||
    [0x20, 0x85, 0xA0, 0x1680, 0x2028, 0x2029, 0x202F, 0x205F, 0x3000].contains n

def isBlankOrSeparator (c : Char) : Bool := isBlank c || (0x1C ≤ c.toNat && c.toNat ≤ 0x1F)

def plain (blank : Char → Bool) (t : Text) : Text :=
  ((t.dropWhile blank).reverse.dropWhile blank).reverse.map Digit.toAscii

def ungrouped? (t : Text) : Option Text := go false t
where
  go (afterDigit : Bool) : Text → Option Text
    | [] => some []
    | '_' :: d :: rest =>
      if afterDigit && d.isDigit then (go true rest).map (d :: ·) else none
    | '_' :: [] => none
    | c :: rest => (go c.isDigit rest).map (c :: ·)

def sign : Text → Bool × Text
  | '-' :: t => (true, t)
  | '+' :: t => (false, t)
  | t => (false, t)

def digits? (t : Text) : Option Nat :=
  if !t.isEmpty && t.all Char.isDigit then some (Nat.ofDigitChars 10 t 0) else none

def int? (t : Text) : Option Int :=
  let (negative, rest) := sign t
  (digits? rest).map fun n => if negative then -n else n

def mantissa? (t : Text) : Option (Nat × Int) :=
  match Text.partition? '.' t with
  | none => (digits? t).map (·, 0)
  | some (whole, places) =>
    (digits? (whole ++ places)).map (·, -(places.length : Int))

def ofText? (t : Text) : Option Numeral := do
  let (negative, rest) := sign t
  let lower := rest.map Char.toLower
  let (body, power) ←
    match Text.partition? 'e' lower with
    | none => some (lower, 0)
    | some (body, power) => (int? power).map (body, ·)
  let (coefficient, exponent) ← mantissa? body
  return ⟨negative, coefficient, exponent + power⟩

end Numeral

end UriTemplate
