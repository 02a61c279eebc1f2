import UriTemplate.Number.Numeral

set_option autoImplicit false

namespace UriTemplate

inductive Decimal
  | finite (n : Numeral)
  | infinity (negative : Bool)
  | nan (negative signaling : Bool) (payload : Text)
  deriving DecidableEq, Repr

namespace Decimal

def signed (negative : Bool) (t : Text) : Text := if negative then '-' :: t else t

def pointed (digits : Text) (places : Nat) : Text :=
  if places = 0 then digits
  else
    let padded := List.replicate (places + 1 - digits.length) '0' ++ digits
    padded.take (padded.length - places) ++ '.' :: padded.drop (padded.length - places)

def numeralText (n : Numeral) : Text :=
  let digits := Nat.toDigits 10 n.coefficient
  let adjusted := n.exponent + digits.length - 1
  if n.exponent ≤ 0 ∧ -6 ≤ adjusted then pointed digits (-n.exponent).toNat
  else
    pointed digits (digits.length - 1) ++ 'E' :: (if adjusted < 0 then '-' else '+') ::
      Nat.toDigits 10 adjusted.natAbs

/-- The digits are kept as written. The text is positional unless the exponent is positive or the
    value starts after the sixth place. -/
def text : Decimal → Text
  | .finite n => signed n.negative (numeralText n)
  | .infinity negative => signed negative "Infinity".toList
  | .nan negative signaling payload =>
    signed negative ((if signaling then "sNaN" else "NaN").toList ++ payload)

def payload? (t : Text) : Option Text :=
  if t.all Char.isDigit then some (t.dropWhile (· = '0')) else none

def ofText? (t : Text) : Option Decimal :=
  let t := (Numeral.plain Numeral.isBlankOrSeparator t).filter (· ≠ '_')
  let (negative, rest) := Numeral.sign t
  let lower := rest.map Char.toLower
  if lower = "inf".toList ∨ lower = "infinity".toList then some (.infinity negative)
  else match "nan".toList.isPrefixOf? lower, "snan".toList.isPrefixOf? lower with
    | some digits, _ => (payload? digits).map (.nan negative false)
    | _, some digits => (payload? digits).map (.nan negative true)
    | none, none => (Numeral.ofText? t).map .finite

/-- The greatest power of ten that a first digit may count. -/
def greatestPower : Int := 999999999999999999

def leastPower : Int := -1999999999999999997

def inRange : Decimal → Bool
  | .finite n =>
    let first := n.exponent + (Nat.toDigits 10 n.coefficient).length - 1
    leastPower ≤ n.exponent && first ≤ greatestPower
  | _ => true

end Decimal

end UriTemplate
