import UriTemplate.Number.Binary64

set_option autoImplicit false

/-!
The fewest digits that read back as the same binary number, and of those the nearest to it. Each
number of digits is a grid of decimals; a grid is tried by the two neighbours of the value on it.
-/

namespace UriTemplate.Shortest

/-- A value with the ends of the interval that rounds to it, all over one denominator. The ends
    belong to the interval exactly if the mantissa is even. -/
structure Interval where
  low : Nat
  value : Nat
  high : Nat
  den : Nat
  closed : Bool

def interval (mantissa : Nat) (exponent : Int) : Interval :=
  let narrow := 2 * mantissa = Binary64.mantissaBound ∧ Binary64.leastExponent < exponent
  let unit := Binary64.Ratio.scale ⟨1, 4⟩ 2 exponent
  { low := (4 * mantissa - if narrow then 1 else 2) * unit.num
    value := 4 * mantissa * unit.num
    high := (4 * mantissa + 2) * unit.num
    den := unit.den
    closed := mantissa % 2 = 0 }

def Interval.contains (i : Interval) (n : Nat) (power : Int) : Bool :=
  let r := Binary64.Ratio.scale ⟨n, 1⟩ 10 power
  let value := r.num * i.den
  if i.closed then i.low * r.den ≤ value ∧ value ≤ i.high * r.den
  else i.low * r.den < value ∧ value < i.high * r.den

/-- The neighbour on the grid of `10 ^ power` that reads back; of two the nearer one, and of two at
    one distance the even one. -/
def onGrid? (i : Interval) (power : Int) : Option Nat :=
  let r := Binary64.Ratio.scale ⟨i.value, i.den⟩ 10 (-power)
  let below := r.num / r.den
  match i.contains below power, i.contains (below + 1) power with
  | true, true => some r.round
  | true, false => some below
  | false, true => some (below + 1)
  | false, false => none

def magnitude (num den : Nat) : Int :=
  let guess : Int := (Nat.toDigits 10 num).length - (Nat.toDigits 10 den).length
  let r := Binary64.Ratio.scale ⟨num, den⟩ 10 (-guess)
  if r.num < r.den then guess else guess + 1

/-- The digits of a positive number as a whole number without trailing zeros to spare, and the
    power of ten that it counts. Seventeen digits always suffice. -/
def decimal (mantissa : Nat) (exponent : Int) : Nat × Int :=
  let i := interval mantissa exponent
  let top := magnitude i.value i.den
  let found := (List.range 17).findSome? fun (places : Nat) =>
    let power := top - 1 - (places : Int)
    (onGrid? i power).map (·, power)
  found.getD (0, 0)

/-- Where positional notation ends, by the power of ten of the first digit, and the least number
    of digits of an exponent. -/
structure Layout where
  plainFrom : Int
  plainBelow : Int
  exponentWidth : Nat

/-- Numbers from a ten-thousandth to below ten to the sixteenth are written positionally, and an
    exponent has two digits at least. -/
def numbers : Layout := ⟨-4, 16, 2⟩

def positional (digits : Text) (lead : Int) : Text :=
  if lead < 0 then '0' :: '.' :: List.replicate (-lead - 1).toNat '0' ++ digits
  else
    let whole := lead.toNat + 1
    if digits.length ≤ whole then
      digits ++ List.replicate (whole - digits.length) '0' ++ ['.', '0']
    else digits.take whole ++ '.' :: digits.drop whole

def scientific (width : Nat) (digits : Text) (lead : Int) : Text :=
  let power := Nat.toDigits 10 lead.natAbs
  let fraction := if digits.length ≤ 1 then [] else '.' :: digits.drop 1
  digits.take 1 ++ fraction ++ 'e' :: (if lead < 0 then '-' else '+') ::
    List.replicate (width - power.length) '0' ++ power

def layOut (l : Layout) (digits : Text) (lead : Int) : Text :=
  if l.plainFrom ≤ lead ∧ lead < l.plainBelow then positional digits lead
  else scientific l.exponentWidth digits lead

def text : Binary64 → Text
  | .nan => "nan".toList
  | .infinity negative => (if negative then "-inf" else "inf").toList
  | .finite negative mantissa exponent =>
    let magnitude :=
      if mantissa = 0 then positional ['0'] 0
      else
        let (n, power) := decimal mantissa exponent
        let digits := Nat.toDigits 10 n
        let significant := (digits.reverse.dropWhile (· = '0')).reverse
        layOut numbers significant (power + digits.length - 1)
    if negative then '-' :: magnitude else magnitude

end UriTemplate.Shortest
