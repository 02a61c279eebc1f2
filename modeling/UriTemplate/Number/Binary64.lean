import UriTemplate.Number.Numeral

set_option autoImplicit false

namespace UriTemplate

inductive Binary64
  | nan
  | infinity (negative : Bool)
  | finite (negative : Bool) (mantissa : Nat) (exponent : Int)
  deriving DecidableEq, Repr

namespace Binary64

def leastExponent : Int := -1074
def greatestExponent : Int := 971

/-- Mantissas lie below this; those of normal numbers do not lie below its half. -/
def mantissaBound : Nat := Nat.pow 2 53

structure Ratio where
  num : Nat
  den : Nat

def Ratio.scale (r : Ratio) (base : Nat) (exponent : Int) : Ratio :=
  if 0 ≤ exponent then ⟨r.num * Nat.pow base exponent.toNat, r.den⟩
  else ⟨r.num, r.den * Nat.pow base (-exponent).toNat⟩

def Ratio.round (r : Ratio) : Nat :=
  let q := r.num / r.den
  let twice := 2 * (r.num % r.den)
  if twice < r.den then q else if r.den < twice then q + 1 else q + q % 2

/-- The nearest number to a positive fraction. The first guess at the exponent leaves a quotient
    of 53 or 54 bits, so at most one correction is needed. -/
def ofRatio (negative : Bool) (r : Ratio) : Binary64 :=
  let guess : Int := (r.num.log2 : Int) - r.den.log2 - 53
  let scaled := r.scale 2 (-guess)
  let exact := if scaled.num / scaled.den < mantissaBound then guess else guess + 1
  let exponent := max exact leastExponent
  let mantissa := (r.scale 2 (-exponent)).round
  let (mantissa, exponent) :=
    if mantissa = mantissaBound then (mantissaBound / 2, exponent + 1) else (mantissa, exponent)
  if greatestExponent < exponent then .infinity negative else .finite negative mantissa exponent

/-- The nearest number to a decimal one. Beyond 400 digits on either side of the point only zero
    and infinity are left. -/
def ofNumeral (n : Numeral) : Binary64 :=
  let size : Int := (Nat.toDigits 10 n.coefficient).length + n.exponent
  if n.coefficient = 0 ∨ size < -400 then .finite n.negative 0 leastExponent
  else if 400 < size then .infinity n.negative
  else ofRatio n.negative (Ratio.scale ⟨n.coefficient, 1⟩ 10 n.exponent)

def ofText? (t : Text) : Option Binary64 := do
  let t ← Numeral.ungrouped? (Numeral.plain Numeral.isBlank t)
  let (negative, rest) := Numeral.sign t
  let name := String.ofList (rest.map Char.toLower)
  if name = "nan" then return .nan
  else if name = "inf" ∨ name = "infinity" then return .infinity negative
  else return ofNumeral (← Numeral.ofText? t)

end Binary64

end UriTemplate
