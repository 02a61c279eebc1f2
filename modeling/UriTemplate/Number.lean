import UriTemplate.Number.Decimal
import UriTemplate.Number.Digits
import UriTemplate.Number.Shortest
import UriTemplate.Text.Quoted

set_option autoImplicit false

namespace UriTemplate

inductive Number
  | integer (n : Int)
  | float (x : Binary64)
  | decimal (d : Decimal)
  | fraction (num : Int) (den : Nat)
  deriving DecidableEq, Repr

namespace Number

def ofFraction (num : Int) (den : Nat) : Number :=
  let common := num.natAbs.gcd den
  .fraction (num / common) (den / common)

inductive Malformed
  | integer (t : Text)
  | float (t : Text)
  | fraction (t : Text)
  | noQuotient (num : Int)
  | excess (e : Digits.Excess)
  | decimal
  | decimalRange
  deriving DecidableEq, Repr

def Malformed.message : Malformed → Text
  | .integer t => "invalid literal for int() with base 10: ".toList ++ (Quoted.text t).take 200
  | .float t => "could not convert string to float: ".toList ++ Quoted.text t
  | .fraction t => "Invalid literal for Fraction: ".toList ++ Quoted.text t
  | .noQuotient num =>
    let digits := Digits.ofNat num.natAbs
    Quoted.call "Fraction" [if num < 0 then '-' :: digits else digits, ['0']]
  | .excess e => e.message.toList
  | .decimal => "[<class 'decimal.ConversionSyntax'>]".toList
  | .decimalRange => "[<class 'decimal.InvalidOperation'>]".toList

def readInteger (t : Text) : Except Malformed Number :=
  match (Numeral.ungrouped? (Numeral.plain Numeral.isBlank t)).bind Numeral.int? with
  | some n => .ok (.integer n)
  | none => .error (.integer t)

def readFloat (t : Text) : Except Malformed Number :=
  match Binary64.ofText? t with
  | some x => .ok (.float x)
  | none => .error (.float t)

def readDecimal (t : Text) : Except Malformed Number :=
  match Decimal.ofText? t with
  | some d => if d.inRange then .ok (.decimal d) else .error .decimalRange
  | none => .error .decimal

def quotient? (t : Text) : Option (Int × Nat) :=
  match Text.partition? '/' t with
  | some (num, den) => do return (← Numeral.int? num, ← Numeral.digits? den)
  | none => do
    let n ← Numeral.ofText? t
    let r := Binary64.Ratio.scale ⟨n.coefficient, 1⟩ 10 n.exponent
    return (if n.negative then -r.num else r.num, r.den)

def excess? (t : Text) : Option Digits.Excess :=
  let rows := t.splitBy fun a b => a.isDigit && b.isDigit
  (rows.find? fun row => Digits.limit < row.length).map fun row => .reading row.length

def readFraction (t : Text) : Except Malformed Number :=
  match Numeral.ungrouped? (Numeral.plain Numeral.isBlankOrSeparator t) with
  | none => .error (.fraction t)
  | some bare =>
    match quotient? bare, excess? bare with
    | none, _ => .error (.fraction t)
    | _, some e => .error (.excess e)
    | some (num, 0), none => .error (.noQuotient num)
    | some (num, den), none => .ok (ofFraction num den)

def text : Number → Except Digits.Excess Text
  | .integer n => Digits.writeInt n
  | .float x => .ok (Shortest.text x)
  | .decimal d => .ok d.text
  | .fraction num den =>
    if den = 1 then Digits.writeInt num
    else do return (← Digits.writeInt num) ++ '/' :: (← Digits.writeNat den)

end Number

end UriTemplate
