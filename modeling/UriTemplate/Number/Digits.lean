import UriTemplate.Text.Character

set_option autoImplicit false

namespace UriTemplate.Digits

/-- The most digits that are read or written; a sign does not count. -/
def limit : Nat := 4300

/-- A number with more digits than the limit, met while reading that many or while writing. -/
inductive Excess
  | reading (count : Nat)
  | writing
  deriving DecidableEq, Repr

def Excess.message : Excess → String
  | .reading count =>
    s!"Exceeds the limit ({limit} digits) for integer string conversion: value has {count} digits; use sys.set_int_max_str_digits() to increase the limit"
  | .writing =>
    s!"Exceeds the limit ({limit} digits) for integer string conversion; use sys.set_int_max_str_digits() to increase the limit"

def ofNat (n : Nat) : Text := Nat.toDigits 10 n

def read (digits : Text) : Except Excess Nat :=
  if limit < digits.length then .error (.reading digits.length)
  else .ok (Nat.ofDigitChars 10 digits 0)

def writeNat (n : Nat) : Except Excess Text :=
  if Nat.pow 10 limit ≤ n then .error .writing else .ok (ofNat n)

def writeInt (n : Int) : Except Excess Text := do
  let digits ← writeNat n.natAbs
  return if n < 0 then '-' :: digits else digits

theorem read_ofNat {n : Nat} (h : (ofNat n).length ≤ limit) : read (ofNat n) = .ok n := by
  rw [read, if_neg (Nat.not_lt.2 h)]
  exact congrArg _ (Nat.ofDigitChars_toDigits (by decide) (by decide))

end UriTemplate.Digits
