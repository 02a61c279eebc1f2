import UriTemplate.Number

set_option autoImplicit false

namespace UriTemplate

/-- An infinity, or `± num / den · 2 ^ twos · 5 ^ fives` in lowest terms, where neither `num` nor
    `den` has a factor two or five. Zero is not negative. Powers of two and of five are counted and
    never written out, so a value may be of any size. -/
inductive Amount
  | infinite (negative : Bool)
  | finite (negative : Bool) (num den : Nat) (twos fives : Int)
  deriving DecidableEq, Repr

namespace Amount

/-- Divides a number by a factor as often as it can be divided, and counts how often: by the square
    of the factor as often as possible, and then once more if it can. -/
def divideOut (factor n : Nat) : Nat × Nat :=
  if _ : 1 < factor ∧ 0 < n ∧ n % factor = 0 then
    let (rest, pairs) := divideOut (factor * factor) n
    if rest % factor = 0 then (rest / factor, 2 * pairs + 1) else (rest, 2 * pairs)
  else (n, 0)
termination_by n + 1 - factor
decreasing_by
  rename_i h
  have le : factor ≤ n := Nat.le_of_dvd h.2.1 (Nat.dvd_of_mod_eq_zero h.2.2)
  have lt : factor < factor * factor := Nat.lt_mul_self_iff.2 h.1
  omega

def split (n : Nat) : Nat × Nat × Nat :=
  let (n, twos) := divideOut 2 n
  let (n, fives) := divideOut 5 n
  (n, twos, fives)

def ofParts (negative : Bool) (num den : Nat) (twos fives : Int) : Amount :=
  if num = 0 then .finite false 0 1 0 0
  else
    let common := num.gcd den
    let (num, numTwos, numFives) := split (num / common)
    let (den, denTwos, denFives) := split (den / common)
    .finite negative num den (twos + numTwos - denTwos) (fives + numFives - denFives)

end Amount

def Number.amount? : Number → Option Amount
  | .integer n => some (.ofParts (n < 0) n.natAbs 1 0 0)
  | .float (.finite negative mantissa exponent) => some (.ofParts negative mantissa 1 exponent 0)
  | .decimal (.finite n) =>
    some (.ofParts n.negative n.coefficient 1 n.exponent n.exponent)
  | .fraction num den => some (.ofParts (num < 0) num.natAbs den 0 0)
  | .float (.infinity negative) | .decimal (.infinity negative) => some (.infinite negative)
  | .float .nan | .decimal (.nan _ _ _) => none

end UriTemplate
