import UriTemplate.Datum
import UriTemplate.Number.Amount

set_option autoImplicit false

/-!
A set shows its members in the order of a table over whose slots they are scattered by codes of 64
bits. The code of a number is its amount modulo a prime, so equal numbers have one code. Texts and
bytes have no code of their own, and a set that holds one shows its members as they were given.
-/

namespace UriTemplate

namespace Amount

def modulus : Nat := Nat.pow 2 61 - 1

def noResidue : Nat := 314159

def powerMod (base exponent : Nat) : Nat :=
  if exponent = 0 then 1
  else
    let rest := powerMod (base * base % modulus) (exponent / 2)
    if exponent % 2 = 1 then base * rest % modulus else rest
termination_by exponent
decreasing_by omega

/-- A power with any exponent: powers of one base repeat after one less than the prime. -/
def residueOfPower (base : Nat) (exponent : Int) : Nat :=
  powerMod base (exponent % (modulus - 1 : Nat)).toNat

def residue : Amount → Nat
  | .infinite _ => noResidue
  | .finite _ num den twos fives =>
    if den % modulus = 0 then noResidue
    else
      [residueOfPower den (-1), residueOfPower 2 twos, residueOfPower 5 fives].foldl
        (fun r factor => r * factor % modulus) (num % modulus)

def isNegative : Amount → Bool
  | .infinite negative => negative
  | .finite negative _ _ _ _ => negative

/-- The residue with the sign of the amount. Minus one is no code. -/
def code (a : Amount) : UInt64 :=
  let r := UInt64.ofNat a.residue
  if !a.isNegative then r else if r = 1 then -2 else -r

end Amount

namespace Scattering

def integerCode (n : Int) : UInt64 := (Number.integer n).amount?.elim 0 Amount.code

def tupleCode (codes : List UInt64) : UInt64 :=
  let start : UInt64 := 2870177450012600261
  let mix (acc code : UInt64) : UInt64 :=
    let sum := acc + code * 14029467366897019727
    (sum <<< 31 ||| sum >>> 33) * 11400714785074694791
  let mixed := codes.foldl mix start + (UInt64.ofNat codes.length ^^^ start ^^^ (3527539 : UInt64))
  if mixed = -1 then 1546275796 else mixed

def setCode (codes : List UInt64) : UInt64 :=
  let shuffled (code : UInt64) : UInt64 :=
    (code ^^^ (89869747 : UInt64) ^^^ code <<< 16) * 3644798167
  let joined := codes.foldl (fun acc code => acc ^^^ shuffled code) 0
  let counted := joined ^^^ (UInt64.ofNat codes.length + 1) * 1927868237
  let mixed := (counted ^^^ counted >>> 11 ^^^ counted >>> 25) * 69069 + 907133923
  if mixed = -1 then 590923713 else mixed

mutual

def code? : Datum → Option UInt64
  | .bool b => some (if b then 1 else 0)
  | .number n => n.amount?.map Amount.code
  | .sequence .tuple items => (codes? items).map tupleCode
  | .set true items => (codes? items).map setCode
  | .range start stop step =>
    let count := Datum.rangeLength start stop step
    if count ≤ 1 then none else some (tupleCode ([(count : Int), start, step].map integerCode))
  | _ => none

def codes? : List Datum → Option (List UInt64)
  | [] => some []
  | d :: rest => do return (← code? d) :: (← codes? rest)

end

/-- Slots with the members in them, each with its code as a number, and how many there are. -/
structure Table (α : Type) where
  slots : Array (Option (Nat × α))
  used : Nat

namespace Table

variable {α : Type}

def ofSize (size : Nat) : Table α := ⟨Array.replicate size none, 0⟩

def isFree (t : Table α) (slot : Nat) : Bool := (t.slots[slot]?.getD none).isNone

/-- The first free slot among ten from `slot` on, or at `slot` alone near the end of the table. If
    there is none the search goes on at a slot that depends on more and more of the code. -/
def freeSlot? (t : Table α) : Nat → Nat → Nat → Option Nat
  | 0, _, _ => none
  | fuel + 1, slot, code =>
    let near := List.range' slot (if slot + 9 < t.slots.size then 10 else 1)
    match near.find? t.isFree with
    | some free => some free
    | none => freeSlot? t fuel ((5 * slot + 1 + code / 32) % t.slots.size) (code / 32)

/-- Puts a member into a free slot. A code is used up after 13 slots, and from there on the search
    comes to every slot of the table. -/
def place (t : Table α) (e : Nat × α) : Table α :=
  match t.freeSlot? (t.slots.size + 13) (e.1 % t.slots.size) e.1 with
  | some slot => ⟨t.slots.setIfInBounds slot (some e), t.used + 1⟩
  | none => t

def members (t : Table α) : List (Nat × α) := t.slots.toList.filterMap id

def add (t : Table α) (e : Nat × α) : Table α :=
  let t := t.place e
  if t.used * 5 < (t.slots.size - 1) * 3 then t
  else
    let room := t.used * if 50000 < t.used then 2 else 4
    t.members.foldl place (ofSize (max 8 (room + 1).nextPowerOfTwo))

end Table

def ordered (members : List Datum) : List Datum :=
  match codes? members with
  | none => members
  | some codes =>
    let scattered := ((codes.map UInt64.toNat).zip members).foldl Table.add (.ofSize 8)
    scattered.members.map (·.2)

end Scattering

end UriTemplate
