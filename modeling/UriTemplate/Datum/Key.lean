import UriTemplate.Datum
import UriTemplate.Number.Amount

set_option autoImplicit false

namespace UriTemplate

namespace Datum

/-- A datum that cannot be a key: it may change, or it is a number that refuses to be compared. -/
inductive KeyFault
  | changeable (kind : String)
  | signaling
  deriving DecidableEq, Repr

def KeyFault.message : KeyFault → Text
  | .changeable kind => s!"unhashable type: '{kind}'".toList
  | .signaling => "Cannot hash a signaling NaN value.".toList

mutual

def keyFault? : Datum → Option KeyFault
  | .sequence .list _ => some (.changeable "list")
  | .sequence .deque _ => some (.changeable "collections.deque")
  | .sequence .tuple items => keyFaultAmong? items
  | .mapping _ => some (.changeable "dict")
  | .bytes true _ => some (.changeable "bytearray")
  | .set false _ => some (.changeable "set")
  | .number (.decimal (.nan _ true _)) => some .signaling
  | _ => none

def keyFaultAmong? : List Datum → Option KeyFault
  | [] => none
  | d :: rest => (keyFault? d).or (keyFaultAmong? rest)

end

def amount? : Datum → Option Amount
  | .bool b => (Number.integer (if b then 1 else 0)).amount?
  | .number n => n.amount?
  | _ => none

/-- Whether two ranges have the same numbers, told by the parts of them that count. -/
def sameRange (a b : Int × Int × Int) : Bool :=
  let count := rangeLength a.1 a.2.1 a.2.2
  count = rangeLength b.1 b.2.1 b.2.2 &&
    (count = 0 || a.1 = b.1 && (count = 1 || a.2.2 = b.2.2))

mutual

def sameKey : Datum → Datum → Bool
  | .null, .null => true
  | .text a, .text b => a = b
  | .sequence .tuple a, .sequence .tuple b => sameKeys a b
  | .set true a, .set true b => a.length = b.length && allAmong a b
  | .bytes false a, .bytes false b | .bytes false a, .view b => a = b
  | .view a, .bytes false b | .view a, .view b => a = b
  | .range a b s, .range c d t => sameRange (a, b, s) (c, d, t)
  | a, b =>
    match amount? a, amount? b with
    | some x, some y => x = y
    | _, _ => false

def sameKeys : List Datum → List Datum → Bool
  | [], [] => true
  | a :: as, b :: bs => sameKey a b && sameKeys as bs
  | _, _ => false

def allAmong : List Datum → List Datum → Bool
  | [], _ => true
  | a :: as, bs => bs.any (fun b => sameKey a b) && allAmong as bs

end

def addEntry (m : List (Datum × Datum)) (e : Datum × Datum) : List (Datum × Datum) :=
  if m.any fun old => sameKey old.1 e.1 then
    m.map fun old => if sameKey old.1 e.1 then (old.1, e.2) else old
  else m ++ [e]

end Datum

end UriTemplate
