import UriTemplate.Number
import UriTemplate.Value

set_option autoImplicit false

namespace UriTemplate

inductive Sequence
  | list | tuple | deque
  deriving DecidableEq, Repr

/-- `view` is a sequence of bytes as numbers; `member` is a named member of an enumeration, which
    stands for its value and is itself no text or number. Complex numbers are left out. -/
inductive Datum
  | null
  | bool (b : Bool)
  | text (t : Text)
  | number (n : Number)
  | sequence (kind : Sequence) (items : List Datum)
  | range (start stop step : Int)
  | view (content : List Nat)
  | mapping (entries : List (Datum × Datum))
  | bytes (mutable : Bool) (content : List Nat)
  | set (frozen : Bool) (items : List Datum)
  | object
  | member (name : Text) (value : Datum)
  deriving Inhabited

namespace Datum

def int (n : Int) : Datum := .number (.integer n)

def kind : Datum → String
  | .null => "NoneType"
  | .bool _ => "bool"
  | .text _ => "str"
  | .number (.integer _) => "int"
  | .number (.float _) => "float"
  | .number (.decimal _) => "Decimal"
  | .number (.fraction _ _) => "Fraction"
  | .sequence .list _ => "list"
  | .sequence .tuple _ => "tuple"
  | .sequence .deque _ => "deque"
  | .range _ _ _ => "range"
  | .view _ => "memoryview"
  | .mapping _ => "dict"
  | .bytes mutable _ => if mutable then "bytearray" else "bytes"
  | .set frozen _ => if frozen then "frozenset" else "set"
  | .object => "object"
  | .member _ _ => "E"

/-- How many numbers there are from `start` on in steps, up to but without `stop`. -/
def rangeLength (start stop step : Int) : Nat :=
  let count : Int :=
    if 0 < step then (stop - start + step - 1) / step else (start - stop - step - 1) / (-step)
  count.toNat

def rangeItems (start stop step : Int) : List Int :=
  (List.range (rangeLength start stop step)).map fun (i : Nat) => start + i * step

def items? : Datum → Option (List Datum)
  | .sequence _ items => some items
  | .range start stop step => some ((rangeItems start stop step).map int)
  | .view content => some (content.map fun (b : Nat) => int b)
  | _ => none

def unwrap : Datum → Datum
  | .member _ value => value
  | d => d

def ofValue : Value → Datum
  | .scalar t => .text t
  | .list items => .sequence .list (items.map .text)
  | .mapping entries => .mapping (entries.map fun e => (.text e.1, .text e.2))

open Quoted (call enclose)

def displaySequence (kind : Sequence) (items : List Text) : Text :=
  match kind with
  | .list => enclose '[' items ']'
  | .tuple => Quoted.tuple items
  | .deque => call "deque" [enclose '[' items ']']

def displaySet (frozen : Bool) (items : List Text) : Text :=
  match frozen, items with
  | false, [] => "set()".toList
  | true, [] => "frozenset()".toList
  | false, _ => enclose '{' items '}'
  | true, _ => call "frozenset" [enclose '{' items '}']

def displayNumber (n : Number) : Except Digits.Excess Text :=
  match n with
  | .integer _ | .float _ => n.text
  | .decimal d => .ok (call "Decimal" [Quoted.text d.text])
  | .fraction num den => do
    return call "Fraction" [← Digits.writeInt num, ← Digits.writeNat den]

def displayRange (start stop step : Int) : Except Digits.Excess Text := do
  let bounds := [start, stop] ++ if step = 1 then [] else [step]
  return call "range" (← bounds.mapM Digits.writeInt)

mutual

def display : Datum → Except Digits.Excess Text
  | .null => .ok "None".toList
  | .bool b => .ok (if b then "True" else "False").toList
  | .text t => .ok (Quoted.text t)
  | .number n => displayNumber n
  | .sequence kind items => do return displaySequence kind (← displayAll items)
  | .range start stop step => displayRange start stop step
  | .view _ => .ok "<memory at 0x7f0000000000>".toList
  | .mapping entries => do return enclose '{' (← displayEntries entries) '}'
  | .bytes false content => .ok (Quoted.bytes false content)
  | .bytes true content => .ok (call "bytearray" [Quoted.bytes true content])
  | .set frozen items => do return displaySet frozen (← displayAll items)
  | .object => .ok "<object object at 0x7f0000000000>".toList
  | .member name value => do
    return "<E.".toList ++ name ++ ": ".toList ++ (← display value) ++ ['>']

def displayAll : List Datum → Except Digits.Excess (List Text)
  | [] => .ok []
  | d :: rest => do return (← display d) :: (← displayAll rest)

def displayEntries : List (Datum × Datum) → Except Digits.Excess (List Text)
  | [] => .ok []
  | (key, item) :: rest => do
    let entry := (← display key) ++ ": ".toList ++ (← display item)
    return entry :: (← displayEntries rest)

end

def asText : Datum → Except Digits.Excess Text
  | .text t => .ok t
  | .number n => n.text
  | .member name _ => .ok ("E.".toList ++ name)
  | d => d.display

end Datum

end UriTemplate
