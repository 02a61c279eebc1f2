import UriTemplate.Cursor
import UriTemplate.Node
import UriTemplate.Text.Percent
import UriTemplate.Value

set_option autoImplicit false

namespace UriTemplate

open Character

structure Item where
  key : Text
  value? : Option Text
  deriving DecidableEq, Repr

namespace Item

def ofText (t : Text) : Item :=
  match Text.partition? '=' t with
  | some (key, value) => ⟨key, some value⟩
  | none => ⟨t, none⟩

def valueText (i : Item) : Text := Percent.decode (i.value?.getD [])

end Item

def Value.ofTexts : List Text → Value
  | [t] => .scalar t
  | items => .list items

/-- Any equals sign makes the items a mapping, in which the last of equal keys stays. -/
def Value.ofItems (items : List Item) : Value :=
  if items.any (·.value?.isSome) then
    .mapping (Assoc.ofList (items.map fun i => (Percent.decode i.key, i.valueText)))
  else .ofTexts (items.map fun i => Percent.decode i.key)

def Value.ofRaw (raw : Text) : Value := .ofTexts ((raw.splitOn ',').map Percent.decode)

abbrev Captures := List (Text × Value) × Text

namespace Captures

def push (name : Text) (value : Value) (later : Captures) : Captures :=
  ((name, value) :: later.1, later.2)

end Captures

namespace Operator

/-- The characters of a positional value. A value that another one may follow leaves out the joiner
    between the two, unless it is exploded. -/
def positionalChar (op : Operator) (explode final : Bool) (c : Char) : Bool :=
  let value := isUnreserved c || if op.allowsReserved then isReserved c else c = ','
  if explode then value || c = op.joiner || c = ',' || c = '='
  else value && (final || c ≠ op.joiner)

end Operator

def namedChar (c : Char) : Bool := isUnreserved c || c = ','

namespace VarSpec

def readPositional (v : VarSpec) (op : Operator) (final : Bool) (t : Text) : Value × Text :=
  if v.explodes then
    let read := Text.run (op.positionalChar true final) none t
    let separator := if read.1.contains op.joiner then op.joiner else ','
    (.ofItems ((read.1.splitOn separator).map Item.ofText), read.2)
  else
    let read := Text.run (op.positionalChar false final) v.limit? t
    (.ofRaw read.1, read.2)

end VarSpec

/-- Positional values, each behind the joiner but the first. Where no joiner follows, the later
    variables were undefined. -/
def readPositionals (op : Operator) : List VarSpec → Text → Captures
  | [], t => ([], t)
  | [v], t =>
    let read := v.readPositional op true t
    ([(v.name, read.1)], read.2)
  | v :: next :: later, t =>
    let read := v.readPositional op false t
    match [op.joiner].isPrefixOf? read.2 with
    | none => ([(v.name, read.1)], read.2)
    | some rest => (readPositionals op (next :: later) rest).push v.name read.1

def itemStart? (op : Operator) (first : Bool) (t : Text) : Option Text :=
  if first then some t else [op.joiner].isPrefixOf? t

def readKey? (op : Operator) (first : Bool) (t : Text) : Option (Text × Text) :=
  match itemStart? op first t with
  | none => none
  | some start =>
    let read := Text.run isUnreserved none start
    if read.1.isEmpty then none else some read

def readNamedValue (limit? : Option Nat) (t : Text) : Option Text × Text :=
  match t with
  | '=' :: rest =>
    let read := Text.run namedChar limit? rest
    (some read.1, read.2)
  | _ => (none, t)

theorem itemStart?_length_le {op : Operator} {first : Bool} {t start : Text}
    (h : itemStart? op first t = some start) : start.length ≤ t.length := by
  unfold itemStart? at h
  cases first with
  | true => simp [Option.some.inj h]
  | false =>
    cases t with
    | nil => cases h
    | cons c t =>
      have hall : ([] : Text).isPrefixOf? t = some t := by cases t <;> rfl
      change (if op.joiner == c then ([] : Text).isPrefixOf? t else none) = some start at h
      split at h
      · rw [hall] at h
        simp [Option.some.inj h]
      · cases h

theorem readKey?_length_lt {op : Operator} {first : Bool} {t key rest : Text}
    (h : readKey? op first t = some (key, rest)) : rest.length < t.length := by
  unfold readKey? at h
  split at h
  · simp at h
  · next start hs =>
    simp only at h
    split at h
    · simp at h
    · next hne =>
      have hrun := congrArg List.length (Text.run_append isUnreserved none start)
      rw [Option.some.inj h] at hrun hne
      have : 0 < key.length := List.length_pos_iff.2 (by simpa using hne)
      have := itemStart?_length_le hs
      simp only [List.length_append] at hrun
      omega

theorem readNamedValue_length_le (limit? : Option Nat) (t : Text) :
    (readNamedValue limit? t).2.length ≤ t.length := by
  unfold readNamedValue
  split
  · next rest =>
    have := congrArg List.length (Text.run_append namedChar limit? rest)
    simp at this ⊢
    omega
  · simp

def readItems (op : Operator) (later : List Text) (first : Bool) (t : Text) : List Item × Text :=
  match _h : readKey? op first t with
  | none => ([], t)
  | some (key, rest) =>
    if key ∈ later then ([], t)
    else
      let value := readNamedValue none rest
      let more := readItems op later false value.2
      (⟨key, value.1⟩ :: more.1, more.2)
termination_by t.length
decreasing_by
  have := readKey?_length_lt ‹_›
  have := readNamedValue_length_le none rest
  omega

def Value.ofNamedItems (name : Text) (items : List Item) : Value :=
  if items.all (·.key = name) then .ofTexts (items.map Item.valueText) else .ofItems items

/-- Named values, in the order in which the variables are declared. A variable whose name does not
    come next was undefined. -/
def readNamed (op : Operator) : Bool → List VarSpec → Text → Captures
  | _, [], t => ([], t)
  | first, v :: later, t =>
    if v.explodes then
      let read := readItems op (VarSpec.names later) first t
      if read.1.isEmpty then readNamed op first later t
      else (readNamed op false later read.2).push v.name (.ofNamedItems v.name read.1)
    else
      match readKey? op first t with
      | none => readNamed op first later t
      | some (key, rest) =>
        if key = v.name then
          let read := readNamedValue v.limit? rest
          (readNamed op false later read.2).push v.name (.ofRaw (read.1.getD []))
        else readNamed op first later t

inductive Strategy
  | positional | named
  deriving DecidableEq, Repr

def Strategy.ofOperator (op : Operator) : Strategy :=
  if op.isNamed then .named else .positional

namespace Expression

def readValues (strategy : Strategy) (e : Expression) (t : Text) : Captures :=
  match strategy with
  | .positional => readPositionals e.operator e.specs t
  | .named => readNamed e.operator true e.specs t

/-- Reads an expression at a cursor, up to the next occurrence of `boundary` behind its leader.
    Where the leader is missing the expression is absent, and nothing is read. -/
def capture (strategy : Strategy) (e : Expression) (boundary : Option Text) (c : Cursor) :
    List (Text × Value) × Cursor :=
  let c := c.bound none
  match c.consume? e.operator.leader with
  | none => ([], c)
  | some c =>
    let c := c.bound boundary
    let read := e.readValues strategy c.window
    (read.1, c.advance (c.window.length - read.2.length))

structure Unsupported where
  operator : Operator
  deriving DecidableEq, Repr

def Unsupported.message (e : Unsupported) : Text :=
  s!"No extraction algorithm for the {e.operator.word} operator.".toList

def captureBy (table : Operator → Option Strategy) (e : Expression) (boundary : Option Text)
    (c : Cursor) : Except Unsupported (List (Text × Value) × Cursor) :=
  match table e.operator with
  | some strategy => .ok (e.capture strategy boundary c)
  | none => .error ⟨e.operator⟩

end Expression

end UriTemplate
