import UriTemplate.Capture
import UriTemplate.Template

set_option autoImplicit false

namespace UriTemplate

/-- What a match found: the URI, the variables that the template declares, and the bindings of those
    that the URI shows. -/
structure Findings (β : Type) where
  uri : Text
  declared : List Text
  bindings : Assoc Text β
  deriving DecidableEq, Repr

abbrev Match := Findings Value

structure NoMatch where
  template : Text
  uri : Text
  deriving DecidableEq, Repr

def NoMatch.message (e : NoMatch) : Text :=
  Quoted.text e.uri ++ " does not match template ".toList ++ Quoted.text e.template

namespace Template

structure Progress where
  cursor : Cursor
  bindings : Assoc Text Value
  events : List Event

def boundary? : List Node → Option Text
  | .literal text :: _ => some text
  | _ => none

/-- Whether a literal could begin with the leader that an expression would begin with. -/
def opensLiteral (op : Operator) (literal : Text) : Bool :=
  !op.leader.isEmpty && !literal.isEmpty && op.leader.isPrefixOf literal

/-- Matches one expression. If its leader may belong to the literal after it, the expression counts
    as absent unless that literal stands behind it. -/
def matchExpression (index : Nat) (e : Expression) (boundary : Option Text) (p : Progress) :
    Progress :=
  let read := e.capture (.ofOperator e.operator) boundary p.cursor
  let present : Progress := { p with cursor := read.2, bindings := p.bindings.putAll read.1 }
  match boundary with
  | none => present
  | some literal =>
    if opensLiteral e.operator literal && (read.2.matchLiteral? literal).isNone then
      { p with
        cursor := { read.2 with pos := p.cursor.pos }
        events := p.events ++ [.readAsAbsent index p.cursor.text literal] }
    else present

def matchNodes (index : Nat) : List Node → Progress → Except (List Event) Progress
  | [], p => .ok p
  | .literal text :: rest, p =>
    match p.cursor.matchLiteral? text with
    | some cursor => matchNodes (index + 1) rest { p with cursor := cursor }
    | none =>
      .error (p.events ++ [.literalExpected p.cursor.text text p.cursor.pos index])
  | .expression e :: rest, p =>
    matchNodes (index + 1) rest (matchExpression index e (boundary? rest) p)

def trace (t : Template) (uri : Text) : List Event × Option Match :=
  match matchNodes 0 t.nodes ⟨.ofText uri, [], []⟩ with
  | .error events => (events, none)
  | .ok p =>
    if t.config.fullMatch && !p.cursor.atEnd then
      (p.events ++ [.trailing uri p.cursor.remaining], none)
    else (p.events, some ⟨uri, t.declared, p.bindings⟩)

def match? (t : Template) (uri : Text) : Option Match := (t.trace uri).2

def requireMatch (t : Template) (uri : Text) : Except NoMatch Match :=
  match t.match? uri with
  | some m => .ok m
  | none => .error ⟨t.source, uri⟩

end Template

structure Unbound where
  name : Text
  deriving DecidableEq, Repr

def Unbound.message (e : Unbound) : Text := Quoted.text e.name

namespace Findings

variable {β : Type}

def get? (m : Findings β) (name : Text) : Option β := m.bindings.find? name

def get (m : Findings β) (name : Text) : Except Unbound β :=
  match m.get? name with
  | some value => .ok value
  | none => .error ⟨name⟩

def contains (m : Findings β) (name : Text) : Bool := m.bindings.contains name

def valuesAt (m : Findings β) (names : List Text) : List (Option β) := names.map m.get?

def valuesCaptured (m : Findings β) : List (Option β) := m.valuesAt m.declared

def bind (m : Findings β) (name : Text) (value : β) : Findings β :=
  { m with bindings := m.bindings.put name value }

def keyed (m : Findings Datum) : List (Datum × Datum) := m.bindings.map fun e => (.text e.1, e.2)

end Findings

def Match.data (m : Match) : Findings Datum :=
  { m with bindings := m.bindings.map fun e => (e.1, .ofValue e.2) }

end UriTemplate
