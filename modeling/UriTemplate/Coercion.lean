import UriTemplate.Datum

set_option autoImplicit false

/-!
Which data can be rendered, and as what. Texts, truth values and numbers are scalars, ordered
sequences are lists, mappings are mappings; one enumeration layer is taken off a bound datum and
one off each of its parts. Anything else is refused by the kind of the first part that fails.
-/

namespace UriTemplate

inductive ExpandError
  | unsupported (name : Text) (kind : String)
  | unsupportedKey (shown : Text) (kind : String)
  | rejected (name : Text) (value : Value)
  | excess (e : Digits.Excess)
  deriving DecidableEq, Repr

def ExpandError.message : ExpandError → Text
  | .unsupported name kind => refusal kind (Quoted.text name)
  | .unsupportedKey shown kind => refusal kind shown
  | .rejected name value =>
    value.display ++ " is an invalid value for ".toList ++ Quoted.text name
  | .excess e => e.message.toList
where
  refusal (kind : String) (subject : Text) : Text :=
    "Can't convert ".toList ++ kind.toList ++ " bound to ".toList ++ subject ++
      " into a string, list or mapping".toList

namespace Datum

def scalar? : Datum → Option (Except Digits.Excess Text)
  | .bool b => some (.ok (if b then "true" else "false").toList)
  | .text t => some (.ok t)
  | .number n => some n.text
  | _ => none

def toScalar (name : Text) (d : Datum) : Except ExpandError Text :=
  match d.scalar? with
  | some read => read.mapError .excess
  | none => .error (.unsupported name d.kind)

def toPart (name : Text) (d : Datum) : Except ExpandError Text := d.unwrap.toScalar name

def toEntry (name : Text) (e : Datum × Datum) : Except ExpandError (Text × Text) := do
  let key ← toPart name e.1
  let item ← toPart name e.2
  return (key, item)

def toValue (name : Text) (d : Datum) : Except ExpandError (Option Value) :=
  match d with
  | .mapping entries => do
    return Shape.ifDefined (.mapping (Assoc.ofList (← entries.mapM (toEntry name))))
  | _ =>
    match d.items? with
    | some items => do return Shape.ifDefined (.list (← items.mapM (toPart name)))
    | none => do return some (.scalar (← d.toScalar name))

def coerce (name : Text) (d : Datum) : Except ExpandError (Option Value) :=
  match d with
  | .null => .ok none
  | _ => d.unwrap.toValue name

/-- Bindings under the names that their keys stand for. A member whose value is a text stands for
    that text, any other member for its own name. -/
def nameKeys {α : Type} (bindings : List (Datum × α)) : Except ExpandError (Assoc Text α) := do
  return Assoc.ofList (← bindings.mapM fun e => return (← keyName e.1, e.2))
where
  keyName : Datum → Except ExpandError Text
    | .text t => .ok t
    | .member _ (.text t) => .ok t
    | .member name _ => .ok name
    | d => do
      let shown ← d.display.mapError .excess
      .error (.unsupportedKey shown d.kind)

end Datum

end UriTemplate
