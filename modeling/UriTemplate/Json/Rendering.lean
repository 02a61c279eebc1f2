import UriTemplate.Json
import UriTemplate.Rendering

set_option autoImplicit false

namespace UriTemplate

open Normalization

def Defect.message (d : Defect) : Text :=
  let place :=
    if d.more = 0 then
      "character '\\u".toList ++ Quoted.hexDigits 4 (0xD800 + d.first) ++
        s!"' in position {d.position}".toList
    else s!"characters in position {d.position}-{d.position + d.more}".toList
  "'utf-8' codec can't encode ".toList ++ place ++ ": surrogates not allowed".toList

namespace Json

inductive RenderError
  | expansion (e : ExpandError)
  | defective (d : Defect)
  deriving DecidableEq, Repr

def RenderError.message : RenderError → Text
  | .expansion e => e.message
  | .defective d => d.message

def outline : Json → Datum
  | .null => .null
  | .bool b => .bool b
  | .int n => .number (.integer n)
  | .float x => .number (.float x)
  | .text t => .text t.chars
  | .array _ => .sequence .list []
  | .object _ => .mapping []

def toScalar (name : Text) (j : Json) : Except ExpandError Loose :=
  match j with
  | .text t => .ok t
  | _ => (j.outline.toScalar name).map Loose.ofText

def coerce (name : Text) (j : Json) : Except ExpandError (Option (Shape Loose)) :=
  match j with
  | .null => .ok none
  | .array items => do return Shape.ifDefined (.list (← items.mapM (toScalar name)))
  | .object members => do
    let entries ← members.mapM fun e => return (e.1, ← e.2.toScalar name)
    return Shape.ifDefined (.mapping (Assoc.ofList entries))
  | _ => do return some (.scalar (← j.toScalar name))

def used (form? : Option Form) (v : VarSpec) (value : Shape Loose) : Shape Loose :=
  let value := match form? with
    | some form => value.map (Loose.mapText (normalize form))
    | none => value
  match value with
  | .mapping entries => .mapping entries
  | _ => value.map v.cut

def render (form? : Option Form) (op : Operator) (v : VarSpec) (j : Json) :
    Except RenderError (Option Rendered) := do
  match ← (j.coerce v.name).mapError .expansion with
  | none => return none
  | some value =>
    let value := used form? v value
    match value.texts.findSome? (Loose.defect? op.allowsReserved 0) with
    | some d => .error (.defective d)
    | none => return some (v.render op (value.map Loose.chars))

end Json

end UriTemplate
