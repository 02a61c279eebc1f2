import UriTemplate.Coercion
import UriTemplate.Node
import UriTemplate.Normalization.Form
import UriTemplate.Text.Percent

set_option autoImplicit false

namespace UriTemplate

open Character Normalization

inductive Body
  | single (text : Text)
  | several (items : List Text)
  deriving DecidableEq, Repr

/-- A rendered variable before it is named and joined. The items of `keypairs` carry names of
    their own. -/
structure Rendered where
  name : Text
  body : Body
  keypairs : Bool := false
  deriving DecidableEq, Repr

/-- What a caller may add: a test that every value must pass, and a rendering of its own, whose
    text is used without encoding. -/
structure Hooks where
  validate? : Option (Text → Value → Bool) := none
  transform? : Option (Text → Value → Body) := none

structure Settings where
  form? : Option Form := some .nfkc
  hooks : Hooks := {}

namespace Operator

def encode (op : Operator) : Text → Text :=
  if op.allowsReserved then Percent.encodeKeeping fun c => isUnreserved c || isReserved c
  else Percent.encode isUnreserved

def keypair (op : Operator) (e : Text × Text) : Text :=
  if e.2.isEmpty ∧ op.naming = .pathStyle then op.encode e.1
  else op.encode e.1 ++ '=' :: op.encode e.2

end Operator

def commas (items : List Text) : Text := [','].intercalate items

namespace VarSpec

def cut {α : Type} (v : VarSpec) (t : List α) : List α :=
  match v.limit? with
  | some count => t.take count
  | none => t

/-- Renders a value by the operator's rules. Mappings are never cut. -/
def render (v : VarSpec) (op : Operator) : Value → Rendered
  | .scalar t => ⟨v.name, .single (op.encode (v.cut t)), false⟩
  | .list items =>
    let items := items.map fun t => op.encode (v.cut t)
    ⟨v.name, if v.explodes then .several items else .single (commas items), false⟩
  | .mapping entries =>
    if v.explodes then ⟨v.name, .several (entries.map op.keypair), true⟩
    else
      let flat := entries.map fun e => op.encode e.1 ++ ',' :: op.encode e.2
      ⟨v.name, .single (commas flat), false⟩

def renderBody (v : VarSpec) : Body → Rendered
  | .single t => ⟨v.name, .single t, false⟩
  | .several items =>
    ⟨v.name, if v.explodes then .several items else .single (commas items), false⟩

/-- Renders a defined value: validation sees it before normalization, a transform after. -/
def renderValue (settings : Settings) (v : VarSpec) (op : Operator) (value : Value) :
    Except ExpandError Rendered :=
  let accepted := match settings.hooks.validate? with
    | some validate => validate v.name value
    | none => true
  if !accepted then .error (.rejected v.name value)
  else
    let value := match settings.form? with
      | some form => value.map (normalize form)
      | none => value
    match settings.hooks.transform? with
    | some transform => .ok (v.renderBody (transform v.name value))
    | none => .ok (v.render op value)

def renderDatum (settings : Settings) (v : VarSpec) (op : Operator) (d : Datum) :
    Except ExpandError (Option Rendered) := do
  match ← d.coerce v.name with
  | none => return none
  | some value => return some (← v.renderValue settings op value)

inductive NamedFormError
  | expansion (e : ExpandError)
  | form (e : UnknownForm)
  deriving DecidableEq, Repr

def NamedFormError.message : NamedFormError → Text
  | .expansion e => e.message
  | .form e => e.message

/-- Renders under the form with a name, if one is asked for. A name that no form has is noticed
    where there is text to normalize. -/
def renderUnder (name? : Option Text) (hooks : Hooks) (v : VarSpec) (op : Operator) (d : Datum) :
    Except NamedFormError (Option Rendered) := do
  let form? := name?.bind fun name => Form.ofName? (String.ofList name)
  let rendered ← (v.renderDatum ⟨form?, hooks⟩ op d).mapError .expansion
  match name?, d.coerce v.name with
  | some name, .ok (some value) =>
    if form?.isSome || value.texts.all (·.isEmpty) then return rendered
    else .error (.form ⟨name⟩)
  | _, _ => return rendered

end VarSpec

namespace Rendered

def items (r : Rendered) : List Text :=
  match r.body with
  | .single t => [t]
  | .several items => items

def units (r : Rendered) (naming : Naming) : List Text :=
  if r.keypairs then r.items
  else match naming with
    | .bare => r.items
    | .pathStyle => r.items.map fun t => if t.isEmpty then r.name else r.name ++ '=' :: t
    | .named => r.items.map fun t => r.name ++ '=' :: t

end Rendered

namespace Expression

def assemble (op : Operator) (units : List Text) : Text :=
  if units.isEmpty then [] else op.leader ++ [op.joiner].intercalate units

/-- Expands an expression, whose variables are rendered one after the other. The first that fails
    decides the error. -/
def expandBy {ε : Type} (render : Operator → VarSpec → Except ε (Option Rendered))
    (e : Expression) : Except ε Text := do
  let rendered ← e.specs.mapM (render e.operator)
  return assemble e.operator (rendered.flatMap fun
    | none => []
    | some r => r.units e.operator.naming)

def expand (settings : Settings) (bindings : Assoc Text Datum) :
    Expression → Except ExpandError Text :=
  expandBy fun op v => v.renderDatum settings op ((bindings.find? v.name).getD .null)

end Expression

end UriTemplate
