import UriTemplate.Operator
import UriTemplate.Text.Split
import UriTemplate.VarSpec

set_option autoImplicit false

namespace UriTemplate

structure Expression where
  operator : Operator
  specs : List VarSpec
  deriving DecidableEq, Repr

inductive Node
  | literal (text : Text)
  | expression (e : Expression)
  deriving DecidableEq, Repr

def Expression.names (e : Expression) : List Text := VarSpec.names e.specs

def Expression.text (e : Expression) : Text :=
  '{' :: e.operator.symbol ++ [','].intercalate (e.specs.map VarSpec.text) ++ ['}']

def Node.text : Node → Text
  | .literal text => text
  | .expression e => e.text

namespace Node

def render (nodes : List Node) : Text := nodes.flatMap Node.text

def declared (nodes : List Node) : List Text :=
  let names := nodes.flatMap fun
    | .literal _ => []
    | .expression e => e.names
  names.foldl (fun seen name => if name ∈ seen then seen else seen ++ [name]) []

end Node

end UriTemplate
