import UriTemplate.Assoc
import UriTemplate.Text.Quoted
import UriTemplate.Text.Split

set_option autoImplicit false

namespace UriTemplate

inductive Shape (τ : Type)
  | scalar (text : τ)
  | list (items : List τ)
  | mapping (entries : Assoc τ τ)
  deriving DecidableEq, Repr

abbrev Value := Shape Text

namespace Shape

variable {τ σ : Type}

/-- Empty lists and mappings define nothing. -/
def isDefined : Shape τ → Bool
  | .scalar _ => true
  | .list items => !items.isEmpty
  | .mapping entries => !entries.isEmpty

def ifDefined (v : Shape τ) : Option (Shape τ) := if v.isDefined then some v else none

/-- Applies a function to every text. Keys that become equal are merged. -/
def map [DecidableEq σ] (f : τ → σ) : Shape τ → Shape σ
  | .scalar text => .scalar (f text)
  | .list items => .list (items.map f)
  | .mapping entries => .mapping (Assoc.ofList (entries.map fun e => (f e.1, f e.2)))

def texts : Shape τ → List τ
  | .scalar text => [text]
  | .list items => items
  | .mapping entries => entries.flatMap fun e => [e.1, e.2]

end Shape

def Value.display : Value → Text
  | .scalar text => Quoted.text text
  | .list items => Quoted.enclose '[' (items.map Quoted.text) ']'
  | .mapping entries =>
    let entry (e : Text × Text) : Text := Quoted.text e.1 ++ ": ".toList ++ Quoted.text e.2
    Quoted.enclose '{' (entries.map entry) '}'

end UriTemplate
