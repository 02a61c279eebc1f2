import UriTemplate.Config
import UriTemplate.Event
import UriTemplate.Node.Reading
import UriTemplate.Rendering

set_option autoImplicit false

namespace UriTemplate

structure Template where
  source : Text
  nodes : List Node
  config : Config

inductive TemplateError
  | notText (kind : String)
  | unreadable (e : ParseError)
  deriving DecidableEq, Repr

def TemplateError.message : TemplateError → Text
  | .notText kind => s!"Template source must be a string, got {kind}.".toList
  | .unreadable e => e.message

namespace Template

def ofText (source : Text) (config : Config) : Except ParseError Template := do
  return ⟨source, ← Node.ofText source, config⟩

/-- A template from any datum, of which only texts are sources. -/
def ofDatum (source : Datum) (config : Config) : Except TemplateError Template :=
  match source with
  | .text t => (ofText t config).mapError .unreadable
  | d => .error (.notText d.kind)

def declared (t : Template) : List Text := Node.declared t.nodes

def parsedEvent (t : Template) : Event := .parsed t.source t.nodes.length t.declared

def display (t : Template) : Text := Quoted.call "Template" [Quoted.text t.source]

def isEqual (t other : Template) : Bool := t.source = other.source

def expandNodes {ε : Type} (expand : Expression → Except ε Text) (nodes : List Node) :
    Except ε Text := do
  return (← nodes.mapM expandNode).flatten
where
  expandNode : Node → Except ε Text
    | .literal text => .ok text
    | .expression e => expand e

/-- The form in which values are normalized. `normalize` overrides the configuration. -/
def form? (t : Template) (normalize : Option Bool) : Option Normalization.Form :=
  if normalize.getD t.config.normalizeValues then some t.config.form else none

/-- Keys and texts that are bound are text proper, so encoding them cannot fail. The texts of JSON
    may be others; `Command.expandJson` expands these and fails where they have no encoding. -/
def expand (t : Template) (bindings : List (Datum × Datum)) (normalize : Option Bool)
    (hooks : Hooks) : Except ExpandError Text := do
  let named ← Datum.nameKeys bindings
  expandNodes (Expression.expand ⟨t.form? normalize, hooks⟩ named) t.nodes

end Template

end UriTemplate
