import UriTemplate.Text.Quoted

set_option autoImplicit false

namespace UriTemplate

inductive Event
  | parsed (source : Text) (nodes : Nat) (declared : List Text)
  | literalExpected (uri literal : Text) (position node : Nat)
  | readAsAbsent (node : Nat) (uri literal : Text)
  | trailing (uri rest : Text)
  deriving DecidableEq, Repr

def Event.line : Event → Text
  | .parsed source nodes declared =>
    "wren.template: Parsed template ".toList ++ Quoted.text source ++
      s!": {nodes} nodes, variables ".toList ++
      Quoted.tuple (declared.map Quoted.text)
  | .literalExpected uri literal position node =>
    "wren.match: No match for ".toList ++ Quoted.text uri ++ ": literal ".toList ++
      Quoted.text literal ++ s!" expected at position {position} (node {node})".toList
  | .readAsAbsent node uri literal =>
    s!"wren.match: Expression {node} of ".toList ++ Quoted.text uri ++
      " read as absent: literal ".toList ++ Quoted.text literal ++ " follows".toList
  | .trailing uri rest =>
    "wren.match: No match for ".toList ++ Quoted.text uri ++
      ": unmatched trailing text ".toList ++ Quoted.text rest

end UriTemplate
