import UriTemplate.Json.Reading

set_option autoImplicit false

namespace UriTemplate.Command

inductive BindingError
  | json (e : Json.ReadError)
  | notObject
  | badPair (pair : Text)
  deriving DecidableEq, Repr

def BindingError.message : BindingError → Text
  | .json e => e.message
  | .notObject => "--json must be a JSON object".toList
  | .badPair pair => "Expected NAME=VALUE, got ".toList ++ Quoted.text pair

def splitPair (pair : Text) : Except BindingError (Text × Text) :=
  match Text.partition? '=' pair with
  | some ([], _) | none => .error (.badPair pair)
  | some (name, value) => .ok (name, value)

def collect (m : Assoc Text (List Text)) (pair : Text × Text) : Assoc Text (List Text) :=
  m.put pair.1 ((m.find? pair.1).getD [] ++ [pair.2])

def ofCollected : List Text → Json
  | [value] => .ofText value
  | values => .array (values.map .ofText)

/-- The members of the object in a text; an empty text counts as none. -/
def readObject (json? : Option Text) : Except BindingError (Assoc Loose Json) :=
  match json? with
  | none | some [] => .ok []
  | some source =>
    match Json.parse source with
    | .error e => .error (.json e)
    | .ok (.object members) => .ok members
    | .ok _ => .error .notObject

def readBindings (pairs : List Text) (json? : Option Text) :
    Except BindingError (Assoc Loose Json) := do
  let members ← readObject json?
  let split ← pairs.mapM splitPair
  let collected := split.foldl collect []
  return members.putAll (collected.map fun e => (.ofText e.1, ofCollected e.2))

end UriTemplate.Command
