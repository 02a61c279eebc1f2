import UriTemplate.Command.Arguments
import UriTemplate.Datum

set_option autoImplicit false

namespace UriTemplate.Command

/-- `uri` is any datum, since a lone separator in its place leaves an empty list. -/
inductive Request
  | expand (template : Text) (pairs : List Text) (json? : Option Text) (normalize : Bool)
  | matchUri (template : Text) (uri : Datum) (allowRest : Bool)
  | parse (template : Text)

def switch (name : String) (s : Switch) : Text × Switch := (name.toList, s)

def helpSwitches : List (Text × Switch) := [switch "-h" .help, switch "--help" .help]

def mainUsage : Usage :=
  ⟨helpSwitches ++ [switch "-v" .verbose, switch "--verbose" .verbose], [.command]⟩

def expandUsage : Usage :=
  ⟨helpSwitches ++ [switch "--json" .json, switch "--no-normalize" .noNormalize], [.one, .many]⟩

def matchUsage : Usage := ⟨helpSwitches ++ [switch "--prefix" .allowRest], [.one, .one]⟩

def parseUsage : Usage := ⟨helpSwitches, [.one]⟩

namespace Arguments

def has (a : Arguments) (s : Switch) : Bool := a.switches.any (·.1 = s)

def value? (a : Arguments) (s : Switch) : Option Text :=
  (a.switches.reverse.find? (·.1 = s)).bind (·.2)

end Arguments

def datum : List Text → Datum
  | [t] => .text t
  | texts => .sequence .list (texts.map .text)

def readCommand (u : Usage) (args : List Text) : Except Stop Arguments := do
  let a ← u.read args
  if a.positionals.length < u.positionals.length then .error .misuse else return a

def readRequest (name : Text) (args : List Text) : Except Stop (Request × List Text) :=
  if name = "expand".toList then do
    let a ← readCommand expandUsage args
    match a.positionals with
    | [[template], pairs] =>
      return (.expand template pairs (a.value? .json) (!a.has .noNormalize), a.extras)
    | _ => .error .misuse
  else if name = "match".toList then do
    let a ← readCommand matchUsage args
    match a.positionals with
    | [[template], uri] => return (.matchUri template (datum uri) (a.has .allowRest), a.extras)
    | _ => .error .misuse
  else if name = "parse".toList then do
    let a ← readCommand parseUsage args
    match a.positionals with
    | [[template]] => return (.parse template, a.extras)
    | _ => .error .misuse
  else .error .misuse

/-- A whole command line: whether it asks for log lines, and its request. Without a command it asks
    for help, and nothing may be left over. -/
def readLine (args : List Text) : Except Stop (Bool × Request) := do
  let a ← mainUsage.read args
  match a.positionals with
  | [name :: args] =>
    let (request, extras) ← readRequest name args
    if (a.extras ++ extras).isEmpty then return (a.has .verbose, request) else .error .misuse
  | _ => .error (if a.extras.isEmpty then .help else .misuse)

end UriTemplate.Command
