import UriTemplate.Command.Bindings
import UriTemplate.Command.Request
import UriTemplate.Json.Rendering
import UriTemplate.Match

set_option autoImplicit false

namespace UriTemplate.Command

/-- An error that no command reports. -/
inductive Escape
  | template (e : ParseError)
  | tooDeep (nest : Json.Nest)
  deriving DecidableEq, Repr

def Escape.message : Escape → Text
  | .template e => e.message
  | .tooDeep nest => Json.ReadError.message (.tooDeep nest)

inductive Outcome
  | finished (exit : Nat) (output errors : Text)
  | escaped (e : Escape)
  deriving DecidableEq, Repr

def line (t : Text) : Text := t ++ ['\n']

def lines (ts : List Text) : Text := ts.flatMap line

def shown (verbose : Bool) (events : List Event) : Text :=
  if verbose then lines (events.map Event.line) else []

def reported (message : Text) : Text := line ("Error: ".toList ++ message)

def printBindings (bindings : Assoc Text Value) : Text :=
  Json.print (.object (bindings.map fun e => (.ofText e.1, .ofValue e.2)))

def nodeLine (n : Node) : Text :=
  let (kind, content) := match n with
    | .literal text => ("literal", Quoted.text text)
    | .expression e =>
      (e.operator.word, ", ".toList.intercalate (e.specs.map VarSpec.text))
  kind.toList ++ List.replicate (20 - kind.length) ' ' ++ content

def expandJson (t : Template) (bindings : Assoc Loose Json) (normalize : Bool) :
    Except Json.RenderError Text :=
  let render (op : Operator) (v : VarSpec) : Except Json.RenderError (Option Rendered) :=
    ((bindings.find? (.ofText v.name)).getD .null).render (t.form? (some normalize)) op v
  Template.expandNodes (Expression.expandBy render) t.nodes

/-- Reports every fault of the bindings, of the template and of the expansion. Only JSON that goes
    too deep is not reported. -/
def runExpand (verbose : Bool) (template : Text) (pairs : List Text) (json? : Option Text)
    (normalize : Bool) : Outcome :=
  match readBindings pairs json? with
  | .error (.json (.tooDeep nest)) => .escaped (.tooDeep nest)
  | .error e => .finished 2 [] (reported e.message)
  | .ok bindings =>
    match Template.ofText template {} with
    | .error e => .finished 2 [] (reported e.message)
    | .ok t =>
      let log := shown verbose [t.parsedEvent]
      match expandJson t bindings normalize with
      | .error e => .finished 2 [] (log ++ reported e.message)
      | .ok uri => .finished 0 (line uri) log

/-- Reads a template where only a malformed one is reported. -/
def withTemplate (template : Text) (config : Config) (use : Template → Outcome) : Outcome :=
  match Template.ofText template config with
  | .error (.malformed source position reason) =>
    .finished 2 [] (reported (ParseError.message (.malformed source position reason)))
  | .error e => .escaped (.template e)
  | .ok t => use t

def runMatch (verbose : Bool) (template : Text) (uri : Datum) (allowRest : Bool) : Outcome :=
  withTemplate template { fullMatch := !allowRest } fun t =>
    match uri.asText, uri.display with
    | .ok text, .ok display =>
      let (events, result) := t.trace text
      let log := shown verbose (t.parsedEvent :: events)
      match result with
      | some m => .finished 0 (line (printBindings m.bindings)) log
      | none =>
        let failure := "No match: ".toList ++ display ++ " does not fit ".toList ++
          Quoted.text template
        .finished 1 [] (log ++ line failure)
    | .error e, _ | _, .error e => .escaped (.template (.excess e))

def runParse (verbose : Bool) (template : Text) : Outcome :=
  withTemplate template {} fun t =>
    .finished 0 (lines (t.nodes.map nodeLine)) (shown verbose [t.parsedEvent])

def run (verbose : Bool) : Request → Outcome
  | .expand template pairs json? normalize => runExpand verbose template pairs json? normalize
  | .matchUri template uri allowRest => runMatch verbose template uri allowRest
  | .parse template => runParse verbose template

/-- How help and the report of a misuse begin. What they say behind that is left out. -/
def usageMark : Text := "usage:".toList

def runLine (args : List Text) : Outcome :=
  match readLine args with
  | .error .help => .finished 0 (line usageMark) []
  | .error .misuse => .finished 2 [] (line usageMark)
  | .ok (verbose, request) => run verbose request

end UriTemplate.Command
