import UriTemplate.Text.Digit
import UriTemplate.Text.Split

set_option autoImplicit false

/-!
Switches and positional arguments in any order. A long switch may be shortened as far as it stays
unambiguous, and may carry its value behind an equals sign; flags may be joined behind a short one,
with an equals sign after the first or without. After `--` nothing is a switch.
-/

namespace UriTemplate.Command

inductive Switch
  | help | verbose | json | noNormalize | allowRest
  deriving DecidableEq, Repr

def Switch.takesValue (s : Switch) : Bool := s = .json

/-- How many arguments a positional takes: one, any number, or one and everything after it. -/
inductive Arity
  | one | many | command
  deriving DecidableEq, Repr

structure Usage where
  switches : List (Text × Switch)
  positionals : List Arity

inductive Stop
  | help | misuse
  deriving DecidableEq, Repr

inductive Recognized
  | known (s : Switch) (name : Text) (attached : Option Text)
  | unknown

inductive Mark
  | switch (r : Recognized)
  | argument
  | separator

structure Marked where
  text : Text
  mark : Mark

structure Arguments where
  switches : List (Switch × Option Text) := []
  positionals : List (List Text) := []
  extras : List Text := []

def separatorText : Text := ['-', '-']

namespace Usage

def find? (u : Usage) (name : Text) : Option Switch :=
  (u.switches.find? (·.1 = name)).map (·.2)

def candidates (u : Usage) (arg : Text) : List Recognized :=
  if separatorText.isPrefixOf arg then
    let (name, attached) := match Text.partition? '=' arg with
      | some (name, value) => (name, some value)
      | none => (arg, none)
    u.switches.filterMap fun (full, s) =>
      if name.isPrefixOf full then some (.known s full attached) else none
  else
    u.switches.filterMap fun (full, s) =>
      if full = arg.take 2 then some (.known s full (some (arg.drop 2)))
      else if arg.isPrefixOf full then some (.known s full none)
      else none

/-- Digits of any script behind a minus sign, with at most one point before the last of them. A
    line end may follow. -/
def isNegativeNumber (arg : Text) : Bool :=
  let body := arg.drop 1
  let body := if body.getLast? = some '\n' then body.dropLast else body
  match Text.partition? '.' body with
  | none => !body.isEmpty && body.all Digit.isDigit
  | some (whole, places) => !places.isEmpty && whole.all Digit.isDigit && places.all Digit.isDigit

def recognize (u : Usage) (arg : Text) : Except Stop Mark :=
  if arg.head? ≠ some '-' then .ok .argument
  else match u.find? arg with
    | some s => .ok (.switch (.known s arg none))
    | none =>
      if arg.length = 1 then .ok .argument
      else
        let attached := do
          let (name, value) ← Text.partition? '=' arg
          let s ← u.find? name
          return Recognized.known s name (some value)
        match attached, u.candidates arg with
        | some r, _ => .ok (.switch r)
        | none, [r] => .ok (.switch r)
        | none, _ :: _ :: _ => .error .misuse
        | none, [] =>
          if isNegativeNumber arg || arg.contains ' ' then .ok .argument
          else .ok (.switch .unknown)

def marks (u : Usage) : List Text → Except Stop (List Marked)
  | [] => .ok []
  | arg :: rest =>
    if arg = separatorText then
      .ok (⟨arg, .separator⟩ :: rest.map fun text => ⟨text, .argument⟩)
    else do
      let mark ← u.recognize arg
      return ⟨arg, mark⟩ :: (← u.marks rest)

def joined (u : Usage) (letters : Text) : Except Stop (List Switch) :=
  letters.mapM fun c =>
    match u.find? ['-', c] with
    | some s => if s.takesValue then .error .misuse else .ok s
    | none => .error .misuse

end Usage

namespace Marked

def isSwitch (m : Marked) : Bool := match m.mark with
  | .switch _ => true
  | _ => false

def isArgument (m : Marked) : Bool := match m.mark with
  | .argument => true
  | _ => false

def isSeparator (m : Marked) : Bool := match m.mark with
  | .separator => true
  | _ => false

end Marked

def Arity.take? (arity : Arity) (args : List Marked) : Option (List Marked × List Marked) :=
  let start := args.dropWhile Marked.isSeparator
  let lead := args.takeWhile Marked.isSeparator
  match arity, start with
  | .many, _ => some (args.span (!·.isSwitch))
  | _, [] => none
  | .one, arg :: rest =>
    if arg.isArgument then
      some (lead ++ arg :: rest.takeWhile Marked.isSeparator, rest.dropWhile Marked.isSeparator)
    else none
  | .command, arg :: _ => if arg.isArgument then some (args, []) else none

def takeAll? : List Arity → List Marked → Option (List (List Marked) × List Marked)
  | [], args => some ([], args)
  | arity :: later, args => do
    let (taken, rest) ← arity.take? args
    let (more, rest) ← takeAll? later rest
    return (taken :: more, rest)

def takeMost (arities : List Arity) (args : List Marked) : List (List Marked) × List Marked :=
  let tries := (List.range arities.length).reverse.map fun n => arities.take (n + 1)
  (tries.findSome? fun some => takeAll? some args).getD ([], args)

/-- The texts that a positional gets. One separator is not among them, unless the arguments belong
    to a command of their own. -/
def Arity.texts (arity : Arity) (args : List Marked) : List Text :=
  let all := args.map (·.text)
  if arity = .command then all else all.erase separatorText

structure Reading where
  waiting : List Arity
  read : Arguments

namespace Reading

def takePositionals (r : Reading) (args : List Marked) : Reading × List Marked :=
  let (taken, rest) := takeMost r.waiting args
  let texts := (r.waiting.zip taken).map fun (arity, args) => arity.texts args
  let read := { r.read with positionals := r.read.positionals ++ texts }
  (⟨r.waiting.drop taken.length, read⟩, rest)

def addExtras (r : Reading) (texts : List Text) : Reading :=
  { r with read := { r.read with extras := r.read.extras ++ texts } }

def addSwitches (r : Reading) (switches : List (Switch × Option Text)) : Except Stop Reading :=
  if switches.any (·.1 = .help) then .error .help
  else .ok { r with read := { r.read with switches := r.read.switches ++ switches } }

/-- Reads a switch, with a value from the arguments after it if it needs one. An attached separator
    is no value, but takes away one that came before. -/
def takeSwitch (r : Reading) (u : Usage) (text : Text) (found : Recognized)
    (rest : List Marked) : Except Stop (Reading × List Marked) :=
  match found with
  | .unknown => .ok (r.addExtras [text], rest)
  | .known s _ none =>
    if s.takesValue then
      match rest with
      | next :: rest =>
        if next.isArgument then do return (← r.addSwitches [(s, some next.text)], rest)
        else .error .misuse
      | [] => .error .misuse
    else do return (← r.addSwitches [(s, none)], rest)
  | .known s name (some attached) =>
    if s.takesValue then do
      let value := if attached = separatorText then none else some attached
      return (← r.addSwitches [(s, value)], rest)
    else if attached.isEmpty || separatorText.isPrefixOf name then .error .misuse
    else do
      let flags ← u.joined attached
      return (← r.addSwitches ((s :: flags).map (·, none)), rest)

end Reading

/-- Reads the arguments from left to right. Every round takes one at least, so their number is fuel
    enough. -/
def readMarked (u : Usage) : Nat → Reading → List Marked → Except Stop Arguments
  | 0, r, _ => .ok r.read
  | fuel + 1, r, args =>
    if !args.any Marked.isSwitch then
      let (r, rest) := r.takePositionals args
      .ok (r.addExtras (rest.map (·.text))).read
    else
      match args with
      | [] => .ok r.read
      | ⟨text, .switch found⟩ :: rest => do
        let (r, rest) ← r.takeSwitch u text found rest
        readMarked u fuel r rest
      | _ =>
        let (later, rest) := r.takePositionals args
        if rest.length < args.length then readMarked u fuel later rest
        else
          let extras := (args.takeWhile (!·.isSwitch)).map (·.text)
          readMarked u fuel (later.addExtras extras) (args.dropWhile (!·.isSwitch))

def Usage.read (u : Usage) (args : List Text) : Except Stop Arguments := do
  let marked ← u.marks args
  readMarked u (marked.length + 1) ⟨u.positionals, {}⟩ marked

end UriTemplate.Command
