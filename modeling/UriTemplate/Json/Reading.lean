import UriTemplate.Json

set_option autoImplicit false

/-!
Besides standard JSON the reader takes `NaN`, `Infinity` and `-Infinity`. Of members with one name
the last counts. Faults are located by how much text is left, and shown by line and column. Arrays
and objects may stand inside one another up to a fixed depth.
-/

namespace UriTemplate

namespace Json

inductive Reason
  | expectedValue
  | expectedName
  | expectedColon
  | expectedComma
  | extraData
  | controlCharacter
  | unknownEscape
  | badUnicodeEscape
  | unterminatedText
  | byteOrderMark
  deriving DecidableEq, Repr

def Reason.message : Reason → String
  | .expectedValue => "Expecting value"
  | .expectedName => "Expecting property name enclosed in double quotes"
  | .expectedColon => "Expecting ':' delimiter"
  | .expectedComma => "Expecting ',' delimiter"
  | .extraData => "Extra data"
  | .controlCharacter => "Invalid control character at"
  | .unknownEscape => "Invalid \\escape"
  | .badUnicodeEscape => "Invalid \\uXXXX escape"
  | .unterminatedText => "Unterminated string starting at"
  | .byteOrderMark => "Unexpected UTF-8 BOM (decode using utf-8-sig)"

inductive Nest
  | array | object
  deriving DecidableEq, Repr

def Nest.name : Nest → String
  | .array => "array"
  | .object => "object"

def deepest : Nat := 990

inductive ReadError
  | malformed (reason : Reason) (source : Text) (position : Nat)
  | excess (e : Digits.Excess)
  | tooDeep (nest : Nest)
  deriving DecidableEq, Repr

def ReadError.message : ReadError → Text
  | .malformed reason source position =>
    let before := source.take position
    let line := before.count '\n' + 1
    let column := (before.reverse.takeWhile (· ≠ '\n')).length + 1
    s!"{reason.message}: line {line} column {column} (char {position})".toList
  | .excess e => e.message.toList
  | .tooDeep nest =>
    "maximum recursion depth exceeded while decoding a JSON ".toList ++ nest.name.toList ++
      " from a unicode string".toList

/-- A fault where `left` characters are still to come. -/
inductive Fault
  | malformed (reason : Reason) (left : Nat)
  | excess (e : Digits.Excess)
  | tooDeep (nest : Nest)

def Fault.inText (source : Text) : Fault → ReadError
  | .malformed reason left => .malformed reason source (source.length - left)
  | .excess e => .excess e
  | .tooDeep nest => .tooDeep nest

def fail {α : Type} (reason : Reason) (t : Text) : Except Fault α :=
  .error (.malformed reason t.length)

def skipBlank (t : Text) : Text := t.dropWhile [' ', '\t', '\n', '\r'].contains

def hex4? : Text → Option (Nat × Text)
  | a :: b :: c :: d :: rest => do
    let n ← [a, b, c, d].foldlM (fun n x => (Character.hexValue? x).map (16 * n + ·)) 0
    return (n, rest)
  | _ => none

def isHighSurrogate (n : Nat) : Bool := 0xD800 ≤ n && n < 0xDC00
def isLowSurrogate (n : Nat) : Bool := 0xDC00 ≤ n && n < 0xE000

/-- The code point of an escape, from its `u` on. Text has to go on after the digits, and two
    escapes may form one character. -/
def readUnicode (t : Text) : Except Fault (CodePoint × Text) :=
  match hex4? (t.drop 1) with
  | none | some (_, []) => fail .badUnicodeEscape t
  | some (n, '\\' :: 'u' :: more) =>
    if isHighSurrogate n && 4 < more.length then
      match hex4? more with
      | none => fail .badUnicodeEscape ('u' :: more)
      | some (low, rest) =>
        if isLowSurrogate low then
          .ok (.ofNat (0x10000 + (n - 0xD800) * 0x400 + (low - 0xDC00)), rest)
        else .ok (.ofNat n, '\\' :: 'u' :: more)
    else .ok (.ofNat n, '\\' :: 'u' :: more)
  | some (n, rest) => .ok (.ofNat n, rest)

def escaped? : Char → Option Char
  | '"' => some '"'
  | '\\' => some '\\'
  | '/' => some '/'
  | 'b' => some '\x08'
  | 'f' => some '\x0c'
  | 'n' => some '\n'
  | 'r' => some '\r'
  | 't' => some '\t'
  | _ => none

/-- The rest of a text whose opening quote stood before `start`. Every step takes a character, so a
    text of that length is fuel enough. -/
def readText (start : Text) : Text → Text → Except Fault (Loose × Text)
  | [], _ => .error (.malformed .unterminatedText (start.length + 1))
  | _ :: fuel, t =>
    match t with
    | [] | ['\\'] => .error (.malformed .unterminatedText (start.length + 1))
    | '"' :: rest => .ok ([], rest)
    | '\\' :: 'u' :: rest => do
      let (p, rest) ← readUnicode ('u' :: rest)
      push p (← readText start fuel rest)
    | '\\' :: letter :: rest =>
      match escaped? letter with
      | some c => do push (.char c) (← readText start fuel rest)
      | none => fail .unknownEscape t
    | c :: rest =>
      if c.toNat < 0x20 then fail .controlCharacter t
      else do push (.char c) (← readText start fuel rest)
where
  push (p : CodePoint) (read : Loose × Text) : Except Fault (Loose × Text) :=
    .ok (p :: read.1, read.2)

def readQuoted (t : Text) : Except Fault (Loose × Text) := readText t t t

def readPlaces : Text → Text × Text
  | '.' :: d :: rest =>
    if d.isDigit then (d :: rest.takeWhile Char.isDigit, rest.dropWhile Char.isDigit)
    else ([], '.' :: d :: rest)
  | t => ([], t)

def readPower (t : Text) : Option Int × Text :=
  match t with
  | [] => (none, t)
  | e :: rest =>
    if e = 'e' ∨ e = 'E' then
      let (negative, body) := Numeral.sign rest
      let digits := body.takeWhile Char.isDigit
      if digits.isEmpty then (none, t)
      else
        let n : Int := Nat.ofDigitChars 10 digits 0
        (some (if negative then -n else n), body.dropWhile Char.isDigit)
    else (none, t)

def readWhole : Text → Text × Text
  | '0' :: rest => (['0'], rest)
  | t => (t.takeWhile Char.isDigit, t.dropWhile Char.isDigit)

def readNumber (t : Text) : Except Fault (Json × Text) :=
  let (negative, body) := match t with
    | '-' :: body => (true, body)
    | _ => (false, t)
  let (whole, rest) := readWhole body
  if whole.isEmpty then fail .expectedValue t
  else
    let (places, rest) := readPlaces rest
    let (power?, rest) := readPower rest
    if places.isEmpty ∧ power?.isNone then
      match Digits.read whole with
      | .ok n => .ok (.int (if negative then -n else n), rest)
      | .error e => .error (.excess e)
    else
      let exponent := power?.getD 0 - places.length
      .ok (.float (.ofNumeral ⟨negative, Nat.ofDigitChars 10 (whole ++ places) 0, exponent⟩), rest)

def words : List (Text × Json) :=
  [("null".toList, .null), ("true".toList, .bool true), ("false".toList, .bool false),
    ("NaN".toList, .float .nan), ("Infinity".toList, .float (.infinity false)),
    ("-Infinity".toList, .float (.infinity true))]

def readWord? (t : Text) : Option (Json × Text) :=
  words.findSome? fun (word, value) => (word.isPrefixOf? t).map (value, ·)

def inside (nest : Nest) : Nat → Except Fault Nat
  | 0 => .error (.tooDeep nest)
  | room + 1 => .ok room

mutual

/-- The value at the front of a text, with room for so many levels. A value takes at least one
    character and opens at most one level, so twice the length of the text is fuel enough. -/
def readValue (fuel room : Nat) (t : Text) : Except Fault (Json × Text) :=
  match fuel with
  | 0 => fail .expectedValue t
  | fuel + 1 =>
    match t with
    | '"' :: rest => do
      let (s, rest) ← readQuoted rest
      return (.text s, rest)
    | '[' :: rest => do
      let room ← inside .array room
      match skipBlank rest with
      | ']' :: rest => return (.array [], rest)
      | start => do
        let (items, rest) ← readItems fuel room start
        return (.array items, rest)
    | '{' :: rest => do
      let room ← inside .object room
      match skipBlank rest with
      | '}' :: rest => return (.object [], rest)
      | start => do
        let (members, rest) ← readMembers fuel room start
        return (.object (Assoc.ofList members), rest)
    | _ =>
      match readWord? t with
      | some read => .ok read
      | none => readNumber t

def readItems (fuel room : Nat) (t : Text) : Except Fault (List Json × Text) :=
  match fuel with
  | 0 => fail .expectedValue t
  | fuel + 1 => do
    let (item, rest) ← readValue fuel room t
    match skipBlank rest with
    | ']' :: rest => return ([item], rest)
    | ',' :: rest => do
      let (items, rest) ← readItems fuel room (skipBlank rest)
      return (item :: items, rest)
    | rest => fail .expectedComma rest

def readMembers (fuel room : Nat) (t : Text) : Except Fault (List (Loose × Json) × Text) :=
  match fuel with
  | 0 => fail .expectedName t
  | fuel + 1 =>
    match t with
    | '"' :: rest => do
      let (name, rest) ← readQuoted rest
      match skipBlank rest with
      | ':' :: rest => do
        let (value, rest) ← readValue fuel room (skipBlank rest)
        match skipBlank rest with
        | '}' :: rest => return ([(name, value)], rest)
        | ',' :: rest => do
          let (members, rest) ← readMembers fuel room (skipBlank rest)
          return ((name, value) :: members, rest)
        | rest => fail .expectedComma rest
      | rest => fail .expectedColon rest
    | _ => fail .expectedName t

end

def readAll (t : Text) : Except Fault Json := do
  match t with
  | '\uFEFF' :: _ => fail .byteOrderMark t
  | _ =>
    let (value, rest) ← readValue (2 * t.length + 2) deepest (skipBlank t)
    match skipBlank rest with
    | [] => return value
    | rest => fail .extraData rest

def parse (source : Text) : Except ReadError Json :=
  (readAll source).mapError (Fault.inText source)

end Json

end UriTemplate
