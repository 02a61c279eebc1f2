import Std.Data.HashMap
import UriTemplate.Text.Character

set_option autoImplicit false

/-!
Properties of characters are written as text: hexadecimal numbers, `-` between the ends of a span,
`+` between the members of a sequence, `=` before a value, and blanks between the entries.
-/

namespace UriTemplate.CodePoints

structure Span where
  first : Nat
  last : Nat

def Span.contains (s : Span) (n : Nat) : Bool := s.first ≤ n && n ≤ s.last

def number (digits : String) : Nat :=
  digits.foldl (fun n c => 16 * n + (Character.hexValue? c).getD 0) 0

def sequence (text : String) : List Nat := (text.splitOn "+").map number

def span (text : String) : Span :=
  match text.splitOn "-" with
  | [first, last] => ⟨number first, number last⟩
  | _ => ⟨number text, number text⟩

def fields (table : String) : List String :=
  ((table.splitOn "\n").flatMap (·.splitOn " ")).filter (!·.isEmpty)

def entries (table : String) : List (String × String) :=
  (fields table).map fun entry =>
    match entry.splitOn "=" with
    | [key, value] => (key, value)
    | _ => (entry, "")

def spans (table : String) : Array Span := ((fields table).map span).toArray

def valued (table : String) : Array (Span × Nat) :=
  ((entries table).map fun (key, value) => (span key, number value)).toArray

def expansions (table : String) : Std.HashMap Nat Text :=
  Std.HashMap.ofList
    ((entries table).map fun (key, value) => (number key, (sequence value).map Char.ofNat))

def composites (table : String) : Std.HashMap (Nat × Nat) Char :=
  Std.HashMap.ofList ((entries table).filterMap fun (key, value) =>
    match sequence key with
    | [a, b] => some ((a, b), Char.ofNat (number value))
    | _ => none)

end UriTemplate.CodePoints
