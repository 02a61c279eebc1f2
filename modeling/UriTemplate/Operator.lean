import UriTemplate.Text.Character

set_option autoImplicit false

namespace UriTemplate

inductive Operator
  | plain | reserved | fragment | label | path | pathParams | form | formContinuation
  deriving DecidableEq, Repr

/-- How a value carries the name of its variable: not at all, always, or with an empty value
    written as the name alone. -/
inductive Naming
  | bare | named | pathStyle
  deriving DecidableEq, Repr

def Naming.word : Naming → String
  | .bare => "bare"
  | .named => "named"
  | .pathStyle => "path_style"

namespace Operator

def all : List Operator :=
  [.plain, .reserved, .fragment, .label, .path, .pathParams, .form, .formContinuation]

def word : Operator → String
  | .plain => "plain"
  | .reserved => "reserved"
  | .fragment => "fragment"
  | .label => "label"
  | .path => "path"
  | .pathParams => "path_params"
  | .form => "form"
  | .formContinuation => "form_continuation"

def ofWord? (word : String) : Option Operator := all.find? (·.word = word)

def symbol? : Operator → Option Char
  | .plain => none
  | .reserved => some '+'
  | .fragment => some '#'
  | .label => some '.'
  | .path => some '/'
  | .pathParams => some ';'
  | .form => some '?'
  | .formContinuation => some '&'

def symbol (op : Operator) : Text := op.symbol?.toList

def ofChar? : Char → Option Operator
  | '+' => some .reserved
  | '#' => some .fragment
  | '.' => some .label
  | '/' => some .path
  | ';' => some .pathParams
  | '?' => some .form
  | '&' => some .formContinuation
  | _ => none

def ofSymbol : Text → Operator
  | [c] => (ofChar? c).getD .plain
  | _ => .plain

/-- What an expression with a defined variable begins with. -/
def leader : Operator → Text
  | .plain | .reserved => []
  | .fragment => ['#']
  | .label => ['.']
  | .path => ['/']
  | .pathParams => [';']
  | .form => ['?']
  | .formContinuation => ['&']

def joiner : Operator → Char
  | .plain | .reserved | .fragment => ','
  | .label => '.'
  | .path => '/'
  | .pathParams => ';'
  | .form | .formContinuation => '&'

def allowsReserved : Operator → Bool
  | .reserved | .fragment => true
  | _ => false

def naming : Operator → Naming
  | .pathParams => .pathStyle
  | .form | .formContinuation => .named
  | _ => .bare

def isNamed (op : Operator) : Bool := op.naming ≠ .bare

theorem ofChar?_eq_some_iff {c : Char} {op : Operator} :
    ofChar? c = some op ↔ op.symbol? = some c := by
  constructor
  · intro h
    unfold ofChar? at h
    split at h <;> simp at h <;> subst h <;> rfl
  · intro h
    cases op <;> simp [symbol?] at h <;> subst h <;> rfl

end Operator

end UriTemplate
