import UriTemplate.Number.Digits
import UriTemplate.Text.Quoted

set_option autoImplicit false

namespace UriTemplate

/-- `explode` gives every member of a list or mapping a place of its own; `first` cuts text to that
    many characters. -/
inductive Modifier
  | none
  | explode
  | first (count : Nat) (positive : 0 < count)
  deriving DecidableEq, Repr

structure VarSpec where
  name : Text
  modifier : Modifier := .none
  deriving DecidableEq, Repr

namespace VarSpec

def explodes (v : VarSpec) : Bool := v.modifier = .explode

def limit? (v : VarSpec) : Option Nat :=
  match v.modifier with
  | .first count _ => some count
  | _ => none

def names (specs : List VarSpec) : List Text := specs.map (·.name)

def text (v : VarSpec) : Text :=
  match v.modifier with
  | .none => v.name
  | .explode => v.name ++ ['*']
  | .first count _ => v.name ++ ':' :: Digits.ofNat count

inductive Invalid
  | twoModifiers (name : Text)
  | notPositive (name : Text) (count : Int)
  deriving DecidableEq, Repr

def Invalid.message : Invalid → Text
  | .twoModifiers name =>
    "Variable ".toList ++ Quoted.text name ++ " cannot be both exploded and prefixed.".toList
  | .notPositive name count =>
    "Prefix length for ".toList ++ Quoted.text name ++ s!" must be positive, got {count}.".toList

def ofParts (name : Text) (explode : Bool) (count? : Option Int) : Except Invalid VarSpec :=
  match count?, explode with
  | none, false => .ok ⟨name, .none⟩
  | none, true => .ok ⟨name, .explode⟩
  | some _, true => .error (.twoModifiers name)
  | some count, false =>
    if h : 0 < count then .ok ⟨name, .first count.toNat (by omega)⟩
    else .error (.notPositive name count)

end VarSpec

end UriTemplate
