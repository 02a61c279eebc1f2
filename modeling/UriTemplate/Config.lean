import UriTemplate.Datum.Key
import UriTemplate.Normalization.Form

set_option autoImplicit false

namespace UriTemplate

open Normalization

/-- `fullMatch` asks a match to use up the whole URI. -/
structure Config where
  normalizeValues : Bool := true
  form : Form := .nfkc
  fullMatch : Bool := true
  deriving DecidableEq, Repr

namespace Config

inductive Invalid
  | unknownField (name : Text)
  | unknownForm (shown : Text)
  | noKey (fault : Datum.KeyFault)
  | excess (e : Digits.Excess)
  deriving DecidableEq, Repr

def Invalid.message : Invalid → Text
  | .unknownField name =>
    "TemplateConfig.__init__() got an unexpected keyword argument '".toList ++ name ++ "'".toList
  | .unknownForm shown =>
    "Unknown normalization form ".toList ++ shown ++
      ". Expected one of: NFC, NFD, NFKC, NFKD".toList
  | .noKey fault => fault.message
  | .excess e => e.message.toList

def formOf (d : Datum) : Except Invalid Form :=
  match d with
  | .text name =>
    match Form.ofName? (String.ofList name) with
    | some form => .ok form
    | none => .error (.unknownForm (Quoted.text name))
  | _ =>
    match d.keyFault?, d.display with
    | some fault, _ => .error (.noKey fault)
    | none, .ok shown => .error (.unknownForm shown)
    | none, .error e => .error (.excess e)

def fieldNames : List Text :=
  ["normalize_values", "normalization_form", "full_match"].map String.toList

def checkFields (names : List Text) : Except Invalid Unit :=
  match names.find? fun name => !fieldNames.contains name with
  | some name => .error (.unknownField name)
  | none => .ok ()

def ofNames (normalizeValues : Bool) (form : Datum) (fullMatch : Bool) : Except Invalid Config := do
  return ⟨normalizeValues, ← formOf form, fullMatch⟩

end Config

end UriTemplate
