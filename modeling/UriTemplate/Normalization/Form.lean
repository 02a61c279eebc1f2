import UriTemplate.Normalization.Composition

set_option autoImplicit false

namespace UriTemplate.Normalization

inductive Form
  | nfc | nfd | nfkc | nfkd
  deriving DecidableEq, Repr

def Form.name : Form → String
  | .nfc => "NFC"
  | .nfd => "NFD"
  | .nfkc => "NFKC"
  | .nfkd => "NFKD"

def Form.all : List Form := [.nfc, .nfd, .nfkc, .nfkd]

def Form.ofName? (name : String) : Option Form := Form.all.find? (·.name = name)

def decompose (form : Form) : Char → Text :=
  match form with
  | .nfc | .nfd => canonical
  | .nfkc | .nfkd => compatibility

def normalize (form : Form) (t : Text) : Text :=
  let marks := reorder (t.flatMap (decompose form))
  match form with
  | .nfc | .nfkc => compose marks
  | .nfd | .nfkd => marks

structure UnknownForm where
  name : Text
  deriving DecidableEq, Repr

def UnknownForm.message (_ : UnknownForm) : Text := "invalid normalization form".toList

def normalizeBy (name : Text) (t : Text) : Except UnknownForm Text :=
  match Form.ofName? (String.ofList name) with
  | some form => .ok (normalize form t)
  | none => if t.isEmpty then .ok t else .error ⟨name⟩

end UriTemplate.Normalization
