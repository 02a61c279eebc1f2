import UriTemplate.Datum.Key
import UriTemplate.Datum.Scattering

set_option autoImplicit false

namespace UriTemplate.Datum

inductive Fault
  | key (fault : KeyFault)
  | noStep
  | memberName (name : Text)
  | reservedName (name : Text)
  deriving DecidableEq, Repr

def Fault.message : Fault → Text
  | .key fault => fault.message
  | .noStep => "range() arg 3 must not be zero".toList
  | .memberName name => "invalid enum member name(s) ".toList ++ Quoted.text name
  | .reservedName name =>
    "_sunder_ names, such as ".toList ++ Quoted.text name ++
      ", are reserved for future Enum use".toList

def ofEntries (entries : List (Datum × Datum)) : Except Fault Datum :=
  match entries.findSome? fun e => keyFault? e.1 with
  | some fault => .error (.key fault)
  | none => .ok (.mapping (entries.foldl addEntry []))

def ofMembers (frozen : Bool) (members : List Datum) : Except Fault Datum :=
  match members.findSome? keyFault? with
  | some fault => .error (.key fault)
  | none =>
    let add (seen : List Datum) (d : Datum) : List Datum :=
      if seen.any (sameKey · d) then seen else seen ++ [d]
    .ok (.set frozen (Scattering.ordered (members.foldl add [])))

def ofRange (start stop step : Int) : Except Fault Datum :=
  if step = 0 then .error .noStep else .ok (.range start stop step)

def isReserved (name : Text) : Bool :=
  match name, name.reverse with
  | '_' :: c :: _ :: _, '_' :: d :: _ => c ≠ '_' && d ≠ '_'
  | _, _ => false

def ofMember (name : Text) (value : Datum) : Except Fault Datum :=
  if isReserved name then .error (.reservedName name)
  else if name = [] ∨ name = "mro".toList then .error (.memberName name)
  else .ok (.member name value)

end UriTemplate.Datum
