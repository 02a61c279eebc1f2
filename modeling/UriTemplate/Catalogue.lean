import UriTemplate.Text.Quoted

set_option autoImplicit false

namespace UriTemplate.Catalogue

def notions : List String :=
  ["InvalidTemplateValue", "InvalidValueType", "MatchResult", "NoMatch", "ParseError", "Processor",
    "Template", "TemplateConfig", "Transformer", "UnsupportedOperation", "Validator", "WrenError"]

def parts : List String := ["_internal", "cli", "config", "errors", "template"]

/-- What a package says of itself, and what every package answers to. -/
def particulars : List String :=
  ["__all__", "__annotations__", "__builtins__", "__cached__", "__class__", "__delattr__",
    "__dict__", "__dir__", "__doc__", "__eq__", "__file__", "__format__", "__ge__", "__getattr__",
    "__getattribute__", "__getstate__", "__gt__", "__hash__", "__init__", "__init_subclass__",
    "__le__", "__loader__", "__lt__", "__name__", "__ne__", "__new__", "__package__", "__path__",
    "__reduce__", "__reduce_ex__", "__repr__", "__setattr__", "__sizeof__", "__spec__", "__str__",
    "__subclasshook__", "__version__"]

def names : List String := notions ++ parts ++ particulars

structure Unknown where
  name : Text
  deriving DecidableEq, Repr

def Unknown.message (e : Unknown) : Text :=
  "module 'wren' has no attribute ".toList ++ Quoted.text e.name

def lookUp (name : Text) : Except Unknown Unit :=
  if names.contains (String.ofList name) then .ok () else .error ⟨name⟩

end UriTemplate.Catalogue
