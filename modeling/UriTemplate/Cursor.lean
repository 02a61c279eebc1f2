import UriTemplate.Text.Run
import UriTemplate.Text.Split

set_option autoImplicit false

/-!
A place in a text, with a bound that reading does not cross. The text between the two is the
cursor's window; after a literal has been passed the bound may lie behind the place, and then the
window is empty.
-/

namespace UriTemplate

structure Cursor where
  text : Text
  pos : Nat
  stop : Nat
  deriving DecidableEq, Repr

namespace Cursor

def ofText (text : Text) : Cursor := ⟨text, 0, text.length⟩

def remaining (c : Cursor) : Text := c.text.drop c.pos

def atEnd (c : Cursor) : Bool := c.text.length ≤ c.pos

def window (c : Cursor) : Text := c.remaining.take (c.stop - c.pos)

def advance (c : Cursor) (n : Nat) : Cursor := { c with pos := c.pos + n }

def bound (c : Cursor) (boundary : Option Text) : Cursor :=
  let found := match boundary with
    | none | some [] => none
    | some target => Text.find? target c.remaining
  { c with stop := match found with
      | some n => c.pos + n
      | none => c.text.length }

def peek (c : Cursor) (literal : Text) : Bool :=
  c.pos + literal.length ≤ c.stop && literal.isPrefixOf c.remaining

def consume? (c : Cursor) (literal : Text) : Option Cursor :=
  if c.peek literal then some (c.advance literal.length) else none

/-- Passes a text that stands at the cursor, wherever the bound is. -/
def matchLiteral? (c : Cursor) (literal : Text) : Option Cursor :=
  if literal.isPrefixOf c.remaining then some (c.advance literal.length) else none

def scan (c : Cursor) (accept : Char → Bool) (limit : Option Nat) : Text × Cursor :=
  let taken := (Text.run accept limit c.window).1
  (taken, c.advance taken.length)

end Cursor

end UriTemplate
