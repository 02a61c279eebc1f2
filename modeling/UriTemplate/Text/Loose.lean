import UriTemplate.Text.Character

set_option autoImplicit false

/-!
Text in which surrogates may stand alone, as the escapes of JSON can write it. It can be cut,
compared and normalized like any text, but has no UTF-8 form where a surrogate stands: `defect?`
finds the first such place, and `defect?_ofText` says that text proper has none.
-/

namespace UriTemplate

inductive CodePoint
  | char (c : Char)
  | surrogate (offset : Fin 0x800)
  deriving DecidableEq, Repr

namespace CodePoint

/-- The code point with a number, which is a surrogate from 0xD800 to 0xDFFF. -/
def ofNat (n : Nat) : CodePoint :=
  if h : 0xD800 ≤ n ∧ n < 0xE000 then .surrogate ⟨n - 0xD800, by omega⟩ else .char (Char.ofNat n)

def char? : CodePoint → Option Char
  | .char c => some c
  | .surrogate _ => none

def isSurrogate : CodePoint → Bool
  | .char _ => false
  | .surrogate _ => true

end CodePoint

abbrev Loose := List CodePoint

structure Defect where
  position : Nat
  first : Fin 0x800
  more : Nat
  deriving DecidableEq, Repr

namespace Loose

def ofText (t : Text) : Loose := t.map .char

def chars (t : Loose) : Text := t.filterMap CodePoint.char?

def mapText (f : Text → Text) (t : Loose) : Loose := go [] t
where
  go (read : Text) : Loose → Loose
    | [] => ofText (f read.reverse)
    | .char c :: rest => go (c :: read) rest
    | .surrogate s :: rest => ofText (f read.reverse) ++ .surrogate s :: go [] rest

/-- The first surrogates. Places are counted from `start` on, and anew behind every escape where
    escapes are kept. -/
def defect? (keepsEscapes : Bool) (start : Nat) : Loose → Option Defect
  | [] => none
  | .surrogate s :: rest => some ⟨start, s, (rest.takeWhile CodePoint.isSurrogate).length⟩
  | .char '%' :: .char a :: .char b :: rest =>
    if keepsEscapes && Character.isHexDigit a && Character.isHexDigit b then
      defect? keepsEscapes 0 rest
    else defect? keepsEscapes (start + 1) (.char a :: .char b :: rest)
  | .char _ :: rest => defect? keepsEscapes (start + 1) rest

theorem chars_ofText (t : Text) : (ofText t).chars = t := by
  induction t with
  | nil => rfl
  | cons c t ih => exact congrArg (c :: ·) ih

theorem go_ofText (f : Text → Text) (read t : Text) :
    mapText.go f read (ofText t) = ofText (f (read.reverse ++ t)) := by
  induction t generalizing read with
  | nil => rw [List.append_nil]; rfl
  | cons c t ih => exact (ih (c :: read)).trans (by rw [List.reverse_cons, List.append_assoc]; rfl)

theorem mapText_ofText (f : Text → Text) (t : Text) : (ofText t).mapText f = ofText (f t) :=
  go_ofText f [] t

theorem defect?_eq_none {keepsEscapes : Bool} {start : Nat} {t : Loose}
    (h : ∀ p ∈ t, p.isSurrogate = false) : defect? keepsEscapes start t = none := by
  fun_induction defect? keepsEscapes start t with
  | case1 => rfl
  | case2 => exact absurd (h _ List.mem_cons_self) Bool.noConfusion
  | case3 _ _ _ _ _ ih =>
    exact ih fun p hp => h p (.tail _ (.tail _ (.tail _ hp)))
  | case4 _ _ _ _ _ ih => exact ih fun p hp => h p (.tail _ hp)
  | case5 _ _ _ _ ih => exact ih fun p hp => h p (.tail _ hp)

theorem defect?_ofText (keepsEscapes : Bool) (start : Nat) (t : Text) :
    defect? keepsEscapes start (ofText t) = none := by
  refine defect?_eq_none fun p hp => ?_
  obtain ⟨c, -, rfl⟩ := List.mem_map.1 hp
  rfl

end Loose

end UriTemplate
