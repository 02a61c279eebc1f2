import UriTemplate.Name
import UriTemplate.Node

set_option autoImplicit false

/-!
`Node.ofText` reads a template from left to right, without ever going back. Faults are located by
how much text is left, so what stands before a fault does not matter to it; `ParseError` turns that
into a position.
-/

namespace UriTemplate

inductive Reason
  | unterminated
  | incomplete
  | noVariables
  | repeated (name : Text)
  | notPositive (name : Text)
  deriving DecidableEq, Repr

def Reason.message : Reason → Text
  | .unterminated => "unterminated expression".toList
  | .incomplete => "incomplete variable specification".toList
  | .noVariables => "expression has no variables".toList
  | .repeated name => "variable ".toList ++ Quoted.text name ++ " repeated in expression".toList
  | .notPositive name =>
    "prefix length for ".toList ++ Quoted.text name ++ " must be positive".toList

inductive ParseError
  | malformed (template : Text) (position : Nat) (reason : Reason)
  | excess (e : Digits.Excess)
  deriving DecidableEq, Repr

def ParseError.message : ParseError → Text
  | .malformed template position reason =>
    reason.message ++ s!" at position {position} in ".toList ++ Quoted.text template
  | .excess e => e.message.toList

namespace Node

/-- A fault where `left` characters of the template are still to come. -/
inductive Fault
  | malformed (reason : Reason) (left : Nat)
  | excess (e : Digits.Excess)
  deriving DecidableEq, Repr

def Fault.inText (template : Text) : Fault → ParseError
  | .malformed reason left => .malformed template (template.length - left) reason
  | .excess e => .excess e

def countModifier (name left digits : Text) : Except Fault Modifier :=
  match Digits.read digits with
  | .error e => .error (.excess e)
  | .ok count =>
    if h : 0 < count then .ok (.first count h)
    else .error (.malformed (.notPositive name) left.length)

/-- The modifier at the front. A colon with no digit after it is none, and stays. -/
def readModifier (name : Text) : Text → Except Fault (Modifier × Text)
  | '*' :: rest => .ok (.explode, rest)
  | ':' :: rest =>
    let digits := rest.takeWhile Char.isDigit
    if digits.isEmpty then .ok (.none, ':' :: rest)
    else (countModifier name rest digits).map (·, rest.dropWhile Char.isDigit)
  | t => .ok (.none, t)

def readSpec (t : Text) : Except Fault (Option VarSpec × Text) :=
  let name := Name.munch t
  if name.1.isEmpty then .ok (none, t)
  else match readModifier name.1 name.2 with
    | .error f => .error f
    | .ok (modifier, rest) => .ok (some ⟨name.1, modifier⟩, rest)

theorem readModifier_length_le {name t rest : Text} {modifier : Modifier}
    (h : readModifier name t = .ok (modifier, rest)) : rest.length ≤ t.length := by
  unfold readModifier at h
  split at h
  · cases h
    exact Nat.le_succ _
  · next tail =>
    by_cases hd : (tail.takeWhile Char.isDigit).isEmpty
    · rw [if_pos hd] at h
      cases h
      exact Nat.le_refl _
    · rw [if_neg hd] at h
      cases hc : countModifier name tail (tail.takeWhile Char.isDigit) with
      | error f => rw [hc] at h; cases h
      | ok m =>
        rw [hc] at h
        cases h
        exact Nat.le_succ_of_le (List.dropWhile_sublist Char.isDigit).length_le
  · cases h
    exact Nat.le_refl _

theorem readSpec_length_lt {t rest : Text} {v : VarSpec} (h : readSpec t = .ok (some v, rest)) :
    rest.length < t.length := by
  have ht := congrArg List.length (Name.munch_append t)
  unfold readSpec at h
  simp only at h
  split at h
  · simp at h
  · next hne =>
    split at h
    · simp at h
    · next modifier left hm =>
      simp at h
      have := readModifier_length_le hm
      have : 0 < (Name.munch t).1.length := List.length_pos_iff.2 (by simpa using hne)
      rw [List.length_append] at ht
      rw [← h.2]
      omega

/-- The specifications up to the closing brace, after those already `seen`. `opened` is the
    text from the opening brace on. Commas separate nothing that a name does not already end. -/
def readSpecs (opened : Text) (seen : List VarSpec) (t : Text) :
    Except Fault (List VarSpec × Text) :=
  match t with
  | [] => .error (.malformed .unterminated opened.length)
  | ',' :: rest => readSpecs opened seen rest
  | '}' :: rest =>
    if seen.isEmpty then .error (.malformed .noVariables opened.length) else .ok (seen, rest)
  | c :: rest =>
    match _h : readSpec (c :: rest) with
    | .error f => .error f
    | .ok (none, _) => .error (.malformed .incomplete (rest.length + 1))
    | .ok (some v, left) =>
      if v.name ∈ VarSpec.names seen then .error (.malformed (.repeated v.name) left.length)
      else readSpecs opened (seen ++ [v]) left
termination_by t.length
decreasing_by
  · exact Nat.lt_succ_self _
  · exact readSpec_length_lt ‹_›

theorem readSpecs_length_lt {opened : Text} {seen specs : List VarSpec} {t rest : Text}
    (h : readSpecs opened seen t = .ok (specs, rest)) : rest.length < t.length := by
  fun_induction readSpecs opened seen t with
  | case1 => cases h
  | case2 seen tail ih => exact Nat.lt_succ_of_lt (ih h)
  | case3 => cases h
  | case4 => cases h; exact Nat.lt_succ_self _
  | case5 => cases h
  | case6 => cases h
  | case7 => cases h
  | case8 seen c tail _ _ v left hs _ ih => exact Nat.lt_trans (ih h) (readSpec_length_lt hs)

def readOperator : Text → Operator × Text
  | [] => (.plain, [])
  | c :: rest =>
    match Operator.ofChar? c with
    | some op => (op, rest)
    | none => (.plain, c :: rest)

theorem readOperator_length_le (t : Text) : (readOperator t).2.length ≤ t.length := by
  unfold readOperator
  split
  · simp
  · split <;> simp

def readNodes (t : Text) : Except Fault (List Node) :=
  match t with
  | [] => .ok []
  | '{' :: body =>
    match _h : readSpecs ('{' :: body) [] (readOperator body).2 with
    | .error f => .error f
    | .ok (specs, rest) =>
      (readNodes rest).map (.expression ⟨(readOperator body).1, specs⟩ :: ·)
  | c :: rest =>
    (readNodes (rest.dropWhile (· ≠ '{'))).map (.literal (c :: rest.takeWhile (· ≠ '{')) :: ·)
termination_by t.length
decreasing_by
  · have := readSpecs_length_lt ‹_›
    have := readOperator_length_le body
    simp only [List.length_cons]
    omega
  · have := (List.dropWhile_sublist (· ≠ '{') (l := rest)).length_le
    simp only [List.length_cons]
    omega

def ofText (template : Text) : Except ParseError (List Node) :=
  (readNodes template).mapError (Fault.inText template)

end Node

end UriTemplate
