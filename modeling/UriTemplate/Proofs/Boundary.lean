import Mathlib.Data.List.Basic
import UriTemplate.Capture
import UriTemplate.Proofs.Units

set_option autoImplicit false

/-!
`bodyChar` is the class of characters behind an expression's leader, whole escapes apart, and a text
is `Closed` to an operator if nothing at its front could belong to an expression in front of it. A
literal that is closed so is first found right behind the expression, `find?_append`.
-/

namespace UriTemplate

open Character Text

namespace Text

theorem find?_eq_none_iff {target t : Text} :
    find? target t = none ↔ ∀ n ≤ t.length, ¬ target <+: t.drop n := by
  induction t with
  | nil =>
    cases target with
    | nil => simp [find?]
    | cons c target => simp [find?]
  | cons d t ih =>
    by_cases hp : target.isPrefixOf (d :: t) = true
    · simp only [find?, hp, if_true, reduceCtorEq, false_iff]
      exact fun h => h 0 (Nat.zero_le _) (List.isPrefixOf_iff_prefix.1 hp)
    · simp only [find?, hp, Bool.false_eq_true, if_false, Option.map_eq_none_iff, ih]
      constructor
      · intro h n hn
        cases n with
        | zero => exact fun hpre => hp (List.isPrefixOf_iff_prefix.2 hpre)
        | succ n => exact h n (by simpa using hn)
      · intro h n hn
        exact h (n + 1) (by simpa using hn)

theorem not_isPrefix_of_lt_find? {target t : Text} {n : Nat} (h : find? target t = some n) :
    ∀ m < n, ¬ target <+: t.drop m := by
  induction t generalizing n with
  | nil =>
    simp only [find?, Option.ite_none_right_eq_some, Option.some.injEq] at h
    intro m hm
    omega
  | cons d t ih =>
    by_cases hp : target.isPrefixOf (d :: t) = true
    · simp only [find?, hp, if_true, Option.some.injEq] at h
      intro m hm
      omega
    · simp only [find?, hp, Bool.false_eq_true, if_false, Option.map_eq_some_iff] at h
      obtain ⟨k, hk, rfl⟩ := h
      intro m hm
      cases m with
      | zero => exact fun hpre => hp (List.isPrefixOf_iff_prefix.2 hpre)
      | succ m => exact ih hk m (by omega)

theorem find?_append {c : Char} {target body rest : Text} (hc : c ∉ body)
    (hrest : c :: target <+: rest) : find? (c :: target) (body ++ rest) = some body.length := by
  induction body with
  | nil =>
    obtain ⟨more, rfl⟩ := hrest
    have hp : (c :: target).isPrefixOf (c :: (target ++ more)) = true :=
      List.isPrefixOf_iff_prefix.2 ⟨more, rfl⟩
    rw [List.nil_append, List.cons_append]
    unfold find?
    rw [if_pos hp]
    rfl
  | cons d body ih =>
    obtain ⟨hne, hbody⟩ : c ≠ d ∧ c ∉ body := by simpa using hc
    have hp : ¬ (c :: target).isPrefixOf (d :: (body ++ rest)) = true := by
      intro hp
      obtain ⟨more, heq⟩ := List.isPrefixOf_iff_prefix.1 hp
      exact hne (List.cons.inj heq).1
    rw [List.cons_append]
    unfold find?
    rw [if_neg hp, ih hbody]
    rfl

end Text

namespace Operator

def bodyChar (op : Operator) (c : Char) : Bool :=
  isUnreserved c || c = ',' || c = '=' || c = op.joiner || (op.allowsReserved && isReserved c)

/-- What follows begins with no character that an expression of this operator could have. -/
def Closed (op : Operator) (rest : Text) : Prop :=
  ∀ c ∈ rest.head?, isUnreserved c = false ∧ c ≠ '%' ∧ c ≠ ',' ∧ c ≠ '=' ∧ c ∉ op.leader ∧
    c ≠ op.joiner

instance (op : Operator) (rest : Text) : Decidable (op.Closed rest) :=
  Option.decidableForallMem rest.head?

theorem joiner_outside_escapes (op : Operator) :
    op.joiner ≠ '%' ∧ isHexDigit op.joiner = false := by
  cases op <;> decide

variable {op : Operator} {rest : Text}

theorem bodyChar_of_isUnreserved {c : Char} (h : isUnreserved c = true) : op.bodyChar c = true := by
  simp [bodyChar, h]

theorem Closed.bodyChar_eq_false (h : op.Closed rest) (hop : op.allowsReserved = false) {c : Char}
    (hc : c ∈ rest.head?) : op.bodyChar c = false := by
  obtain ⟨hu, -, hcomma, hequals, -, hjoin⟩ := h c hc
  simp [bodyChar, hu, hcomma, hequals, hjoin, hop]

theorem Closed.foreign (h : op.Closed rest) (hop : op.allowsReserved = false)
    {accept : Char → Bool} (haccept : ∀ c, accept c = true → op.bodyChar c = true) :
    Foreign accept rest := by
  intro c hc
  have hbody := h.bodyChar_eq_false hop hc
  obtain ⟨hu, hp, -⟩ := h c hc
  refine ⟨?_, hp, ?_⟩
  · cases ha : accept c with
    | false => rfl
    | true => rw [haccept c ha] at hbody; cases hbody
  · cases hx : isHexDigit c with
    | false => rfl
    | true => rw [isUnreserved_of_isHexDigit hx] at hu; cases hu

theorem Closed.not_mem_body (h : op.Closed rest) (hop : op.allowsReserved = false) {body : Text}
    (hbody : Units op.bodyChar body) {c : Char} (hc : c ∈ rest.head?) : c ∉ body := by
  intro hmem
  obtain ⟨hb, hp, hx⟩ := h.foreign hop (fun _ hb => hb) c hc
  rcases hbody.mem hmem with h | h | h
  · rw [h] at hb
    cases hb
  · exact hp h
  · rw [h] at hx
    cases hx

/-- A literal that closes an expression is first found right behind it. -/
theorem Closed.find?_eq (h : op.Closed rest) (hop : op.allowsReserved = false) {body literal : Text}
    (hbody : Units op.bodyChar body) (hne : literal ≠ []) (hl : literal <+: rest) :
    Text.find? literal (body ++ rest) = some body.length := by
  obtain ⟨c, target, rfl⟩ := List.exists_cons_of_ne_nil hne
  refine Text.find?_append (h.not_mem_body hop hbody ?_) hl
  obtain ⟨more, rfl⟩ := hl
  rfl

theorem Closed.isPrefixOf?_joiner (h : op.Closed rest) : [op.joiner].isPrefixOf? rest = none := by
  cases hp : [op.joiner].isPrefixOf? rest with
  | none => rfl
  | some more =>
    rw [← List.append_eq_of_isPrefixOf?_eq_some hp] at h
    exact absurd rfl (h op.joiner rfl).2.2.2.2.2

theorem Closed.not_isPrefix_leader (h : op.Closed rest) (hne : op.leader ≠ []) :
    ¬ op.leader <+: rest := by
  rintro ⟨more, rfl⟩
  obtain ⟨c, lead, heq⟩ := List.exists_cons_of_ne_nil hne
  have hc : c ∈ (op.leader ++ more).head? := by rw [heq]; rfl
  exact (h c hc).2.2.2.2.1 (by rw [heq]; exact List.mem_cons_self)

end Operator

end UriTemplate
