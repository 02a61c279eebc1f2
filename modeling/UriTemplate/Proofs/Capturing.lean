import UriTemplate.Proofs.Reading

set_option autoImplicit false

namespace UriTemplate

open Text

def Text.before (boundary : Option Text) (t : Text) : Text :=
  match boundary with
  | none | some [] => t
  | some target =>
    match find? target t with
    | some n => t.take n
    | none => t

theorem Text.before_isPrefix (boundary : Option Text) (t : Text) : before boundary t <+: t := by
  unfold before
  split
  · exact List.prefix_refl t
  · exact List.prefix_refl t
  · split
    · next n _ => exact List.take_prefix n t
    · exact List.prefix_refl t

theorem Text.before_of_find? {target t : Text} {n : Nat} (hne : target ≠ [])
    (h : find? target t = some n) : before (some target) t = t.take n := by
  obtain ⟨c, rest, rfl⟩ := List.exists_cons_of_ne_nil hne
  simp only [before, h]

namespace Cursor

theorem remaining_bound (c : Cursor) (boundary : Option Text) :
    (c.bound boundary).remaining = c.remaining := rfl

theorem remaining_advance (c : Cursor) (n : Nat) :
    (c.advance n).remaining = c.remaining.drop n := by
  simp [remaining, advance, List.drop_drop]

theorem length_remaining (c : Cursor) : c.remaining.length = c.text.length - c.pos :=
  List.length_drop

theorem window_bound (c : Cursor) (boundary : Option Text) :
    (c.bound boundary).window = before boundary c.remaining := by
  have hall : c.remaining.take (c.text.length - c.pos) = c.remaining :=
    List.take_of_length_le (Nat.le_of_eq c.length_remaining)
  match boundary with
  | none => exact hall
  | some [] => exact hall
  | some (d :: target) =>
    unfold window bound before
    simp only
    cases hfind : find? (d :: target) c.remaining with
    | none => exact hall
    | some n =>
      change c.remaining.take (c.pos + n - c.pos) = c.remaining.take n
      rw [Nat.add_sub_cancel_left]

theorem consume?_bound_none {c : Cursor} {literal : Text} (h : literal <+: c.remaining)
    (hpos : c.pos ≤ c.text.length) :
    (c.bound none).consume? literal = some ((c.bound none).advance literal.length) := by
  have hlen := h.length_le
  rw [length_remaining] at hlen
  have hpeek : (c.bound none).peek literal = true := by
    unfold peek
    simp only [Bool.and_eq_true, decide_eq_true_eq]
    refine ⟨?_, List.isPrefixOf_iff_prefix.2 h⟩
    change c.pos + literal.length ≤ c.text.length
    omega
  unfold consume?
  rw [if_pos hpeek]

theorem consume?_eq_none {c : Cursor} {literal : Text} (h : ¬ literal <+: c.remaining) :
    c.consume? literal = none := by
  have hpeek : ¬ c.peek literal = true := by
    unfold peek
    simp only [Bool.and_eq_true, decide_eq_true_eq]
    exact fun hp => h (List.isPrefixOf_iff_prefix.1 hp.2)
  unfold consume?
  rw [if_neg hpeek]

theorem matchLiteral?_of_isPrefix {c : Cursor} {literal : Text} (h : literal <+: c.remaining) :
    c.matchLiteral? literal = some (c.advance literal.length) := by
  unfold matchLiteral?
  rw [if_pos (List.isPrefixOf_iff_prefix.2 h)]

theorem matchLiteral?_eq_some {c next : Cursor} {literal : Text}
    (h : c.matchLiteral? literal = some next) :
    literal <+: c.remaining ∧ next = c.advance literal.length := by
  unfold matchLiteral? at h
  split at h
  · next hp =>
    cases h
    exact ⟨List.isPrefixOf_iff_prefix.1 hp, rfl⟩
  · cases h

end Cursor

namespace Expression

variable {e : Expression} {c : Cursor}

theorem capture_of_not_isPrefix (h : ¬ e.operator.leader <+: c.remaining) (strategy : Strategy)
    (boundary : Option Text) : e.capture strategy boundary c = ([], c.bound none) := by
  unfold capture
  simp only
  rw [Cursor.consume?_eq_none (c := c.bound none) h]

theorem capture_of_isPrefix {rest : Text} (h : c.remaining = e.operator.leader ++ rest)
    (hpos : c.pos ≤ c.text.length) (strategy : Strategy) (boundary : Option Text) :
    (e.capture strategy boundary c).1 = (e.readValues strategy (before boundary rest)).1 ∧
      (e.capture strategy boundary c).2.text = c.text ∧
      (e.capture strategy boundary c).2.pos = c.pos + e.operator.leader.length +
        ((before boundary rest).length -
          (e.readValues strategy (before boundary rest)).2.length) := by
  have hlead : e.operator.leader <+: c.remaining := ⟨rest, h.symm⟩
  have hrest : ((c.bound none).advance e.operator.leader.length).remaining = rest := by
    rw [Cursor.remaining_advance, Cursor.remaining_bound, h, List.drop_left]
  unfold capture
  simp only [Cursor.consume?_bound_none hlead hpos, Cursor.window_bound, hrest]
  exact ⟨trivial, rfl, rfl⟩

/-- The text that an expression may cover: none, or its leader and units of its class. -/
def Covers (e : Expression) (segment : Text) : Prop :=
  segment = [] ∨ ∃ body, segment = e.operator.leader ++ body ∧ Units e.operator.bodyChar body

theorem capture_covers (hpos : c.pos ≤ c.text.length) (strategy : Strategy)
    (boundary : Option Text) :
    (e.capture strategy boundary c).2.text = c.text ∧
      ∃ segment, segment <+: c.remaining ∧ e.Covers segment ∧
        (e.capture strategy boundary c).2.pos = c.pos + segment.length := by
  by_cases hlead : e.operator.leader <+: c.remaining
  · obtain ⟨rest, hrest⟩ := hlead
    obtain ⟨-, htext, hplace⟩ := capture_of_isPrefix hrest.symm hpos strategy boundary
    obtain ⟨taken, hwindow, hunits⟩ := e.readValues_takes strategy (before boundary rest)
    obtain ⟨behind, hbehind⟩ := before_isPrefix boundary rest
    refine ⟨htext, e.operator.leader ++ taken, ?_, .inr ⟨taken, rfl, hunits⟩, ?_⟩
    · rw [← hrest, ← hbehind, hwindow]
      exact ⟨_, by rw [List.append_assoc, List.append_assoc]⟩
    · have hlen := congrArg List.length hwindow
      rw [List.length_append] at hlen
      rw [hplace, List.length_append]
      omega
  · rw [capture_of_not_isPrefix hlead]
    exact ⟨rfl, [], List.nil_prefix, .inl rfl, rfl⟩

theorem capture_boundary (hpos : c.pos ≤ c.text.length) (strategy : Strategy) {boundary : Text}
    (hne : boundary ≠ []) (hlead : e.operator.leader <+: c.remaining) {n : Nat}
    (hfrom : c.pos + e.operator.leader.length ≤ n)
    (hto : n < (e.capture strategy (some boundary) c).2.pos) : ¬ boundary <+: c.text.drop n := by
  obtain ⟨rest, hrest⟩ := hlead
  obtain ⟨-, -, hplace⟩ := capture_of_isPrefix hrest.symm hpos strategy (some boundary)
  obtain ⟨k, rfl⟩ := Nat.exists_eq_add_of_le hfrom
  have hdrop : c.text.drop (c.pos + e.operator.leader.length + k) = rest.drop k := by
    have hbehind : c.text.drop (c.pos + e.operator.leader.length) = rest := by
      rw [← List.drop_drop]
      change c.remaining.drop _ = rest
      rw [← hrest, List.drop_left]
    rw [← List.drop_drop, hbehind]
  have hwindow := (before_isPrefix (some boundary) rest).length_le
  rw [hdrop]
  cases hfind : find? boundary rest with
  | none => exact find?_eq_none_iff.1 hfind k (by omega)
  | some m =>
    rw [before_of_find? hne hfind] at hplace
    have htake : (rest.take m).length ≤ m := List.length_take_le m rest
    exact not_isPrefix_of_lt_find? hfind k (by omega)

end Expression

end UriTemplate
