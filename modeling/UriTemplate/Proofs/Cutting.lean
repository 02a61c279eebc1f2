import UriTemplate.Proofs.Naming
import UriTemplate.Proofs.Reserved

set_option autoImplicit false

/-!
A variable with a limit writes the first characters of its text. Encoding a text piece by piece is
encoding it as a whole, `Operator.encode_append`, unless an escape that is kept lies across the cut.
So the limited text begins what is written without the limit, but where the cut severs an escape:
there the sign that is left over is escaped itself.
-/

namespace UriTemplate

open Character Text

namespace Operator

variable {op : Operator} {s before rest : Text} {n : Nat} {a b : Char}

def keeps (op : Operator) (c : Char) : Bool := isUnreserved c || (op.allowsReserved && isReserved c)

theorem encode_units (op : Operator) (t : Text) : Units op.keeps (op.encode t) := by
  cases hop : op.allowsReserved with
  | false =>
    rw [encode_eq hop]
    exact (Percent.encode_units isUnreserved t).mono fun c _ hc => Bool.or_eq_true_iff.2 (.inl hc)
  | true =>
    rw [encode_of_allowsReserved hop]
    refine (Percent.encodeKeeping_units t).mono fun c _ hc => ?_
    rwa [keeps, hop, Bool.true_and]

theorem encode_append {t u : Text} (hcut : op.allowsReserved = true →
      ∀ before a b rest, ¬ Text.Severed (t ++ u) t.length before a b rest) :
    op.encode (t ++ u) = op.encode t ++ op.encode u := by
  cases hop : op.allowsReserved with
  | false =>
    rw [encode_eq hop]
    exact List.flatMap_append
  | true =>
    rw [encode_of_allowsReserved hop]
    exact Percent.encodeKeeping_append (hcut hop)

theorem encode_take_append_drop (hcut : op.allowsReserved = true →
      ∀ before a b rest, ¬ s.Severed n before a b rest) :
    op.encode (s.take n) ++ op.encode (s.drop n) = op.encode s := by
  have happend : op.encode (s.take n ++ s.drop n) = op.encode (s.take n) ++ op.encode (s.drop n) := by
    refine encode_append fun hop before a b rest h => hcut hop before a b rest ?_
    rw [List.take_append_drop, List.length_take] at h
    have hlength := congrArg List.length h.text
    have hend := h.before_end
    simp only [List.length_append, List.length_cons] at hlength
    rwa [Nat.min_eq_left (by omega)] at h
  rw [← happend, List.take_append_drop]

theorem encode_escape (hop : op.allowsReserved = true) (ha : isHexDigit a = true)
    (hb : isHexDigit b = true) (before rest : Text) :
    op.encode (before ++ '%' :: a :: b :: rest) =
      op.encode before ++ '%' :: a :: b :: op.encode rest := by
  rw [encode_append fun _ _ _ _ _ => not_severed_of_not_digit rfl, encode_of_allowsReserved hop,
    Percent.encodeKeeping_escape _ ha hb]

theorem encode_take_of_severed (hop : op.allowsReserved = true) (h : s.Severed n before a b rest) :
    op.encode (s.take n) =
      op.encode before ++ '%' :: '2' :: '5' :: [a].take (n - before.length - 1) := by
  rw [h.take_eq, encode_append fun _ _ _ _ _ => not_severed_of_not_digit rfl]
  refine congrArg (op.encode before ++ ·) ?_
  have hsafe : (isUnreserved a || isReserved a) = true :=
    Bool.or_eq_true_iff.2 (.inl (isUnreserved_of_isHexDigit h.high))
  rw [encode_of_allowsReserved hop]
  obtain hn | hn : n - before.length - 1 = 0 ∨ n - before.length - 1 = 1 := by
    have hend := h.before_end
    omega
  · rw [hn]
    rfl
  · rw [hn, List.take_succ_cons, List.take_zero, Percent.encodeKeeping_cons _ rfl,
      Percent.encodeKeeping_cons _ (by unfold escape?; split <;> simp_all)]
    simp only [Percent.encodeKeeping, Percent.encodeChar, hsafe, if_true]
    rfl

theorem not_prefix_of_severed (hop : op.allowsReserved = true) (h : s.Severed n before a b rest)
    (hne : ¬ (a = '2' ∧ b = '5')) : ¬ op.encode (s.take n) <+: op.encode s := by
  rw [encode_take_of_severed hop h, h.text, encode_escape hop h.high h.low,
    List.prefix_append_right_inj]
  intro hprefix
  obtain ⟨-, hprefix⟩ := List.cons_prefix_cons.1 hprefix
  obtain ⟨ha, hprefix⟩ := List.cons_prefix_cons.1 hprefix
  obtain ⟨hb, -⟩ := List.cons_prefix_cons.1 hprefix
  exact hne ⟨ha.symm, hb.symm⟩

end Operator

namespace Template

theorem expand_text_of_nodes_eq {t : Template} {op : Operator} {v : VarSpec}
    (ht : t.nodes = [.expression ⟨op, [v]⟩]) (s : Text) :
    t.expand [(.text v.name, .text s)] (some false) {} =
      .ok (op.opening v.name (v.cut s).isEmpty ++ op.encode (v.cut s)) := by
  let value : Text → Option Value := fun name => if name = v.name then some (.scalar s) else none
  have hx : value v.name = some (.scalar s) := if_pos rfl
  have hgives : Gives [(v.name, .text s)] [v] value :=
    gives_text (show [v] = [⟨v.name, v.modifier⟩] from rfl) hx
  rw [expand_of_nodes_eq ht rfl hgives, Expression.write_of_scalar rfl hx]

/-- A limited text begins what the expression writes without the limit, is all of it where the limit
    is no smaller than the text, and has the escapes of the text as they were. Where the limit severs
    an escape that is kept, its sign is escaped anew, and the two texts part behind the sign. -/
theorem expand_first {t whole : Template} {op : Operator} {x : Text} {n : Nat} {hn : 0 < n}
    (ht : t.nodes = [.expression ⟨op, [⟨x, .first n hn⟩]⟩])
    (hwhole : whole.nodes = [.expression ⟨op, [⟨x, .none⟩]⟩]) (s : Text) :
    ∃ cut full,
      t.expand [(.text x, .text s)] (some false) {} = .ok (op.opening x s.isEmpty ++ cut) ∧
      whole.expand [(.text x, .text s)] (some false) {} = .ok (op.opening x s.isEmpty ++ full) ∧
      (s.length ≤ n → cut = full) ∧
      ((op.allowsReserved = true → ∀ before a b rest, ¬ s.Severed n before a b rest) →
        full = cut ++ op.encode (s.drop n) ∧ Units op.keeps cut ∧
          Units op.keeps (op.encode (s.drop n))) ∧
      (op.allowsReserved = true → ∀ before a b rest, isHexDigit a = true → isHexDigit b = true →
        s.take n = before ++ '%' :: a :: b :: rest →
          cut = op.encode before ++ '%' :: a :: b :: op.encode rest) ∧
      (op.allowsReserved = true → ∀ before a b rest, s.Severed n before a b rest →
        full = op.encode before ++ '%' :: a :: b :: op.encode rest ∧
          cut = op.encode before ++ '%' :: '2' :: '5' :: [a].take (n - before.length - 1) ∧
          (¬ (a = '2' ∧ b = '5') → ¬ cut <+: full)) := by
  have hempty : (s.take n).isEmpty = s.isEmpty := by
    rw [Bool.eq_iff_iff, List.isEmpty_iff, List.isEmpty_iff, List.take_eq_nil_iff]
    exact or_iff_right (Nat.ne_of_gt hn)
  have hcut := expand_text_of_nodes_eq ht s
  have hfull := expand_text_of_nodes_eq hwhole s
  rw [show VarSpec.cut ⟨x, .first n hn⟩ s = s.take n from rfl, hempty] at hcut
  rw [show VarSpec.cut ⟨x, .none⟩ s = s from rfl] at hfull
  refine ⟨op.encode (s.take n), op.encode s, hcut, hfull, ?_, ?_, ?_, ?_⟩
  · intro hle
    rw [List.take_of_length_le hle]
  · intro hsevered
    exact ⟨(Operator.encode_take_append_drop hsevered).symm, op.encode_units _, op.encode_units _⟩
  · intro hop before a b rest ha hb htake
    rw [htake, Operator.encode_escape hop ha hb]
  · intro hop before a b rest h
    refine ⟨?_, Operator.encode_take_of_severed hop h, Operator.not_prefix_of_severed hop h⟩
    rw [h.text, Operator.encode_escape hop h.high h.low]

theorem expand_first_reserved :
    let t : Template :=
      ⟨"{+x:4}".toList, [.expression ⟨.reserved, [⟨['x'], .first 4 (by decide)⟩]⟩], {}⟩
    let whole : Template := ⟨"{+x}".toList, [.expression ⟨.reserved, [⟨['x'], .none⟩]⟩], {}⟩
    Template.ofText t.source {} = .ok t ∧ Template.ofText whole.source {} = .ok whole ∧
      ∃ cut full, t.expand [(.text ['x'], .text "é%c3/%".toList)] (some false) {} = .ok cut ∧
        whole.expand [(.text ['x'], .text "é%c3/%".toList)] (some false) {} = .ok full ∧
        full = cut ++ "/%25".toList ∧ Units (Operator.keeps .reserved) cut := by
  intro t whole
  have ht : Template.ofText t.source {} = .ok t := by with_unfolding_all rfl
  have hwhole : Template.ofText whole.source {} = .ok whole := by with_unfolding_all rfl
  have hsevered : ∀ before a b rest, ¬ Text.Severed "é%c3/%".toList 4 before a b rest := by
    intro before a b rest h
    have hdigit : isHexDigit '/' = true := h.isHexDigit_of_mem rfl
    cases hdigit
  have hwrite := expand_first (show t.nodes = _ from rfl) (show whole.nodes = _ from rfl)
  obtain ⟨cut, full, hcut, hfull, -, hprefix, -⟩ := hwrite "é%c3/%".toList
  obtain ⟨hmore, hunits, -⟩ := hprefix fun _ => hsevered
  exact ⟨ht, hwhole, cut, full, hcut, hfull, hmore, hunits⟩

/-- An escape that is severed behind its sign. -/
theorem expand_first_severed :
    let t : Template :=
      ⟨"{+x:1}".toList, [.expression ⟨.reserved, [⟨['x'], .first 1 (by decide)⟩]⟩], {}⟩
    let whole : Template := ⟨"{+x}".toList, [.expression ⟨.reserved, [⟨['x'], .none⟩]⟩], {}⟩
    Template.ofText t.source {} = .ok t ∧ Template.ofText whole.source {} = .ok whole ∧
      t.expand [(.text ['x'], .text "%41".toList)] (some false) {} = .ok "%25".toList ∧
      whole.expand [(.text ['x'], .text "%41".toList)] (some false) {} = .ok "%41".toList ∧
      ¬ "%25".toList <+: "%41".toList := by
  intro t whole
  have ht : Template.ofText t.source {} = .ok t := by with_unfolding_all rfl
  have hwhole : Template.ofText whole.source {} = .ok whole := by with_unfolding_all rfl
  exact ⟨ht, hwhole, by with_unfolding_all rfl, by with_unfolding_all rfl, by decide⟩

end Template

end UriTemplate
