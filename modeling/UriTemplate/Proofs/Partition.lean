import UriTemplate.Proofs.Passage
import UriTemplate.Proofs.WellFormed

set_option autoImplicit false

namespace UriTemplate.Template

open Text

/-- `place` is where `target` first occurs from `start` on. -/
def FirstFrom (target t : Text) (start place : Nat) : Prop :=
  start ≤ place ∧ target <+: t.drop place ∧ ∀ n, start ≤ n → n < place → ¬ target <+: t.drop n

/-- The places divide the text among the nodes. An expression whose leader stands at its place, and
    that is not given back, reaches to the first occurrence of the literal behind it. -/
structure Partition (t : Template) (uri : Text) (place : Nat → Nat) : Prop where
  first : place 0 = 0
  mono : ∀ i < t.nodes.length, place i ≤ place (i + 1)
  within : place t.nodes.length ≤ uri.length
  full : t.config.fullMatch = true → place t.nodes.length = uri.length
  covered : ∀ i node, t.nodes[i]? = some node → Covered node (uri.extract (place i) (place (i + 1)))
  boundary : ∀ i e literal, t.nodes[i]? = some (.expression e) →
    t.nodes[i + 1]? = some (.literal literal) → e.operator.leader <+: uri.drop (place i) →
    .readAsAbsent i uri literal ∉ (t.trace uri).1 →
    FirstFrom literal uri (place i + e.operator.leader.length) (place (i + 1))

variable {t : Template} {uri : Text} {state : Nat → Progress} {i : Nat}

theorem Passage.extract_covered (h : t.Passage uri state) {node : Node}
    (hn : t.nodes[i]? = some node) :
    Covered node (uri.extract (state i).cursor.pos (state (i + 1)).cursor.pos) := by
  have hi : i < t.nodes.length := (List.getElem?_eq_some_iff.1 hn).1
  obtain ⟨-, found, segment, hfound, hcov, ⟨behind, hbehind⟩, hplace⟩ :=
    (h.step i hi).covers (h.within (Nat.le_of_lt hi))
  rw [hn] at hfound
  cases hfound
  have hsegment : uri.extract (state i).cursor.pos (state (i + 1)).cursor.pos = segment := by
    rw [List.extract_eq_take_drop, hplace, Nat.add_sub_cancel_left, ← hbehind, List.take_left]
  rw [hsegment]
  exact hcov

theorem Passage.firstFrom (h : t.Passage uri state) {e : Expression} {literal : Text}
    (hne : literal ≠ []) (hn : t.nodes[i]? = some (.expression e))
    (hl : t.nodes[i + 1]? = some (.literal literal))
    (hlead : e.operator.leader <+: uri.drop (state i).cursor.pos)
    (hread : .readAsAbsent i uri literal ∉ (state t.nodes.length).events) :
    FirstFrom literal uri ((state i).cursor.pos + e.operator.leader.length)
      (state (i + 1)).cursor.pos := by
  have hi : i + 1 < t.nodes.length := (List.getElem?_eq_some_iff.1 hl).1
  have hp := h.within (Nat.le_of_lt (Nat.lt_of_succ_lt hi))
  have hq := h.within (Nat.le_of_lt hi)
  have hbound : boundary? (t.nodes.drop (i + 1)) = some literal := boundary?_drop_eq_some_iff.2 hl
  -- The literal is matched where the expression ends.
  have hstands : literal <+: uri.drop (state (i + 1)).cursor.pos := by
    rw [← hq.text_eq]
    exact (h.step (i + 1) hi).literal_isPrefix hl
  have hevents := h.events_isPrefix (Nat.le_of_lt hi)
  have heq := (h.step i (Nat.lt_of_succ_lt hi)).eq_matchExpression hn
  rw [hbound] at heq
  rcases matchExpression_cases i e (some literal) (state i) with hkept | ⟨found, hfound, -, hgiven⟩
  · rw [heq, hkept] at hstands ⊢
    rw [← hp.text_eq] at hlead
    have hpos : (state i).cursor.pos ≤ (state i).cursor.text.length := by
      rw [hp.text_eq]
      exact hp.pos_le
    obtain ⟨rest, hrest⟩ := hlead
    obtain ⟨-, -, hplace⟩ := Expression.capture_of_isPrefix (e := e) (c := (state i).cursor)
      hrest.symm hpos (.ofOperator e.operator) (some literal)
    refine ⟨?_, hstands, ?_⟩
    · exact hplace ▸ Nat.le_add_right _ _
    · intro n hfrom hto
      rw [← hp.text_eq]
      exact Expression.capture_boundary hpos _ hne ⟨rest, hrest⟩ hfrom hto
  · -- Giving it back leaves an event, which stays to the end of the match.
    cases hfound
    rw [heq, hgiven] at hevents
    refine absurd (hevents.subset ?_) hread
    rw [← hp.text_eq]
    exact List.mem_append_right _ List.mem_cons_self

/-- A successful match divides its text among the nodes of its template. -/
theorem exists_partition_of_match? {source : Text} {config : Config} {t : Template}
    (ht : Template.ofText source config = .ok t) {uri : Text} {m : Match}
    (hm : t.match? uri = some m) :
    ∃ state, t.Passage uri state ∧ t.Partition uri fun i => (state i).cursor.pos := by
  obtain ⟨state, hpassage, hevents, -, hend⟩ := exists_passage_of_match? hm
  have hlast := hpassage.within (Nat.le_refl t.nodes.length)
  refine ⟨state, hpassage, ?_, ?_, hlast.pos_le, ?_, ?_, ?_⟩
  · exact congrArg (fun p => p.cursor.pos) hpassage.start
  · intro i hi
    obtain ⟨-, node, segment, -, -, -, hplace⟩ :=
      (hpassage.step i hi).covers (hpassage.within (Nat.le_of_lt hi))
    exact hplace ▸ Nat.le_add_right _ _
  · intro hfull
    have hatEnd := hend hfull
    unfold Cursor.atEnd at hatEnd
    rw [decide_eq_true_eq, hlast.text_eq] at hatEnd
    exact Nat.le_antisymm hlast.pos_le hatEnd
  · exact fun i node hn => hpassage.extract_covered hn
  · intro i e literal hn hl hlead hread
    have hmem := List.mem_of_getElem? hl
    have hne : literal ≠ [] := (Template.wellFormed ht _ hmem).1
    rw [hevents] at hread
    exact hpassage.firstFrom hne hn hl hlead hread

/-- Here the path is given back: its leader opens the literal behind it. -/
theorem exists_partition_of_absent_path :
    let t : Template := ⟨"{/x}/end{?q*}".toList,
      [.expression ⟨.path, [⟨['x'], .none⟩]⟩, .literal "/end".toList,
        .expression ⟨.form, [⟨['q'], .explode⟩]⟩], {}⟩
    let m : Match := ⟨"/end?q=1".toList, [['x'], ['q']], [(['q'], .scalar ['1'])]⟩
    Template.ofText "{/x}/end{?q*}".toList {} = .ok t ∧ t.match? "/end?q=1".toList = some m ∧
      ∃ state, t.Passage "/end?q=1".toList state ∧
        t.Partition "/end?q=1".toList fun i => (state i).cursor.pos := by
  intro t m
  have ht : Template.ofText "{/x}/end{?q*}".toList {} = .ok t := by with_unfolding_all rfl
  have hm : t.match? "/end?q=1".toList = some m := by decide +kernel
  exact ⟨ht, hm, exists_partition_of_match? ht hm⟩

end UriTemplate.Template
