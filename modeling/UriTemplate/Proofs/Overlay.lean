import UriTemplate.Proofs.Captured
import UriTemplate.Proofs.Passage
import UriTemplate.Proofs.WellFormed

set_option autoImplicit false

namespace UriTemplate

open Text

theorem keys_readPositionals_isPrefix (op : Operator) (specs : List VarSpec) (t : Text) :
    Assoc.keys (readPositionals op specs t).1 <+: VarSpec.names specs := by
  fun_induction readPositionals op specs t with
  | case1 => exact List.prefix_refl []
  | case2 v t => exact List.prefix_refl [v.name]
  | case3 v next later t => exact ⟨VarSpec.names (next :: later), rfl⟩
  | case4 v next later t read rest hrest ih => exact List.cons_prefix_cons.2 ⟨rfl, ih⟩

theorem readPositionals_ne_nil (op : Operator) {specs : List VarSpec} (h : specs ≠ []) (t : Text) :
    (readPositionals op specs t).1 ≠ [] := by
  fun_cases readPositionals op specs t with
  | case1 => exact absurd rfl h
  | case2 v t => exact List.cons_ne_nil _ _
  | case3 v next later t => exact List.cons_ne_nil _ _
  | case4 v next later t read rest hrest => exact List.cons_ne_nil _ _

theorem Expression.capture_congr (e : Expression) {c d : Cursor} (htext : c.text = d.text)
    (hpos : c.pos = d.pos) (strategy : Strategy) (boundary : Option Text) :
    e.capture strategy boundary c = e.capture strategy boundary d := by
  have hbound : c.bound none = d.bound none := by
    unfold Cursor.bound
    rw [htext, hpos]
  unfold capture
  rw [hbound]

namespace Template

variable {t : Template} {uri : Text} {i : Nat} {p q : Progress} {e : Expression}

theorem Step.matchNodes_eq (h : Step t i p q) :
    matchNodes i (t.nodes.drop i) p = matchNodes (i + 1) (t.nodes.drop (i + 1)) q := by
  have hnode : ∀ {node : Node}, t.nodes[i]? = some node →
      t.nodes.drop i = node :: t.nodes.drop (i + 1) := by
    intro node hn
    obtain ⟨hi, rfl⟩ := List.getElem?_eq_some_iff.1 hn
    exact List.drop_eq_getElem_cons hi
  cases h with
  | literal hn hm => rw [hnode hn, matchNodes, hm]
  | expression hn => rw [hnode hn, matchNodes]

theorem Reached.matchNodes_eq (h : t.Reached uri i p) :
    matchNodes 0 t.nodes ⟨.ofText uri, [], []⟩ = matchNodes i (t.nodes.drop i) p := by
  induction h with
  | start => rfl
  | next _ hs ih => rw [ih, hs.matchNodes_eq]

def SamePlace (p p' : Progress) : Prop :=
  p'.cursor.text = p.cursor.text ∧ p'.cursor.pos = p.cursor.pos

/-- From the place of `p` the node goes nowhere and binds nothing. -/
def Untouched (t : Template) (i : Nat) (p : Progress) : Prop :=
  ∀ p' q, SamePlace p p' → Step t i p' q →
    q.cursor.pos = p'.cursor.pos ∧ q.bindings = p'.bindings

/-- From the place of `p` an expression passes its leader and ends at `place`, and its values are laid
    over all that is bound. A literal that could have been opened by the leader stands there. -/
structure Overlaid (t : Template) (i : Nat) (e : Expression) (p : Progress)
    (values : Assoc Text Value) (place : Nat) : Prop where
  leader : e.operator.leader <+: p.cursor.remaining
  place_le : p.cursor.pos + e.operator.leader.length ≤ place
  own : values.keys.Sublist e.names
  leading : e.operator.isNamed = false → values ≠ [] ∧ values.keys <+: e.names
  stands : ∀ literal, t.nodes[i + 1]? = some (.literal literal) → e.operator.leader ≠ [] →
    e.operator.leader <+: literal → literal <+: p.cursor.text.drop place
  overlay : ∀ p' q, SamePlace p p' → Step t i p' q →
    q.cursor.pos = place ∧ q.bindings = p'.bindings.putAll values ∧
      ∀ name, name ∉ e.names → q.bindings.find? name = p'.bindings.find? name

theorem read_congr {p' : Progress} (h : SamePlace p p') (e : Expression) (boundary : Option Text) :
    read e boundary p' = read e boundary p :=
  e.capture_congr h.1 h.2 _ boundary

theorem untouched_of_not_isPrefix (he : t.nodes[i]? = some (.expression e))
    (h : ¬ e.operator.leader <+: p.cursor.remaining) : t.Untouched i p := by
  intro p' q hsame hs
  rw [hs.eq_matchExpression he]
  generalize boundary? (t.nodes.drop (i + 1)) = boundary
  have hread : read e boundary p' = ([], p.cursor.bound none) := by
    rw [read_congr hsame]
    exact Expression.capture_of_not_isPrefix h _ _
  rcases matchExpression_cases i e boundary p' with heq | ⟨literal, -, -, heq⟩
  · rw [heq, hread]
    exact ⟨hsame.2.symm, rfl⟩
  · rw [heq]
    exact ⟨rfl, rfl⟩

theorem untouched_of_not_stands (he : t.nodes[i]? = some (.expression e)) {literal : Text}
    (hl : boundary? (t.nodes.drop (i + 1)) = some literal)
    (hopens : opensLiteral e.operator literal = true)
    (h : ¬ literal <+: (read e (some literal) p).2.remaining) : t.Untouched i p := by
  intro p' q hsame hs
  rw [← read_congr hsame] at h
  rw [hs.eq_matchExpression he, hl, matchExpression_of_not_stands i hopens h]
  exact ⟨rfl, rfl⟩

theorem overlaid_of_stands (he : t.nodes[i]? = some (.expression e)) (hne : e.specs ≠ [])
    (hpos : p.cursor.pos ≤ p.cursor.text.length) (hlead : e.operator.leader <+: p.cursor.remaining)
    {boundary : Option Text} (hb : boundary? (t.nodes.drop (i + 1)) = boundary)
    (hstands : ∀ literal ∈ boundary, opensLiteral e.operator literal = true →
      literal <+: (read e boundary p).2.remaining) :
    t.Overlaid i e p (read e boundary p).1 (read e boundary p).2.pos := by
  obtain ⟨rest, hrest⟩ := hlead
  obtain ⟨hvalues, htext, hplace⟩ := Expression.capture_of_isPrefix hrest.symm hpos
    (.ofOperator e.operator) boundary
  have hown : (Assoc.keys (read e boundary p).1).Sublist e.names :=
    (e.captured_capture _ _ _).keys_sublist
  refine ⟨⟨rest, hrest⟩, ?_, hown, ?_, ?_, ?_⟩
  · exact hplace ▸ Nat.le_add_right _ _
  · intro hop
    rw [read, hvalues, Expression.readValues_of_not_isNamed hop]
    exact ⟨readPositionals_ne_nil _ hne _, keys_readPositionals_isPrefix _ _ _⟩
  · intro literal hl hleader hopens
    have hliteral : boundary = some literal := hb.symm.trans (boundary?_drop_eq_some_iff.2 hl)
    rw [← htext]
    exact hstands literal hliteral (opensLiteral_eq_true_iff.2 ⟨hleader, hopens⟩)
  · intro p' q hsame hs
    have hread := read_congr hsame e boundary
    rw [hs.eq_matchExpression he, hb, matchExpression_of_stands i (hread.symm ▸ hstands), hread]
    refine ⟨rfl, rfl, fun name hname => ?_⟩
    exact Assoc.find?_putAll_of_not_mem _ fun hm => hname (hown.subset hm)

/-- Every expression that a match comes to leaves the match as it is, or overlays its bindings with
    values of its own variables; which, does not depend on the bindings. -/
theorem untouched_or_overlaid_of_reached {source : Text} {config : Config}
    (ht : Template.ofText source config = .ok t) (h : t.Reached uri i p)
    (he : t.nodes[i]? = some (.expression e)) :
    Within uri p ∧
      matchNodes 0 t.nodes ⟨.ofText uri, [], []⟩ = matchNodes i (t.nodes.drop i) p ∧
      (t.Untouched i p ∨ ∃ values place, t.Overlaid i e p values place) := by
  have hwithin := h.within
  have hpos : p.cursor.pos ≤ p.cursor.text.length := by
    rw [hwithin.text_eq]
    exact hwithin.pos_le
  have hne : e.specs ≠ [] := (Template.wellFormed ht _ (List.mem_of_getElem? he)).1
  refine ⟨hwithin, h.matchNodes_eq, ?_⟩
  by_cases hlead : e.operator.leader <+: p.cursor.remaining
  · by_cases hback : ∃ literal, boundary? (t.nodes.drop (i + 1)) = some literal ∧
        opensLiteral e.operator literal = true ∧
        ¬ literal <+: (read e (some literal) p).2.remaining
    · obtain ⟨literal, hl, hopens, hnot⟩ := hback
      exact .inl (untouched_of_not_stands he hl hopens hnot)
    · refine .inr ⟨_, _, overlaid_of_stands he hne hpos hlead rfl fun literal hl hopens => ?_⟩
      rw [hl]
      exact Decidable.byContradiction fun hnot => hback ⟨literal, hl, hopens, hnot⟩
  · exact .inl (untouched_of_not_isPrefix he hlead)

/-- The path has read `end` for the name that is bound to `a`, and is given back. -/
theorem untouched_or_overlaid_of_repeated_path :
    let e : Expression := ⟨.path, [⟨['x'], .none⟩]⟩
    let t : Template := ⟨"{x}{/x}/end".toList,
      [.expression ⟨.plain, [⟨['x'], .none⟩]⟩, .expression e, .literal "/end".toList], {}⟩
    let p : Progress := ⟨⟨"a/end".toList, 1, 5⟩, [(['x'], .scalar ['a'])], []⟩
    Template.ofText t.source {} = .ok t ∧ t.Reached "a/end".toList 1 p ∧
      t.nodes[1]? = some (.expression e) ∧ t.Untouched 1 p := by
  intro e t p
  have ht : Template.ofText t.source {} = .ok t := by with_unfolding_all rfl
  have hstep : Step t 0 ⟨.ofText "a/end".toList, [], []⟩ p := by
    have hfirst : matchExpression 0 ⟨.plain, [⟨['x'], .none⟩]⟩ (boundary? (t.nodes.drop 1))
        ⟨.ofText "a/end".toList, [], []⟩ = p := by with_unfolding_all rfl
    rw [← hfirst]
    exact .expression rfl
  have hreached : t.Reached "a/end".toList 1 p := .next .start hstep
  obtain ⟨-, -, huntouched | ⟨values, place, hover⟩⟩ :=
    untouched_or_overlaid_of_reached ht hreached (e := e) rfl
  · exact ⟨ht, hreached, rfl, huntouched⟩
  · -- Behind the leader there is no room for the literal.
    have hstands := (hover.stands "/end".toList rfl (by decide) (by decide)).length_le
    have hplace : 1 + 1 ≤ place := hover.place_le
    have hlength : p.cursor.text.length = 5 := rfl
    have hliteral : "/end".toList.length = 4 := rfl
    rw [List.length_drop, hlength, hliteral] at hstands
    omega

end Template

end UriTemplate
