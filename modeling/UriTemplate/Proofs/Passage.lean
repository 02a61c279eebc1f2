import Mathlib.Logic.Function.Basic
import UriTemplate.Match
import UriTemplate.Proofs.Capturing

set_option autoImplicit false

/-!
A match that goes through is a sequence of states, one before each node and one behind the last.
`Step` says how one node leads from a state to the next, and `Reached` are the states that steps lead
to from the start of the text. A successful match is a `Passage`, a chain of steps through all nodes,
and what every step keeps holds of all its states.
-/

namespace UriTemplate.Template

open Text

inductive Step (t : Template) (i : Nat) (p : Progress) : Progress → Prop
  | literal {text : Text} {next : Cursor} (hn : t.nodes[i]? = some (.literal text))
      (hm : p.cursor.matchLiteral? text = some next) : Step t i p { p with cursor := next }
  | expression {e : Expression} (hn : t.nodes[i]? = some (.expression e)) :
      Step t i p (matchExpression i e (boundary? (t.nodes.drop (i + 1))) p)

structure Passage (t : Template) (uri : Text) (state : Nat → Progress) : Prop where
  start : state 0 = ⟨.ofText uri, [], []⟩
  step : ∀ i < t.nodes.length, Step t i (state i) (state (i + 1))

/-- The state of a match before the node with a number, whether or not the match goes through. -/
inductive Reached (t : Template) (uri : Text) : Nat → Progress → Prop
  | start : Reached t uri 0 ⟨.ofText uri, [], []⟩
  | next {i : Nat} {p q : Progress} (h : Reached t uri i p) (hs : Step t i p q) :
      Reached t uri (i + 1) q

theorem boundary?_drop_eq_some_iff {t : Template} {i : Nat} {literal : Text} :
    boundary? (t.nodes.drop (i + 1)) = some literal ↔
      t.nodes[i + 1]? = some (.literal literal) := by
  rw [← List.head?_drop]
  cases t.nodes.drop (i + 1) with
  | nil => exact ⟨nofun, nofun⟩
  | cons node rest =>
    cases node with
    | literal text => simp [boundary?]
    | expression e => simp [boundary?]

theorem exists_steps_of_matchNodes {t : Template} {nodes : List Node} {i : Nat} {p q : Progress}
    (hn : t.nodes.drop i = nodes) (h : matchNodes i nodes p = .ok q) :
    ∃ state : Nat → Progress, state i = p ∧ state t.nodes.length = q ∧
      ∀ j, i ≤ j → j < t.nodes.length → Step t j (state j) (state (j + 1)) := by
  induction nodes generalizing i p with
  | nil =>
    have hle : t.nodes.length ≤ i := List.drop_eq_nil_iff.1 hn
    cases h
    exact ⟨fun _ => q, rfl, rfl, fun j hij hj => by omega⟩
  | cons node rest ih =>
    have hnode : t.nodes[i]? = some node := by
      rw [← List.head?_drop, hn]
      rfl
    have hrest : t.nodes.drop (i + 1) = rest := by
      rw [← List.tail_drop, hn]
      rfl
    have hlt : i < t.nodes.length := (List.getElem?_eq_some_iff.1 hnode).1
    have hstep : ∃ next, Step t i p next ∧ matchNodes (i + 1) rest next = .ok q := by
      cases node with
      | literal text =>
        unfold matchNodes at h
        split at h
        · next cursor hm => exact ⟨_, .literal hnode hm, h⟩
        · cases h
      | expression e =>
        have hs : Step t i p (matchExpression i e (boundary? (t.nodes.drop (i + 1))) p) :=
          .expression hnode
        rw [hrest] at hs
        exact ⟨_, hs, h⟩
    obtain ⟨next, hs, hnext⟩ := hstep
    obtain ⟨state, hfirst, hlast, hsteps⟩ := ih hrest hnext
    refine ⟨Function.update state i p, ?_, ?_, ?_⟩
    · simp
    · rw [Function.update_of_ne (by omega), hlast]
    · intro j hij hj
      rw [Function.update_of_ne (show j + 1 ≠ i by omega)]
      by_cases hji : j = i
      · subst hji
        rw [Function.update_self, hfirst]
        exact hs
      · rw [Function.update_of_ne hji]
        exact hsteps j (by omega) hj

theorem exists_passage_of_match? {t : Template} {uri : Text} {m : Match}
    (h : t.match? uri = some m) :
    ∃ state, t.Passage uri state ∧ (t.trace uri).1 = (state t.nodes.length).events ∧
      m.bindings = (state t.nodes.length).bindings ∧
      (t.config.fullMatch = true → (state t.nodes.length).cursor.atEnd = true) := by
  unfold match? trace at h
  unfold trace
  cases hrun : matchNodes 0 t.nodes ⟨.ofText uri, [], []⟩ with
  | error events =>
    rw [hrun] at h
    cases h
  | ok q =>
    obtain ⟨state, hfirst, hlast, hsteps⟩ := exists_steps_of_matchNodes List.drop_zero hrun
    have hpassage : t.Passage uri state := ⟨hfirst, fun i hi => hsteps i (Nat.zero_le i) hi⟩
    rw [hrun] at h
    simp only at h ⊢
    split at h
    · cases h
    · next hend =>
      cases h
      rw [if_neg hend]
      refine ⟨state, hpassage, by rw [hlast], by rw [hlast], fun hfull => ?_⟩
      simpa [hfull, hlast] using hend

def read (e : Expression) (boundary : Option Text) (p : Progress) : List (Text × Value) × Cursor :=
  e.capture (.ofOperator e.operator) boundary p.cursor

theorem opensLiteral_eq_true_iff {op : Operator} {literal : Text} :
    opensLiteral op literal = true ↔ op.leader ≠ [] ∧ op.leader <+: literal := by
  unfold opensLiteral
  simp only [Bool.and_eq_true, Bool.not_eq_true', List.isEmpty_eq_false_iff,
    List.isPrefixOf_iff_prefix]
  constructor
  · exact fun ⟨⟨hleader, _⟩, hpre⟩ => ⟨hleader, hpre⟩
  · rintro ⟨hleader, hpre⟩
    refine ⟨⟨hleader, ?_⟩, hpre⟩
    rintro rfl
    exact hleader (List.prefix_nil.1 hpre)

theorem matchExpression_of_stands (i : Nat) {e : Expression} {boundary : Option Text} {p : Progress}
    (h : ∀ literal ∈ boundary, opensLiteral e.operator literal = true →
      literal <+: (read e boundary p).2.remaining) :
    matchExpression i e boundary p =
      { p with
        cursor := (read e boundary p).2
        bindings := p.bindings.putAll (read e boundary p).1 } := by
  unfold matchExpression
  cases boundary with
  | none => rfl
  | some literal =>
    refine if_neg fun hback => ?_
    obtain ⟨hopens, hnone⟩ := Bool.and_eq_true_iff.1 hback
    have hstands := Cursor.matchLiteral?_of_isPrefix (h literal rfl hopens)
    unfold read at hstands
    rw [hstands] at hnone
    cases hnone

theorem matchExpression_of_not_stands (i : Nat) {e : Expression} {literal : Text} {p : Progress}
    (hopens : opensLiteral e.operator literal = true)
    (h : ¬ literal <+: (read e (some literal) p).2.remaining) :
    matchExpression i e (some literal) p =
      { p with
        cursor := { (read e (some literal) p).2 with pos := p.cursor.pos }
        events := p.events ++ [.readAsAbsent i p.cursor.text literal] } := by
  have hnone : (read e (some literal) p).2.matchLiteral? literal = none :=
    if_neg fun hpre => h (List.isPrefixOf_iff_prefix.1 hpre)
  unfold read at hnone
  unfold matchExpression
  simp only [hopens, hnone, Option.isNone_none, Bool.and_true, if_true]
  rfl

theorem matchExpression_cases (i : Nat) (e : Expression) (boundary : Option Text) (p : Progress) :
    matchExpression i e boundary p =
        { p with
          cursor := (read e boundary p).2
          bindings := p.bindings.putAll (read e boundary p).1 } ∨
      ∃ literal, boundary = some literal ∧ opensLiteral e.operator literal = true ∧
        matchExpression i e boundary p =
          { p with
            cursor := { (read e boundary p).2 with pos := p.cursor.pos }
            events := p.events ++ [.readAsAbsent i p.cursor.text literal] } := by
  by_cases h : ∃ literal, boundary = some literal ∧ opensLiteral e.operator literal = true ∧
      ¬ literal <+: (read e boundary p).2.remaining
  · obtain ⟨literal, rfl, hopens, hnot⟩ := h
    exact .inr ⟨literal, rfl, hopens, matchExpression_of_not_stands i hopens hnot⟩
  · refine .inl (matchExpression_of_stands i fun literal hl hopens => ?_)
    exact Decidable.byContradiction fun hnot => h ⟨literal, hl, hopens, hnot⟩

structure Within (uri : Text) (p : Progress) : Prop where
  text_eq : p.cursor.text = uri
  pos_le : p.cursor.pos ≤ uri.length

def Covered : Node → Text → Prop
  | .literal text, segment => segment = text
  | .expression e, segment => e.Covers segment

variable {t : Template} {uri : Text} {i : Nat} {p q : Progress}

theorem Step.covers (h : Step t i p q) (hp : Within uri p) : Within uri q ∧
    ∃ node segment, t.nodes[i]? = some node ∧ Covered node segment ∧
      segment <+: uri.drop p.cursor.pos ∧ q.cursor.pos = p.cursor.pos + segment.length := by
  have hrem : p.cursor.remaining = uri.drop p.cursor.pos := by
    rw [← hp.text_eq]
    rfl
  have hlen : (uri.drop p.cursor.pos).length = uri.length - p.cursor.pos := List.length_drop
  have hle := hp.pos_le
  cases h with
  | @literal text next hn hm =>
    obtain ⟨hpre, rfl⟩ := Cursor.matchLiteral?_eq_some hm
    rw [hrem] at hpre
    refine ⟨⟨hp.text_eq, ?_⟩, .literal text, text, hn, rfl, hpre, rfl⟩
    have hshort := hpre.length_le
    change p.cursor.pos + text.length ≤ uri.length
    omega
  | @expression e hn =>
    generalize boundary? (t.nodes.drop (i + 1)) = boundary
    have hpos : p.cursor.pos ≤ p.cursor.text.length := by rw [hp.text_eq]; exact hle
    obtain ⟨htext, segment, hpre, hcov, hplace⟩ :=
      e.capture_covers hpos (.ofOperator e.operator) boundary
    change (read e boundary p).2.text = p.cursor.text at htext
    change (read e boundary p).2.pos = p.cursor.pos + segment.length at hplace
    rw [hrem] at hpre
    rcases matchExpression_cases i e boundary p with heq | ⟨literal, -, -, heq⟩
    · rw [heq]
      refine ⟨⟨htext.trans hp.text_eq, ?_⟩, .expression e, segment, hn, hcov, hpre, hplace⟩
      have hshort := hpre.length_le
      change (read e boundary p).2.pos ≤ uri.length
      omega
    · rw [heq]
      exact ⟨⟨htext.trans hp.text_eq, hle⟩, .expression e, [], hn, .inl rfl, List.nil_prefix, rfl⟩

theorem Step.literal_isPrefix (h : Step t i p q) {text : Text}
    (hn : t.nodes[i]? = some (.literal text)) : text <+: p.cursor.remaining := by
  cases h with
  | literal hn' hm =>
    rw [hn] at hn'
    cases hn'
    exact (Cursor.matchLiteral?_eq_some hm).1
  | expression hn' =>
    rw [hn] at hn'
    cases hn'

theorem Step.eq_matchExpression (h : Step t i p q) {e : Expression}
    (hn : t.nodes[i]? = some (.expression e)) :
    q = matchExpression i e (boundary? (t.nodes.drop (i + 1))) p := by
  cases h with
  | literal hn' hm =>
    rw [hn] at hn'
    cases hn'
  | expression hn' =>
    rw [hn] at hn'
    cases hn'
    rfl

theorem Step.events_isPrefix (h : Step t i p q) : p.events <+: q.events := by
  cases h with
  | literal hn hm => exact List.prefix_refl p.events
  | @expression e hn =>
    rcases matchExpression_cases i e (boundary? (t.nodes.drop (i + 1))) p with
      heq | ⟨literal, -, -, heq⟩
    · exact ⟨[], by rw [heq, List.append_nil]⟩
    · rw [heq]
      exact List.prefix_append _ _

theorem Reached.within (h : t.Reached uri i p) : Within uri p := by
  induction h with
  | start => exact ⟨rfl, Nat.zero_le _⟩
  | next _ hs ih => exact (hs.covers ih).1

namespace Passage

variable {state : Nat → Progress}

theorem reached (h : t.Passage uri state) (hi : i ≤ t.nodes.length) :
    t.Reached uri i (state i) := by
  induction i with
  | zero =>
    rw [h.start]
    exact .start
  | succ i ih => exact .next (ih (Nat.le_of_lt hi)) (h.step i hi)

theorem within (h : t.Passage uri state) (hi : i ≤ t.nodes.length) : Within uri (state i) :=
  (h.reached hi).within

theorem events_isPrefix (h : t.Passage uri state) (hi : i ≤ t.nodes.length) :
    (state i).events <+: (state t.nodes.length).events := by
  induction hd : t.nodes.length - i generalizing i with
  | zero =>
    have heq : i = t.nodes.length := by omega
    exact ⟨[], by rw [heq, List.append_nil]⟩
  | succ d ih =>
    have hlt : i < t.nodes.length := by omega
    exact (h.step i hlt).events_isPrefix.trans (ih hlt (by omega))

end Passage

end UriTemplate.Template
