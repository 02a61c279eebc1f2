import Mathlib.Data.List.Forall2
import UriTemplate.Proofs.Overlay

set_option autoImplicit false

namespace UriTemplate

open Text

namespace Assoc

variable {κ α : Type} [DecidableEq κ]

theorem find?_eq_some_iff {m : Assoc κ α} (h : m.keys.Nodup) {name : κ} {value : α} :
    m.find? name = some value ↔ (name, value) ∈ m := by
  refine ⟨mem_of_find?_eq_some, fun hm => ?_⟩
  induction m with
  | nil => cases hm
  | cons e rest ih =>
    obtain ⟨hnot : e.1 ∉ keys rest, hrest⟩ := List.nodup_cons.1 h
    rcases List.mem_cons.1 hm with rfl | hm
    · exact if_pos rfl
    · have hkey : name ∈ keys rest := List.mem_map_of_mem hm
      have hne : e.1 ≠ name := fun heq => hnot (heq ▸ hkey)
      rw [find?, if_neg hne]
      exact ih hrest hm

theorem find?_putAll_eq_some_iff {m : Assoc κ α} {entries : Assoc κ α} (h : entries.keys.Nodup)
    {name : κ} {value : α} :
    (m.putAll entries).find? name = some value ↔
      (name, value) ∈ entries ∨ name ∉ entries.keys ∧ m.find? name = some value := by
  rw [find?_putAll, ofList_of_nodup h, Option.or_eq_some_iff, find?_eq_some_iff h, find?_eq_none_iff]

end Assoc

/-- Every name once, in the order in which they first come. -/
structure Text.InOrder (names occurrences : List Text) : Prop where
  mem_iff : ∀ name, name ∈ names ↔ name ∈ occurrences
  before : names.Pairwise fun a b => occurrences.idxOf a < occurrences.idxOf b

theorem Text.InOrder.snoc {names occurrences : List Text} (h : InOrder names occurrences)
    (next : Text) :
    InOrder (if next ∈ names then names else names ++ [next]) (occurrences ++ [next]) := by
  have hindex : ∀ name ∈ names, (occurrences ++ [next]).idxOf name = occurrences.idxOf name :=
    fun name hname => List.idxOf_append_of_mem ((h.mem_iff name).1 hname)
  have hbefore : names.Pairwise fun a b =>
      (occurrences ++ [next]).idxOf a < (occurrences ++ [next]).idxOf b :=
    h.before.imp_of_mem fun ha hb hlt => by rwa [hindex _ ha, hindex _ hb]
  split
  · next hold =>
    have hmem := (h.mem_iff next).1 hold
    refine ⟨fun name => ?_, hbefore⟩
    rw [h.mem_iff, List.mem_append, List.mem_singleton]
    exact ⟨.inl, fun hname => hname.elim id (· ▸ hmem)⟩
  · next hnew =>
    have hnot : next ∉ occurrences := fun hm => hnew ((h.mem_iff next).2 hm)
    refine ⟨fun name => ?_, List.pairwise_append.2 ⟨hbefore, List.pairwise_singleton _ _, ?_⟩⟩
    · rw [List.mem_append, h.mem_iff, List.mem_append]
    · intro name hname other hother
      have hlt : occurrences.idxOf name < occurrences.length :=
        List.idxOf_lt_length_of_mem ((h.mem_iff name).1 hname)
      rw [List.mem_singleton.1 hother, hindex name hname, List.idxOf_append_of_notMem hnot]
      exact Nat.lt_of_lt_of_le hlt (Nat.le_add_right _ _)

theorem Node.declared_inOrder (nodes : List Node) :
    InOrder (declared nodes) (nodes.flatMap names) := by
  have hrun : ∀ later names occurrences : List Text, InOrder names occurrences →
      InOrder (later.foldl (fun seen name => if name ∈ seen then seen else seen ++ [name]) names)
        (occurrences ++ later) := by
    intro later
    induction later with
    | nil =>
      intro names occurrences h
      rwa [List.append_nil]
    | cons next later ih =>
      intro names occurrences h
      have hnext := ih _ _ (h.snoc next)
      rwa [List.append_assoc] at hnext
  rw [Template.declared_eq_foldl]
  exact hrun (nodes.flatMap Node.names) [] [] ⟨fun _ => Iff.rfl, .nil⟩

/-- Texts, lists of several texts, and mappings that have items, each under a key of its own. -/
def Value.Recovered : Value → Prop
  | .scalar _ => True
  | .list members => 2 ≤ members.length
  | .mapping entries => entries ≠ [] ∧ (Assoc.keys entries).Nodup

theorem VarSpec.Yields.recovered {v : VarSpec} {x : Value} (h : v.Yields x) : x.Recovered := by
  cases x with
  | scalar t => trivial
  | list members => exact h.several members rfl
  | mapping entries => exact ⟨by simpa [Shape.isDefined] using h.defined, h.distinct⟩

theorem VarSpec.Yields.coerce_ofValue {v : VarSpec} {x : Value} (h : v.Yields x) (name : Text) :
    (Datum.ofValue x).coerce name = .ok (some x) := by
  rw [Datum.coerce_ofValue name h.distinct, Shape.ifDefined, if_pos h.defined]

namespace Template

variable {t : Template} {uri : Text} {i : Nat} {p q : Progress} {name : Text} {x : Value}

/-- The node captures a value for a name, and is not given back. -/
inductive Captures (t : Template) (i : Nat) (p : Progress) (name : Text) (x : Value) : Prop
  | mk {e : Expression} {boundary : Option Text} (he : t.nodes[i]? = some (.expression e))
      (hb : boundary? (t.nodes.drop (i + 1)) = boundary)
      (hstands : ∀ literal ∈ boundary, opensLiteral e.operator literal = true →
        literal <+: (read e boundary p).2.remaining)
      (hx : (name, x) ∈ (read e boundary p).1) : Captures t i p name x

theorem Captures.lt (h : Captures t i p name x) : i < t.nodes.length := by
  cases h with
  | mk he => exact (List.getElem?_eq_some_iff.1 he).1

theorem Captures.exists_yields (h : Captures t i p name x) :
    ∃ e, .expression e ∈ t.nodes ∧ ∃ v ∈ e.specs, v.name = name ∧ v.Yields x := by
  obtain @⟨e, boundary, he, -, -, hx⟩ := h
  refine ⟨e, List.mem_of_getElem? he, ?_⟩
  exact (e.captured_capture (.ofOperator e.operator) boundary p.cursor).exists_yields hx

theorem not_captures_of_literal {text : Text} (h : t.nodes[i]? = some (.literal text)) :
    ¬ Captures t i p name x := by
  rintro ⟨he⟩
  cases h.symm.trans he

theorem captures_iff {e : Expression} {boundary : Option Text}
    (he : t.nodes[i]? = some (.expression e)) (hb : boundary? (t.nodes.drop (i + 1)) = boundary)
    (hstands : ∀ literal ∈ boundary, opensLiteral e.operator literal = true →
      literal <+: (read e boundary p).2.remaining) :
    Captures t i p name x ↔ (name, x) ∈ (read e boundary p).1 := by
  refine ⟨fun h => ?_, .mk he hb hstands⟩
  obtain @⟨_, _, he', hb', -, hx⟩ := h
  cases he.symm.trans he'
  cases hb.symm.trans hb'
  exact hx

theorem not_captures_of_not_stands {e : Expression} {literal : Text}
    (he : t.nodes[i]? = some (.expression e))
    (hb : boundary? (t.nodes.drop (i + 1)) = some literal)
    (hopens : opensLiteral e.operator literal = true)
    (hnot : ¬ literal <+: (read e (some literal) p).2.remaining) : ¬ Captures t i p name x := by
  rintro @⟨_, _, he', hb', hstands, -⟩
  cases he.symm.trans he'
  cases hb.symm.trans hb'
  exact hnot (hstands literal rfl hopens)

theorem Step.bindings_eq (h : Step t i p q)
    (hnames : ∀ e, t.nodes[i]? = some (.expression e) → e.names.Nodup) :
    ∃ own : Assoc Text Value, own.keys.Nodup ∧ q.bindings = p.bindings.putAll own ∧
      ∀ name x, Captures t i p name x ↔ (name, x) ∈ own := by
  have hnothing : (∀ name x, ¬ Captures t i p name x) → q.bindings = p.bindings →
      ∃ own : Assoc Text Value, own.keys.Nodup ∧ q.bindings = p.bindings.putAll own ∧
        ∀ name x, Captures t i p name x ↔ (name, x) ∈ own :=
    fun hnone hsame => ⟨[], List.nodup_nil, hsame, fun name x => iff_of_false (hnone name x) nofun⟩
  cases h with
  | literal hn hm => exact hnothing (fun _ _ => not_captures_of_literal hn) rfl
  | @expression e he =>
    generalize hb : boundary? (t.nodes.drop (i + 1)) = boundary at hnothing ⊢
    by_cases hback : ∃ literal, boundary = some literal ∧ opensLiteral e.operator literal = true ∧
        ¬ literal <+: (read e boundary p).2.remaining
    · obtain ⟨literal, rfl, hopens, hnot⟩ := hback
      refine hnothing (fun _ _ => not_captures_of_not_stands he hb hopens hnot) ?_
      rw [matchExpression_of_not_stands i hopens hnot]
    · have hstands : ∀ literal ∈ boundary, opensLiteral e.operator literal = true →
          literal <+: (read e boundary p).2.remaining := fun literal hl hopens =>
        Decidable.byContradiction fun hnot => hback ⟨literal, hl, hopens, hnot⟩
      have hkeys : (Assoc.keys (read e boundary p).1).Nodup :=
        (e.captured_capture _ _ _).keys_sublist.nodup (hnames e he)
      rw [matchExpression_of_stands i hstands]
      exact ⟨_, hkeys, rfl, fun name x => captures_iff he hb hstands⟩

theorem Step.find?_bindings_eq_some_iff (h : Step t i p q)
    (hnames : ∀ e, t.nodes[i]? = some (.expression e) → e.names.Nodup) (name : Text) (x : Value) :
    q.bindings.find? name = some x ↔ Captures t i p name x ∨
      (∀ y, ¬ Captures t i p name y) ∧ p.bindings.find? name = some x := by
  obtain ⟨own, hkeys, hbindings, hcaptures⟩ := h.bindings_eq hnames
  have habsent : name ∉ own.keys ↔ ∀ y, ¬ Captures t i p name y := by
    simp only [hcaptures, ← Assoc.find?_eq_some_iff hkeys, ← Assoc.find?_eq_none_iff,
      Option.eq_none_iff_forall_ne_some, ne_eq]
  rw [hbindings, Assoc.find?_putAll_eq_some_iff hkeys, hcaptures, habsent]

theorem Step.find?_bindings_eq_none_iff (h : Step t i p q)
    (hnames : ∀ e, t.nodes[i]? = some (.expression e) → e.names.Nodup) (name : Text) :
    q.bindings.find? name = none ↔
      (∀ y, ¬ Captures t i p name y) ∧ p.bindings.find? name = none := by
  simp only [Option.eq_none_iff_forall_ne_some, ne_eq, h.find?_bindings_eq_some_iff hnames, not_or,
    not_and, forall_and]
  constructor
  · rintro ⟨hnone, hfree⟩
    exact ⟨hnone, fun y => hfree y hnone⟩
  · rintro ⟨hnone, hfree⟩
    exact ⟨hnone, fun y _ => hfree y⟩

theorem Step.nodup_keys (h : Step t i p q) (hp : p.bindings.keys.Nodup) :
    q.bindings.keys.Nodup := by
  cases h with
  | literal hn hm => exact hp
  | @expression e hn =>
    rcases matchExpression_cases i e (boundary? (t.nodes.drop (i + 1))) p with
      heq | ⟨literal, -, -, heq⟩
    · rw [heq]
      exact Assoc.nodup_keys_putAll hp _
    · rwa [heq]

theorem Reached.nodup_keys (h : t.Reached uri i p) : p.bindings.keys.Nodup := by
  induction h with
  | start => exact List.nodup_nil
  | next _ hs ih => exact hs.nodup_keys ih

theorem Passage.find?_bindings_eq_some_iff {state : Nat → Progress} (h : t.Passage uri state)
    (hnames : ∀ e, .expression e ∈ t.nodes → e.names.Nodup) {k : Nat} (hk : k ≤ t.nodes.length) :
    (state k).bindings.find? name = some x ↔ ∃ i < k, Captures t i (state i) name x ∧
      ∀ j, i < j → j < k → ∀ y, ¬ Captures t j (state j) name y := by
  induction k with
  | zero =>
    rw [h.start]
    exact ⟨nofun, fun ⟨i, hi, _⟩ => absurd hi (Nat.not_lt_zero i)⟩
  | succ k ih =>
    have hstep := (h.step k hk).find?_bindings_eq_some_iff fun e he =>
      hnames e (List.mem_of_getElem? he)
    rw [hstep, ih (Nat.le_of_lt hk)]
    constructor
    · rintro (hc | ⟨hnone, i, hi, hc, hlater⟩)
      · exact ⟨k, Nat.lt_succ_self k, hc, fun j hkj hj => by omega⟩
      · refine ⟨i, Nat.lt_succ_of_lt hi, hc, fun j hij hj => ?_⟩
        rcases Nat.lt_succ_iff_lt_or_eq.1 hj with hj | rfl
        · exact hlater j hij hj
        · exact hnone
    · rintro ⟨i, hi, hc, hlater⟩
      rcases Nat.lt_succ_iff_lt_or_eq.1 hi with hi | rfl
      · exact .inr ⟨hlater k hi (Nat.lt_succ_self k), i, hi, hc,
          fun j hij hj => hlater j hij (Nat.lt_succ_of_lt hj)⟩
      · exact .inl hc

theorem Passage.find?_bindings_eq_none_iff {state : Nat → Progress} (h : t.Passage uri state)
    (hnames : ∀ e, .expression e ∈ t.nodes → e.names.Nodup) {k : Nat} (hk : k ≤ t.nodes.length) :
    (state k).bindings.find? name = none ↔ ∀ i < k, ∀ y, ¬ Captures t i (state i) name y := by
  induction k with
  | zero =>
    rw [h.start]
    exact ⟨fun _ i hi => absurd hi (Nat.not_lt_zero i), fun _ => rfl⟩
  | succ k ih =>
    have hstep := (h.step k hk).find?_bindings_eq_none_iff fun e he =>
      hnames e (List.mem_of_getElem? he)
    rw [hstep, ih (Nat.le_of_lt hk), Nat.forall_lt_succ_right, and_comm]

/-- What a match gives, as its states account for it. -/
structure Accounted (t : Template) (m : Match) (state : Nat → Progress) : Prop where
  own : ∀ name ∈ m.bindings.keys, name ∈ t.declared
  once : m.bindings.keys.Nodup
  recovered : ∀ name x, (name, x) ∈ m.bindings →
    x.Recovered ∧ ∀ other, (Datum.ofValue x).coerce other = .ok (some x)
  inOrder : InOrder t.declared (t.nodes.flatMap Node.names)
  values : List.Forall₂ (fun name value? => (∀ x, value? = some x ↔ (name, x) ∈ m.bindings) ∧
    (value? = none ↔ ∀ i x, ¬ Captures t i (state i) name x)) t.declared m.valuesCaptured
  last : ∀ name x, (name, x) ∈ m.bindings ↔ ∃ i, Captures t i (state i) name x ∧
    ∀ j, i < j → ∀ y, ¬ Captures t j (state j) name y

theorem declared_of_match? {m : Match} (h : t.match? uri = some m) : m.declared = t.declared := by
  unfold match? trace at h
  split at h
  · cases h
  · split at h
    · cases h
    · cases h
      rfl

/-- Every successful match binds what its nodes captured last, in the shapes that reading gives. -/
theorem accounted_of_match? {source : Text} {config : Config}
    (ht : Template.ofText source config = .ok t) {m : Match} (hm : t.match? uri = some m) :
    ∃ state, t.Passage uri state ∧ t.Accounted m state := by
  obtain ⟨state, hpassage, -, hbindings, -⟩ := exists_passage_of_match? hm
  have hnames : ∀ e, .expression e ∈ t.nodes → e.names.Nodup :=
    fun e he => (Template.wellFormed ht _ he).2.1
  have honce : m.bindings.keys.Nodup := by
    rw [hbindings]
    exact (hpassage.reached (Nat.le_refl _)).nodup_keys
  have hlast : ∀ name x, (name, x) ∈ m.bindings ↔ ∃ i, Captures t i (state i) name x ∧
      ∀ j, i < j → ∀ y, ¬ Captures t j (state j) name y := by
    intro name x
    rw [← Assoc.find?_eq_some_iff honce, hbindings,
      hpassage.find?_bindings_eq_some_iff hnames (Nat.le_refl _)]
    constructor
    · rintro ⟨i, -, hc, hlater⟩
      exact ⟨i, hc, fun j hij y hj => hlater j hij hj.lt y hj⟩
    · rintro ⟨i, hc, hlater⟩
      exact ⟨i, hc.lt, hc, fun j hij _ => hlater j hij⟩
  have hnone : ∀ name, m.get? name = none ↔ ∀ i x, ¬ Captures t i (state i) name x := by
    intro name
    rw [Findings.get?, hbindings, hpassage.find?_bindings_eq_none_iff hnames (Nat.le_refl _)]
    exact ⟨fun h i x hc => h i hc.lt x hc, fun h i _ => h i⟩
  have hbound : ∀ name x, (name, x) ∈ m.bindings →
      ∃ e, .expression e ∈ t.nodes ∧ ∃ v ∈ e.specs, v.name = name ∧ v.Yields x := by
    intro name x hx
    obtain ⟨i, hc, -⟩ := (hlast name x).1 hx
    exact hc.exists_yields
  refine ⟨state, hpassage, ?_, honce, ?_, Node.declared_inOrder t.nodes, ?_, hlast⟩
  · intro name hname
    obtain ⟨⟨_, x⟩, hx, rfl⟩ := List.mem_map.1 hname
    obtain ⟨e, he, v, hv, rfl, -⟩ := hbound _ x hx
    exact mem_declared.2 (List.mem_flatMap.2 ⟨_, he, List.mem_map_of_mem hv⟩)
  · intro name x hx
    obtain ⟨e, -, v, -, -, hyields⟩ := hbound name x hx
    exact ⟨hyields.recovered, hyields.coerce_ofValue⟩
  · have hvalues : m.valuesCaptured = t.declared.map m.get? := by
      rw [← declared_of_match? hm]
      rfl
    rw [hvalues, List.forall₂_map_right_iff]
    exact List.forall₂_same.2 fun name _ =>
      ⟨fun x => Assoc.find?_eq_some_iff honce, hnone name⟩

theorem accounted_of_match?_repeated :
    let t : Template := ⟨"{x}{;m*}{?x,z}".toList,
      [.expression ⟨.plain, [⟨['x'], .none⟩]⟩, .expression ⟨.pathParams, [⟨['m'], .explode⟩]⟩,
        .expression ⟨.form, [⟨['x'], .none⟩, ⟨['z'], .none⟩]⟩], {}⟩
    let m : Match := ⟨"a;k=v;l?x=b,c".toList, [['x'], ['m'], ['z']],
      [(['x'], .list [['b'], ['c']]), (['m'], .mapping [(['k'], ['v']), (['l'], [])])]⟩
    Template.ofText t.source {} = .ok t ∧ t.match? m.uri = some m ∧
      m.valuesCaptured = [some (.list [['b'], ['c']]),
        some (.mapping [(['k'], ['v']), (['l'], [])]), none] ∧
      ∃ state, t.Passage m.uri state ∧ t.Accounted m state := by
  intro t m
  have ht : Template.ofText t.source {} = .ok t := by with_unfolding_all rfl
  have hm : t.match? m.uri = some m := by decide +kernel
  exact ⟨ht, hm, by decide, accounted_of_match? ht hm⟩

end Template

end UriTemplate
