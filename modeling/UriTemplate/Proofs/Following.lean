import UriTemplate.Proofs.Reserved

set_option autoImplicit false

namespace UriTemplate

open Text

/-- The target stands somewhere in the text from `start` on, before `stop`. -/
def Text.OccursWithin (target t : Text) (start stop : Nat) : Prop :=
  ∃ n, start ≤ n ∧ n < stop ∧ target <+: t.drop n

instance (target t : Text) (start stop : Nat) : Decidable (target.OccursWithin t start stop) :=
  decidable_of_iff (∃ n < stop, start ≤ n ∧ target <+: t.drop n)
    ⟨fun ⟨n, hstop, hstart, h⟩ => ⟨n, hstart, hstop, h⟩,
      fun ⟨n, hstart, hstop, h⟩ => ⟨n, hstop, hstart, h⟩⟩

theorem Text.exists_find?_append (target body : Text) :
    ∃ n ≤ body.length, find? target (body ++ target) = some n := by
  have hstands : target <+: (body ++ target).drop body.length :=
    ⟨[], by rw [List.append_nil, List.drop_left]⟩
  cases hfind : find? target (body ++ target) with
  | none =>
    have hle : body.length ≤ (body ++ target).length := by simp
    exact absurd hstands (find?_eq_none_iff.1 hfind body.length hle)
  | some n =>
    exact ⟨n, Nat.le_of_not_lt fun h => not_isPrefix_of_lt_find? hfind body.length h hstands, rfl⟩

theorem Text.occursWithin_append_iff {target t : Text} {start stop : Nat} (a : Text) :
    target.OccursWithin (a ++ t) (a.length + start) (a.length + stop) ↔
      target.OccursWithin t start stop := by
  constructor
  · rintro ⟨n, hstart, hstop, hstands⟩
    obtain ⟨k, rfl⟩ := Nat.exists_eq_add_of_le (Nat.le_of_add_right_le hstart)
    rw [List.drop_length_add_append] at hstands
    exact ⟨k, Nat.le_of_add_le_add_left hstart, Nat.lt_of_add_lt_add_left hstop, hstands⟩
  · rintro ⟨k, hstart, hstop, hstands⟩
    refine ⟨a.length + k, Nat.add_le_add_left hstart _, Nat.add_lt_add_left hstop _, ?_⟩
    rwa [List.drop_length_add_append]

theorem Text.occursWithin_body_iff {target front leader body : Text} :
    target.OccursWithin (front ++ (leader ++ body) ++ target) (front.length + leader.length)
        (front.length + (leader ++ body).length) ↔
      target.OccursWithin (body ++ target) 0 body.length := by
  have htext : front ++ (leader ++ body) ++ target = (front ++ leader) ++ (body ++ target) := by
    simp only [List.append_assoc]
  have hstart : front.length + leader.length = (front ++ leader).length + 0 := by simp
  have hstop : front.length + (leader ++ body).length = (front ++ leader).length + body.length := by
    simp only [List.length_append, Nat.add_assoc]
  rw [htext, hstart, hstop, occursWithin_append_iff]

namespace Expression

theorem exists_write_of_scalar {e : Expression} {x s : Text} {value : Text → Option Value}
    (hspecs : e.specs = [⟨x, .none⟩]) (hx : value x = some (.scalar s)) :
    ∃ body, e.write value = e.operator.leader ++ body := by
  rw [write_of_scalar hspecs hx, Operator.opening, List.append_assoc]
  exact ⟨_, rfl⟩

section scalar

variable {e : Expression} {x s : Text} {value : Text → Option Value}
  (hspecs : e.specs = [⟨x, .none⟩]) (hx : value x = some (.scalar s))

include hspecs

theorem forall_specs {p : VarSpec → Prop} (h : p ⟨x, .none⟩) : ∀ v ∈ e.specs, p v := by
  intro v hv
  rw [hspecs] at hv
  cases List.mem_singleton.1 hv
  exact h

include hx

theorem ne_list_of_scalar : ∀ v ∈ e.specs, ∀ members, value v.name ≠ some (.list members) :=
  forall_specs hspecs fun _ h => nomatch hx.symm.trans h

theorem ne_mapping_of_scalar : ∀ v ∈ e.specs, ∀ entries, value v.name ≠ some (.mapping entries) :=
  forall_specs hspecs fun _ h => nomatch hx.symm.trans h

theorem toldApart_of_scalar : e.ToldApart value where
  unlimited := forall_specs hspecs rfl
  several v hv members h := absurd h (ne_list_of_scalar hspecs hx v hv members)
  exploded v hv entries h := absurd h (ne_mapping_of_scalar hspecs hx v hv entries)
  keys v hv _ entries h := absurd h (ne_mapping_of_scalar hspecs hx v hv entries)
  order := hspecs ▸ List.pairwise_singleton _ _
  shown _ v hv entries h := absurd h (ne_mapping_of_scalar hspecs hx v hv entries)

theorem placed_of_scalar : e.Placed value where
  unlimited := forall_specs hspecs rfl
  compact := by rw [hspecs]; exact fun v hv => nomatch hv
  leading := hspecs ▸ List.pairwise_singleton _ _
  shown _ := ⟨_, hspecs ▸ List.mem_singleton_self _, by rw [hx]; exact Option.some_ne_none _⟩
  several v hv members h := absurd h (ne_list_of_scalar hspecs hx v hv members)
  exploded v hv entries h := absurd h (ne_mapping_of_scalar hspecs hx v hv entries)
  single := by rw [hspecs]; exact fun _ v hv => nomatch hv
  dotless _ := forall_specs hspecs fun hlast => by
    rw [hspecs] at hlast
    exact hlast.elim (fun h => nomatch h) (fun h => nomatch h)

theorem readAlone_of_scalar (hvalid : Name.Valid x)
    (hraw : e.operator.allowsReserved = true → ',' ∉ s ∧ s.Unescaped) :
    (e.readAlone (e.write value)).1 = [(x, .scalar s)] ∧
      (e.readAlone (e.write value)).2.pos = (e.write value).length := by
  have hnames : e.names = [x] := congrArg VarSpec.names hspecs
  have hdefined : ∀ v ∈ e.specs, ∀ y, value v.name = some y → y.isDefined = true ∧ y.Distinct := by
    refine forall_specs hspecs fun y hy => ?_
    cases hx.symm.trans hy
    exact ⟨rfl, trivial⟩
  have hcaptured : e.specs.filterMap (fun v => (value v.name).map (v.name, ·)) =
      [(x, .scalar s)] := by
    rw [hspecs, List.filterMap_cons_some (by rw [hx]; rfl), List.filterMap_nil]
  have hkind : e.operator.allowsReserved = true ∨ e.operator.isNamed = true ∨
      e.operator ∈ [.plain, .path, .label] := by
    cases e.operator <;> decide
  rcases hkind with hreserved | hnamed | hplain
  · obtain ⟨hcomma, hescape⟩ := hraw hreserved
    have hread := readAlone_of_allowsReserved hreserved hspecs rfl hx
    rwa [Value.ofRaw_encode hreserved, Value.ofRaw_of_unescaped hcomma hescape] at hread
  · have hnodup : e.names.Nodup := hnames ▸ List.pairwise_singleton _ _
    have hvalids : ∀ name ∈ e.names, Name.Valid name := by
      rw [hnames]
      exact fun name hname => List.mem_singleton.1 hname ▸ hvalid
    have hread := (toldApart_of_scalar hspecs hx).readAlone hnamed hnodup hvalids hdefined
    rwa [hcaptured] at hread
  · have hne : e.specs ≠ [] := hspecs ▸ List.cons_ne_nil _ _
    have hread := (placed_of_scalar hspecs hx).readAlone hplain hne hdefined
    rwa [hcaptured] at hread

end scalar

end Expression

namespace Template

variable {e : Expression} {behind own body : Text} {i : Nat} {p : Progress}

theorem matchNodes_pair_eq_ok_iff {q : Progress} :
    matchNodes i [.expression e, .literal behind] p = .ok q ↔
      behind <+: (matchExpression i e (some behind) p).cursor.remaining ∧
        q = { matchExpression i e (some behind) p with
          cursor := (matchExpression i e (some behind) p).cursor.advance behind.length } := by
  simp only [matchNodes, boundary?]
  constructor
  · intro h
    split at h
    · next cursor hm =>
      obtain ⟨hpre, rfl⟩ := Cursor.matchLiteral?_eq_some hm
      cases h
      exact ⟨hpre, rfl⟩
    · cases h
  · rintro ⟨hpre, rfl⟩
    rw [Cursor.matchLiteral?_of_isPrefix hpre]

theorem matchNodes_pair_of_remaining {m : Progress} (hm : matchExpression i e (some behind) p = m)
    (hrem : m.cursor.remaining = behind) :
    ∃ q, matchNodes i [.expression e, .literal behind] p = .ok q ∧ q.cursor.atEnd = true ∧
      q.bindings = m.bindings := by
  have hstands : behind <+: m.cursor.remaining := hrem.symm ▸ List.prefix_refl behind
  refine ⟨_, matchNodes_pair_eq_ok_iff.2 ⟨by rw [hm]; exact hstands, rfl⟩, ?_, by rw [hm]⟩
  have hlen := congrArg List.length hrem
  rw [Cursor.length_remaining] at hlen
  rw [hm]
  unfold Cursor.atEnd Cursor.advance
  rw [decide_eq_true_eq]
  change m.cursor.text.length ≤ m.cursor.pos + behind.length
  omega

theorem matchNodes_of_not_occurs (hne : behind ≠ []) (hown : own = e.operator.leader ++ body)
    (halone : (e.readAlone own).2.pos = own.length)
    (hnot : ¬ behind.OccursWithin (body ++ behind) 0 body.length)
    (hrem : p.cursor.remaining = own ++ behind) (hpos : p.cursor.pos ≤ p.cursor.text.length)
    (i : Nat) :
    ∃ q, matchNodes i [.expression e, .literal behind] p = .ok q ∧ q.cursor.atEnd = true ∧
      q.bindings = p.bindings.putAll (e.readAlone own).1 := by
  have hfind : find? behind (body ++ behind) = some body.length := by
    obtain ⟨n, hn, hfind⟩ := exists_find?_append behind body
    have hend : ¬ n < body.length := fun h => hnot ⟨n, Nat.zero_le n, h, find?_eq_some hfind⟩
    rw [hfind, Nat.le_antisymm hn (Nat.le_of_not_lt hend)]
  obtain ⟨hcaptured, htext, hplace⟩ := e.capture_of_find? hne hown hfind halone hrem hpos
  have hbehind : (read e (some behind) p).2.remaining = behind := by
    change ((read e (some behind) p).2.text).drop (read e (some behind) p).2.pos = behind
    rw [read, htext, hplace, ← List.drop_drop]
    change p.cursor.remaining.drop own.length = behind
    rw [hrem, List.drop_left]
  have hstands : ∀ literal ∈ some behind, opensLiteral e.operator literal = true →
      literal <+: (read e (some behind) p).2.remaining := by
    intro literal hl _
    cases hl
    exact hbehind.symm ▸ List.prefix_refl behind
  have hafter := matchExpression_of_stands i hstands
  obtain ⟨q, hq, hend, hbindings⟩ := matchNodes_pair_of_remaining hafter hbehind
  refine ⟨q, hq, hend, hbindings.trans ?_⟩
  change p.bindings.putAll (read e (some behind) p).1 = _
  rw [read, hcaptured]

theorem atEnd_of_occurs (hne : behind ≠ []) (hown : own = e.operator.leader ++ body)
    (hocc : behind.OccursWithin (body ++ behind) 0 body.length)
    (hrem : p.cursor.remaining = own ++ behind) (hpos : p.cursor.pos ≤ p.cursor.text.length)
    {q : Progress} (hq : matchNodes i [.expression e, .literal behind] p = .ok q) :
    q.cursor.atEnd = false := by
  obtain ⟨n, hn, hfind⟩ := exists_find?_append behind body
  obtain ⟨k, -, hk, hstands⟩ := hocc
  have hlt : n < body.length := by
    have hfirst : n ≤ k := Nat.le_of_not_lt fun h => not_isPrefix_of_lt_find? hfind k h hstands
    omega
  have hlead := hrem
  rw [hown, List.append_assoc] at hlead
  obtain ⟨-, htext, hplace⟩ := Expression.capture_of_isPrefix hlead hpos (.ofOperator e.operator)
    (some behind)
  rw [before_of_find? hne hfind] at hplace
  have hwindow : ((body ++ behind).take n).length ≤ n := List.length_take_le n _
  have hownlen : own.length = e.operator.leader.length + body.length := by
    rw [hown, List.length_append]
  -- Whether it is kept or given back, the expression ends before its own text does.
  have hshort : (matchExpression i e (some behind) p).cursor.text = p.cursor.text ∧
      (matchExpression i e (some behind) p).cursor.pos < p.cursor.pos + own.length := by
    rcases matchExpression_cases i e (some behind) p with heq | ⟨literal, -, -, heq⟩
    · rw [heq]
      refine ⟨htext, ?_⟩
      change (read e (some behind) p).2.pos < _
      rw [read, hplace]
      omega
    · rw [heq]
      refine ⟨htext, ?_⟩
      change p.cursor.pos < _
      omega
  obtain ⟨-, rfl⟩ := matchNodes_pair_eq_ok_iff.1 hq
  have hlen := congrArg List.length hrem
  rw [Cursor.length_remaining, List.length_append] at hlen
  unfold Cursor.atEnd Cursor.advance
  rw [decide_eq_false_iff_not, hshort.1]
  change ¬ p.cursor.text.length ≤ (matchExpression i e (some behind) p).cursor.pos + behind.length
  omega

theorem matchNodes_of_absent (hne : behind ≠ []) (hleader : e.operator.leader ≠ [])
    (hrem : p.cursor.remaining = behind) (hpos : p.cursor.pos ≤ p.cursor.text.length) (i : Nat) :
    ∃ q, matchNodes i [.expression e, .literal behind] p = .ok q ∧ q.cursor.atEnd = true ∧
      q.bindings = p.bindings := by
  by_cases hlead : e.operator.leader <+: behind
  · obtain ⟨rest, hrest⟩ := hlead
    obtain ⟨-, htext, hplace⟩ := Expression.capture_of_isPrefix (hrem.trans hrest.symm) hpos
      (.ofOperator e.operator) (some behind)
    -- Behind the leader there is less text than the literal has.
    have hshort : ¬ behind <+: (read e (some behind) p).2.remaining := by
      intro h
      have hlen := h.length_le
      have hlong := congrArg List.length hrem
      have hleadlen := List.length_pos_iff.2 hleader
      have hbehindlen := List.length_pos_iff.2 hne
      rw [Cursor.length_remaining, read, htext, hplace] at hlen
      rw [Cursor.length_remaining] at hlong
      omega
    have hafter := matchExpression_of_not_stands i
      (opensLiteral_eq_true_iff.2 ⟨hleader, rest, hrest⟩) hshort
    have hbehind : ((read e (some behind) p).2.text).drop p.cursor.pos = behind := by
      rw [read, htext]
      exact hrem
    obtain ⟨q, hq, hend, hbindings⟩ := matchNodes_pair_of_remaining hafter hbehind
    exact ⟨q, hq, hend, hbindings⟩
  · have hclosed : ∀ literal ∈ some behind, opensLiteral e.operator literal = false := by
      intro literal hl
      cases hl
      exact Bool.eq_false_iff.2 fun h => hlead (opensLiteral_eq_true_iff.1 h).2
    have hread : read e (some behind) p = ([], p.cursor.bound none) :=
      Expression.capture_of_not_isPrefix (hrem ▸ hlead) _ _
    have hafter := matchExpression_of_not_opens i (p := p) hclosed
    rw [hread] at hafter
    obtain ⟨q, hq, hend, hbindings⟩ := matchNodes_pair_of_remaining hafter hrem
    exact ⟨q, hq, hend, hbindings⟩

theorem matchNodes_front (front : Option Text) (nodes : List Node) (text : Text) :
    ∃ i p, matchNodes 0 ((front.map Node.literal).toList ++ nodes)
        ⟨.ofText (front.getD [] ++ text), [], []⟩ = matchNodes i nodes p ∧
      p.cursor.remaining = text ∧ p.cursor.pos ≤ p.cursor.text.length ∧ p.bindings = [] := by
  cases front with
  | none => exact ⟨0, ⟨.ofText text, [], []⟩, rfl, rfl, Nat.zero_le _, rfl⟩
  | some front =>
    have hpre : front <+: (Cursor.ofText (front ++ text)).remaining := List.prefix_append front text
    refine ⟨1, ⟨(Cursor.ofText (front ++ text)).advance front.length, [], []⟩, ?_, ?_, ?_, rfl⟩
    · change matchNodes 0 (.literal front :: nodes) ⟨.ofText (front ++ text), [], []⟩ = _
      rw [matchNodes, Cursor.matchLiteral?_of_isPrefix hpre]
    · rw [Cursor.remaining_advance]
      exact List.drop_left
    · change 0 + front.length ≤ (front ++ text).length
      rw [Nat.zero_add, List.length_append]
      exact Nat.le_add_right _ _

theorem match?_eq_none_of_matchNodes {t : Template} {uri : Text} (hfull : t.config.fullMatch = true)
    (h : ∀ q, matchNodes 0 t.nodes ⟨.ofText uri, [], []⟩ = .ok q → q.cursor.atEnd = false) :
    t.match? uri = none := by
  unfold match? trace
  cases hrun : matchNodes 0 t.nodes ⟨.ofText uri, [], []⟩ with
  | error events => rfl
  | ok q => simp only [hfull, h q hrun, Bool.not_false, Bool.and_self, if_true]

section

variable {t : Template} {front : Option Text}
  (hn : t.nodes = (front.map Node.literal).toList ++ [.expression e, .literal behind])

include hn

theorem mem_nodes_iff (d : Expression) : .expression d ∈ t.nodes ↔ d = e := by
  rw [hn]
  cases front with
  | none => simp
  | some front => simp

theorem write_nodes (value : Text → Option Value) :
    write value t.nodes = front.getD [] ++ e.write value ++ behind := by
  rw [hn]
  cases front with
  | none => simp [write]
  | some front => simp [write]

theorem match?_of_not_occurs (hne : behind ≠ []) (hown : own = e.operator.leader ++ body)
    (halone : (e.readAlone own).2.pos = own.length)
    (hnot : ¬ behind.OccursWithin (body ++ behind) 0 body.length) :
    ∃ m, t.match? (front.getD [] ++ own ++ behind) = some m ∧
      m.bindings = Assoc.ofList (e.readAlone own).1 := by
  obtain ⟨i, p, hrun, hrem, hpos, hbind⟩ :=
    matchNodes_front front [.expression e, .literal behind] (own ++ behind)
  obtain ⟨q, hq, hend, hbindings⟩ := matchNodes_of_not_occurs hne hown halone hnot hrem hpos i
  rw [← hn, ← List.append_assoc] at hrun
  rw [hbind] at hbindings
  exact ⟨_, match?_of_matchNodes (hrun.trans hq) hend, hbindings⟩

theorem match?_of_occurs (hfull : t.config.fullMatch = true) (hne : behind ≠ [])
    (hown : own = e.operator.leader ++ body)
    (hocc : behind.OccursWithin (body ++ behind) 0 body.length) :
    t.match? (front.getD [] ++ own ++ behind) = none := by
  obtain ⟨i, p, hrun, hrem, hpos, -⟩ :=
    matchNodes_front front [.expression e, .literal behind] (own ++ behind)
  rw [← hn, ← List.append_assoc] at hrun
  exact match?_eq_none_of_matchNodes hfull fun q hq =>
    atEnd_of_occurs hne hown hocc hrem hpos (hrun.symm.trans hq)

theorem match?_of_absent (hne : behind ≠ []) (hleader : e.operator.leader ≠ []) :
    ∃ m, t.match? (front.getD [] ++ behind) = some m ∧ m.bindings = [] := by
  obtain ⟨i, p, hrun, hrem, hpos, hbind⟩ :=
    matchNodes_front front [.expression e, .literal behind] behind
  obtain ⟨q, hq, hend, hbindings⟩ := matchNodes_of_absent hne hleader hrem hpos i
  rw [← hn] at hrun
  exact ⟨_, match?_of_matchNodes (hrun.trans hq) hend, hbindings.trans hbind⟩

end

/-- One value in front of a literal is recovered exactly if the literal does not begin within the
    value's own text; otherwise the match is refused. Without a value, nothing is recovered. -/
theorem match?_expand_before_literal {source : Text} {config : Config} {t : Template}
    (ht : Template.ofText source config = .ok t) {front : Option Text} {e : Expression}
    {x behind : Text}
    (hn : t.nodes = (front.map Node.literal).toList ++ [.expression e, .literal behind])
    (hspecs : e.specs = [⟨x, .none⟩]) (hne : behind ≠ []) :
    (∀ s : Text, t.config.fullMatch = true →
      (e.operator.allowsReserved = true → ',' ∉ s ∧ s.Unescaped) →
      ∃ own uri, e.expand .bare [(x, .text s)] = .ok own ∧
        t.expand [(.text x, .text s)] (some false) {} = .ok uri ∧
        uri = front.getD [] ++ own ++ behind ∧
        (t.match? uri = none ∨ ∃ m, t.match? uri = some m ∧ m.bindings = [(x, .scalar s)]) ∧
        ((∃ m, t.match? uri = some m ∧ m.bindings = [(x, .scalar s)]) ↔
          ¬ behind.OccursWithin uri ((front.getD []).length + e.operator.leader.length)
            ((front.getD []).length + own.length))) ∧
      (e.operator.leader ≠ [] → ∀ normalize, ∃ uri m,
        t.expand [] normalize {} = .ok uri ∧ t.match? uri = some m ∧ m.bindings = []) := by
  constructor
  · intro s hfull hraw
    let value : Text → Option Value := fun name => if name = x then some (.scalar s) else none
    have hx : value x = some (.scalar s) := if_pos rfl
    have hgives : Gives [(x, .text s)] e.specs value := gives_text hspecs hx
    have hexpand : t.expand [(.text x, .text s)] (some false) {} =
        .ok (front.getD [] ++ e.write value ++ behind) := by
      rw [← write_nodes hn]
      exact bind_eq_ok.2 ⟨_, rfl, expandNodes_eq_write fun d hd =>
        (mem_nodes_iff hn d).1 hd ▸ hgives⟩
    obtain ⟨-, -, hvalid⟩ := Template.wellFormed ht (.expression e) ((mem_nodes_iff hn e).2 rfl)
    obtain ⟨hcaptured, halone⟩ := Expression.readAlone_of_scalar hspecs hx
      (hvalid x (by simp [Expression.names, VarSpec.names, hspecs])) hraw
    obtain ⟨body, hbody⟩ := Expression.exists_write_of_scalar hspecs hx
    refine ⟨_, _, Expression.expand_eq_write hgives, hexpand, rfl, ?_⟩
    have hplace : behind.OccursWithin (front.getD [] ++ e.write value ++ behind)
        ((front.getD []).length + e.operator.leader.length)
        ((front.getD []).length + (e.write value).length) ↔
        behind.OccursWithin (body ++ behind) 0 body.length := by
      rw [hbody]
      exact Text.occursWithin_body_iff
    rw [hplace]
    by_cases hocc : behind.OccursWithin (body ++ behind) 0 body.length
    · have hnone := match?_of_occurs hn hfull hne hbody hocc
      refine ⟨.inl hnone, ?_, fun h => absurd hocc h⟩
      rintro ⟨m, hm, -⟩
      rw [hnone] at hm
      cases hm
    · obtain ⟨m, hm, hbindings⟩ := match?_of_not_occurs hn hne hbody halone hocc
      rw [hcaptured] at hbindings
      exact ⟨.inr ⟨m, hm, hbindings⟩, fun _ => hocc, fun _ => ⟨m, hm, hbindings⟩⟩
  · intro hleader normalize
    obtain ⟨m, hm, hbindings⟩ := match?_of_absent hn hne hleader
    have habsent : write (fun _ => none) t.nodes = front.getD [] ++ behind := by
      rw [write_nodes hn, Expression.write_eq_nil fun v _ => rfl, List.append_nil]
    exact ⟨_, m, (t.expand_nil normalize {}).trans (congrArg Except.ok habsent), hm, hbindings⟩

theorem match?_expand_before_literal_extension :
    let e : Expression := ⟨.label, [⟨['x'], .none⟩]⟩
    let t : Template := ⟨"v{.x}.json".toList,
      [.literal ['v'], .expression e, .literal ".json".toList], {}⟩
    Template.ofText t.source {} = .ok t ∧
      t.nodes = ((some ['v']).map Node.literal).toList ++
        [.expression e, .literal ".json".toList] ∧
      e.specs = [⟨['x'], .none⟩] ∧ ".json".toList ≠ [] ∧ t.config.fullMatch = true ∧
      (∃ uri m, t.expand [(.text ['x'], .text ".jsö".toList)] (some false) {} = .ok uri ∧
        t.match? uri = some m ∧ m.bindings = [(['x'], .scalar ".jsö".toList)]) ∧
      (∃ uri, t.expand [(.text ['x'], .text "a.json".toList)] (some false) {} = .ok uri ∧
        t.match? uri = none) ∧
      ∃ uri m, t.expand [] none {} = .ok uri ∧ t.match? uri = some m ∧ m.bindings = [] := by
  intro e t
  have ht : Template.ofText t.source {} = .ok t := by with_unfolding_all rfl
  have hne : ".json".toList ≠ [] := by decide
  obtain ⟨hvalue, habsent⟩ := match?_expand_before_literal ht
    (show t.nodes = ((some ['v']).map Node.literal).toList ++ _ from rfl) rfl hne
  refine ⟨ht, rfl, rfl, hne, rfl, ?_, ?_, habsent (by decide) none⟩
  · obtain ⟨own, uri, hown, huri, rfl, -, hiff⟩ :=
      hvalue ".jsö".toList rfl fun h => nomatch h
    have hself : own = "..js%C3%B6".toList := Except.ok.inj (hown.symm.trans (by rfl))
    subst hself
    obtain ⟨m, hm, hbindings⟩ := hiff.2 (by decide)
    exact ⟨_, m, huri, hm, hbindings⟩
  · obtain ⟨own, uri, hown, huri, rfl, hcases, hiff⟩ :=
      hvalue "a.json".toList rfl fun h => nomatch h
    have hself : own = ".a.json".toList := Except.ok.inj (hown.symm.trans (by rfl))
    subst hself
    exact ⟨_, huri, hcases.resolve_right fun h => hiff.1 h (by decide)⟩

end Template

end UriTemplate
