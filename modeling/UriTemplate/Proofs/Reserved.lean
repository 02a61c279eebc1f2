import UriTemplate.Proofs.Escaping
import UriTemplate.Proofs.Positional

set_option autoImplicit false

namespace UriTemplate

open Character Text

def Text.Unescaped (t : Text) : Prop :=
  ∀ a b, isHexDigit a = true → isHexDigit b = true → ¬ ['%', a, b] <:+: t

namespace Percent

theorem encodeKeeping_units {safe : Char → Bool} (t : Text) : Units safe (encodeKeeping safe t) := by
  induction t using Text.escapeRec with
  | nil => exact .nil
  | escape a b rest ha hb ih =>
    rw [encodeKeeping_escape safe ha hb]
    exact .escape ha hb ih
  | char c rest h ih =>
    rw [encodeKeeping_cons safe h]
    exact (encodeChar_units safe c).append ih

theorem encodeKeeping_append_cons {safe : Char → Bool} {j : Char} (hj : safe j = true)
    (hx : isHexDigit j = false) (hp : j ≠ '%') (t u : Text) :
    encodeKeeping safe (t ++ j :: u) = encodeKeeping safe t ++ j :: encodeKeeping safe u := by
  rw [encodeKeeping_append fun _ _ _ _ => not_severed_of_not_digit hx, encodeKeeping_safe hj hp]

theorem mem_of_mem_encodeKeeping {safe : Char → Bool} {c : Char} (hp : c ≠ '%')
    (hx : isHexDigit c = false) {t : Text} (h : c ∈ encodeKeeping safe t) : c ∈ t := by
  induction t using Text.escapeRec with
  | nil => exact h
  | escape a b rest ha hb ih =>
    rw [encodeKeeping_escape safe ha hb] at h
    simp only [List.mem_cons] at h ⊢
    exact h.imp_right (Or.imp_right (Or.imp_right ih))
  | char d rest hd ih =>
    rw [encodeKeeping_cons safe hd] at h
    rcases List.mem_append.1 h with h | h
    · exact mem_encodeChar hp hx h ▸ List.mem_cons_self
    · exact List.mem_cons_of_mem d (ih h)

theorem splitOn_encodeKeeping {safe : Char → Bool} {j : Char} (hj : safe j = true)
    (hx : isHexDigit j = false) (hp : j ≠ '%') (t : Text) :
    (encodeKeeping safe t).splitOn j = (t.splitOn j).map (encodeKeeping safe) := by
  induction hlen : t.length using Nat.strongRecOn generalizing t with
  | ind n ih =>
    subst hlen
    by_cases hmem : j ∈ t
    · obtain ⟨first, rest, rfl, hfirst⟩ := List.eq_append_cons_of_mem hmem
      have hshort : rest.length < (first ++ j :: rest).length := by
        simp only [List.length_append, List.length_cons]
        omega
      have hnot : j ∉ encodeKeeping safe first := fun h => hfirst (mem_of_mem_encodeKeeping hp hx h)
      rw [encodeKeeping_append_cons hj hx hp, List.splitOn_append_cons_self_of_not_mem hnot,
        List.splitOn_append_cons_self_of_not_mem hfirst, List.map_cons, ih _ hshort rest rfl]
    · have hnot : j ∉ encodeKeeping safe t := fun h => hmem (mem_of_mem_encodeKeeping hp hx h)
      rw [List.splitOn_eq_singleton hnot, List.splitOn_eq_singleton hmem]
      rfl

theorem decode_of_unescaped {t : Text} (h : t.Unescaped) : decode t = t := by
  induction t using Text.escapeRec with
  | nil => rfl
  | escape a b rest ha hb _ => exact absurd ⟨[], rest, rfl⟩ (h a b ha hb)
  | char c rest hc ih =>
    have hrest : rest.Unescaped := fun a b ha hb hin => h a b ha hb (List.infix_cons hin)
    rw [decode, decodeFrom_cons .idle hc]
    exact congrArg (c :: ·) (ih hrest)

end Percent

variable {op : Operator}

theorem Value.ofRaw_encode (hop : op.allowsReserved = true) (t : Text) :
    Value.ofRaw (op.encode t) = Value.ofRaw t := by
  have hpiece : ∀ piece, Percent.decode (op.encode piece) = Percent.decode piece := by
    intro piece
    rw [Operator.encode_of_allowsReserved hop]
    exact Percent.decodeFrom_encodeKeeping (by decide) (s := .idle) trivial piece
  have hsplit : (op.encode t).splitOn ',' = (t.splitOn ',').map op.encode := by
    rw [Operator.encode_of_allowsReserved hop]
    exact Percent.splitOn_encodeKeeping (by decide) (by decide) (by decide) t
  rw [ofRaw, hsplit, List.map_map, ofRaw]
  exact congrArg ofTexts (List.map_congr_left fun piece _ => hpiece piece)

theorem Value.ofRaw_of_unescaped {t : Text} (hcomma : ',' ∉ t) (hescape : t.Unescaped) :
    Value.ofRaw t = .scalar t := by
  rw [ofRaw_eq, if_neg hcomma, Percent.decode_of_unescaped hescape]

namespace Expression

variable {e : Expression} {v : VarSpec} {value : Text → Option Value} {t : Text}

theorem readAlone_of_allowsReserved (hop : e.operator.allowsReserved = true)
    (hspecs : e.specs = [v]) (hv : v.modifier = .none) (hx : value v.name = some (.scalar t)) :
    (e.readAlone (e.write value)).1 = [(v.name, .ofRaw (e.operator.encode t))] ∧
      (e.readAlone (e.write value)).2.pos = (e.write value).length := by
  have hn : e.operator.naming = .bare := by
    revert hop
    cases e.operator <;> decide
  have hcut : v.cut t = t := VarSpec.cut_of_limit? (VarSpec.limit?_of_none hv) t
  have hwrite : e.write value = e.operator.leader ++ e.operator.encode t := by
    rw [write_of_scalar hspecs hx, Operator.opening, hn, List.append_nil, hcut]
  have hunits : Units (e.operator.positionalChar false true) (e.operator.encode t) := by
    rw [Operator.encode_of_allowsReserved hop]
    refine (Percent.encodeKeeping_units t).mono fun c _ hc => ?_
    simpa [Operator.positionalChar, hop] using hc
  have hrun := run_of_units (positionalChar_percent e.operator false true) hunits
    (show unit? _ [] = none from rfl)
  rw [List.append_nil] at hrun
  have hread : e.readValues (.ofOperator e.operator) (e.operator.encode t) =
      ([(v.name, .ofRaw (e.operator.encode t))], []) := by
    rw [readValues_of_not_isNamed (Operator.isNamed_eq_false_iff.2 hn), hspecs]
    simp [readPositionals, VarSpec.readPositional, VarSpec.explodes_of_none hv,
      VarSpec.limit?_of_none hv, hrun]
  exact readAlone_of_readValues hwrite hread

end Expression

namespace Template

/-- One reserved value is recovered as what it decodes to, with full matching or without. Its commas
    make it a list, and nothing else does. -/
theorem match?_expand_of_allowsReserved {t : Template} {e : Expression}
    (he : t.nodes = [.expression e]) (hop : e.operator.allowsReserved = true) {x : Text}
    (hspecs : e.specs = [⟨x, .none⟩]) (s : Text) :
    ∃ uri m, t.expand [(.text x, .text s)] (some false) {} = .ok uri ∧ t.match? uri = some m ∧
      m.bindings = [(x, if ',' ∈ s then .list ((s.splitOn ',').map Percent.decode)
        else .scalar (Percent.decode s))] := by
  let value : Text → Option Value := fun name => if name = x then some (.scalar s) else none
  have hx : value x = some (.scalar s) := if_pos rfl
  have hgives : Gives [(x, .text s)] e.specs value := gives_text hspecs hx
  obtain ⟨hread, hpos⟩ := Expression.readAlone_of_allowsReserved hop hspecs rfl hx
  refine ⟨e.write value, _, expand_of_nodes_eq he rfl hgives, match?_of_pos_eq he hpos, ?_⟩
  rw [hread, Value.ofRaw_encode hop, Value.ofRaw_eq]
  rfl

theorem match?_expand_of_allowsReserved_fragment :
    let t : Template := ⟨"{#x}".toList, [.expression ⟨.fragment, [⟨['x'], .none⟩]⟩], {}⟩
    Template.ofText t.source {} = .ok t ∧ t.config.fullMatch = true ∧
      ∃ uri m, t.expand [(.text ['x'], .text "%,a%2Cb/%c3é".toList)] (some false) {} = .ok uri ∧
        t.match? uri = some m ∧
        m.bindings = [(['x'], .list [['%'], "a,b/\uFFFDé".toList])] := by
  intro t
  have ht : Template.ofText t.source {} = .ok t := by with_unfolding_all rfl
  obtain ⟨uri, m, huri, hm, hbindings⟩ :=
    match?_expand_of_allowsReserved (t := t) rfl rfl rfl "%,a%2Cb/%c3é".toList
  exact ⟨ht, rfl, uri, m, huri, hm, hbindings.trans (by decide)⟩

end Template

end UriTemplate
