import UriTemplate.Proofs.NamedRoundTrip
import UriTemplate.Proofs.Positional
import UriTemplate.Proofs.PositionalLanguage
import UriTemplate.Proofs.Reexpansion

set_option autoImplicit false

/-!
The text that is matched need not be an expansion: escapes may be in lower case, bytes may be no
characters, names may come without an equals sign and keys twice. What is recovered from it is
written in one way only, and matching that text recovers the same values.
-/

namespace UriTemplate

open Character Text

variable {op : Operator} {v : VarSpec}

theorem mem_of_mem_pair (hop : op ∈ [Operator.plain, .path]) :
    op ∈ [Operator.plain, .path, .label] := by
  revert hop
  cases op <;> decide

theorem joiner_of_mem_pair (hop : op ∈ [Operator.plain, .path]) :
    isUnreserved op.joiner = false ∧ op.joiner ≠ '%' := by
  revert hop
  cases op <;> decide

theorem exists_canonical_of_readPositional (hop : op ∈ [Operator.plain, .path])
    (hmod : v.modifier = .none) (final : Bool) (t : Text) :
    ∃ raw, Percent.Canonical (· = ',') raw ∧ (final = true ∨ op.joiner ∉ raw) ∧
      (v.readPositional op final t).1 = .ofRaw raw := by
  obtain ⟨taken, rest, hread, hunits, -⟩ := exists_raw_of_readPositional hmod op final t
  have hcanonical : Percent.Canonical (· = ',')
      (commas (((taken.splitOn ',').map Percent.decode).map (Percent.encode isUnreserved))) := by
    refine commas_canonical fun piece hpiece => ?_
    obtain ⟨s, -, rfl⟩ := List.mem_map.1 hpiece
    exact .encode s
  refine ⟨_, hcanonical, ?_, ?_⟩
  · cases final with
    | true => exact .inl rfl
    | false =>
      right
      obtain ⟨hj, hp⟩ := joiner_of_mem_pair hop
      by_cases hcomma : op.joiner = ','
      · -- Where commas join the values, the text has one piece.
        have hone := joiner_not_mem_of_units hunits
        rw [hcomma] at hj hone ⊢
        rw [List.splitOn_eq_singleton hone]
        simpa [commas] using Percent.not_mem_encode hj (by decide) (Percent.decode taken)
      · exact hcanonical.not_mem hj (decide_eq_false hcomma) hp
  · rw [hread, Value.ofRaw_commas (by simp [List.splitOn_ne_nil])]
    rfl

theorem isPrefixOf?_readPositional_of_explodes (he : v.explodes = true) (final : Bool) (t : Text) :
    [op.joiner].isPrefixOf? (v.readPositional op final t).2 = none := by
  have hread : (v.readPositional op final t).2 = (run (op.positionalChar true final) none t).2 := by
    unfold VarSpec.readPositional
    rw [if_pos he]
  have hstop : unit? (op.positionalChar true final) (v.readPositional op final t).2 = none := by
    rw [hread]
    exact steps_of_length_le (unit?_advances _) (Nat.le_refl t.length)
  rw [Option.eq_none_iff_forall_ne_some]
  intro rest hrest
  rw [← List.append_eq_of_isPrefixOf?_eq_some hrest] at hstop
  simp [unit?, positionalChar_of_explodes_joiner] at hstop

theorem readPositional_again (hop : op ∈ [Operator.plain, .path])
    (hmod : v.modifier = .none ∨ v.modifier = .explode) (final : Bool) (t : Text) {x : Value}
    (hx : (v.readPositional op final t).1 = x) :
    v.unitsOf op (some x) ≠ [] ∧
      v.readPositional op final ([op.joiner].intercalate (v.unitsOf op (some x))) = (x, []) := by
  obtain ⟨hn, hres, -⟩ := bare_of_mem (mem_of_mem_pair hop)
  rcases hmod with hmod | hmod
  · obtain ⟨raw, hcanonical, hjoiner, hraw⟩ := exists_canonical_of_readPositional hop hmod final t
    rw [← hx, hraw, VarSpec.unitsOf_ofRaw hn hres hmod hcanonical, List.intercalate_singleton]
    have hread := readPositional_canonical hres hmod hcanonical hjoiner
      (show unit? (op.positionalChar false final) [] = none from rfl)
    rw [List.append_nil] at hread
    exact ⟨List.cons_ne_nil raw [], hread⟩
  · have he : v.explodes = true := decide_eq_true hmod
    obtain ⟨hj, hp⟩ := joiner_of_mem_pair hop
    have hapart : ∀ s ∈ x.texts, op.joiner ∉ op.encode s := by
      intro s _
      rw [Operator.encode_eq hres]
      exact Percent.not_mem_encode hj hp s
    have hyields : v.Yields x := hx ▸ v.yields_readPositional op final t
    exact hyields.readPositional_unitsOf (mem_of_mem_pair hop) he hapart final

theorem restored_of_readPositionals (hop : op ∈ [Operator.plain, .path]) {specs : List VarSpec}
    (hne : specs ≠ []) (hmod : ∀ v ∈ specs, v.modifier = .none ∨ v.modifier = .explode)
    (hnames : (VarSpec.names specs).Nodup) (t : Text) {value : Text → Option Value}
    (hvalue : ∀ v ∈ specs, value v.name = Assoc.find? (readPositionals op specs t).1 v.name) :
    Restored op value specs := by
  obtain ⟨hn, hres, -⟩ := bare_of_mem (mem_of_mem_pair hop)
  induction specs generalizing t with
  | nil => exact absurd rfl hne
  | cons v later ih =>
    obtain ⟨hv, hlater⟩ := List.nodup_cons.1 hnames
    have hown := hvalue v List.mem_cons_self
    have hothers := fun w hw => hvalue w (List.mem_cons_of_mem v hw)
    cases later with
    | nil =>
      obtain ⟨hunits, hread⟩ := readPositional_again hop (hmod v List.mem_cons_self) true t rfl
      simp only [readPositionals, Assoc.find?, if_true] at hown
      exact .last hown (fun w hw => absurd hw List.not_mem_nil) hunits hread
    | cons w later =>
      cases hnext : [op.joiner].isPrefixOf? (v.readPositional op false t).2 with
      | none =>
        obtain ⟨hunits, hread⟩ := readPositional_again hop (hmod v List.mem_cons_self) false t rfl
        simp only [readPositionals, hnext, Assoc.find?, if_true] at hown
        refine .last hown (fun u hu => ?_) hunits hread
        have hu' := hothers u hu
        simp only [readPositionals, hnext] at hu'
        rw [hu', VarSpec.find?_cons_of_mem hv hu]
        rfl
      | some rest =>
        have hplain : v.modifier = .none := by
          refine (hmod v List.mem_cons_self).resolve_right fun he => ?_
          rw [isPrefixOf?_readPositional_of_explodes (decide_eq_true he)] at hnext
          cases hnext
        obtain ⟨raw, hcanonical, hjoiner, hraw⟩ :=
          exists_canonical_of_readPositional hop hplain false t
        have hapart : op.joiner ∉ raw := hjoiner.resolve_left Bool.false_ne_true
        simp only [readPositionals, hnext, Captures.push, Assoc.find?, if_true, hraw] at hown
        refine .next hown (VarSpec.unitsOf_ofRaw hn hres hplain hcanonical)
          (readPositional_joiner hres hplain hcanonical hapart) ?_
        refine ih (List.cons_ne_nil w later) (fun u hu => hmod u (List.mem_cons_of_mem v hu)) hlater
          rest fun u hu => ?_
        have hu' := hothers u hu
        simp only [readPositionals, hnext, Captures.push] at hu'
        rw [hu', VarSpec.find?_cons_of_mem hv hu]

namespace Expression

variable {e : Expression}

theorem toldApart_of_readAlone (hmod : ∀ v ∈ e.specs, v.modifier = .none) (hnames : e.names.Nodup)
    (t : Text) : e.ToldApart (Assoc.find? (e.readAlone t).1) := by
  have hyields : ∀ v ∈ e.specs, ∀ x, Assoc.find? (e.readAlone t).1 v.name = some x → v.Yields x :=
    fun v hv x => (e.captured_readAlone t).yields hnames hv
  have hmapping : ∀ v ∈ e.specs, ∀ entries,
      Assoc.find? (e.readAlone t).1 v.name ≠ some (.mapping entries) := by
    intro v hv entries hx
    have he := (hyields v hv _ hx).exploded entries rfl
    rw [VarSpec.explodes_of_none (hmod v hv)] at he
    cases he
  exact {
    toParted := parted_of_none hmod _
    several := fun v hv members hx => (hyields v hv _ hx).several members rfl
    exploded := fun v hv entries hx => absurd hx (hmapping v hv entries)
    shown := fun _ v hv entries hx => absurd hx (hmapping v hv entries) }

theorem readAlone_write_readAlone
    (hop : e.operator ∈ [.plain, .path, .pathParams, .form, .formContinuation])
    (hmod : ∀ v ∈ e.specs, v.modifier = .none ∨
      v.modifier = .explode ∧ e.operator ∈ [.plain, .path])
    (hne : e.specs ≠ []) (hnames : e.names.Nodup) (hvalid : ∀ name ∈ e.names, Name.Valid name)
    (t : Text) :
    (e.readAlone (e.write (Assoc.find? (e.readAlone t).1))).1 = (e.readAlone t).1 ∧
      (e.readAlone (e.write (Assoc.find? (e.readAlone t).1))).2.pos =
        (e.write (Assoc.find? (e.readAlone t).1)).length := by
  have hcaptured := e.captured_readAlone t
  by_cases hpositional : e.operator ∈ [.plain, .path]
  · obtain ⟨hn, -, hleader⟩ := bare_of_mem (mem_of_mem_pair hpositional)
    have hvalues := readValues_of_not_isNamed (e := e) (Operator.isNamed_eq_false_iff.2 hn)
    by_cases hlead : e.operator.leader <+: t
    · obtain ⟨body, hbody⟩ := hlead
      obtain ⟨hread, -⟩ := readAlone_eq hbody.symm
      rw [hvalues] at hread
      have hrestored := restored_of_readPositionals hpositional hne
        (fun v hv => (hmod v hv).imp_right And.left) hnames body fun v _ =>
          congrArg (Assoc.find? · v.name) hread
      obtain ⟨hunits, hagain⟩ := hrestored.readPositionals
      rw [hcaptured.filterMap_find? hnames, ← hvalues] at hagain
      refine readAlone_of_readValues ?_ hagain
      unfold write assemble
      rw [if_neg (by simpa using hunits)]
    · obtain ⟨hnil, -⟩ := readAlone_of_not_isPrefix hlead
      obtain ⟨hagain, hpos⟩ := readAlone_nil (e := e) fun h => hlead (h ▸ List.nil_prefix)
      rw [hnil, write_eq_nil fun v _ => rfl]
      exact ⟨hagain, hpos⟩
  · have hnamed : e.operator.isNamed = true := by
      revert hop hpositional
      cases e.operator <;> decide
    have hplain : ∀ v ∈ e.specs, v.modifier = .none := fun v hv =>
      (hmod v hv).resolve_right fun h => hpositional h.2
    have hdefined : ∀ v ∈ e.specs, ∀ x, Assoc.find? (e.readAlone t).1 v.name = some x →
        x.isDefined = true ∧ x.Distinct := fun v hv x hx =>
      have hyields := hcaptured.yields hnames hv hx
      ⟨hyields.defined, hyields.distinct⟩
    have hread := (toldApart_of_readAlone hplain hnames t).readAlone hnamed hnames hvalid hdefined
    rwa [hcaptured.filterMap_find? hnames] at hread

end Expression

namespace Template

/-- Matching the expansion of what a match recovered recovers the same. -/
theorem match?_expand_match? {source : Text} {config : Config} {t : Template}
    (ht : Template.ofText source config = .ok t) {e : Expression} (he : t.nodes = [.expression e])
    (hop : e.operator ∈ [.plain, .path, .pathParams, .form, .formContinuation])
    (hmod : ∀ v ∈ e.specs, v.modifier = .none ∨
      v.modifier = .explode ∧ e.operator ∈ [.plain, .path])
    {uri : Text} {m : Match} (hm : t.match? uri = some m) :
    ∃ own again, t.expand m.data.keyed (some false) {} = .ok own ∧ t.match? own = some again ∧
      again.bindings = m.bindings := by
  obtain ⟨hne, hnames, hvalid⟩ := specs_wellFormed ht he
  have hcaptured := e.captured_readAlone uri
  have hkeys : (Assoc.keys (e.readAlone uri).1).Nodup := hcaptured.keys_sublist.nodup hnames
  have hbindings : m.bindings = (e.readAlone uri).1 := by
    rw [match?_of_nodes_eq he] at hm
    split at hm
    · cases hm
    · cases hm
      exact Assoc.ofList_of_nodup hkeys
  have hnamed : Datum.nameKeys m.data.keyed = .ok (Datum.ofValues (e.readAlone uri).1) := by
    change Datum.nameKeys (Datum.keyed (Datum.ofValues m.bindings)) = _
    rw [hbindings]
    refine Datum.nameKeys_keyed ?_
    unfold Datum.ofValues
    rwa [Assoc.keys_map]
  have hvalue : Gives (Datum.ofValues (e.readAlone uri).1) e.specs
      (Assoc.find? (e.readAlone uri).1) := by
    have hgives := givesAll_ofValues (e.readAlone uri).1 t.nodes e (by rw [he]; simp)
    intro v hv
    rw [hgives v hv]
    refine congrArg _ (valueOf_ofValues fun x hx => ?_)
    have hyields := hcaptured.yields hnames hv hx
    exact ⟨hyields.defined, hyields.distinct⟩
  obtain ⟨hread, hpos⟩ := e.readAlone_write_readAlone hop hmod hne hnames hvalid uri
  refine ⟨_, _, expand_of_nodes_eq he hnamed hvalue, match?_of_pos_eq he hpos, ?_⟩
  change Assoc.ofList (e.readAlone _).1 = _
  rw [hread, hbindings]
  exact Assoc.ofList_of_nodup hkeys

theorem match?_expand_match?_path :
    let e : Expression := ⟨.path, [⟨['l'], .none⟩, ⟨['m'], .explode⟩, ⟨['z'], .none⟩]⟩
    let t : Template := ⟨"{/l,m*,z}".toList, [.expression e], { fullMatch := false }⟩
    let m : Match := ⟨"/x,%ff/k=1/k=%c3%a9=/y!".toList, [['l'], ['m'], ['z']],
      [(['l'], .list [['x'], ['\uFFFD']]), (['m'], .mapping [(['k'], "é=".toList), (['y'], [])])]⟩
    Template.ofText t.source { fullMatch := false } = .ok t ∧
      e.operator ∈ [.plain, .path, .pathParams, .form, .formContinuation] ∧
      (∀ v ∈ e.specs, v.modifier = .none ∨
        v.modifier = .explode ∧ e.operator ∈ [.plain, .path]) ∧
      t.match? "/x,%ff/k=1/k=%c3%a9=/y!".toList = some m ∧
      ∃ own again, t.expand m.data.keyed (some false) {} = .ok own ∧ t.match? own = some again ∧
        again.bindings = m.bindings := by
  intro e t m
  have ht : Template.ofText t.source { fullMatch := false } = .ok t := by with_unfolding_all rfl
  have hop : e.operator ∈ [.plain, .path, .pathParams, .form, .formContinuation] := by decide
  have hmod : ∀ v ∈ e.specs, v.modifier = .none ∨
      v.modifier = .explode ∧ e.operator ∈ [.plain, .path] := by decide
  have hm : t.match? "/x,%ff/k=1/k=%c3%a9=/y!".toList = some m := by decide +kernel
  exact ⟨ht, hop, hmod, hm, match?_expand_match? ht rfl hop hmod hm⟩

end Template

end UriTemplate
