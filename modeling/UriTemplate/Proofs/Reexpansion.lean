import Mathlib.Data.List.Basic
import UriTemplate.Match
import UriTemplate.Proofs.Remaking

set_option autoImplicit false

namespace UriTemplate.Template

open Text

variable {value : Text → Option Value} {nodes : List Node}

theorem names_of_mem_keys_captured
    (hkeys : ∀ e, .expression e ∈ nodes →
      ∀ name ∈ Assoc.keys (e.readAlone (e.write value)).1, name ∈ e.names) :
    ∀ name ∈ Assoc.keys (captured value nodes), name ∈ nodes.flatMap Node.names := by
  intro name hname
  obtain ⟨c, hc, rfl⟩ := List.mem_map.1 hname
  obtain ⟨n, hn, hc⟩ := List.mem_flatMap.1 hc
  cases n with
  | literal text => cases hc
  | expression e =>
    exact List.mem_flatMap.2 ⟨_, hn, hkeys e hn _ (List.mem_map_of_mem hc)⟩

theorem find?_captured_of_mem
    (hkeys : ∀ e, .expression e ∈ nodes →
      ∀ name ∈ Assoc.keys (e.readAlone (e.write value)).1, name ∈ e.names)
    (honce : nodes.Pairwise fun m n => ∀ name ∈ m.names, name ∉ n.names) {e : Expression}
    (he : .expression e ∈ nodes) {name : Text} (hname : name ∈ e.names) :
    (Assoc.ofList (captured value nodes)).find? name =
      (Assoc.ofList (e.readAlone (e.write value)).1).find? name := by
  induction nodes with
  | nil => cases he
  | cons n rest ih =>
    obtain ⟨hn, hrest⟩ := List.pairwise_cons.1 honce
    have hlater := fun d hd => hkeys d (List.mem_cons_of_mem n hd)
    have habsent : ∀ nodes : List Node, (∀ d, .expression d ∈ nodes →
        ∀ name ∈ Assoc.keys (d.readAlone (d.write value)).1, name ∈ d.names) →
        name ∉ nodes.flatMap Node.names →
        (Assoc.ofList (captured value nodes)).find? name = none := by
      intro nodes hkeys hnot
      refine Assoc.find?_eq_none_iff.2 fun hm => hnot ?_
      exact names_of_mem_keys_captured hkeys name (Assoc.mem_keys_ofList.1 hm)
    rw [find?_captured_cons]
    rcases List.mem_cons.1 he with rfl | he
    · rw [habsent rest hlater, captured_singleton]
      · rfl
      · intro hm
        obtain ⟨m, hm, hname'⟩ := List.mem_flatMap.1 hm
        exact hn m hm name hname hname'
    · have hfirst : (Assoc.ofList (captured value [n])).find? name = none := by
        refine habsent [n] (fun d hd => hkeys d (List.mem_cons.2 (.inl (List.mem_singleton.1 hd))))
          fun hm => ?_
        obtain ⟨m, hm, hname'⟩ := List.mem_flatMap.1 hm
        cases List.mem_singleton.1 hm
        exact hn _ he name hname' hname
      rw [hfirst, ih hlater hrest he, Option.or_none]

theorem defined_ofRaw (raw : Text) :
    (Value.ofRaw raw).isDefined = true ∧ (Value.ofRaw raw).Distinct := by
  have hyields := VarSpec.yields_ofRaw ⟨[], .none⟩ raw
  exact ⟨hyields.defined, hyields.distinct⟩

theorem valueOf_ofValues {b : Assoc Text Value} {name : Text}
    (hb : ∀ x, b.find? name = some x → x.isDefined = true ∧ x.Distinct) :
    valueOf (Datum.ofValues b) name = b.find? name := by
  unfold valueOf Datum.ofValues
  rw [Assoc.find?_map]
  cases hx : b.find? name with
  | none => rfl
  | some x =>
    obtain ⟨hdefined, hdistinct⟩ := hb x hx
    rw [Option.map_some, Option.getD_some, Datum.coerce_ofValue name hdistinct, Shape.ifDefined,
      if_pos hdefined]

theorem write_of_remakes {e : Expression} {captures : List (Text × Value)} {units : List Text}
    (h : Remakes e.operator e.specs captures units) (hnames : e.names.Nodup)
    {recovered : Text → Option Value}
    (hvalue : ∀ name ∈ e.names, recovered name = Assoc.find? captures name) :
    e.write recovered = Expression.assemble e.operator units := by
  have hunits := h.units_eq hnames fun v hv => hvalue v.name (List.mem_map_of_mem hv)
  unfold Expression.write
  rw [hunits]

/-- Expanding what matching recovers from an expansion gives the same text. -/
theorem expand_match?_expand {source : Text} {config : Config} {t : Template}
    (ht : Template.ofText source config = .ok t)
    (hop : ∀ e, .expression e ∈ t.nodes → e.operator.allowsReserved = false)
    (hmod : ∀ e, .expression e ∈ t.nodes → ∀ v ∈ e.specs, v.modifier = .none)
    (honce : t.nodes.Pairwise fun m n => ∀ name ∈ m.names, name ∉ n.names)
    {bindings : List (Datum × Datum)} {uri : Text}
    (hexpand : t.expand bindings (some false) {} = .ok uri)
    (hsep : ∀ named, Datum.nameKeys bindings = .ok named → Separated named t.nodes) :
    ∃ m, t.match? uri = some m ∧ t.expand m.data.keyed (some false) {} = .ok uri := by
  obtain ⟨named, hnamed, hgives, rfl⟩ := expand_eq_ok_iff.1 hexpand
  generalize valueOf named = value at hgives ⊢
  have hremakes : ∀ e, .expression e ∈ t.nodes →
      ∃ units, Remakes e.operator e.specs (e.readAlone (e.write value)).1 units ∧
        Expression.assemble e.operator units = e.write value ∧
        (e.readAlone (e.write value)).2.pos = (e.write value).length := by
    intro e he
    obtain ⟨hne, hnames, hvalid⟩ := Template.wellFormed ht _ he
    exact e.exists_remakes (hop e he) (hmod e he) hne hnames hvalid value
  have halone : ∀ e, .expression e ∈ t.nodes →
      (e.readAlone (e.write value)).2.pos = (e.write value).length := by
    intro e he
    obtain ⟨units, -, -, hpos⟩ := hremakes e he
    exact hpos
  have hkeys : ∀ e, .expression e ∈ t.nodes →
      ∀ name ∈ Assoc.keys (e.readAlone (e.write value)).1, name ∈ e.names := by
    intro e he name hname
    obtain ⟨units, hunits, -, -⟩ := hremakes e he
    exact hunits.keys_sublist.subset hname
  have hread := readsBack_of_separated ht hop hgives halone (hsep named hnamed)
  let recovered : Assoc Text Value := Assoc.ofList (captured value t.nodes)
  have hrecovered : (Datum.ofValues recovered).keys.Nodup := by
    unfold Datum.ofValues
    rw [Assoc.keys_map]
    exact Assoc.nodup_keys_ofList _
  have hwrite : ∀ e, .expression e ∈ t.nodes →
      e.write (valueOf (Datum.ofValues recovered)) = e.write value := by
    intro e he
    obtain ⟨units, hunits, hown, -⟩ := hremakes e he
    obtain ⟨-, hnames, -⟩ := Template.wellFormed ht _ he
    rw [← hown]
    refine write_of_remakes hunits hnames fun name hname => ?_
    have hfind : recovered.find? name = Assoc.find? (e.readAlone (e.write value)).1 name := by
      refine (find?_captured_of_mem hkeys honce he hname).trans ?_
      rw [Assoc.ofList_of_nodup (hunits.keys_sublist.nodup hnames)]
    rw [valueOf_ofValues, hfind]
    intro x hx
    rw [hfind] at hx
    obtain ⟨raw, rfl⟩ := hunits.exists_raw hx
    exact defined_ofRaw raw
  have hagain : t.expand (Datum.keyed (Datum.ofValues recovered)) (some false) {} =
      .ok (write value t.nodes) := by
    refine expand_eq_ok_iff.2 ⟨_, Datum.nameKeys_keyed hrecovered,
      givesAll_ofValues recovered t.nodes, List.flatMap_congr fun n hn => ?_⟩
    cases n with
    | literal text => rfl
    | expression e => exact (hwrite e hn).symm
  exact ⟨_, match?_write hread, hagain⟩

/-- What was undefined is another variable's or empty, a text is cut at its dot, a mapping comes
    back as a list, and a list of one member as a text. -/
theorem expand_match?_expand_shifted :
    let t : Template := ⟨"/{x,y}!{.a,b}/{u}{?m,l}".toList,
      [.literal ['/'], .expression ⟨.plain, [⟨['x'], .none⟩, ⟨['y'], .none⟩]⟩, .literal ['!'],
        .expression ⟨.label, [⟨['a'], .none⟩, ⟨['b'], .none⟩]⟩, .literal ['/'],
        .expression ⟨.plain, [⟨['u'], .none⟩]⟩,
        .expression ⟨.form, [⟨['m'], .none⟩, ⟨['l'], .none⟩]⟩], {}⟩
    let b : Assoc Text Value := [(['y'], .scalar ['v']), (['a'], .scalar "1.2".toList),
      (['m'], .mapping [(['k'], ['v'])]), (['l'], .list ["é".toList])]
    let uri := "/v!.1.2/?m=k,v&l=%C3%A9".toList
    let recovered : Assoc Text Value := [(['x'], .scalar ['v']), (['a'], .scalar ['1']),
      (['b'], .scalar ['2']), (['u'], .scalar []), (['m'], .list [['k'], ['v']]),
      (['l'], .scalar "é".toList)]
    Template.ofText t.source {} = .ok t ∧
      (∀ e, .expression e ∈ t.nodes → e.operator.allowsReserved = false) ∧
      (∀ e, .expression e ∈ t.nodes → ∀ v ∈ e.specs, v.modifier = .none) ∧
      (t.nodes.Pairwise fun m n => ∀ name ∈ m.names, name ∉ n.names) ∧
      (∀ named, Datum.nameKeys (Datum.keyed (Datum.ofValues b)) = .ok named →
        Separated named t.nodes) ∧
      t.expand (Datum.keyed (Datum.ofValues b)) (some false) {} = .ok uri ∧
      ∃ m, t.match? uri = some m ∧ m.bindings = recovered ∧ recovered ≠ b ∧
        t.expand m.data.keyed (some false) {} = .ok uri := by
  intro t b uri recovered
  have ht : Template.ofText t.source {} = .ok t := by with_unfolding_all rfl
  have hnodes : ∀ {p : Expression → Prop}, p ⟨.plain, [⟨['x'], .none⟩, ⟨['y'], .none⟩]⟩ →
      p ⟨.label, [⟨['a'], .none⟩, ⟨['b'], .none⟩]⟩ → p ⟨.plain, [⟨['u'], .none⟩]⟩ →
      p ⟨.form, [⟨['m'], .none⟩, ⟨['l'], .none⟩]⟩ → ∀ e, .expression e ∈ t.nodes → p e := by
    intro p hx ha hu hm e he
    simp only [t, List.mem_cons, Node.expression.injEq, reduceCtorEq, List.not_mem_nil, false_or,
      or_false] at he
    rcases he with rfl | rfl | rfl | rfl
    · exact hx
    · exact ha
    · exact hu
    · exact hm
  have hop : ∀ e, .expression e ∈ t.nodes → e.operator.allowsReserved = false :=
    hnodes rfl rfl rfl rfl
  have hmod : ∀ e, .expression e ∈ t.nodes → ∀ v ∈ e.specs, v.modifier = .none := by
    refine hnodes ?_ ?_ ?_ ?_
    all_goals decide
  have honce : t.nodes.Pairwise fun m n => ∀ name ∈ m.names, name ∉ n.names := by decide
  have hsep : ∀ named, Datum.nameKeys (Datum.keyed (Datum.ofValues b)) = .ok named →
      Separated named t.nodes := by
    rintro named ⟨⟩
    refine ⟨?_, ?_, ?_, ?_, trivial⟩
    all_goals
      intro text h
      cases h
      decide +kernel
  have hexpand : t.expand (Datum.keyed (Datum.ofValues b)) (some false) {} = .ok uri := by rfl
  have hfound : (t.match? uri).map (·.bindings) = some recovered := by decide +kernel
  obtain ⟨m, hmatch, hagain⟩ := expand_match?_expand ht hop hmod honce hexpand hsep
  have hbindings : m.bindings = recovered := by
    rw [hmatch] at hfound
    exact Option.some.inj hfound
  exact ⟨ht, hop, hmod, honce, hsep, hexpand, m, hmatch, hbindings, by decide, hagain⟩

end UriTemplate.Template
