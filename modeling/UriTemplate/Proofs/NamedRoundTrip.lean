import Mathlib.Data.List.Basic
import UriTemplate.Proofs.Naming

set_option autoImplicit false

namespace UriTemplate

open Character Text

namespace Value

theorem ofTexts_of_two_le {members : List Text} (h : 2 ≤ members.length) :
    Value.ofTexts members = .list members := by
  match members with
  | [] => cases h
  | [t] => exact absurd h (Nat.lt_irrefl 1)
  | _ :: _ :: _ => rfl

theorem ofRaw_commas {members : List Text} (h : members ≠ []) :
    Value.ofRaw (commas (members.map (Percent.encode isUnreserved))) = .ofTexts members :=
  congrArg Value.ofTexts (Percent.decode_splitOn_commas h)

end Value

namespace VarSpec

variable {v : VarSpec} {op : Operator}

theorem valueOf_members (hop : op.isNamed = true) (he : v.explodes = true) {members : List Text}
    (h : members ≠ []) :
    v.valueOf (members.map fun t => op.item v.name (op.encode t)) = some (.ofTexts members) := by
  have hall : ∀ members : List Text,
      ((members.map fun t => op.item v.name (op.encode t)).all (·.key = v.name)) = true := by
    intro members
    simp [Operator.key_item]
  have htexts : ∀ members : List Text,
      (members.map fun t => op.item v.name (op.encode t)).map Item.valueText = members := by
    intro members
    rw [List.map_map]
    exact (List.map_congr_left fun t _ => Operator.valueText_item hop v.name t).trans
      (List.map_id _)
  obtain ⟨t, members, rfl⟩ := List.exists_cons_of_ne_nil h
  unfold valueOf
  rw [List.map_cons]
  simp only [he, if_true]
  rw [← List.map_cons (f := fun t => op.item v.name (op.encode t)), Value.ofNamedItems,
    if_pos (hall _), htexts]

theorem valueOf_single (hop : op.isNamed = true) (hv : v.explodes = false) {members : List Text}
    (h : members ≠ []) :
    v.valueOf [op.item v.name (commas (members.map op.encode))] = some (.ofTexts members) := by
  unfold valueOf
  simp only [hv, Bool.false_eq_true, if_false]
  rw [Operator.value?_item, encode_of_isNamed hop, Value.ofRaw_commas h]

theorem valueOf_entries (hop : op.isNamed = true) (he : v.explodes = true)
    {entries : Assoc Text Text} (hnodup : entries.keys.Nodup) (hne : entries ≠ [])
    (hkeys : ∀ d ∈ entries, op.encode d.1 ≠ v.name)
    (hshown : op.naming = .pathStyle → ∃ d ∈ entries, d.2 ≠ []) :
    v.valueOf (entries.map fun d => op.item (op.encode d.1) (op.encode d.2)) =
      some (.mapping entries) := by
  have hall : ((entries.map fun d => op.item (op.encode d.1) (op.encode d.2)).all
      (·.key = v.name)) = false := by
    obtain ⟨d, rest, rfl⟩ := List.exists_cons_of_ne_nil hne
    have hd := hkeys d List.mem_cons_self
    simp [Operator.key_item, hd]
  have hany : ((entries.map fun d => op.item (op.encode d.1) (op.encode d.2)).any
      (·.value?.isSome)) = true := by
    have hd : ∃ d ∈ entries, ¬ ((op.encode d.2).isEmpty = true ∧ op.naming = .pathStyle) := by
      by_cases hstyle : op.naming = .pathStyle
      · obtain ⟨d, hd, hne⟩ := hshown hstyle
        refine ⟨d, hd, fun h => hne ?_⟩
        rw [isEmpty_encode hop] at h
        exact List.isEmpty_iff.1 h.1
      · obtain ⟨d, hd⟩ := List.exists_mem_of_ne_nil entries hne
        exact ⟨d, hd, fun h => hstyle h.2⟩
    obtain ⟨d, hd, hvalue⟩ := hd
    refine List.any_eq_true.2 ⟨_, List.mem_map_of_mem hd, ?_⟩
    unfold Operator.item
    rw [if_neg hvalue]
    rfl
  have hread : (entries.map fun d => op.item (op.encode d.1) (op.encode d.2)).map
      (fun i => (Percent.decode i.key, i.valueText)) = entries := by
    rw [List.map_map]
    refine (List.map_congr_left fun d _ => ?_).trans (List.map_id _)
    change (Percent.decode (op.item _ _).key, (op.item _ _).valueText) = d
    rw [Operator.key_item, Operator.valueText_item hop, encode_of_isNamed hop,
      Percent.decode_encode]
  have hvalue : Value.ofNamedItems v.name
      (entries.map fun d => op.item (op.encode d.1) (op.encode d.2)) = .mapping entries := by
    unfold Value.ofNamedItems Value.ofItems
    rw [hall, if_neg (by decide), if_pos hany, hread, Assoc.ofList_of_nodup hnodup]
  obtain ⟨d, rest, rfl⟩ := List.exists_cons_of_ne_nil hne
  rw [List.map_cons] at hvalue ⊢
  simp only [valueOf, he, if_true, hvalue]

end VarSpec

namespace Expression

/-- Values that a named expression tells apart: besides its items, also their shapes. -/
structure ToldApart (e : Expression) (value : Text → Option Value) : Prop
    extends e.Parted value where
  several : ∀ v ∈ e.specs, ∀ members, value v.name = some (.list members) → 2 ≤ members.length
  exploded : ∀ v ∈ e.specs, ∀ entries, value v.name = some (.mapping entries) → v.explodes = true
  /-- Where empty texts are left out, some entry of a mapping is not empty. -/
  shown : e.operator.naming = .pathStyle → ∀ v ∈ e.specs, ∀ entries,
    value v.name = some (.mapping entries) → ∃ d ∈ entries, d.2 ≠ []

variable {e : Expression} {value : Text → Option Value}

theorem ToldApart.valueOf_itemsFor (h : e.ToldApart value) (hop : e.operator.isNamed = true)
    {v : VarSpec} (hv : v ∈ e.specs)
    (hdefined : ∀ x, value v.name = some x → x.isDefined = true ∧ x.Distinct) :
    v.valueOf (v.itemsFor e.operator (value v.name)) = value v.name := by
  have hcut : ∀ t : Text, v.cut t = t := VarSpec.cut_of_limit? (h.unlimited v hv)
  cases hx : value v.name with
  | none => rfl
  | some x =>
    change v.valueOf (v.items e.operator x) = some x
    cases x with
    | scalar t =>
      have hone : v.items e.operator (.scalar t) =
          [e.operator.item v.name (e.operator.encode t)] := by
        rw [VarSpec.items, hcut]
      rw [hone]
      by_cases he : v.explodes = true
      · exact VarSpec.valueOf_members hop he (List.cons_ne_nil t [])
      · have hsingle := VarSpec.valueOf_single hop (Bool.eq_false_iff.2 he) (List.cons_ne_nil t [])
        rwa [show commas ([t].map e.operator.encode) = e.operator.encode t by simp [commas]]
          at hsingle
    | list members =>
      have htwo := h.several v hv members hx
      have hne : members ≠ [] := by
        rintro rfl
        cases htwo
      rw [← Value.ofTexts_of_two_le htwo]
      by_cases he : v.explodes = true
      · rw [← VarSpec.valueOf_members hop he hne, Value.ofTexts_of_two_le htwo]
        simp only [VarSpec.items, he, if_true, hcut]
      · rw [← VarSpec.valueOf_single hop (Bool.eq_false_iff.2 he) hne,
          Value.ofTexts_of_two_le htwo]
        simp only [VarSpec.items, he, hcut, Bool.false_eq_true, if_false]
    | mapping entries =>
      have he := h.exploded v hv entries hx
      obtain ⟨hdef, hnodup⟩ := hdefined _ hx
      have hne : entries ≠ [] := by
        rintro rfl
        cases hdef
      have hkeys : ∀ d ∈ entries, e.operator.encode d.1 ≠ v.name := by
        intro d hd heq
        exact (h.keys v hv he entries hx d hd).2 (heq ▸ List.mem_map_of_mem hv)
      rw [VarSpec.items, if_pos he]
      exact VarSpec.valueOf_entries hop he hnodup hne hkeys
        fun hstyle => h.shown hstyle v hv entries hx

theorem ToldApart.readAlone (h : e.ToldApart value) (hop : e.operator.isNamed = true)
    (hnames : e.names.Nodup) (hvalid : ∀ name ∈ e.names, Name.Valid name)
    (hdefined : ∀ v ∈ e.specs, ∀ x, value v.name = some x → x.isDefined = true ∧ x.Distinct) :
    (e.readAlone (e.write value)).1 =
        e.specs.filterMap (fun v => (value v.name).map (v.name, ·)) ∧
      (e.readAlone (e.write value)).2.pos = (e.write value).length := by
  obtain ⟨hread, hpos⟩ := readAlone_of_assigned hop (h.assigned hop hnames hvalid)
  refine ⟨hread.trans (List.filterMap_congr fun v hv => ?_), hpos⟩
  rw [h.valueOf_itemsFor hop hv (hdefined v hv)]

end Expression

namespace Template

theorem keys_defined (specs : List VarSpec) (value : Text → Option Value) :
    (Assoc.keys (specs.filterMap fun v => (value v.name).map (v.name, ·))).Sublist
      (VarSpec.names specs) := by
  induction specs with
  | nil => exact List.Sublist.slnil
  | cons v specs ih =>
    cases hx : value v.name with
    | none =>
      rw [List.filterMap_cons_none (by rw [hx]; rfl)]
      exact ih.cons v.name
    | some x =>
      rw [List.filterMap_cons_some (by rw [hx]; rfl)]
      exact ih.cons_cons v.name

/-- A named expression recovers the values that it tells apart, in the order of declaration. -/
theorem match?_expand_of_toldApart {source : Text} {config : Config} {t : Template}
    (ht : Template.ofText source config = .ok t) {e : Expression} (he : t.nodes = [.expression e])
    (hop : e.operator.isNamed = true) {bindings : List (Datum × Datum)} {named : Assoc Text Datum}
    (hnamed : Datum.nameKeys bindings = .ok named) {value : Text → Option Value}
    (hvalue : Gives named e.specs value) (h : e.ToldApart value) :
    ∃ uri m, t.expand bindings (some false) {} = .ok uri ∧ t.match? uri = some m ∧
      m.bindings = e.specs.filterMap fun v => (value v.name).map (v.name, ·) := by
  have hmem : ∀ {d : Expression}, .expression d ∈ t.nodes → d = e := by
    intro d hd
    rw [he] at hd
    exact Node.expression.inj (List.mem_singleton.1 hd)
  have hself : .expression e ∈ t.nodes := by
    rw [he]
    exact List.mem_singleton_self _
  obtain ⟨-, hnames, hvalid⟩ := Template.wellFormed ht _ hself
  have hgives : GivesAll named t.nodes value := fun d hd => hmem hd ▸ hvalue
  obtain ⟨hcaptured, hpos⟩ := h.readAlone hop hnames hvalid fun v hv x hx => hvalue.defined hv hx
  have hsep : Separated named t.nodes := by
    rw [he]
    refine ⟨fun text htext => ?_, trivial⟩
    cases htext
    exact fun c hc => nomatch hc
  have hread := readsBack_of_separated ht (fun d hd => hmem hd ▸ allowsReserved_of_isNamed hop)
    hgives (fun d hd => hmem hd ▸ hpos) hsep
  refine ⟨_, _, bind_eq_ok.2 ⟨named, hnamed, expandNodes_eq_write hgives⟩, match?_write hread, ?_⟩
  change Assoc.ofList (captured value t.nodes) = _
  rw [he, captured_singleton, hcaptured]
  exact Assoc.ofList_of_nodup ((keys_defined e.specs value).nodup hnames)

theorem match?_expand_of_toldApart_pathParams :
    let e : Expression := ⟨.pathParams,
      [⟨['m'], .explode⟩, ⟨['l'], .explode⟩, ⟨['u'], .none⟩, ⟨['s'], .none⟩]⟩
    let t : Template := ⟨"{;m*,l*,u,s}".toList, [.expression e], {}⟩
    let b : Assoc Text Value := [(['m'], .mapping [("k=".toList, ['v']), ("é".toList, [])]),
      (['l'], .list ["a,b".toList, ['c']]), (['s'], .scalar [])]
    Template.ofText t.source {} = .ok t ∧ e.operator.isNamed = true ∧
      Datum.nameKeys (Datum.keyed (Datum.ofValues b)) = .ok (Datum.ofValues b) ∧
      Gives (Datum.ofValues b) e.specs b.find? ∧ e.ToldApart b.find? ∧
      ∃ uri m, t.expand (Datum.keyed (Datum.ofValues b)) (some false) {} = .ok uri ∧
        t.match? uri = some m ∧
        m.bindings = e.specs.filterMap fun v => (b.find? v.name).map (v.name, ·) := by
  intro e t b
  have ht : Template.ofText t.source {} = .ok t := by with_unfolding_all rfl
  have hnamed : Datum.nameKeys (Datum.keyed (Datum.ofValues b)) = .ok (Datum.ofValues b) :=
    Datum.nameKeys_keyed (by decide)
  have hspecs : ∀ {p : VarSpec → Prop}, p ⟨['m'], .explode⟩ → p ⟨['l'], .explode⟩ →
      p ⟨['u'], .none⟩ → p ⟨['s'], .none⟩ → ∀ v ∈ e.specs, p v := by
    intro p hm hl hu hs v hv
    simp only [e, List.mem_cons, List.not_mem_nil, or_false] at hv
    rcases hv with rfl | rfl | rfl | rfl
    · exact hm
    · exact hl
    · exact hu
    · exact hs
  have hvalue : Gives (Datum.ofValues b) e.specs b.find? := hspecs rfl rfl rfl rfl
  have happart : e.ToldApart b.find? := {
    unlimited := hspecs rfl rfl rfl rfl
    several := by
      refine hspecs ?_ ?_ ?_ ?_
      all_goals
        rintro members ⟨⟩
      exact Nat.le_refl 2
    exploded := by
      refine hspecs ?_ ?_ ?_ ?_
      all_goals
        rintro entries ⟨⟩
      rfl
    keys := by
      refine hspecs ?_ ?_ ?_ ?_
      all_goals
        rintro - entries ⟨⟩
      decide +kernel
    order := by
      have hlast : ∀ name : Text, name ∈ [['l'], ['u'], ['s']] →
          ∀ entries, b.find? name ≠ some (.mapping entries) := by
        intro name hname entries
        simp only [List.mem_cons, List.not_mem_nil, or_false] at hname
        rcases hname with rfl | rfl | rfl
        all_goals
          rintro ⟨⟩
      simp [e, hlast]
    shown := by
      intro _
      refine hspecs ?_ ?_ ?_ ?_
      all_goals
        rintro entries ⟨⟩
      decide }
  exact ⟨ht, rfl, hnamed, hvalue, happart,
    match?_expand_of_toldApart ht rfl rfl hnamed hvalue happart⟩

end Template

end UriTemplate
