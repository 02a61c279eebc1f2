import UriTemplate.Proofs.Alone
import UriTemplate.Proofs.Items
import UriTemplate.Proofs.Naming

set_option autoImplicit false

namespace UriTemplate

open Character Text

/-- What an item gives to its variable: a bare name the empty text, raw text with commas a list. -/
def Item.captured (i : Item) : Value :=
  match i.value? with
  | none => .scalar []
  | some raw =>
    if ',' ∈ raw then .list ((raw.splitOn ',').map Percent.decode) else .scalar (Percent.decode raw)

theorem Item.ofRaw_value? (i : Item) : Value.ofRaw (i.value?.getD []) = i.captured := by
  unfold captured
  cases i.value? with
  | none => rfl
  | some raw => exact Value.ofRaw_eq raw

/-- The text is the leader in front of these items, whose names come in the order of `names`. -/
structure Spells (op : Operator) (names : List Text) (items : List Item) (t : Text) : Prop where
  order : (items.map Item.key).Sublist names
  values : ∀ i ∈ items, ∀ raw ∈ i.value?, Units namedChar raw
  text_eq : t = op.leader ++ [op.joiner].intercalate (items.map Item.text)

theorem readKey?_eq_append {op : Operator} {first : Bool} {t key rest : Text}
    (h : readKey? op first t = some (key, rest)) :
    t = (if first then [] else [op.joiner]) ++ key ++ rest := by
  obtain ⟨start, hstart, hrun, -⟩ := readKey?_eq_some h
  have happend := run_append isUnreserved none start
  rw [hrun] at happend
  rw [List.append_assoc, show key ++ rest = start from happend]
  cases first with
  | true => exact (Option.some.inj hstart).trans (List.nil_append start).symm
  | false => exact (List.append_eq_of_isPrefixOf?_eq_some hstart).symm

theorem readNamedValue_eq_append (limit : Option Nat) (key t : Text) :
    t = Item.tail ⟨key, (readNamedValue limit t).1⟩ ++ (readNamedValue limit t).2 ∧
      ∀ raw ∈ (readNamedValue limit t).1, Units namedChar raw := by
  unfold readNamedValue
  split
  · next rest =>
    constructor
    · simp only [Item.tail, List.cons_append, run_append]
    · intro raw hraw
      cases hraw
      exact Units.run limit rest
  · exact ⟨rfl, fun raw hraw => by cases hraw⟩

variable {op : Operator} {specs : List VarSpec}

theorem stream_cons_append (first : Bool) (i : Item) (items : List Item) (left : Text) :
    stream op first (i :: items) ++ left =
      (if first then [] else [op.joiner]) ++ i.key ++ (i.tail ++ (stream op false items ++ left)) := by
  cases first with
  | true => simp [stream, Item.text]
  | false => simp [stream, Item.text]

theorem exists_items_of_readNamed (op : Operator) (hmod : ∀ v ∈ specs, v.modifier = .none)
    (first : Bool) (t : Text) :
    ∃ items : List Item, (items.map Item.key).Sublist (VarSpec.names specs) ∧
      (∀ i ∈ items, ∀ raw ∈ i.value?, Units namedChar raw) ∧
      t = stream op first items ++ (readNamed op first specs t).2 := by
  induction specs generalizing first t with
  | nil => exact ⟨[], .slnil, by simp, by cases first <;> rfl⟩
  | cons v later ih =>
    have hlater : ∀ w ∈ later, w.modifier = .none := fun w hw => hmod w (List.mem_cons_of_mem v hw)
    have hplain : ¬ v.explodes = true := by
      rw [VarSpec.explodes_of_none (hmod v List.mem_cons_self)]
      exact Bool.false_ne_true
    have hskip : ∃ items : List Item, (items.map Item.key).Sublist (VarSpec.names (v :: later)) ∧
        (∀ i ∈ items, ∀ raw ∈ i.value?, Units namedChar raw) ∧
        t = stream op first items ++ (readNamed op first later t).2 := by
      obtain ⟨items, horder, hvalues, htext⟩ := ih hlater first t
      exact ⟨items, horder.cons v.name, hvalues, htext⟩
    rw [readNamed, if_neg hplain]
    cases hkey : readKey? op first t with
    | none => exact hskip
    | some r =>
      obtain ⟨key, rest⟩ := r
      by_cases hname : key = v.name
      · obtain ⟨hrest, hunits⟩ := readNamedValue_eq_append v.limit? key rest
        obtain ⟨items, horder, hvalues, hleft⟩ := ih hlater false (readNamedValue v.limit? rest).2
        refine ⟨⟨key, (readNamedValue v.limit? rest).1⟩ :: items, ?_, ?_, ?_⟩
        · rw [List.map_cons, hname]
          exact horder.cons_cons v.name
        · intro i hi
          rcases List.mem_cons.1 hi with rfl | hi
          · exact hunits
          · exact hvalues i hi
        · simp only [hname, if_true]
          change t = _ ++ (readNamed op false later (readNamedValue v.limit? rest).2).2
          rw [stream_cons_append, ← hleft, ← hname, ← hrest]
          exact readKey?_eq_append hkey
      · simp only [hname, if_false]
        exact hskip

theorem readNamed_items (hop : op.isNamed = true) (hmod : ∀ v ∈ specs, v.modifier = .none)
    (hnames : (VarSpec.names specs).Nodup) {items : List Item} (hsound : ∀ i ∈ items, i.Sound)
    (horder : (items.map Item.key).Sublist (VarSpec.names specs)) (first : Bool) :
    readNamed op first specs (stream op first items) =
      (items.map fun i => (i.key, i.captured), []) := by
  induction specs generalizing first items with
  | nil =>
    cases List.map_eq_nil_iff.1 (List.sublist_nil.1 horder)
    cases first <;> rfl
  | cons v later ih =>
    have hv := hmod v List.mem_cons_self
    have hlater : ∀ w ∈ later, w.modifier = .none := fun w hw => hmod w (List.mem_cons_of_mem v hw)
    obtain ⟨hnot, hrest⟩ := List.nodup_cons.1 hnames
    have hplain := VarSpec.explodes_of_none hv
    rcases List.sublist_cons_iff.1 horder with hskip | ⟨keys, hkeys, htake⟩
    · have hother : ∀ i ∈ items, i.key ≠ v.name := by
        intro i hi hkey
        have hmem : i.key ∈ items.map Item.key := List.mem_map_of_mem hi
        rw [hkey] at hmem
        exact hnot (hskip.subset hmem)
      rw [readNamed_stream_skip hop hplain later hsound hother, ih hlater hrest hsound hskip]
    · obtain ⟨i, rest, rfl, hkey, rfl⟩ := List.map_eq_cons_iff.1 hkeys
      have hi := hsound i List.mem_cons_self
      change i.key = v.name at hkey
      rw [readNamed_stream_take hop hplain (VarSpec.limit?_of_none hv) later hi hkey,
        ih hlater hrest (fun j hj => hsound j (List.mem_cons_of_mem i hj)) htake, Item.ofRaw_value?,
        ← hkey]
      rfl

theorem Spells.sound {names : List Text} {items : List Item} {t : Text}
    (h : Spells op names items t) (hvalid : ∀ name ∈ names, Name.Valid name) :
    ∀ i ∈ items, i.Sound := by
  intro i hi
  have hname := hvalid i.key (h.order.subset (List.mem_map_of_mem hi))
  exact ⟨hname.ne_nil, hname.units, h.values i hi⟩

namespace Expression

variable {e : Expression}

theorem readAlone_of_spells (hop : e.operator.isNamed = true)
    (hmod : ∀ v ∈ e.specs, v.modifier = .none) (hnames : e.names.Nodup)
    (hvalid : ∀ name ∈ e.names, Name.Valid name) {items : List Item} {t : Text}
    (h : Spells e.operator e.names items t) :
    (e.readAlone t).1 = (items.map fun i => (i.key, i.captured)) ∧
      (e.readAlone t).2.pos = t.length := by
  have htext := h.text_eq
  rw [← stream_true] at htext
  have hread : e.readValues (.ofOperator e.operator) (stream e.operator true items) =
      (items.map fun i => (i.key, i.captured), []) := by
    rw [readValues_of_isNamed hop]
    exact readNamed_items hop hmod hnames (h.sound hvalid) h.order true
  exact readAlone_of_readValues htext hread

theorem exists_spells_of_readAlone (hop : e.operator.isNamed = true)
    (hmod : ∀ v ∈ e.specs, v.modifier = .none) {t : Text}
    (hpos : (e.readAlone t).2.pos = t.length) :
    t = [] ∨ ∃ items, Spells e.operator e.names items t := by
  by_cases hlead : e.operator.leader <+: t
  · obtain ⟨body, hbody⟩ := hlead
    have hleft := readValues_eq_nil hbody.symm hpos
    rw [readValues_of_isNamed hop] at hleft
    obtain ⟨items, horder, hvalues, hstream⟩ := exists_items_of_readNamed e.operator hmod true body
    rw [hleft, List.append_nil, stream_true] at hstream
    exact .inr ⟨items, horder, hvalues, hstream ▸ hbody.symm⟩
  · obtain ⟨-, hstart⟩ := readAlone_of_not_isPrefix hlead
    exact .inl (List.length_eq_zero_iff.1 (hpos.symm.trans hstart))

end Expression

namespace Template

/-- The texts that a named expression without modifiers matches, and what it binds. -/
theorem match?_bindings_eq_some_iff_spells {source : Text} {config : Config} {t : Template}
    (ht : Template.ofText source config = .ok t) {e : Expression} (he : t.nodes = [.expression e])
    (hop : e.operator.isNamed = true) (hmod : ∀ v ∈ e.specs, v.modifier = .none)
    (hfull : config.fullMatch = true) (uri : Text) (bindings : Assoc Text Value) :
    (t.match? uri).map (·.bindings) = some bindings ↔
      (uri = [] ∧ bindings = []) ∨
        ∃ items, Spells e.operator e.names items uri ∧
          bindings = items.map fun i => (i.key, i.captured) := by
  obtain ⟨-, hnames, hvalid⟩ := specs_wellFormed ht he
  have hconfig : t.config.fullMatch = true := by
    rw [(Template.ofText_eq_ok ht).2.1, hfull]
  have hempty : t.match? [] = some ⟨[], t.declared, []⟩ := by
    obtain ⟨hnil, hpos⟩ := Expression.readAlone_nil (leader_ne_nil_of_isNamed hop)
    rw [match?_of_pos_eq he hpos, hnil]
    rfl
  have hspells : ∀ items, Spells e.operator e.names items uri →
      t.match? uri = some ⟨uri, t.declared, items.map fun i => (i.key, i.captured)⟩ := by
    intro items h
    obtain ⟨hread, hpos⟩ := Expression.readAlone_of_spells hop hmod hnames hvalid h
    have hkeys : (Assoc.keys (items.map fun i => (i.key, i.captured))).Nodup := by
      rw [Assoc.keys, List.map_map]
      exact h.order.nodup hnames
    rw [match?_of_pos_eq he hpos, hread, Assoc.ofList_of_nodup hkeys]
  constructor
  · intro h
    by_cases hpos : (e.readAlone uri).2.pos = uri.length
    · rcases Expression.exists_spells_of_readAlone hop hmod hpos with rfl | ⟨items, hitems⟩
      · rw [hempty] at h
        exact .inl ⟨rfl, (Option.some.inj h).symm⟩
      · rw [hspells items hitems] at h
        exact .inr ⟨items, hitems, (Option.some.inj h).symm⟩
    · rw [match?_eq_none_of_pos_ne he hconfig hpos] at h
      cases h
  · rintro (⟨rfl, rfl⟩ | ⟨items, hitems, rfl⟩)
    · rw [hempty]
      rfl
    · rw [hspells items hitems]
      rfl

theorem match?_bindings_eq_some_iff_spells_pathParams :
    let e : Expression := ⟨.pathParams, [⟨['a'], .none⟩, ⟨"b.c".toList, .none⟩, ⟨['d'], .none⟩]⟩
    let t : Template := ⟨"{;a,b.c,d}".toList, [.expression e], {}⟩
    Template.ofText t.source {} = .ok t ∧ e.operator.isNamed = true ∧
      (∀ v ∈ e.specs, v.modifier = .none) ∧
      (t.match? ";a;d=x,%2C".toList).map (·.bindings) =
        some [(['a'], .scalar []), (['d'], .list [['x'], [',']])] := by
  intro e t
  have ht : Template.ofText t.source {} = .ok t := by with_unfolding_all rfl
  have hmod : ∀ v ∈ e.specs, v.modifier = .none := by decide
  have hspells : Spells e.operator e.names [⟨['a'], none⟩, ⟨['d'], some "x,%2C".toList⟩]
      ";a;d=x,%2C".toList := {
    order := by decide
    values := by
      intro i hi raw hraw
      simp only [List.mem_cons, List.not_mem_nil, or_false] at hi
      rcases hi with rfl | rfl
      · cases hraw
      · cases hraw
        exact .char (by decide) (.char (by decide) (.escape (by decide) (by decide) .nil))
    text_eq := by decide }
  refine ⟨ht, rfl, hmod, ?_⟩
  exact (match?_bindings_eq_some_iff_spells ht rfl rfl hmod rfl _ _).2 (.inr ⟨_, hspells, by decide⟩)

end Template

end UriTemplate
