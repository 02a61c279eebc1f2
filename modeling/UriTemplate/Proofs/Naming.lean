import UriTemplate.Proofs.Items
import UriTemplate.Proofs.Recovery

set_option autoImplicit false

namespace UriTemplate

open Character Text

/-- A name or a key with its text, which an operator of path style leaves out where it is empty. -/
def Operator.item (op : Operator) (key raw : Text) : Item :=
  if raw.isEmpty ∧ op.naming = .pathStyle then ⟨key, none⟩ else ⟨key, some raw⟩

namespace VarSpec

def items (v : VarSpec) (op : Operator) : Value → List Item
  | .scalar t => [op.item v.name (op.encode (v.cut t))]
  | .list members =>
    if v.explodes then members.map fun t => op.item v.name (op.encode (v.cut t))
    else [op.item v.name (commas (members.map fun t => op.encode (v.cut t)))]
  | .mapping entries =>
    if v.explodes then entries.map fun e => op.item (op.encode e.1) (op.encode e.2)
    else [op.item v.name (commas (entries.map fun e => op.encode e.1 ++ ',' :: op.encode e.2))]

def itemsFor (v : VarSpec) (op : Operator) : Option Value → List Item
  | none => []
  | some x => v.items op x

end VarSpec

variable {op : Operator}

theorem Operator.text_item (key raw : Text) : (op.item key raw).text =
    if raw.isEmpty ∧ op.naming = .pathStyle then key else key ++ '=' :: raw := by
  unfold Operator.item
  split
  · simp [Item.text, Item.tail]
  · simp [Item.text, Item.tail]

theorem Rendered.units_of_isNamed (hop : op.isNamed = true) (r : Rendered)
    (hr : r.keypairs = false) :
    r.units op.naming = r.items.map fun t => (op.item r.name t).text := by
  unfold Rendered.units
  rw [hr, if_neg (by decide)]
  cases hn : op.naming with
  | bare => simp [Operator.isNamed, hn] at hop
  | named => simp [Operator.text_item, hn]
  | pathStyle => simp [Operator.text_item, hn]

theorem allowsReserved_of_isNamed (hop : op.isNamed = true) : op.allowsReserved = false := by
  cases op <;> first | rfl | cases hop

theorem leader_ne_nil_of_isNamed (hop : op.isNamed = true) : op.leader ≠ [] := by
  cases op <;> first | decide | cases hop

theorem encode_of_isNamed (hop : op.isNamed = true) : op.encode = Percent.encode isUnreserved :=
  Operator.encode_eq (allowsReserved_of_isNamed hop)

theorem isEmpty_encode (hop : op.isNamed = true) (t : Text) :
    (op.encode t).isEmpty = t.isEmpty := by
  rw [encode_of_isNamed hop]
  cases t with
  | nil => rfl
  | cons c t => simp [Percent.encode_eq_nil]

namespace Operator

variable {key raw : Text}

theorem key_item (op : Operator) (key raw : Text) : (op.item key raw).key = key := by
  unfold item
  split <;> rfl

theorem item_eq (op : Operator) (key raw : Text) :
    op.item key raw = ⟨key, (op.item key raw).value?⟩ := by
  unfold item
  split <;> rfl

theorem value?_item (op : Operator) (key raw : Text) : (op.item key raw).value?.getD [] = raw := by
  unfold item
  split
  · next h => exact (List.isEmpty_iff.1 h.1).symm
  · rfl

theorem valueText_item (hop : op.isNamed = true) (key t : Text) :
    (op.item key (op.encode t)).valueText = t := by
  unfold Item.valueText
  rw [value?_item, encode_of_isNamed hop, Percent.decode_encode]

theorem sound_item (hne : key ≠ []) (hkey : Units isUnreserved key)
    (hraw : Percent.Canonical (· = ',') raw) : (op.item key raw).Sound where
  key_ne := by rwa [key_item]
  key_units := by rwa [key_item]
  value_units value hv := by
    have hget := value?_item op key raw
    rw [Option.mem_def.1 hv] at hget
    rw [show value = raw from hget]
    exact hraw.units fun c _ hc => Bool.or_eq_true_iff.2 hc

end Operator

theorem VarSpec.units_render (hop : op.isNamed = true) (v : VarSpec) (x : Value) :
    (v.render op x).units op.naming = (v.items op x).map Item.text := by
  by_cases hpairs : (v.render op x).keypairs = true
  · -- Only an exploded mapping brings keys of its own.
    cases x with
    | scalar t => cases hpairs
    | list members => cases hpairs
    | mapping entries =>
      have he : v.explodes = true := by
        by_cases he : v.explodes = true
        · exact he
        · simp [render, he] at hpairs
      have hpair : ∀ e : Text × Text,
          op.keypair e = (op.item (op.encode e.1) (op.encode e.2)).text := by
        intro e
        rw [Operator.text_item, isEmpty_encode hop]
        rfl
      simp [render, items, he, Rendered.units, Rendered.items, hpair]
  · rw [Rendered.units_of_isNamed hop _ (Bool.eq_false_iff.2 hpairs), render_name]
    cases x with
    | scalar t => rfl
    | list members =>
      by_cases he : v.explodes = true <;> simp [render, items, he, Rendered.items]
    | mapping entries =>
      by_cases he : v.explodes = true
      · simp [render, he] at hpairs
      · simp [render, items, he, Rendered.items]

theorem VarSpec.items_of_not_explodes {v : VarSpec} (he : v.explodes = false) {x : Value}
    {raw : Text} (hx : v.render op x = ⟨v.name, .single raw, false⟩) :
    v.items op x = [op.item v.name raw] := by
  cases x with
  | scalar t =>
    cases hx
    rfl
  | list members =>
    rw [render, he, if_neg (by decide)] at hx
    cases hx
    rw [items, he, if_neg (by decide)]
  | mapping entries =>
    rw [render, he, if_neg (by decide)] at hx
    cases hx
    rw [items, he, if_neg (by decide)]

theorem VarSpec.mem_items (hop : op.isNamed = true) {v : VarSpec} {x : Value} {i : Item}
    (hi : i ∈ v.items op x) :
    (∃ raw, Percent.Canonical (· = ',') raw ∧ i = op.item v.name raw) ∨
      ∃ entries d, v.explodes = true ∧ x = .mapping entries ∧ d ∈ entries ∧
        i = op.item (op.encode d.1) (op.encode d.2) := by
  cases he : v.explodes with
  | false =>
    obtain ⟨raw, hraw, hx⟩ := v.render_of_not_explodes (allowsReserved_of_isNamed hop) he x
    rw [items_of_not_explodes he hx] at hi
    exact .inl ⟨raw, hraw, List.mem_singleton.1 hi⟩
  | true =>
    have hencode := Operator.encode_canonical (allowsReserved_of_isNamed hop)
    cases x with
    | scalar t => exact .inl ⟨_, hencode _, List.mem_singleton.1 hi⟩
    | list members =>
      rw [items, if_pos he] at hi
      obtain ⟨t, -, rfl⟩ := List.mem_map.1 hi
      exact .inl ⟨_, hencode _, rfl⟩
    | mapping entries =>
      rw [items, if_pos he] at hi
      obtain ⟨d, hd, rfl⟩ := List.mem_map.1 hi
      exact .inr ⟨entries, d, rfl, rfl, hd, rfl⟩

namespace Expression

variable {e : Expression} {value : Text → Option Value}

theorem write_eq_stream (hop : e.operator.isNamed = true) (value : Text → Option Value) :
    e.write value =
      let items := e.specs.flatMap fun v => v.itemsFor e.operator (value v.name)
      if items.isEmpty then [] else e.operator.leader ++ stream e.operator true items := by
  have hunits : (e.specs.flatMap fun v => v.unitsOf e.operator (value v.name)) =
      (e.specs.flatMap fun v => v.itemsFor e.operator (value v.name)).map Item.text := by
    rw [List.map_flatMap]
    refine congrArg e.specs.flatMap (funext fun v => ?_)
    cases value v.name with
    | none => rfl
    | some x => exact v.units_render hop x
  unfold write assemble
  rw [hunits]
  simp only [stream_true, List.isEmpty_map]

structure Parted (e : Expression) (value : Text → Option Value) : Prop where
  unlimited : ∀ v ∈ e.specs, v.limit? = none
  /-- No key of an exploded mapping is empty, and none is written like a declared name. -/
  keys : ∀ v ∈ e.specs, v.explodes = true → ∀ entries, value v.name = some (.mapping entries) →
    ∀ d ∈ entries, d.1 ≠ [] ∧ e.operator.encode d.1 ∉ e.names
  /-- No exploded variable stands before one that is bound to a mapping. -/
  order : e.specs.Pairwise fun v w =>
    v.explodes = true → ∀ entries, value w.name ≠ some (.mapping entries)

theorem Parted.key_cases (h : e.Parted value) (hop : e.operator.isNamed = true) {v : VarSpec}
    (hv : v ∈ e.specs) {i : Item} (hi : i ∈ v.itemsFor e.operator (value v.name)) :
    i.key = v.name ∨ (∃ entries, value v.name = some (.mapping entries)) ∧ i.key ∉ e.names := by
  cases hx : value v.name with
  | none =>
    rw [hx] at hi
    cases hi
  | some x =>
    rw [hx] at hi
    rcases VarSpec.mem_items hop hi with ⟨raw, -, rfl⟩ | ⟨entries, d, he, rfl, hd, rfl⟩
    · exact .inl (Operator.key_item _ _ _)
    · rw [Operator.key_item]
      exact .inr ⟨⟨entries, rfl⟩, (h.keys v hv he entries hx d hd).2⟩

theorem Parted.sound (h : e.Parted value) (hop : e.operator.isNamed = true)
    (hvalid : ∀ name ∈ e.names, Name.Valid name) {v : VarSpec} (hv : v ∈ e.specs) :
    ∀ i ∈ v.itemsFor e.operator (value v.name), i.Sound := by
  have hname : Name.Valid v.name := hvalid v.name (List.mem_map_of_mem hv)
  intro i hi
  cases hx : value v.name with
  | none =>
    rw [hx] at hi
    cases hi
  | some x =>
    rw [hx] at hi
    rcases VarSpec.mem_items hop hi with ⟨raw, hraw, rfl⟩ | ⟨entries, d, he, rfl, hd, rfl⟩
    · exact Operator.sound_item hname.ne_nil hname.units hraw
    · have hne := (h.keys v hv he entries hx d hd).1
      refine Operator.sound_item ?_ ?_ (Operator.encode_canonical (allowsReserved_of_isNamed hop) d.2)
      · rw [encode_of_isNamed hop, Ne, Percent.encode_eq_nil]
        exact hne
      · rw [encode_of_isNamed hop]
        exact Percent.encode_units isUnreserved d.1

theorem Parted.assigned (h : e.Parted value) (hop : e.operator.isNamed = true)
    (hnames : e.names.Nodup) (hvalid : ∀ name ∈ e.names, Name.Valid name) :
    Assigned (fun v => v.itemsFor e.operator (value v.name)) e.specs := by
  refine assigned_of_pairwise (fun v hv => h.sound hop hvalid hv) (fun v hv he => ?_) ?_
  · refine ⟨h.unlimited v hv, ?_⟩
    cases hx : value v.name with
    | none => exact .inl rfl
    | some x =>
      right
      obtain ⟨raw, -, hraw⟩ := v.render_of_not_explodes (allowsReserved_of_isNamed hop) he x
      have hone := VarSpec.items_of_not_explodes he hraw
      exact ⟨_, hone.trans (congrArg (fun i => [i]) (Operator.item_eq _ _ _))⟩
  · have hne : e.specs.Pairwise fun v w => v.name ≠ w.name := List.pairwise_map.1 hnames
    refine (hne.and h.order).imp_of_mem fun {v w} hv hw hvw => ?_
    obtain ⟨hname, horder⟩ := hvw
    have hmem : ∀ {v : VarSpec}, v ∈ e.specs → v.name ∈ e.names := List.mem_map_of_mem
    split
    · next he =>
      constructor
      · intro i hi heq
        rcases h.key_cases hop hv hi with hkey | ⟨-, hkey⟩
        · exact hname (hkey.symm.trans heq)
        · exact hkey (heq ▸ hmem hw)
      · intro i hi
        rcases h.key_cases hop hw hi with hkey | ⟨⟨entries, hx⟩, -⟩
        · exact hkey
        · exact absurd hx (horder he entries)
    · intro i hi heq
      rcases h.key_cases hop hw hi with hkey | ⟨-, hkey⟩
      · exact hname (heq.symm.trans hkey)
      · exact hkey (heq ▸ hmem hv)

theorem readAlone_of_assigned (hop : e.operator.isNamed = true)
    (h : Assigned (fun v => v.itemsFor e.operator (value v.name)) e.specs) :
    (e.readAlone (e.write value)).1 = (e.specs.filterMap fun v =>
        (v.valueOf (v.itemsFor e.operator (value v.name))).map (v.name, ·)) ∧
      (e.readAlone (e.write value)).2.pos = (e.write value).length := by
  rw [write_eq_stream hop]
  simp only
  split
  · next hempty =>
    obtain ⟨hcaptured, hpos⟩ := readAlone_nil (leader_ne_nil_of_isNamed hop)
    rw [hcaptured, hpos]
    refine ⟨?_, rfl⟩
    symm
    rw [List.filterMap_eq_nil_iff]
    intro v hv
    have hnil := List.flatMap_eq_nil_iff.1 (List.isEmpty_iff.1 hempty) v hv
    rw [hnil]
    rfl
  · have hread : e.readValues (.ofOperator e.operator) (stream e.operator true
        (e.specs.flatMap fun v => v.itemsFor e.operator (value v.name))) =
        (e.specs.filterMap fun v =>
          (v.valueOf (v.itemsFor e.operator (value v.name))).map (v.name, ·), []) := by
      rw [readValues_of_isNamed hop]
      exact readNamed_stream hop h true
    exact readAlone_of_readValues rfl hread

end Expression

end UriTemplate
