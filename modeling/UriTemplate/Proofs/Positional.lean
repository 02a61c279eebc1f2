import UriTemplate.Proofs.Alone
import UriTemplate.Proofs.NamedRoundTrip
import UriTemplate.Proofs.Remaking

set_option autoImplicit false

/-!
Values without names are told apart by their places and by the joiner alone. `Placed` says of which
values this holds: the undefined ones come last, and no value has a joiner where the next value
would begin. An exploded variable stands last, and its members are told apart by the joiner too.
-/

namespace UriTemplate

open Character Text

theorem Text.partition?_append {sep : Char} {left : Text} (h : sep ∉ left) (right : Text) :
    partition? sep (left ++ sep :: right) = some (left, right) := by
  induction left with
  | nil => simp [partition?]
  | cons c left ih =>
    obtain ⟨hne, hleft⟩ : sep ≠ c ∧ sep ∉ left := by simpa using h
    simp [partition?, Ne.symm hne, ih hleft]

theorem Text.partition?_eq_none {sep : Char} {t : Text} (h : sep ∉ t) : partition? sep t = none := by
  cases hp : partition? sep t with
  | none => rfl
  | some cut =>
    obtain ⟨left, right⟩ := cut
    obtain ⟨rfl, -⟩ := partition?_eq_some hp
    simp at h

theorem Item.ofText_text {i : Item} (h : '=' ∉ i.key) : Item.ofText i.text = i := by
  obtain ⟨key, value?⟩ := i
  unfold ofText
  cases value? with
  | none => simp [text, tail, Text.partition?_eq_none h]
  | some value => simp [text, tail, Text.partition?_append h]

def Value.bareItems (op : Operator) : Value → List Item
  | .scalar t => [⟨op.encode t, none⟩]
  | .list members => members.map fun t => ⟨op.encode t, none⟩
  | .mapping entries => entries.map fun d => ⟨op.encode d.1, some (op.encode d.2)⟩

variable {op : Operator} {v : VarSpec} {x : Value}

theorem VarSpec.unitsOf_of_explodes (hn : op.naming = .bare) (he : v.explodes = true) (x : Value) :
    v.unitsOf op (some x) = (x.bareItems op).map Item.text := by
  have hcut : ∀ t : Text, v.cut t = t := cut_of_limit? (limit?_of_explodes he)
  have hunits : v.unitsOf op (some x) = (v.render op x).items := by
    simp [unitsOf, Rendered.units, hn]
  rw [hunits]
  cases x with
  | scalar t => simp [render, Rendered.items, Value.bareItems, Item.text, Item.tail, hcut]
  | list members =>
    simp [render, Rendered.items, Value.bareItems, Item.text, Item.tail, hcut, he]
  | mapping entries =>
    have hpair : ∀ d : Text × Text, op.keypair d = op.encode d.1 ++ '=' :: op.encode d.2 := by
      simp [Operator.keypair, hn]
    simp [render, Rendered.items, Value.bareItems, Item.text, Item.tail, he, hpair]

theorem Value.mem_bareItems {i : Item} (hi : i ∈ x.bareItems op) :
    (∃ k ∈ x.texts, i.key = op.encode k) ∧
      ∀ raw ∈ i.value?, ∃ s ∈ x.texts, raw = op.encode s := by
  cases x with
  | scalar t =>
    cases List.mem_singleton.1 hi
    exact ⟨⟨t, List.mem_singleton_self t, rfl⟩, fun raw hraw => nomatch hraw⟩
  | list members =>
    obtain ⟨t, ht, rfl⟩ := List.mem_map.1 hi
    exact ⟨⟨t, ht, rfl⟩, fun raw hraw => nomatch hraw⟩
  | mapping entries =>
    obtain ⟨d, hd, rfl⟩ := List.mem_map.1 hi
    have hmem : ∀ s ∈ [d.1, d.2], s ∈ Shape.texts (.mapping entries) := fun s hs =>
      List.mem_flatMap.2 ⟨d, hd, hs⟩
    refine ⟨⟨d.1, hmem d.1 (by simp), rfl⟩, fun raw hraw => ⟨d.2, hmem d.2 (by simp), ?_⟩⟩
    exact (Option.some.inj hraw).symm

theorem Value.ofItems_bareItems (hop : op.allowsReserved = false)
    (hseveral : ∀ members, x = .list members → 2 ≤ members.length) (hdefined : x.isDefined = true)
    (hdistinct : x.Distinct) : Value.ofItems (x.bareItems op) = x := by
  have hdecode : ∀ t : Text, Percent.decode (op.encode t) = t := by
    rw [Operator.encode_eq hop]
    exact Percent.decode_encode
  cases x with
  | scalar t => simp [ofItems, bareItems, ofTexts, hdecode]
  | list members =>
    have hmembers : (members.map fun t => (⟨op.encode t, none⟩ : Item)).map
        (fun i => Percent.decode i.key) = members := by
      rw [List.map_map]
      exact (List.map_congr_left fun t _ => hdecode t).trans (List.map_id _)
    unfold ofItems bareItems
    rw [if_neg (by simp), hmembers, ofTexts_of_two_le (hseveral members rfl)]
  | mapping entries =>
    have hentries : (entries.map fun d => (⟨op.encode d.1, some (op.encode d.2)⟩ : Item)).map
        (fun i => (Percent.decode i.key, i.valueText)) = entries := by
      rw [List.map_map]
      refine (List.map_congr_left fun d _ => ?_).trans (List.map_id _)
      exact Prod.ext (hdecode d.1) (hdecode d.2)
    have hany : ((entries.map fun d => (⟨op.encode d.1, some (op.encode d.2)⟩ : Item)).any
        (·.value?.isSome)) = true := by
      obtain ⟨d, rest, rfl⟩ := List.exists_cons_of_ne_nil
        (show entries ≠ [] by simpa [Shape.isDefined] using hdefined)
      rfl
    unfold ofItems bareItems
    rw [if_pos hany, hentries, Assoc.ofList_of_nodup hdistinct]

theorem positionalChar_of_explodes_joiner (op : Operator) (final : Bool) :
    op.positionalChar true final op.joiner = true := by
  simp [Operator.positionalChar]

theorem splitOn_shown {j : Char} {pieces : List Text} (hne : pieces ≠ [])
    (hcomma : ∀ t ∈ pieces, ',' ∉ t) (hj : ∀ t ∈ pieces, j ∉ t) :
    ([j].intercalate pieces).splitOn (if ([j].intercalate pieces).contains j then j else ',') =
      pieces := by
  match pieces, hne with
  | [t], _ =>
    have ht := hj t (List.mem_singleton_self t)
    rw [List.intercalate_singleton, if_neg (by simpa using ht)]
    exact List.splitOn_eq_singleton (hcomma t (List.mem_singleton_self t))
  | t :: u :: rest, hne =>
    rw [if_pos (by simp [List.intercalate_cons_cons])]
    exact List.splitOn_intercalate j hj hne

theorem readPositional_items (he : v.explodes = true) (final : Bool) {items : List Item}
    (hne : items ≠ []) (hkey : ∀ i ∈ items, '=' ∉ i.key) (hcomma : ∀ i ∈ items, ',' ∉ i.text)
    (hjoiner : ∀ i ∈ items, op.joiner ∉ i.text)
    (hunits : ∀ i ∈ items, Units (op.positionalChar true final) i.text) :
    v.readPositional op final ([op.joiner].intercalate (items.map Item.text)) =
      (.ofItems items, []) := by
  have htexts : ∀ {p : Text → Prop}, (∀ i ∈ items, p i.text) → ∀ t ∈ items.map Item.text, p t := by
    intro p h t ht
    obtain ⟨i, hi, rfl⟩ := List.mem_map.1 ht
    exact h i hi
  have hrun := run_of_units (positionalChar_percent op true final)
    (Units.intercalate (positionalChar_of_explodes_joiner op final) (htexts hunits))
    (show unit? _ [] = none from rfl)
  have hsplit := splitOn_shown (by simpa using hne) (htexts hcomma) (htexts hjoiner)
  have hread : (items.map Item.text).map Item.ofText = items := by
    rw [List.map_map]
    exact (List.map_congr_left fun i hi => Item.ofText_text (hkey i hi)).trans (List.map_id _)
  rw [List.append_nil] at hrun
  unfold VarSpec.readPositional
  rw [if_pos he]
  simp only [hrun, hsplit, hread]

/-- Values that come back from their own text: all but the last in front of a joiner, the last one
    from the end of the text. No variable behind that has a value. -/
inductive Restored (op : Operator) (value : Text → Option Value) : List VarSpec → Prop
  | last {v : VarSpec} {later : List VarSpec} {x : Value} (hx : value v.name = some x)
      (hnone : ∀ w ∈ later, value w.name = none) (hne : v.unitsOf op (some x) ≠ [])
      (hread : v.readPositional op later.isEmpty
        ([op.joiner].intercalate (v.unitsOf op (some x))) = (x, [])) :
      Restored op value (v :: later)
  | next {v w : VarSpec} {later : List VarSpec} {x : Value} {raw : Text}
      (hx : value v.name = some x) (hunits : v.unitsOf op (some x) = [raw])
      (hread : ∀ rest, v.readPositional op false (raw ++ op.joiner :: rest) =
        (x, op.joiner :: rest))
      (hlater : Restored op value (w :: later)) : Restored op value (v :: w :: later)

theorem Restored.readPositionals {value : Text → Option Value} {specs : List VarSpec}
    (h : Restored op value specs) :
    (specs.flatMap fun v => v.unitsOf op (value v.name)) ≠ [] ∧
      readPositionals op specs
          ([op.joiner].intercalate (specs.flatMap fun v => v.unitsOf op (value v.name))) =
        (specs.filterMap fun v => (value v.name).map (v.name, ·), []) := by
  induction h with
  | @last v later x hx hnone hne hread =>
    have hnil : (later.flatMap fun v => v.unitsOf op (value v.name)) = [] :=
      List.flatMap_eq_nil_iff.2 fun w hw => by rw [hnone w hw]; rfl
    have hrest : (later.filterMap fun v => (value v.name).map (v.name, ·)) = [] :=
      List.filterMap_eq_nil_iff.2 fun w hw => by rw [hnone w hw]; rfl
    rw [List.flatMap_cons, List.filterMap_cons_some (by rw [hx]; rfl), hnil, hrest, hx,
      List.append_nil]
    refine ⟨hne, ?_⟩
    cases later with
    | nil =>
      rw [List.isEmpty_nil] at hread
      simp only [UriTemplate.readPositionals, hread]
    | cons w later =>
      have hend : [op.joiner].isPrefixOf? ([] : Text) = none := rfl
      rw [List.isEmpty_cons] at hread
      simp only [UriTemplate.readPositionals, hread, hend]
  | @next v w later x raw hx hunits hread _ ih =>
    obtain ⟨hne, hlater⟩ := ih
    have hbehind : ∀ t : Text, [op.joiner].isPrefixOf? (op.joiner :: t) = some t :=
      fun _ => List.isPrefixOf?_eq_some_iff_append_eq.2 rfl
    rw [List.flatMap_cons, hx, hunits, List.filterMap_cons_some (by rw [hx]; rfl)]
    refine ⟨List.cons_ne_nil raw _, ?_⟩
    rw [List.singleton_append, List.intercalate_cons_of_ne_nil hne, List.append_assoc,
      List.singleton_append]
    simp only [UriTemplate.readPositionals, hread, hbehind, hlater]
    rfl

theorem readPositional_joiner (hop : op.allowsReserved = false) (hmod : v.modifier = .none)
    {raw : Text} (hcanonical : Percent.Canonical (· = ',') raw) (hjoiner : op.joiner ∉ raw)
    (rest : Text) :
    v.readPositional op false (raw ++ op.joiner :: rest) = (.ofRaw raw, op.joiner :: rest) :=
  readPositional_canonical hop hmod hcanonical (.inr hjoiner)
    (unit?_cons_eq_none (positionalChar_joiner op) op.joiner_outside_escapes.1 rest)

/-- Values that come back one by one come back together, if the undefined ones come last. Only the
    last value may be several units, or have a joiner. -/
theorem restored_of_leading (hop : op.allowsReserved = false) {value : Text → Option Value}
    {specs : List VarSpec} (hne : specs ≠ []) (hfirst : ∀ v ∈ specs.head?, value v.name ≠ none)
    (hleading : specs.Pairwise fun v w => value v.name = none → value w.name = none)
    (hinit : ∀ v ∈ specs.dropLast, v.modifier = .none ∧ ∀ x, value v.name = some x → ∃ raw,
      v.unitsOf op (some x) = [raw] ∧ Percent.Canonical (· = ',') raw ∧ op.joiner ∉ raw ∧
        Value.ofRaw raw = x)
    (hlast : ∀ v ∈ specs.getLast?, ∀ x, value v.name = some x → v.unitsOf op (some x) ≠ [] ∧
      v.readPositional op true ([op.joiner].intercalate (v.unitsOf op (some x))) = (x, [])) :
    Restored op value specs := by
  induction specs with
  | nil => exact absurd rfl hne
  | cons v later ih =>
    obtain ⟨hv, hlater⟩ := List.pairwise_cons.1 hleading
    obtain ⟨x, hx⟩ := Option.ne_none_iff_exists'.1 (hfirst v rfl)
    cases later with
    | nil =>
      obtain ⟨hunits, hread⟩ := hlast v rfl x hx
      exact .last hx (fun w hw => absurd hw List.not_mem_nil) hunits hread
    | cons next later =>
      obtain ⟨hmod, hraw⟩ := hinit v List.mem_cons_self
      obtain ⟨raw, hunits, hcanonical, hjoiner, rfl⟩ := hraw x hx
      by_cases hnext : value next.name = none
      · -- Nothing is defined behind this value.
        have hnone : ∀ w ∈ next :: later, value w.name = none := by
          intro w hw
          rcases List.mem_cons.1 hw with rfl | hw
          · exact hnext
          · exact (List.pairwise_cons.1 hlater).1 w hw hnext
        have hread := readPositional_canonical hop hmod hcanonical (.inr hjoiner)
          (show unit? (op.positionalChar false false) [] = none from rfl)
        refine .last hx hnone (hunits ▸ List.cons_ne_nil raw []) ?_
        rw [hunits, List.intercalate_singleton]
        rwa [List.append_nil] at hread
      · exact .next hx hunits (readPositional_joiner hop hmod hcanonical hjoiner)
          (ih (List.cons_ne_nil next later) (fun w hw => Option.mem_some_iff.1 hw ▸ hnext) hlater
            (fun w hw => hinit w (List.mem_cons_of_mem v hw)) hlast)

theorem VarSpec.modifier_eq_none (hlimit : v.limit? = none) (he : v.explodes = false) :
    v.modifier = .none := by
  unfold limit? at hlimit
  unfold explodes at he
  cases hm : v.modifier with
  | none => rfl
  | explode =>
    rw [hm] at he
    cases he
  | first count positive =>
    rw [hm] at hlimit
    cases hlimit

theorem mem_commas {c : Char} (hc : c ≠ ',') {pieces : List Text} (h : c ∈ commas pieces) :
    ∃ piece ∈ pieces, c ∈ piece := by
  match pieces with
  | [] => cases h
  | [piece] => exact ⟨piece, List.mem_singleton_self piece, by simpa [commas] using h⟩
  | piece :: next :: rest =>
    rw [commas, List.intercalate_cons_cons, List.append_assoc, List.mem_append,
      List.singleton_append, List.mem_cons] at h
    rcases h with h | h | h
    · exact ⟨piece, List.mem_cons_self, h⟩
    · exact absurd h hc
    · obtain ⟨p, hp, hmem⟩ := mem_commas hc h
      exact ⟨p, List.mem_cons_of_mem piece hp, hmem⟩

theorem Value.eq_ofRaw (hop : op.allowsReserved = false)
    (hseveral : ∀ members, x = .list members → 2 ≤ members.length)
    (hmapping : ∀ entries, x ≠ .mapping entries) :
    x = Value.ofRaw (commas (x.texts.map op.encode)) := by
  rw [Operator.encode_eq hop]
  cases x with
  | scalar t => exact (ofRaw_commas (List.cons_ne_nil t [])).symm
  | list members =>
    have htwo := hseveral members rfl
    have hne : members ≠ [] := by
      rintro rfl
      cases htwo
    exact ((ofRaw_commas hne).trans (ofTexts_of_two_le htwo)).symm
  | mapping entries => exact absurd rfl (hmapping entries)

theorem Value.not_mem_text_bareItems {c : Char} (hc : c ≠ '=') (h : ∀ s ∈ x.texts, c ∉ op.encode s) :
    ∀ i ∈ x.bareItems op, c ∉ i.text := by
  intro i hi hmem
  obtain ⟨⟨k, hk, hkey⟩, hvalue⟩ := mem_bareItems hi
  rw [Item.text, hkey] at hmem
  rcases List.mem_append.1 hmem with hmem | hmem
  · exact h k hk hmem
  · unfold Item.tail at hmem
    cases hv : i.value? with
    | none =>
      rw [hv] at hmem
      cases hmem
    | some raw =>
      rw [hv] at hmem
      obtain ⟨s, hs, rfl⟩ := hvalue raw hv
      rcases List.mem_cons.1 hmem with rfl | hmem
      · exact hc rfl
      · exact h s hs hmem

theorem Value.units_bareItems (hop : op.allowsReserved = false) (final : Bool) :
    ∀ i ∈ x.bareItems op, Units (op.positionalChar true final) i.text := by
  have hencode : ∀ t : Text, Units (op.positionalChar true final) (op.encode t) := by
    intro t
    rw [Operator.encode_eq hop]
    refine (Percent.encode_units isUnreserved t).mono fun c _ hc => ?_
    simp [Operator.positionalChar, hc]
  intro i hi
  obtain ⟨⟨k, -, hkey⟩, hvalue⟩ := mem_bareItems hi
  rw [Item.text, hkey]
  refine (hencode k).append ?_
  unfold Item.tail
  cases hv : i.value? with
  | none => exact .nil
  | some raw =>
    obtain ⟨s, -, rfl⟩ := hvalue raw hv
    exact .char (by simp [Operator.positionalChar]) (hencode s)

theorem bare_of_mem (hop : op ∈ [Operator.plain, .path, .label]) :
    op.naming = .bare ∧ op.allowsReserved = false ∧ (op ≠ .plain → op.leader ≠ []) := by
  revert hop
  cases op <;> decide

theorem VarSpec.Yields.readPositional_unitsOf (h : v.Yields x)
    (hop : op ∈ [Operator.plain, .path, .label]) (he : v.explodes = true)
    (hapart : ∀ t ∈ x.texts, op.joiner ∉ op.encode t) (final : Bool) :
    v.unitsOf op (some x) ≠ [] ∧
      v.readPositional op final ([op.joiner].intercalate (v.unitsOf op (some x))) = (x, []) := by
  obtain ⟨hn, hres, -⟩ := bare_of_mem hop
  have hencode : ∀ {c : Char}, isUnreserved c = false → c ≠ '%' → ∀ t : Text, c ∉ op.encode t := by
    intro c hu hp
    rw [Operator.encode_eq hres]
    exact Percent.not_mem_encode hu hp
  have hitems : x.bareItems op ≠ [] := by
    have hdefined := h.defined
    cases x with
    | scalar t => exact List.cons_ne_nil _ _
    | list members => simpa [Value.bareItems, Shape.isDefined] using hdefined
    | mapping entries => simpa [Value.bareItems, Shape.isDefined] using hdefined
  have hread := readPositional_items he final hitems
    (fun i hi => by
      obtain ⟨⟨k, -, hkey⟩, -⟩ := Value.mem_bareItems hi
      rw [hkey]
      exact hencode (by decide) (by decide) k)
    (Value.not_mem_text_bareItems (by decide) fun t _ => hencode (by decide) (by decide) t)
    (Value.not_mem_text_bareItems (by cases op <;> decide) hapart)
    (Value.units_bareItems hres final)
  rw [Value.ofItems_bareItems hres h.several h.defined h.distinct] at hread
  rw [VarSpec.unitsOf_of_explodes hn he]
  exact ⟨by simpa using hitems, hread⟩

namespace Expression

/-- Values that a positional expression tells apart. -/
structure Placed (e : Expression) (value : Text → Option Value) : Prop where
  unlimited : ∀ v ∈ e.specs, v.limit? = none
  compact : ∀ v ∈ e.specs.dropLast, v.explodes = false
  leading : e.specs.Pairwise fun v w => value v.name = none → value w.name = none
  /-- Without a leader, something is defined. -/
  shown : e.operator = .plain → ∃ v ∈ e.specs, value v.name ≠ none
  several : ∀ v ∈ e.specs, ∀ members, value v.name = some (.list members) → 2 ≤ members.length
  exploded : ∀ v ∈ e.specs, ∀ entries, value v.name = some (.mapping entries) → v.explodes = true
  /-- Where commas join the values, only the last may be a list. -/
  single : e.operator = .plain → ∀ v ∈ e.specs.dropLast, ∀ x, value v.name = some x →
    ∃ t, x = .scalar t
  /-- Where dots join the values, they are only in the last, and in no member of it. -/
  dotless : e.operator = .label → ∀ v ∈ e.specs, v ∈ e.specs.dropLast ∨ v.explodes = true →
    ∀ x, value v.name = some x → ∀ t ∈ x.texts, '.' ∉ t

variable {e : Expression} {value : Text → Option Value}

theorem Placed.not_mem_encode (h : e.Placed value) (hop : e.operator ∈ [.plain, .path, .label])
    (hv : v ∈ e.specs) (hplace : v ∈ e.specs.dropLast ∨ v.explodes = true)
    (hx : value v.name = some x) : ∀ t ∈ x.texts, e.operator.joiner ∉ e.operator.encode t := by
  intro t ht
  have hdots := fun hlabel => h.dotless hlabel v hv hplace x hx t ht
  generalize e.operator = op at hop hdots
  simp only [List.mem_cons, List.not_mem_nil, or_false] at hop
  rcases hop with rfl | rfl | rfl
  · exact Percent.not_mem_encode (by decide) (by decide) t
  · exact Percent.not_mem_encode (by decide) (by decide) t
  · exact fun hmem => hdots rfl (Percent.mem_of_mem_encode (by decide) (by decide) hmem)

theorem Placed.joiner_not_mem (h : e.Placed value) (hop : e.operator ∈ [.plain, .path, .label])
    (hv : v ∈ e.specs.dropLast) (hx : value v.name = some x) :
    e.operator.joiner ∉ commas (x.texts.map e.operator.encode) := by
  have hapart := h.not_mem_encode hop ((List.dropLast_sublist e.specs).subset hv) (.inl hv) hx
  by_cases hcomma : e.operator.joiner = ','
  · have hplain : e.operator = .plain := by
      revert hop hcomma
      cases e.operator <;> decide
    obtain ⟨t, rfl⟩ := h.single hplain v hv x hx
    simpa [commas, Shape.texts] using hapart
  · intro hmem
    obtain ⟨piece, hpiece, hmem⟩ := mem_commas hcomma hmem
    obtain ⟨t, ht, rfl⟩ := List.mem_map.1 hpiece
    exact hapart t ht hmem

theorem Placed.exists_raw (h : e.Placed value) (hop : e.operator ∈ [.plain, .path, .label])
    (hv : v ∈ e.specs) (hmod : v.modifier = .none) (hx : value v.name = some x) :
    ∃ raw, raw = commas (x.texts.map e.operator.encode) ∧ Percent.Canonical (· = ',') raw ∧
      v.unitsOf e.operator (some x) = [raw] ∧ Value.ofRaw raw = x := by
  obtain ⟨hn, hres, -⟩ := bare_of_mem hop
  have hcanonical : Percent.Canonical (· = ',') (commas (x.texts.map e.operator.encode)) := by
    refine commas_canonical fun piece hpiece => ?_
    obtain ⟨t, -, rfl⟩ := List.mem_map.1 hpiece
    exact Operator.encode_canonical hres t
  have hmapping : ∀ entries, x ≠ .mapping entries := by
    rintro entries rfl
    have he := h.exploded v hv entries hx
    rw [VarSpec.explodes_of_none hmod] at he
    cases he
  have hvalue : x = Value.ofRaw (commas (x.texts.map e.operator.encode)) := by
    refine Value.eq_ofRaw hres (fun members hmembers => ?_) hmapping
    exact h.several v hv members (hmembers ▸ hx)
  refine ⟨_, rfl, hcanonical, ?_, hvalue.symm⟩
  have hunits := VarSpec.unitsOf_ofRaw hn hres hmod hcanonical
  rwa [← hvalue] at hunits

theorem Placed.readPositional_last (h : e.Placed value)
    (hop : e.operator ∈ [.plain, .path, .label]) (hv : v ∈ e.specs) (hx : value v.name = some x)
    (hdefined : x.isDefined = true ∧ x.Distinct) :
    v.unitsOf e.operator (some x) ≠ [] ∧
      v.readPositional e.operator true
        ([e.operator.joiner].intercalate (v.unitsOf e.operator (some x))) = (x, []) := by
  obtain ⟨hn, hres, -⟩ := bare_of_mem hop
  cases he : v.explodes with
  | false =>
    have hmod := VarSpec.modifier_eq_none (h.unlimited v hv) he
    obtain ⟨raw, -, hcanonical, hunits, hvalue⟩ := h.exists_raw hop hv hmod hx
    have hread := readPositional_canonical hres hmod hcanonical (.inl rfl)
      (show unit? (e.operator.positionalChar false true) [] = none from rfl)
    rw [List.append_nil, hvalue] at hread
    rw [hunits, List.intercalate_singleton]
    exact ⟨List.cons_ne_nil raw [], hread⟩
  | true =>
    have hyields : v.Yields x :=
      ⟨hdefined.1, hdefined.2, fun members hm => h.several v hv members (hm ▸ hx), fun _ _ => he⟩
    exact hyields.readPositional_unitsOf hop he (h.not_mem_encode hop hv (.inr he) hx) true

theorem Placed.readAlone (h : e.Placed value) (hop : e.operator ∈ [.plain, .path, .label])
    (hne : e.specs ≠ [])
    (hdefined : ∀ v ∈ e.specs, ∀ x, value v.name = some x → x.isDefined = true ∧ x.Distinct) :
    (e.readAlone (e.write value)).1 =
        e.specs.filterMap (fun v => (value v.name).map (v.name, ·)) ∧
      (e.readAlone (e.write value)).2.pos = (e.write value).length := by
  obtain ⟨hn, hres, hleader⟩ := bare_of_mem hop
  by_cases hfirst : ∀ v ∈ e.specs.head?, value v.name ≠ none
  · have hrestored := restored_of_leading hres hne hfirst h.leading
      (fun v hv => by
        have hmem := (List.dropLast_sublist e.specs).subset hv
        have hmod := VarSpec.modifier_eq_none (h.unlimited v hmem) (h.compact v hv)
        refine ⟨hmod, fun x hx => ?_⟩
        obtain ⟨raw, hraw, hcanonical, hunits, hvalue⟩ := h.exists_raw hop hmem hmod hx
        exact ⟨raw, hunits, hcanonical, hraw ▸ h.joiner_not_mem hop hv hx, hvalue⟩)
      (fun v hv x hx =>
        have hmem := List.mem_of_getLast? hv
        h.readPositional_last hop hmem hx (hdefined v hmem x hx))
    obtain ⟨hunits, hread⟩ := hrestored.readPositionals
    have hwrite : e.write value = e.operator.leader ++ [e.operator.joiner].intercalate
        (e.specs.flatMap fun v => v.unitsOf e.operator (value v.name)) := by
      unfold write assemble
      rw [if_neg (by simpa using hunits)]
    have hvalues : e.readValues (.ofOperator e.operator) ([e.operator.joiner].intercalate
        (e.specs.flatMap fun v => v.unitsOf e.operator (value v.name))) =
        (e.specs.filterMap (fun v => (value v.name).map (v.name, ·)), []) := by
      rw [readValues_of_not_isNamed (Operator.isNamed_eq_false_iff.2 hn)]
      exact hread
    exact readAlone_of_readValues hwrite hvalues
  · -- Nothing is defined, and the expression is absent.
    obtain ⟨v, later, hspecs⟩ := List.exists_cons_of_ne_nil hne
    have hnone : ∀ w ∈ e.specs, value w.name = none := by
      have hleading := h.leading
      rw [hspecs] at hleading hfirst ⊢
      have hv : value v.name = none := by simpa using hfirst
      intro w hw
      rcases List.mem_cons.1 hw with rfl | hw
      · exact hv
      · exact (List.pairwise_cons.1 hleading).1 w hw hv
    have hplain : e.operator ≠ .plain := by
      intro hplain
      obtain ⟨w, hw, hdef⟩ := h.shown hplain
      exact hdef (hnone w hw)
    obtain ⟨hcaptured, hpos⟩ := readAlone_nil (hleader hplain)
    rw [write_eq_nil hnone, hcaptured, hpos]
    exact ⟨(List.filterMap_eq_nil_iff.2 fun w hw => by rw [hnone w hw]; rfl).symm, rfl⟩

end Expression

namespace Template

/-- A positional expression recovers the values that it tells apart, in the order of declaration. -/
theorem match?_expand_of_placed {source : Text} {config : Config} {t : Template}
    (ht : Template.ofText source config = .ok t) {e : Expression} (he : t.nodes = [.expression e])
    (hop : e.operator ∈ [.plain, .path, .label]) {bindings : List (Datum × Datum)}
    {named : Assoc Text Datum} (hnamed : Datum.nameKeys bindings = .ok named)
    {value : Text → Option Value} (hvalue : Gives named e.specs value) (h : e.Placed value) :
    ∃ uri m, t.expand bindings (some false) {} = .ok uri ∧ t.match? uri = some m ∧
      m.bindings = e.specs.filterMap fun v => (value v.name).map (v.name, ·) := by
  obtain ⟨hne, hnames, -⟩ := specs_wellFormed ht he
  obtain ⟨hcaptured, hpos⟩ := h.readAlone hop hne fun v hv x hx => hvalue.defined hv hx
  refine ⟨_, _, expand_of_nodes_eq he hnamed hvalue, match?_of_pos_eq he hpos, ?_⟩
  change Assoc.ofList (e.readAlone (e.write value)).1 = _
  rw [hcaptured]
  exact Assoc.ofList_of_nodup ((keys_defined e.specs value).nodup hnames)

theorem match?_expand_of_placed_path :
    let e : Expression := ⟨.path, [⟨['a'], .none⟩, ⟨['l'], .none⟩, ⟨['m'], .explode⟩]⟩
    let t : Template := ⟨"{/a,l,m*}".toList, [.expression e], {}⟩
    let b : Assoc Text Value := [(['a'], .scalar []), (['l'], .list ["x/y".toList, ['z']]),
      (['m'], .mapping [([], "k=v".toList), ("é,".toList, [])])]
    Template.ofText t.source {} = .ok t ∧ e.operator ∈ [.plain, .path, .label] ∧
      Datum.nameKeys (Datum.keyed (Datum.ofValues b)) = .ok (Datum.ofValues b) ∧
      Gives (Datum.ofValues b) e.specs b.find? ∧ e.Placed b.find? ∧
      ∃ uri m, t.expand (Datum.keyed (Datum.ofValues b)) (some false) {} = .ok uri ∧
        t.match? uri = some m ∧
        m.bindings = e.specs.filterMap fun v => (b.find? v.name).map (v.name, ·) := by
  intro e t b
  have ht : Template.ofText t.source {} = .ok t := by with_unfolding_all rfl
  have hop : e.operator ∈ [Operator.plain, .path, .label] := by decide
  have hnamed : Datum.nameKeys (Datum.keyed (Datum.ofValues b)) = .ok (Datum.ofValues b) :=
    Datum.nameKeys_keyed (by decide)
  have hspecs : ∀ {p : VarSpec → Prop}, p ⟨['a'], .none⟩ → p ⟨['l'], .none⟩ →
      p ⟨['m'], .explode⟩ → ∀ v ∈ e.specs, p v := by
    intro p ha hl hm v hv
    simp only [e, List.mem_cons, List.not_mem_nil, or_false] at hv
    rcases hv with rfl | rfl | rfl
    · exact ha
    · exact hl
    · exact hm
  have hvalue : Gives (Datum.ofValues b) e.specs b.find? := hspecs rfl rfl rfl
  have hplaced : e.Placed b.find? := {
    unlimited := hspecs rfl rfl rfl
    compact := by decide
    leading := by simp [e, b, Assoc.find?]
    shown := fun h => nomatch h
    several := by
      refine hspecs ?_ ?_ ?_
      all_goals
        rintro members ⟨⟩
      exact Nat.le_refl 2
    exploded := by
      refine hspecs ?_ ?_ ?_
      all_goals
        rintro entries ⟨⟩
      rfl
    single := fun h => nomatch h
    dotless := fun h => nomatch h }
  exact ⟨ht, hop, hnamed, hvalue, hplaced, match?_expand_of_placed ht rfl hop hnamed hvalue hplaced⟩

end Template

end UriTemplate
