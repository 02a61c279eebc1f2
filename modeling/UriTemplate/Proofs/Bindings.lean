import UriTemplate.Coercion

set_option autoImplicit false

namespace UriTemplate

namespace Assoc

variable {κ α β : Type}

theorem keys_map (m : Assoc κ α) (f : α → β) :
    keys (m.map fun e => (e.1, f e.2)) = keys m := by
  simp [keys]

variable [DecidableEq κ]

theorem find?_map (m : Assoc κ α) (f : α → β) (name : κ) :
    find? (m.map fun e => (e.1, f e.2)) name = (find? m name).map f := by
  induction m with
  | nil => rfl
  | cons e rest ih =>
    by_cases h : e.1 = name
    · simp [find?, h]
    · simpa [find?, h] using ih

theorem find?_eq_none_iff {m : Assoc κ α} {name : κ} : find? m name = none ↔ name ∉ keys m := by
  induction m with
  | nil => simp [find?, keys]
  | cons e rest ih =>
    by_cases h : e.1 = name
    · simp [find?, keys, h]
    · simpa [find?, keys, h, Ne.symm h] using ih

theorem mem_of_find?_eq_some {m : Assoc κ α} {name : κ} {value : α} (h : find? m name = some value) :
    (name, value) ∈ m := by
  induction m with
  | nil => cases h
  | cons e rest ih =>
    by_cases hk : e.1 = name
    · have hvalue : e.2 = value := by simpa [find?, hk] using h
      exact hk ▸ hvalue ▸ List.mem_cons_self
    · exact List.mem_cons_of_mem e (ih (by simpa [find?, hk] using h))

theorem find?_putAll (m : Assoc κ α) (entries : List (κ × α)) (name : κ) :
    (m.putAll entries).find? name = ((ofList entries).find? name).or (m.find? name) := by
  induction entries generalizing m with
  | nil => rfl
  | cons e rest ih =>
    have hm : m.putAll (e :: rest) = (m.put e.1 e.2).putAll rest := rfl
    have hnil : ofList (e :: rest) = (put [] e.1 e.2).putAll rest := rfl
    rw [hm, hnil, ih, ih (put [] e.1 e.2), find?_put, find?_put]
    by_cases h : e.1 = name
    · simp [h]
    · simp [h, find?]

theorem putAll_append (m : Assoc κ α) (first last : List (κ × α)) :
    m.putAll (first ++ last) = (m.putAll first).putAll last := List.foldl_append

theorem put_of_not_mem {m : Assoc κ α} {name : κ} (h : name ∉ keys m) (value : α) :
    m.put name value = m ++ [(name, value)] := by
  induction m with
  | nil => rfl
  | cons e rest ih =>
    obtain ⟨hne, hrest⟩ : name ≠ e.1 ∧ name ∉ keys rest := by simpa [keys] using h
    simp [put, Ne.symm hne, ih hrest]

theorem putAll_of_nodup {m : Assoc κ α} {entries : List (κ × α)}
    (h : (keys (m ++ entries)).Nodup) : m.putAll entries = m ++ entries := by
  induction entries generalizing m with
  | nil => simp [putAll]
  | cons e rest ih =>
    have hput : m.put e.1 e.2 = m ++ [e] := by
      refine put_of_not_mem (fun hm => ?_) e.2
      rw [keys, List.map_append] at h
      exact (List.nodup_append.1 h).2.2 _ hm _ List.mem_cons_self rfl
    have hstep : m.putAll (e :: rest) = (m ++ [e]).putAll rest := by rw [← hput]; rfl
    rw [hstep, ih (by simpa using h), List.append_assoc]
    rfl

theorem ofList_of_nodup {entries : List (κ × α)} (h : (keys entries).Nodup) :
    ofList entries = entries := putAll_of_nodup (m := []) h

theorem mem_keys_putAll {m : Assoc κ α} {entries : List (κ × α)} {name : κ} :
    name ∈ (m.putAll entries).keys ↔ name ∈ keys m ∨ name ∈ keys entries := by
  induction entries generalizing m with
  | nil => simp [putAll, keys]
  | cons e rest ih =>
    have hput : name ∈ (m.put e.1 e.2).keys ↔ name ∈ keys m ∨ name = e.1 := by
      rw [keys_put]
      split <;> grind
    have hstep : m.putAll (e :: rest) = (m.put e.1 e.2).putAll rest := rfl
    rw [hstep, ih, hput]
    simp [keys, or_assoc]

theorem mem_keys_ofList {entries : List (κ × α)} {name : κ} :
    name ∈ (ofList entries).keys ↔ name ∈ keys entries := by
  unfold ofList
  rw [mem_keys_putAll]
  simp [keys]

theorem find?_putAll_of_not_mem (m : Assoc κ α) {entries : Assoc κ α} {name : κ}
    (h : name ∉ keys entries) : (m.putAll entries).find? name = m.find? name := by
  rw [find?_putAll, find?_eq_none_iff.2 fun hm => h (mem_keys_ofList.1 hm)]
  rfl

theorem nodup_keys_ofList (entries : List (κ × α)) : (ofList entries).keys.Nodup :=
  nodup_keys_putAll (m := []) List.nodup_nil entries

end Assoc

/-- Mappings with one item for each key. -/
def Shape.Distinct {τ : Type} : Shape τ → Prop
  | .mapping entries => (Assoc.keys entries).Nodup
  | _ => True

theorem bind_eq_ok {ε α β : Type} {x : Except ε α} {f : α → Except ε β} {b : β} :
    x >>= f = .ok b ↔ ∃ a, x = .ok a ∧ f a = .ok b := by
  cases x with
  | error e => simp [bind, Except.bind]
  | ok a => simp [bind, Except.bind]

theorem mapM_eq_ok {ε α β : Type} {f : α → Except ε β} {g : α → β} {items : List α}
    (h : ∀ a ∈ items, f a = .ok (g a)) : items.mapM f = .ok (items.map g) := by
  induction items with
  | nil => rfl
  | cons a items ih =>
    rw [List.mapM_cons, h a List.mem_cons_self, ih fun b hb => h b (List.mem_cons_of_mem _ hb)]
    rfl

theorem exists_of_mapM_eq_ok {ε α β : Type} {f : α → Except ε β} {items : List α}
    {results : List β} (h : items.mapM f = .ok results) : ∀ a ∈ items, ∃ b, f a = .ok b := by
  induction items generalizing results with
  | nil => simp
  | cons a items ih =>
    rw [List.mapM_cons] at h
    obtain ⟨b, ha, h⟩ := bind_eq_ok.1 h
    obtain ⟨bs, hrest, -⟩ := bind_eq_ok.1 h
    intro c hc
    rcases List.mem_cons.1 hc with rfl | hc
    · exact ⟨b, ha⟩
    · exact ih hrest c hc

namespace Datum

/-- Bindings whose keys are texts. -/
def keyed {α : Type} (named : Assoc Text α) : List (Datum × α) :=
  named.map fun e => (.text e.1, e.2)

def ofValues (values : Assoc Text Value) : Assoc Text Datum :=
  values.map fun e => (e.1, .ofValue e.2)

theorem nameKeys_keyed {α : Type} {named : Assoc Text α} (h : named.keys.Nodup) :
    nameKeys (keyed named) = .ok named := by
  have hread : (keyed named).mapM (fun e => do
      return (← nameKeys.keyName e.1, e.2)) = .ok named := by
    unfold keyed
    induction named with
    | nil => rfl
    | cons e rest ih =>
      rw [List.map_cons, List.mapM_cons, ih (List.nodup_cons.1 h).2]
      rfl
  unfold nameKeys
  rw [hread]
  exact congrArg Except.ok (Assoc.ofList_of_nodup h)

theorem mapM_text (name : Text) (items : List Text) :
    (items.map Datum.text).mapM (toPart name) = .ok items := by
  rw [List.mapM_map]
  exact (mapM_eq_ok (g := id) fun _ _ => rfl).trans (by rw [List.map_id])

theorem mapM_entry (name : Text) (entries : Assoc Text Text) :
    (entries.map fun e => (Datum.text e.1, Datum.text e.2)).mapM (toEntry name) = .ok entries := by
  rw [List.mapM_map]
  exact (mapM_eq_ok (g := id) fun _ _ => rfl).trans (by rw [List.map_id])

theorem coerce_ofValue (name : Text) {value : Value} (h : value.Distinct) :
    (ofValue value).coerce name = .ok value.ifDefined := by
  cases value with
  | scalar t => rfl
  | list items =>
    change ((items.map Datum.text).mapM (toPart name) >>= _) = _
    rw [mapM_text]
    rfl
  | mapping entries =>
    change ((entries.map fun e => (Datum.text e.1, Datum.text e.2)).mapM (toEntry name) >>= _) = _
    rw [mapM_entry]
    exact congrArg (fun m => Except.ok (Shape.ifDefined (.mapping m))) (Assoc.ofList_of_nodup h)

theorem exists_coerce_ofValue (name : Text) (value : Value) :
    ∃ x, (ofValue value).coerce name = .ok x := by
  cases value with
  | scalar t => exact ⟨_, rfl⟩
  | list items =>
    refine ⟨Shape.ifDefined (.list items), ?_⟩
    change ((items.map Datum.text).mapM (toPart name) >>= _) = _
    rw [mapM_text]
    rfl
  | mapping entries =>
    refine ⟨Shape.ifDefined (.mapping (Assoc.ofList entries)), ?_⟩
    change ((entries.map fun e => (Datum.text e.1, Datum.text e.2)).mapM (toEntry name) >>= _) = _
    rw [mapM_entry]
    rfl

theorem ifDefined_eq_some {value given : Value} (h : value.ifDefined = some given) :
    value = given ∧ given.isDefined = true := by
  unfold Shape.ifDefined at h
  split at h
  · next hd =>
    cases h
    exact ⟨rfl, hd⟩
  · cases h

theorem coerce_eq_some {d : Datum} {name : Text} {value : Value}
    (h : d.coerce name = .ok (some value)) : value.isDefined = true ∧ value.Distinct := by
  have hvalue : ∀ d : Datum, d.toValue name = .ok (some value) →
      value.isDefined = true ∧ value.Distinct := by
    intro d h
    unfold toValue at h
    split at h
    · obtain ⟨read, -, h⟩ := bind_eq_ok.1 h
      obtain ⟨rfl, hdef⟩ := ifDefined_eq_some (Except.ok.inj h)
      exact ⟨hdef, Assoc.nodup_keys_ofList read⟩
    split at h
    · obtain ⟨read, -, h⟩ := bind_eq_ok.1 h
      obtain ⟨rfl, hdef⟩ := ifDefined_eq_some (Except.ok.inj h)
      exact ⟨hdef, trivial⟩
    · obtain ⟨t, -, h⟩ := bind_eq_ok.1 h
      cases h
      exact ⟨rfl, trivial⟩
  unfold coerce at h
  split at h
  · cases h
  · exact hvalue _ h

end Datum

end UriTemplate
