import UriTemplate.Proofs.Alone
import UriTemplate.Proofs.Items

set_option autoImplicit false

namespace UriTemplate

open Text Character

namespace Assoc

variable {κ α : Type} [DecidableEq κ]

theorem find?_ofList (entries : List (κ × α)) (name : κ) :
    (ofList entries).find? name = (entries.reverse.find? (·.1 = name)).map (·.2) := by
  induction entries with
  | nil => rfl
  | cons e rest ih =>
    have hfirst : ofList (e :: rest) = (put [] e.1 e.2).putAll rest := rfl
    rw [hfirst, find?_putAll, ih, find?_put, List.reverse_cons, List.find?_append]
    cases rest.reverse.find? (·.1 = name) with
    | some last => rfl
    | none => by_cases h : e.1 = name <;> simp [h, find?]

end Assoc

theorem assigned_singleton {v : VarSpec} (hv : v.explodes = true) {items : List Item}
    (hsound : ∀ i ∈ items, i.Sound) : Assigned (fun _ => items) [v] := by
  refine ⟨hsound, ?_, trivial⟩
  rw [if_pos hv]
  exact ⟨fun i _ => List.not_mem_nil, fun i hi => nomatch hi⟩

theorem Expression.readAlone_of_items {e : Expression} (hop : e.operator.isNamed = true) {x : Text}
    (hspecs : e.specs = [⟨x, .explode⟩]) {items : List Item} (hne : items ≠ [])
    (hsound : ∀ i ∈ items, i.Sound) {uri : Text}
    (huri : uri = e.operator.leader ++ [e.operator.joiner].intercalate (items.map Item.text)) :
    (e.readAlone uri).1 = [(x, .ofNamedItems x items)] ∧ (e.readAlone uri).2.pos = uri.length := by
  obtain ⟨i, rest, rfl⟩ := List.exists_cons_of_ne_nil hne
  have hread := readNamed_stream hop (assigned_singleton (v := ⟨x, .explode⟩) rfl hsound) true
  rw [← stream_true] at huri
  refine readAlone_of_readValues huri ?_
  rw [readValues_of_isNamed hop, hspecs]
  rwa [List.flatMap_singleton] at hread

namespace Template

/-- What a single exploded variable binds: its members if every item carries its name, a mapping if
    some item does not and some has an equals sign, and the keys where there is no equals sign. -/
theorem match?_of_items {t : Template} {e : Expression} (he : t.nodes = [.expression e])
    (hop : e.operator.isNamed = true) {x : Text} (hspecs : e.specs = [⟨x, .explode⟩])
    {items : List Item} (hne : items ≠ []) (hsound : ∀ i ∈ items, i.Sound) {uri : Text}
    (huri : uri = e.operator.leader ++ [e.operator.joiner].intercalate (items.map Item.text)) :
    ∃ m, t.match? uri = some m ∧
      ((∀ i ∈ items, i.key = x) → m.bindings = [(x, .ofTexts (items.map Item.valueText))]) ∧
      ((∃ i ∈ items, i.key ≠ x) → (∃ i ∈ items, i.value? ≠ none) →
        ∃ entries : Assoc Text Text, m.bindings = [(x, .mapping entries)] ∧ entries.keys.Nodup ∧
          ∀ key, entries.find? key =
            (items.reverse.find? (Percent.decode ·.key = key)).map Item.valueText) ∧
      ((∃ i ∈ items, i.key ≠ x) → (∀ i ∈ items, i.value? = none) →
        m.bindings = [(x, .ofTexts (items.map fun i => Percent.decode i.key))]) := by
  obtain ⟨hread, hpos⟩ := Expression.readAlone_of_items hop hspecs hne hsound huri
  have hbindings : Assoc.ofList (e.readAlone uri).1 = [(x, .ofNamedItems x items)] := by
    rw [hread]
    rfl
  refine ⟨_, match?_of_pos_eq he hpos, ?_, ?_, ?_⟩
  · intro hown
    have hall : items.all (·.key = x) = true := by simpa using hown
    rw [hbindings, Value.ofNamedItems, if_pos hall]
  · intro hother hequals
    have hall : ¬ items.all (·.key = x) = true := by simpa using hother
    have hany : items.any (·.value?.isSome) = true := by
      simpa [Option.isSome_iff_ne_none] using hequals
    refine ⟨Assoc.ofList (items.map fun i => (Percent.decode i.key, i.valueText)), ?_,
      Assoc.nodup_keys_ofList _, fun key => ?_⟩
    · rw [hbindings, Value.ofNamedItems, if_neg hall, Value.ofItems, if_pos hany]
    · rw [Assoc.find?_ofList, ← List.map_reverse, List.find?_map, Option.map_map]
      rfl
  · intro hother hbare
    have hall : ¬ items.all (·.key = x) = true := by simpa using hother
    have hany : ¬ items.any (·.value?.isSome) = true := by simpa using hbare
    rw [hbindings, Value.ofNamedItems, if_neg hall, Value.ofItems, if_neg hany]

theorem match?_of_items_query :
    let x := ['x']
    let e : Expression := ⟨.form, [⟨x, .explode⟩]⟩
    let last := ['%', 'C', '3', '%', 'A', '9', ',', 'a']
    let items : List Item := [⟨['k'], some ['1']⟩, ⟨['k'], some last⟩, ⟨['m'], none⟩]
    let t : Template := ⟨"{?x*}".toList, [.expression e], {}⟩
    Template.ofText t.source {} = .ok t ∧ (∀ i ∈ items, i.Sound) ∧
      ∃ m, t.match? "?k=1&k=%C3%A9,a&m".toList = some m ∧
        ∃ entries : Assoc Text Text, m.bindings = [(x, .mapping entries)] ∧
          entries.find? ['k'] = some "é,a".toList ∧ entries.find? ['m'] = some [] ∧
          entries.find? x = none := by
  intro x e last items t
  have ht : Template.ofText t.source {} = .ok t := by with_unfolding_all rfl
  have hk : Units isUnreserved ['k'] := .char rfl .nil
  have hm : Units isUnreserved ['m'] := .char rfl .nil
  have hlast : Units namedChar last :=
    .escape rfl rfl (.escape rfl rfl (.char rfl (.char rfl .nil)))
  have hsound : ∀ i ∈ items, i.Sound := by
    simp only [items, List.forall_mem_cons]
    refine ⟨⟨nofun, hk, ?_⟩, ⟨nofun, hk, ?_⟩, ⟨nofun, hm, nofun⟩, nofun⟩
    · rintro _ ⟨⟩
      exact .char rfl .nil
    · rintro _ ⟨⟩
      exact hlast
  have huri : "?k=1&k=%C3%A9,a&m".toList =
      e.operator.leader ++ [e.operator.joiner].intercalate (items.map Item.text) := by
    with_unfolding_all rfl
  obtain ⟨m, hmatch, -, hmapping, -⟩ :=
    match?_of_items (t := t) rfl rfl rfl (List.cons_ne_nil _ _) hsound huri
  obtain ⟨entries, hentries, -, hfind⟩ := hmapping ⟨_, List.mem_cons_self, by decide⟩
    ⟨_, List.mem_cons_self, by decide⟩
  refine ⟨ht, hsound, m, hmatch, entries, hentries, ?_, ?_, ?_⟩
  · rw [hfind]
    decide +kernel
  · rw [hfind]
    decide +kernel
  · rw [hfind]
    decide +kernel

/-- Keys alone under another name: a list, with no mapping made of them. -/
theorem match?_keys_alone :
    let e : Expression := ⟨.pathParams, [⟨"keys".toList, .explode⟩]⟩
    let t : Template := ⟨"{;keys*}".toList, [.expression e], {}⟩
    Template.ofText t.source {} = .ok t ∧
      ∃ m, t.match? ";a;b".toList = some m ∧
        m.bindings = [("keys".toList, .list [['a'], ['b']])] ∧
        ∀ entries : Assoc Text Text, m.bindings ≠ [("keys".toList, .mapping entries)] := by
  intro e t
  have ht : Template.ofText t.source {} = .ok t := by with_unfolding_all rfl
  have hmatch : (t.match? ";a;b".toList).map (·.bindings) =
      some [("keys".toList, .list [['a'], ['b']])] := by with_unfolding_all rfl
  obtain ⟨m, hm, hbindings⟩ := Option.map_eq_some_iff.1 hmatch
  refine ⟨ht, m, hm, hbindings, fun entries => ?_⟩
  simp [hbindings]

end Template

end UriTemplate
