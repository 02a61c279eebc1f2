import Mathlib.Data.List.Forall2
import UriTemplate.Command.Outcome
import UriTemplate.Proofs.Collecting

set_option autoImplicit false

namespace UriTemplate

variable {ε ε' α β γ δ : Type}

theorem mapM_mapError (f : α → Except ε β) (k : ε → ε') (as : List α) :
    (as.mapM fun a => (f a).mapError k) = (as.mapM f).mapError k := by
  induction as with
  | nil => rfl
  | cons a as ih =>
    rw [List.mapM_cons, List.mapM_cons, ih]
    cases f a with
    | error e => rfl
    | ok b => cases as.mapM f <;> rfl

theorem mapM_of_forall₂ {f : α → Except ε β} {g : γ → Except ε δ} {k : δ → β} {as : List α}
    {cs : List γ} (h : List.Forall₂ (fun a c => f a = (g c).map k) as cs) :
    as.mapM f = (cs.mapM g).map (List.map k) := by
  induction h with
  | nil => rfl
  | @cons a c as cs hac _ ih =>
    rw [List.mapM_cons, List.mapM_cons, ih, hac]
    cases g c with
    | error e => rfl
    | ok d => cases cs.mapM g <;> rfl

namespace Assoc

variable {κ ι : Type} [DecidableEq κ] [DecidableEq ι] {f : κ → ι}

theorem put_rename (hf : Function.Injective f) (g : α → β) (m : Assoc κ α) (name : κ) (value : α) :
    put (m.map fun e => (f e.1, g e.2)) (f name) (g value) =
      (m.put name value).map fun e => (f e.1, g e.2) := by
  induction m with
  | nil => rfl
  | cons e rest ih =>
    by_cases h : e.1 = name
    · simp [put, h]
    · simpa [put, h, hf.ne h] using ih

theorem ofList_rename (hf : Function.Injective f) (g : α → β) (entries : List (κ × α)) :
    ofList (entries.map fun e => (f e.1, g e.2)) =
      (ofList entries).map fun e => (f e.1, g e.2) := by
  have hrun : ∀ m : Assoc κ α, putAll (m.map fun e => (f e.1, g e.2))
      (entries.map fun e => (f e.1, g e.2)) = (m.putAll entries).map fun e => (f e.1, g e.2) := by
    induction entries with
    | nil => exact fun _ => rfl
    | cons e rest ih =>
      intro m
      have hput := put_rename hf g m e.1 e.2
      exact (congrArg (putAll · _) hput).trans (ih (m.put e.1 e.2))
  exact hrun []

end Assoc

namespace Shape

variable {τ σ : Type} [DecidableEq σ]

theorem distinct_map (f : τ → σ) (x : Shape τ) : (x.map f).Distinct := by
  cases x with
  | scalar t => trivial
  | list items => trivial
  | mapping entries => exact Assoc.nodup_keys_ofList _

variable [DecidableEq τ] {f : τ → σ}

theorem map_mapping (hf : Function.Injective f) {entries : Assoc τ τ} (h : entries.keys.Nodup) :
    (mapping entries).map f = .mapping (entries.map fun e => (f e.1, f e.2)) := by
  change mapping (Assoc.ofList (entries.map fun e => (f e.1, f e.2))) = _
  rw [Assoc.ofList_rename hf, Assoc.ofList_of_nodup h]

theorem ifDefined_map (hf : Function.Injective f) {x : Shape τ} (h : x.Distinct) :
    (x.map f).ifDefined = x.ifDefined.map (map f) := by
  have hdefined : (x.map f).isDefined = x.isDefined := by
    cases x with
    | scalar t => rfl
    | list items => cases items <;> rfl
    | mapping entries =>
      rw [map_mapping hf h]
      cases entries <;> rfl
  unfold ifDefined
  rw [hdefined]
  split <;> rfl

end Shape

namespace Loose

theorem map_mapText (f : Text → Text) {x : Value} (h : x.Distinct) :
    (x.map ofText).map (mapText f) = (x.map f).map ofText := by
  cases x with
  | scalar t => exact congrArg _ (mapText_ofText f t)
  | list items => simp [Shape.map, mapText_ofText]
  | mapping entries =>
    rw [Shape.map_mapping ofText_injective h]
    have hnodup : (Assoc.keys (Assoc.ofList (entries.map fun e => (f e.1, f e.2)))).Nodup :=
      Assoc.nodup_keys_ofList _
    change _ = Shape.map ofText (.mapping (Assoc.ofList (entries.map fun e => (f e.1, f e.2))))
    rw [Shape.map_mapping ofText_injective hnodup, ← Assoc.ofList_rename ofText_injective]
    simp [Shape.map, mapText_ofText, Function.comp_def]

theorem map_chars {x : Value} (h : x.Distinct) : (x.map ofText).map chars = x := by
  cases x with
  | scalar t => exact congrArg _ (chars_ofText t)
  | list items => simp [Shape.map, chars_ofText, Function.comp_def]
  | mapping entries =>
    rw [Shape.map_mapping ofText_injective h]
    simp [Shape.map, chars_ofText, Function.comp_def, Assoc.ofList_of_nodup h]

theorem findSome?_defect? (keepsEscapes : Bool) {x : Value} (h : x.Distinct) :
    (x.map ofText).texts.findSome? (defect? keepsEscapes 0) = none := by
  have htexts : (x.map ofText).texts = x.texts.map ofText := by
    cases x with
    | scalar t => rfl
    | list items => rfl
    | mapping entries =>
      rw [Shape.map_mapping ofText_injective h]
      simp [Shape.texts, List.flatMap_map, List.map_flatMap]
  rw [htexts, List.findSome?_map, List.findSome?_eq_none_iff]
  exact fun t _ => defect?_ofText keepsEscapes 0 t

end Loose

namespace VarSpec

theorem cut_ofText (v : VarSpec) (t : Text) : v.cut (Loose.ofText t) = Loose.ofText (v.cut t) := by
  unfold cut Loose.ofText
  split
  · exact List.map_take.symm
  · rfl

theorem cut_cut (v : VarSpec) (t : Text) : v.cut (v.cut t) = v.cut t := by
  unfold cut
  split
  · rw [List.take_take, Nat.min_self]
  · rfl

end VarSpec

namespace Json

mutual

/-- JSON and the data that are loaded from it, where no surrogate stands alone. -/
inductive Denotes : Json → Datum → Prop
  | null : Denotes .null .null
  | bool (b : Bool) : Denotes (.bool b) (.bool b)
  | int (n : Int) : Denotes (.int n) (.number (.integer n))
  | float (x : Binary64) : Denotes (.float x) (.number (.float x))
  | text (t : Text) : Denotes (.ofText t) (.text t)
  | array {items : List Json} {data : List Datum} (h : List.Forall₂ Denotes items data) :
    Denotes (.array items) (.sequence .list data)
  | object {members : List (Loose × Json)} {entries : List (Datum × Datum)}
    (h : List.Forall₂ DenotesEntry members entries) : Denotes (.object members) (.mapping entries)

inductive DenotesEntry : Loose × Json → Datum × Datum → Prop
  | mk (name : Text) {j : Json} {d : Datum} (h : Denotes j d) :
    DenotesEntry (.ofText name, j) (.text name, d)

end

variable {j : Json} {d : Datum}

theorem Denotes.toScalar (h : Denotes j d) (name : Text) :
    j.toScalar name = (d.toPart name).map Loose.ofText := by
  cases h <;> rfl

theorem DenotesEntry.toEntry {m : Loose × Json} {e : Datum × Datum} (h : DenotesEntry m e)
    (name : Text) : (do return (m.1, ← m.2.toScalar name)) =
      (Datum.toEntry name e).map fun e => (Loose.ofText e.1, Loose.ofText e.2) := by
  obtain ⟨key, h⟩ := h
  rename_i j d
  change (j.toScalar name >>= fun item => pure (Loose.ofText key, item)) =
    (d.toPart name >>= fun item => pure (key, item)).map _
  rw [h.toScalar name]
  cases d.toPart name <;> rfl

theorem Denotes.coerce (h : Denotes j d) (name : Text) :
    j.coerce name = (d.coerce name).map (Option.map (Shape.map Loose.ofText)) := by
  have hscalar : ∀ {read : Except ExpandError Text} {loose : Except ExpandError Loose},
      loose = read.map Loose.ofText →
      (loose >>= fun t => pure (some (Shape.scalar t))) =
        (read >>= fun t => pure (some (Shape.scalar t))).map
          (Option.map (Shape.map Loose.ofText)) := by
    rintro read loose rfl
    cases read <;> rfl
  have hread := h.toScalar name
  cases h with
  | null => rfl
  | bool b => exact hscalar hread
  | int n => exact hscalar hread
  | float x => exact hscalar hread
  | text t => rfl
  | @array items data h =>
    change (items.mapM (Json.toScalar name) >>= fun read => pure (Shape.ifDefined (.list read))) =
      (data.mapM (Datum.toPart name) >>= fun read => pure (Shape.ifDefined (.list read))).map _
    rw [mapM_of_forall₂ (h.imp fun _ _ h => h.toScalar name)]
    cases data.mapM (Datum.toPart name) with
    | error e => rfl
    | ok texts =>
      have hdefined := Shape.ifDefined_map Loose.ofText_injective (x := .list texts) trivial
      exact congrArg Except.ok hdefined
  | @object members entries h =>
    change (members.mapM (fun e => do return (e.1, ← e.2.toScalar name)) >>= fun read =>
        pure (Shape.ifDefined (.mapping (Assoc.ofList read)))) =
      (entries.mapM (Datum.toEntry name) >>= fun read =>
        pure (Shape.ifDefined (.mapping (Assoc.ofList read)))).map _
    rw [mapM_of_forall₂ (h.imp fun _ _ h => h.toEntry name)]
    cases entries.mapM (Datum.toEntry name) with
    | error e => rfl
    | ok read =>
      have hnodup : (Shape.mapping (Assoc.ofList read)).Distinct := Assoc.nodup_keys_ofList read
      have hmap : Shape.mapping (Assoc.ofList (read.map fun e => (.ofText e.1, .ofText e.2))) =
          (Shape.mapping (Assoc.ofList read)).map Loose.ofText := by
        rw [Shape.map_mapping Loose.ofText_injective hnodup,
          Assoc.ofList_rename Loose.ofText_injective]
      have hdefined := Shape.ifDefined_map Loose.ofText_injective hnodup
      exact congrArg Except.ok ((congrArg Shape.ifDefined hmap).trans hdefined)

theorem exists_used_none (v : VarSpec) (op : Operator) {x : Value} (h : x.Distinct) :
    ∃ y : Value, y.Distinct ∧ used none v (x.map Loose.ofText) = y.map .ofText ∧
      v.render op x = v.render op y := by
  -- What is cut before it is encoded is cut again while it is rendered.
  cases x with
  | scalar t =>
    refine ⟨.scalar (v.cut t), trivial, congrArg Shape.scalar (v.cut_ofText t), ?_⟩
    simp [VarSpec.render, VarSpec.cut_cut]
  | list items =>
    have hcut : (items.map Loose.ofText).map v.cut = (items.map v.cut).map Loose.ofText := by
      simp [VarSpec.cut_ofText]
    refine ⟨.list (items.map v.cut), trivial, congrArg Shape.list hcut, ?_⟩
    simp [VarSpec.render, VarSpec.cut_cut, Function.comp_def]
  | mapping entries => exact ⟨.mapping entries, h, rfl, rfl⟩

theorem exists_used (form? : Option Normalization.Form) (v : VarSpec) (op : Operator) {x : Value}
    (h : x.Distinct) : ∃ y : Value, y.Distinct ∧ used form? v (x.map Loose.ofText) = y.map .ofText ∧
      v.renderValue ⟨form?, {}⟩ op x = .ok (v.render op y) := by
  cases form? with
  | none =>
    obtain ⟨y, hy, hused, hrender⟩ := exists_used_none v op h
    exact ⟨y, hy, hused, congrArg Except.ok hrender⟩
  | some form =>
    let normal := Normalization.normalize form
    obtain ⟨y, hy, hused, hrender⟩ := exists_used_none v op (Shape.distinct_map normal x)
    rw [← Loose.map_mapText normal h] at hused
    exact ⟨y, hy, hused, congrArg Except.ok hrender⟩

theorem render_of_denotes (h : Denotes j d) (form? : Option Normalization.Form) (op : Operator)
    (v : VarSpec) :
    j.render form? op v = (v.renderDatum ⟨form?, {}⟩ op d).mapError .expansion := by
  unfold render VarSpec.renderDatum
  rw [h.coerce v.name]
  cases hx : d.coerce v.name with
  | error e => rfl
  | ok x? =>
    cases x? with
    | none => rfl
    | some x =>
      obtain ⟨y, hy, hused, hrender⟩ := exists_used form? v op (Datum.coerce_eq_some hx).2
      have hnone := Loose.findSome?_defect? op.allowsReserved hy
      rw [← hused] at hnone
      dsimp only [Except.map, Option.map, Except.mapError, bind, Except.bind]
      rw [hnone, hused, Loose.map_chars hy, hrender]
      rfl

theorem exists_keyed {members : Assoc Loose Json} {bindings : List (Datum × Datum)}
    (h : List.Forall₂ DenotesEntry members bindings) :
    ∃ named : Assoc Text Datum, bindings = Datum.keyed named ∧
      members.keys = named.keys.map .ofText ∧
      List.Forall₂ (fun m e => m.1 = Loose.ofText e.1 ∧ Denotes m.2 e.2) members named := by
  induction h with
  | nil => exact ⟨[], rfl, rfl, .nil⟩
  | cons hentry _ ih =>
    obtain ⟨name, hvalue⟩ := hentry
    obtain ⟨named, rfl, hkeys, hnamed⟩ := ih
    exact ⟨(name, _) :: named, rfl, congrArg (Loose.ofText name :: ·) hkeys,
      .cons ⟨rfl, hvalue⟩ hnamed⟩

theorem denotes_find? {members : Assoc Loose Json} {named : Assoc Text Datum}
    (h : List.Forall₂ (fun m e => m.1 = Loose.ofText e.1 ∧ Denotes m.2 e.2) members named)
    (name : Text) :
    Denotes ((members.find? (.ofText name)).getD .null) ((named.find? name).getD .null) := by
  induction h with
  | nil => exact .null
  | @cons m e members named hm _ ih =>
    obtain ⟨hname, hvalue⟩ := hm
    by_cases he : e.1 = name
    · simpa [Assoc.find?, hname, he] using hvalue
    · simpa [Assoc.find?, hname, he, Loose.ofText_injective.ne he] using ih

theorem not_object_of_readWord? {t : Text} {members : Assoc Loose Json} {rest : Text} :
    readWord? t ≠ some (.object members, rest) := by
  intro h
  obtain ⟨word, hword, hread⟩ := List.exists_of_findSome?_eq_some h
  obtain ⟨rest, -, hread⟩ := Option.map_eq_some_iff.1 hread
  have hwords : ∀ word ∈ words, ∀ members, word.2 ≠ .object members := by
    simp [words]
  exact hwords word hword members (congrArg Prod.fst hread)

theorem not_object_of_readNumber {t : Text} {members : Assoc Loose Json} {rest : Text} :
    readNumber t ≠ .ok (.object members, rest) := by
  intro h
  unfold readNumber at h
  dsimp only at h
  split at h
  all_goals
    split at h
    · cases h
    · split at h
      · split at h <;> cases h
      · cases h

theorem nodup_keys_of_readValue {fuel room : Nat} {t rest : Text} {members : Assoc Loose Json}
    (h : readValue fuel room t = .ok (.object members, rest)) : members.keys.Nodup := by
  cases fuel with
  | zero => cases h
  | succ fuel =>
    unfold readValue at h
    split at h
    · obtain ⟨read, -, h⟩ := bind_eq_ok.1 h
      cases h
    · obtain ⟨room, -, h⟩ := bind_eq_ok.1 h
      split at h
      · cases h
      · obtain ⟨read, -, h⟩ := bind_eq_ok.1 h
        cases h
    · obtain ⟨room, -, h⟩ := bind_eq_ok.1 h
      split at h
      · cases h
        exact List.nodup_nil
      · obtain ⟨read, -, h⟩ := bind_eq_ok.1 h
        cases h
        exact Assoc.nodup_keys_ofList _
    · split at h
      · next hread =>
        cases h
        exact absurd hread not_object_of_readWord?
      · exact absurd h not_object_of_readNumber

theorem nodup_keys_of_parse {source : Text} {members : Assoc Loose Json}
    (h : parse source = .ok (.object members)) : members.keys.Nodup := by
  have hread : readAll source = .ok (.object members) := by
    unfold parse at h
    cases hr : readAll source with
    | error f => rw [hr] at h; cases h
    | ok j => rw [hr] at h; exact congrArg Except.ok (Except.ok.inj h)
  unfold readAll at hread
  split at hread
  · cases hread
  · obtain ⟨⟨value, rest⟩, hvalue, hread⟩ := bind_eq_ok.1 hread
    dsimp only at hread
    split at hread
    · cases hread
      exact nodup_keys_of_readValue hvalue
    · cases hread

end Json

namespace Expression

theorem expandBy_mapError (render : Operator → VarSpec → Except ε (Option Rendered)) (k : ε → ε')
    (e : Expression) :
    e.expandBy (fun op v => (render op v).mapError k) = (e.expandBy render).mapError k := by
  unfold expandBy
  rw [mapM_mapError]
  cases e.specs.mapM (render e.operator) <;> rfl

end Expression

namespace Template

theorem expandNodes_mapError (expand : Expression → Except ε Text) (k : ε → ε')
    (nodes : List Node) :
    expandNodes (fun e => (expand e).mapError k) nodes = (expandNodes expand nodes).mapError k := by
  have hnode : expandNodes.expandNode (fun e => (expand e).mapError k) =
      fun n => (expandNodes.expandNode expand n).mapError k := by
    funext n
    cases n <;> rfl
  unfold expandNodes
  rw [hnode, mapM_mapError]
  cases nodes.mapM (expandNodes.expandNode expand) <;> rfl

end Template

namespace Command

theorem expandJson_of_denotes (t : Template) {members : Assoc Loose Json}
    {bindings : List (Datum × Datum)} (h : List.Forall₂ Json.DenotesEntry members bindings)
    (honce : members.keys.Nodup) (normalize : Bool) :
    expandJson t members normalize =
      (t.expand bindings (some normalize) {}).mapError .expansion := by
  obtain ⟨named, rfl, hkeys, hnamed⟩ := Json.exists_keyed h
  have hnodup : named.keys.Nodup := by
    rw [hkeys] at honce
    exact honce.of_map _
  have hexpand : t.expand (Datum.keyed named) (some normalize) {} =
      Template.expandNodes (Expression.expand ⟨t.form? (some normalize), {}⟩ named) t.nodes := by
    unfold Template.expand
    rw [Datum.nameKeys_keyed hnodup]
    rfl
  have hrender : (fun (op : Operator) (v : VarSpec) =>
      ((members.find? (.ofText v.name)).getD .null).render (t.form? (some normalize)) op v) =
        fun op v => (v.renderDatum ⟨t.form? (some normalize), {}⟩ op
          ((named.find? v.name).getD .null)).mapError .expansion :=
    funext fun op => funext fun v =>
      Json.render_of_denotes (Json.denotes_find? hnamed v.name) _ op v
  unfold expandJson
  rw [hexpand, ← Template.expandNodes_mapError, hrender]
  exact congrArg (Template.expandNodes · t.nodes) (funext (Expression.expandBy_mapError _ _))

theorem nodup_keys_of_readBindings {pairs : List Text} {json? : Option Text}
    {members : Assoc Loose Json} (h : readBindings pairs json? = .ok members) :
    members.keys.Nodup := by
  obtain ⟨first, hfirst, h⟩ := bind_eq_ok.1 h
  obtain ⟨split, -, h⟩ := bind_eq_ok.1 h
  cases h
  apply Assoc.nodup_keys_putAll
  unfold readObject at hfirst
  split at hfirst
  · cases hfirst
    exact List.nodup_nil
  · cases hfirst
    exact List.nodup_nil
  · split at hfirst
    · cases hfirst
    · next hparse =>
      cases hfirst
      exact Json.nodup_keys_of_parse hparse
    · cases hfirst

/-- Where no surrogate stands alone, the command prints what the template expands to with the data
    that are loaded from its bindings, or reports the error of that. -/
theorem runExpand_of_denotes {template : Text} {t : Template}
    (ht : Template.ofText template {} = .ok t) {pairs : List Text} {json? : Option Text}
    {members : Assoc Loose Json} (hread : readBindings pairs json? = .ok members)
    {bindings : List (Datum × Datum)} (h : List.Forall₂ Json.DenotesEntry members bindings)
    (verbose normalize : Bool) :
    let log := shown verbose [t.parsedEvent]
    runExpand verbose template pairs json? normalize =
      match t.expand bindings (some normalize) {} with
      | .ok uri => .finished 0 (line uri) log
      | .error e => .finished 2 [] (log ++ reported e.message) := by
  have honce := nodup_keys_of_readBindings hread
  unfold runExpand
  simp only [hread, ht, expandJson_of_denotes t h honce normalize]
  cases t.expand bindings (some normalize) {} <;> rfl

theorem denotes_ofCollected (texts : List Text) : (ofCollected texts).Denotes (datum texts) := by
  have hlist : (Json.array (texts.map .ofText)).Denotes (.sequence .list (texts.map .text)) := by
    refine .array (List.forall₂_map_left_iff.2 (List.forall₂_map_right_iff.2 ?_))
    exact List.forall₂_same.2 fun t _ => .text t
  rcases texts with _ | ⟨t, _ | ⟨u, texts⟩⟩
  · exact hlist
  · exact .text t
  · exact hlist

/-- Pairs alone bring no surrogates. -/
theorem exists_denotes_of_pairs {pairs : List Text} {members : Assoc Loose Json}
    (h : readBindings pairs none = .ok members) :
    ∃ bindings, List.Forall₂ Json.DenotesEntry members bindings := by
  obtain ⟨first, hfirst, h⟩ := bind_eq_ok.1 h
  cases hfirst
  obtain ⟨entries, -, h⟩ := bind_eq_ok.1 h
  let collected : Assoc Text (List Text) := Assoc.ofList (entries.foldl collect [])
  have hmembers : members = collected.map fun e => (.ofText e.1, ofCollected e.2) := by
    rw [← Except.ok.inj h]
    exact Assoc.ofList_rename Loose.ofText_injective ofCollected _
  refine ⟨collected.map fun e => (.text e.1, datum e.2), ?_⟩
  rw [hmembers]
  refine List.forall₂_map_left_iff.2 (List.forall₂_map_right_iff.2 ?_)
  exact List.forall₂_same.2 fun e _ => .mk e.1 (denotes_ofCollected e.2)

end Command

end UriTemplate
