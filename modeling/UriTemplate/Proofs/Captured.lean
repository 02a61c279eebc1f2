import Mathlib.Data.List.Basic
import UriTemplate.Proofs.Recovery

set_option autoImplicit false

namespace UriTemplate

open Text

/-- The values that reading can give a variable. -/
structure VarSpec.Yields (v : VarSpec) (x : Value) : Prop where
  defined : x.isDefined = true
  distinct : x.Distinct
  several : ∀ members, x = .list members → 2 ≤ members.length
  exploded : ∀ entries, x = .mapping entries → v.explodes = true

namespace VarSpec

variable {v : VarSpec}

theorem yields_ofTexts (v : VarSpec) {texts : List Text} (h : texts ≠ []) :
    v.Yields (.ofTexts texts) := by
  match texts, h with
  | [t], _ => exact ⟨rfl, trivial, fun _ h => (by cases h), fun _ h => (by cases h)⟩
  | t :: u :: rest, _ =>
    refine ⟨rfl, trivial, fun members h => ?_, fun _ h => (by cases h)⟩
    cases h
    exact Nat.le_add_left 2 rest.length

theorem yields_ofRaw (v : VarSpec) (raw : Text) : v.Yields (.ofRaw raw) :=
  v.yields_ofTexts (by simp [List.splitOn_ne_nil])

theorem yields_ofItems (he : v.explodes = true) {items : List Item} (h : items ≠ []) :
    v.Yields (.ofItems items) := by
  unfold Value.ofItems
  split
  · refine ⟨?_, Assoc.nodup_keys_ofList _, fun _ h => (by cases h), fun _ _ => he⟩
    obtain ⟨i, rest, rfl⟩ := List.exists_cons_of_ne_nil h
    have hkey : Percent.decode i.key ∈ Assoc.keys (Assoc.ofList
        ((i :: rest).map fun i => (Percent.decode i.key, i.valueText))) :=
      Assoc.mem_keys_ofList.2 List.mem_cons_self
    obtain ⟨entry, hentry, -⟩ := List.mem_map.1 hkey
    simpa [Shape.isDefined] using List.ne_nil_of_mem hentry
  · exact v.yields_ofTexts (by simpa using h)

theorem yields_ofNamedItems (he : v.explodes = true) (name : Text) {items : List Item}
    (h : items ≠ []) : v.Yields (.ofNamedItems name items) := by
  unfold Value.ofNamedItems
  split
  · exact v.yields_ofTexts (by simpa using h)
  · exact yields_ofItems he h

theorem yields_readPositional (v : VarSpec) (op : Operator) (final : Bool) (t : Text) :
    v.Yields (v.readPositional op final t).1 := by
  unfold readPositional
  split
  · next he => exact yields_ofItems he (by simp [List.splitOn_ne_nil])
  · exact v.yields_ofRaw _

theorem find?_cons_of_mem {specs : List VarSpec} (hv : v.name ∉ names specs) {w : VarSpec}
    (hw : w ∈ specs) (x : Value) (captures : List (Text × Value)) :
    Assoc.find? ((v.name, x) :: captures) w.name = Assoc.find? captures w.name := by
  have hne : v.name ≠ w.name := fun heq => hv (heq ▸ List.mem_map_of_mem hw)
  rw [Assoc.find?, if_neg hne]

end VarSpec

inductive Captured : List VarSpec → List (Text × Value) → Prop
  | nil : Captured [] []
  | skip (v : VarSpec) {specs : List VarSpec} {captures : List (Text × Value)}
      (h : Captured specs captures) : Captured (v :: specs) captures
  | take {v : VarSpec} {x : Value} (hx : v.Yields x) {specs : List VarSpec}
      {captures : List (Text × Value)} (h : Captured specs captures) :
      Captured (v :: specs) ((v.name, x) :: captures)

namespace Captured

variable {specs : List VarSpec} {captures : List (Text × Value)}

theorem none (specs : List VarSpec) : Captured specs [] := by
  induction specs with
  | nil => exact .nil
  | cons v specs ih => exact .skip v ih

theorem keys_sublist (h : Captured specs captures) :
    (Assoc.keys captures).Sublist (VarSpec.names specs) := by
  induction h with
  | nil => exact .slnil
  | skip v _ ih => exact ih.cons v.name
  | @take v _ _ _ _ _ ih => exact ih.cons_cons v.name

theorem exists_yields (h : Captured specs captures) {name : Text} {x : Value}
    (hx : (name, x) ∈ captures) : ∃ v ∈ specs, v.name = name ∧ v.Yields x := by
  induction h with
  | nil => cases hx
  | skip v _ ih =>
    obtain ⟨w, hw, hyields⟩ := ih hx
    exact ⟨w, List.mem_cons_of_mem v hw, hyields⟩
  | @take v y hy specs captures _ ih =>
    rcases List.mem_cons.1 hx with heq | hx
    · cases heq
      exact ⟨v, List.mem_cons_self, rfl, hy⟩
    · obtain ⟨w, hw, hyields⟩ := ih hx
      exact ⟨w, List.mem_cons_of_mem v hw, hyields⟩

theorem find?_eq_none (h : Captured specs captures) {name : Text}
    (hname : name ∉ VarSpec.names specs) : Assoc.find? captures name = .none :=
  Assoc.find?_eq_none_iff.2 fun hm => hname (h.keys_sublist.subset hm)

theorem yields (h : Captured specs captures) (hnames : (VarSpec.names specs).Nodup) {v : VarSpec}
    (hv : v ∈ specs) {x : Value} (hx : Assoc.find? captures v.name = some x) : v.Yields x := by
  induction h with
  | nil => cases hv
  | @skip w specs captures h ih =>
    obtain ⟨hw, hnames⟩ := List.nodup_cons.1 hnames
    rcases List.mem_cons.1 hv with rfl | hv
    · rw [h.find?_eq_none hw] at hx
      cases hx
    · exact ih hnames hv hx
  | @take w y hy specs captures h ih =>
    obtain ⟨hw, hnames⟩ := List.nodup_cons.1 hnames
    rcases List.mem_cons.1 hv with rfl | hv
    · rw [Assoc.find?, if_pos rfl] at hx
      exact Option.some.inj hx ▸ hy
    · rw [VarSpec.find?_cons_of_mem hw hv] at hx
      exact ih hnames hv hx

theorem filterMap_find? (h : Captured specs captures) (hnames : (VarSpec.names specs).Nodup) :
    (specs.filterMap fun v => (Assoc.find? captures v.name).map (v.name, ·)) = captures := by
  induction h with
  | nil => rfl
  | @skip v specs captures h ih =>
    obtain ⟨hv, hnames⟩ := List.nodup_cons.1 hnames
    rw [List.filterMap_cons_none (by rw [h.find?_eq_none hv]; rfl), ih hnames]
  | @take v x _ specs captures h ih =>
    obtain ⟨hv, hnames⟩ := List.nodup_cons.1 hnames
    have hlater := List.filterMap_congr fun w hw =>
      congrArg (Option.map (w.name, ·)) (VarSpec.find?_cons_of_mem hv hw x captures)
    rw [List.filterMap_cons_some (by rw [Assoc.find?, if_pos rfl]; rfl), hlater, ih hnames]

end Captured

theorem captured_readPositionals (op : Operator) (specs : List VarSpec) (t : Text) :
    Captured specs (readPositionals op specs t).1 := by
  fun_induction readPositionals op specs t with
  | case1 => exact .nil
  | case2 v t => exact .take (v.yields_readPositional op true t) .nil
  | case3 v next later t => exact .take (v.yields_readPositional op false t) (.none _)
  | case4 v next later t read rest hrest ih => exact .take (v.yields_readPositional op false t) ih

theorem captured_readNamed (op : Operator) (first : Bool) (specs : List VarSpec) (t : Text) :
    Captured specs (readNamed op first specs t).1 := by
  fun_induction readNamed op first specs t with
  | case1 => exact .nil
  | case2 first v later t he read hempty ih => exact .skip v ih
  | case3 first v later t he read hitems ih =>
    exact .take (VarSpec.yields_ofNamedItems he v.name (by simpa using hitems)) ih
  | case4 first v later t he hkey ih => exact .skip v ih
  | case5 first v later t he rest read hkey ih => exact .take (v.yields_ofRaw _) ih
  | case6 first v later t he key rest hkey hname ih => exact .skip v ih

namespace Expression

variable (e : Expression)

theorem captured_capture (strategy : Strategy) (boundary : Option Text) (c : Cursor) :
    Captured e.specs (e.capture strategy boundary c).1 := by
  unfold capture
  simp only
  split
  · exact .none _
  · cases strategy with
    | positional => exact captured_readPositionals _ _ _
    | named => exact captured_readNamed _ _ _ _

theorem captured_readAlone (own : Text) : Captured e.specs (e.readAlone own).1 :=
  e.captured_capture _ _ _

end Expression

end UriTemplate
