import UriTemplate.Proofs.Bindings
import UriTemplate.Proofs.Munch
import UriTemplate.Template

set_option autoImplicit false

namespace UriTemplate

open Character Text

theorem Name.Part.units {u : Text} (h : Name.Part u) : Units isUnreserved u := by
  cases h with
  | char c hc =>
    refine .char ?_ .nil
    unfold isVarchar at hc
    unfold isUnreserved
    rcases Bool.or_eq_true_iff.1 hc with ha | hu
    · rw [ha, Bool.true_or]
    · rw [of_decide_eq_true hu]
      rfl
  | escape a b ha hb => exact .escape ha hb .nil

theorem Name.Valid.units {name : Text} (h : Name.Valid name) : Units isUnreserved name := by
  induction h with
  | unit hu => exact hu.units
  | next _ hu ih => exact ih.append hu.units
  | dotted _ hu ih => exact ih.append (.char (by decide) hu.units)

namespace VarSpec

variable {seen : List VarSpec} {v : VarSpec}

theorem names_snoc (seen : List VarSpec) (v : VarSpec) :
    names (seen ++ [v]) = names seen ++ [v.name] := List.map_append

theorem nodup_names_snoc (hseen : (names seen).Nodup) (hnew : v.name ∉ names seen) :
    (names (seen ++ [v])).Nodup := by
  rw [names_snoc, List.nodup_append]
  refine ⟨hseen, by simp, ?_⟩
  intro a ha b hb hab
  rw [hab, List.mem_singleton.1 hb] at ha
  exact hnew ha

end VarSpec

namespace Node

def WellFormed : Node → Prop
  | .literal text => text ≠ [] ∧ '{' ∉ text
  | .expression e => e.specs ≠ [] ∧ e.names.Nodup ∧ ∀ name ∈ e.names, Name.Valid name

theorem readSpec_valid {t rest : Text} {v : VarSpec} (h : readSpec t = .ok (some v, rest)) :
    Name.Valid v.name := by
  unfold readSpec at h
  simp only at h
  split at h
  · cases h
  · next hne =>
    split at h
    · cases h
    · cases h
      exact Name.munch_valid (by simpa using hne)

theorem readSpecs_wellFormed {opened : Text} {seen specs : List VarSpec} {t rest : Text}
    (h : readSpecs opened seen t = .ok (specs, rest)) (hn : (VarSpec.names seen).Nodup)
    (hv : ∀ name ∈ VarSpec.names seen, Name.Valid name) :
    specs ≠ [] ∧ (VarSpec.names specs).Nodup ∧ ∀ name ∈ VarSpec.names specs, Name.Valid name := by
  fun_induction readSpecs opened seen t with
  | case1 => cases h
  | case2 seen tail ih => exact ih h hn hv
  | case3 => cases h
  | case4 seen tail hne =>
    cases h
    exact ⟨by simpa using hne, hn, hv⟩
  | case5 => cases h
  | case6 => cases h
  | case7 => cases h
  | case8 seen c tail _ _ v left hs hnew ih =>
    refine ih h (VarSpec.nodup_names_snoc hn hnew) fun name hname => ?_
    rw [VarSpec.names_snoc] at hname
    rcases List.mem_append.1 hname with hname | hname
    · exact hv name hname
    · rw [List.mem_singleton.1 hname]
      exact readSpec_valid hs

theorem brace_not_mem {c : Char} (hc : c ≠ '{') (rest : Text) :
    '{' ∉ c :: rest.takeWhile (· ≠ '{') := by
  intro hm
  rcases List.mem_cons.1 hm with rfl | hm
  · exact hc rfl
  · have hall := List.all_eq_true.1 List.all_takeWhile _ hm
    simp at hall

theorem readNodes_wellFormed {t : Text} {nodes : List Node} (h : readNodes t = .ok nodes) :
    ∀ n ∈ nodes, n.WellFormed := by
  fun_induction readNodes t generalizing nodes with
  | case1 => cases h; simp
  | case2 => cases h
  | case3 body specs rest hs ih =>
    cases hrest : readNodes rest with
    | error f => rw [hrest] at h; cases h
    | ok more =>
      rw [hrest] at h
      cases h
      intro n hn
      rcases List.mem_cons.1 hn with rfl | hn
      · exact readSpecs_wellFormed hs (by simp [VarSpec.names]) (by simp [VarSpec.names])
      · exact ih hrest n hn
  | case4 c rest hc ih =>
    cases hrest : readNodes (rest.dropWhile (· ≠ '{')) with
    | error f => rw [hrest] at h; cases h
    | ok more =>
      rw [hrest] at h
      cases h
      intro n hn
      rcases List.mem_cons.1 hn with rfl | hn
      · exact ⟨List.cons_ne_nil _ _, brace_not_mem hc rest⟩
      · exact ih hrest n hn

theorem ofText_eq_ok_iff {t : Text} {nodes : List Node} :
    ofText t = .ok nodes ↔ readNodes t = .ok nodes := by
  unfold ofText
  constructor
  · intro h
    cases hread : readNodes t with
    | error f =>
      rw [hread] at h
      cases h
    | ok read =>
      rw [hread] at h
      cases h
      rfl
  · intro h
    rw [h]
    rfl

end Node

theorem Template.ofText_eq_ok {source : Text} {config : Config} {t : Template}
    (h : Template.ofText source config = .ok t) :
    t.source = source ∧ t.config = config ∧ Node.ofText source = .ok t.nodes := by
  obtain ⟨nodes, hnodes, h⟩ := bind_eq_ok.1 h
  cases h
  exact ⟨rfl, rfl, hnodes⟩

theorem Template.wellFormed {source : Text} {config : Config} {t : Template}
    (h : Template.ofText source config = .ok t) : ∀ n ∈ t.nodes, n.WellFormed := by
  obtain ⟨-, -, hnodes⟩ := Template.ofText_eq_ok h
  exact Node.readNodes_wellFormed (Node.ofText_eq_ok_iff.1 hnodes)

end UriTemplate
