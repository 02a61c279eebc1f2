import UriTemplate.Proofs.Expansion
import UriTemplate.Proofs.Grammar

set_option autoImplicit false

namespace UriTemplate

open Text

theorem Spelling.ne_nil {list : List VarSpec → Text → Prop} {n : Node} {nodes : List Node} {t : Text}
    (h : Spelling list (n :: nodes) t) : t ≠ [] := by
  cases h with
  | literal hne => exact fun heq => hne (List.append_eq_nil_iff.1 heq).1
  | expression => exact List.cons_ne_nil _ _

namespace Node

/-- Nodes and the nodes behind them. A literal at the end and a literal right behind it become one. -/
def join : List Node → List Node → List Node
  | [], behind => behind
  | [.literal text], .literal more :: behind => .literal (text ++ more) :: behind
  | n :: nodes, behind => n :: join nodes behind

theorem join_literal_cons (text : Text) (n : Node) (nodes behind : List Node) :
    join (.literal text :: n :: nodes) behind = .literal text :: join (n :: nodes) behind := rfl

theorem join_expression (e : Expression) (nodes behind : List Node) :
    join (.expression e :: nodes) behind = .expression e :: join nodes behind := by
  cases nodes with
  | nil => rfl
  | cons n nodes => rfl

theorem readNodes_literal_append {text : Text} (hne : text ≠ []) (hbrace : '{' ∉ text)
    (second : Text) : readNodes (text ++ second) = (readNodes second).map (join [.literal text]) := by
  cases second with
  | nil =>
    have hnext : ∀ c ∈ ([] : Text).head?, c = '{' := fun c hc => nomatch hc
    rw [readNodes_literal_of_head hne hbrace hnext, readNodes]
    rfl
  | cons c rest =>
    by_cases hc : c = '{'
    · subst hc
      have hnext : ∀ c ∈ ('{' :: rest).head?, c = '{' := fun c hc => (Option.some.inj hc).symm
      rw [readNodes_literal_of_head hne hbrace hnext, readNodes]
      split
      · rfl
      · next specs left _ =>
        cases readNodes left with
        | error f => rfl
        | ok nodes => rfl
    · have htake : (c :: rest).takeWhile (· ≠ '{') = c :: rest.takeWhile (· ≠ '{') :=
        List.takeWhile_cons_of_pos (decide_eq_true hc)
      have hdrop : (c :: rest).dropWhile (· ≠ '{') = rest.dropWhile (· ≠ '{') :=
        List.dropWhile_cons_of_pos (decide_eq_true hc)
      rw [readNodes_literal hne hbrace, htake, hdrop, readNodes]
      · cases readNodes (rest.dropWhile (· ≠ '{')) with
        | error f => rfl
        | ok nodes => rfl
      · exact hc

theorem readNodes_append {first : Text} {nodes : List Node} (h : readNodes first = .ok nodes)
    (second : Text) : readNodes (first ++ second) = (readNodes second).map (join nodes) := by
  have hspelled := spelling_of_readNodes h
  clear h
  induction hspelled with
  | nil =>
    rw [List.nil_append]
    cases readNodes second with
    | error f => rfl
    | ok read => rfl
  | @literal text t nodes hne hbrace hnext hlater ih =>
    cases nodes with
    | nil =>
      cases hlater
      rw [List.append_nil]
      exact readNodes_literal_append hne hbrace second
    | cons n nodes =>
      have hseam : ∀ c ∈ (t ++ second).head?, c = '{' := by
        obtain ⟨c, t, rfl⟩ := List.exists_cons_of_ne_nil hlater.ne_nil
        exact hnext
      rw [List.append_assoc, readNodes_literal_of_head hne hbrace hseam, ih]
      cases readNodes second with
      | error f => rfl
      | ok read => exact congrArg Except.ok (join_literal_cons text n nodes read).symm
  | @expression op specs body t nodes hne hnames hbody _ ih =>
    have htext : '{' :: op.symbol ++ body ++ '}' :: t ++ second =
        '{' :: op.symbol ++ body ++ '}' :: (t ++ second) := by
      simp only [List.append_assoc, List.cons_append]
    rw [htext, readNodes_expression hne hnames hbody, ih]
    cases readNodes second with
    | error f => rfl
    | ok read => exact congrArg Except.ok (join_expression ⟨op, specs⟩ nodes read).symm

variable {reason : Reason} {left : Nat}

theorem left_le_of_readModifier {name t : Text}
    (h : readModifier name t = .error (.malformed reason left)) : left ≤ t.length := by
  unfold readModifier at h
  split at h
  · cases h
  · next rest =>
    by_cases hnone : (rest.takeWhile Char.isDigit).isEmpty
    · rw [if_pos hnone] at h
      cases h
    · rw [if_neg hnone] at h
      cases hcount : countModifier name rest (rest.takeWhile Char.isDigit) with
      | ok m =>
        rw [hcount] at h
        cases h
      | error f =>
        rw [hcount] at h
        cases h
        unfold countModifier at hcount
        split at hcount
        · cases hcount
        · split at hcount
          · cases hcount
          · cases hcount
            exact Nat.le_succ _
  · cases h

theorem left_le_of_readSpec {t : Text} (h : readSpec t = .error (.malformed reason left)) :
    left ≤ t.length := by
  have hlen := congrArg List.length (Name.munch_append t)
  rw [List.length_append] at hlen
  unfold readSpec at h
  simp only at h
  split at h
  · cases h
  · split at h
    · next f hread =>
      cases h
      have hle := left_le_of_readModifier hread
      omega
    · cases h

theorem left_le_of_readSpecs {opened t : Text} {seen : List VarSpec} {bound : Nat}
    (hopened : opened.length ≤ bound) (ht : t.length ≤ bound)
    (h : readSpecs opened seen t = .error (.malformed reason left)) : left ≤ bound := by
  fun_induction readSpecs opened seen t with
  | case1 =>
    cases h
    exact hopened
  | case2 seen tail ih => exact ih (Nat.le_of_succ_le ht) h
  | case3 =>
    cases h
    exact hopened
  | case4 => cases h
  | case5 seen c tail _ _ f hread =>
    cases h
    exact Nat.le_trans (left_le_of_readSpec hread) ht
  | case6 =>
    cases h
    exact ht
  | case7 seen c tail _ _ v rest hread _ =>
    cases h
    exact Nat.le_trans (Nat.le_of_lt (readSpec_length_lt hread)) ht
  | case8 seen c tail _ _ v rest hread _ ih =>
    exact ih (Nat.le_trans (Nat.le_of_lt (readSpec_length_lt hread)) ht) h

theorem left_le_of_readNodes {t : Text} (h : readNodes t = .error (.malformed reason left)) :
    left ≤ t.length := by
  fun_induction readNodes t with
  | case1 => cases h
  | case2 body f hread =>
    cases h
    have hbody := readOperator_length_le body
    exact left_le_of_readSpecs (Nat.le_refl _) (Nat.le_succ_of_le hbody) hread
  | case3 body specs rest hread ih =>
    have hrest := readSpecs_length_lt hread
    have hbody := readOperator_length_le body
    cases hlater : readNodes rest with
    | ok nodes =>
      rw [hlater] at h
      cases h
    | error f =>
      rw [hlater] at h
      cases h
      have hle := ih hlater
      rw [List.length_cons]
      omega
  | case4 c rest _ ih =>
    have hrest := (List.dropWhile_sublist (· ≠ '{') (l := rest)).length_le
    cases hlater : readNodes (rest.dropWhile (· ≠ '{')) with
    | ok nodes =>
      rw [hlater] at h
      cases h
    | error f =>
      rw [hlater] at h
      cases h
      exact Nat.le_trans (ih hlater) (Nat.le_succ_of_le hrest)

end Node

namespace Template

theorem expandNodes_cons_eq_ok_iff {ε : Type} {expand : Expression → Except ε Text} {n : Node}
    {nodes : List Node} {text : Text} :
    expandNodes expand (n :: nodes) = .ok text ↔ ∃ own later,
      expandNodes.expandNode expand n = .ok own ∧ expandNodes expand nodes = .ok later ∧
        text = own ++ later := by
  unfold expandNodes
  rw [List.mapM_cons]
  constructor
  · intro h
    obtain ⟨texts, hread, h⟩ := bind_eq_ok.1 h
    obtain ⟨own, hown, hread⟩ := bind_eq_ok.1 hread
    obtain ⟨more, hmore, hread⟩ := bind_eq_ok.1 hread
    cases hread
    cases h
    exact ⟨own, _, hown, bind_eq_ok.2 ⟨more, hmore, rfl⟩, rfl⟩
  · rintro ⟨own, later, hown, hlater, rfl⟩
    obtain ⟨more, hmore, hlater⟩ := bind_eq_ok.1 hlater
    cases hlater
    rw [hown, hmore]
    rfl

theorem expandNodes_join {ε : Type} {expand : Expression → Except ε Text} {nodes behind : List Node}
    {uri more : Text} (h : expandNodes expand nodes = .ok uri)
    (hbehind : expandNodes expand behind = .ok more) :
    expandNodes expand (Node.join nodes behind) = .ok (uri ++ more) := by
  fun_induction Node.join nodes behind generalizing uri more with
  | case1 =>
    cases h
    exact hbehind
  | case2 text literal behind =>
    cases h
    obtain ⟨own, later, hown, hlater, rfl⟩ := expandNodes_cons_eq_ok_iff.1 hbehind
    cases hown
    refine expandNodes_cons_eq_ok_iff.2 ⟨_, later, rfl, hlater, ?_⟩
    simp
  | case3 n nodes behind _ ih =>
    obtain ⟨own, later, hown, hlater, rfl⟩ := expandNodes_cons_eq_ok_iff.1 h
    exact expandNodes_cons_eq_ok_iff.2
      ⟨own, _, hown, ih hlater hbehind, List.append_assoc own later more⟩

section seam

variable {first second : Text} {config : Config} {t u : Template}
  (ht : Template.ofText first config = .ok t)

include ht

theorem ofText_append_eq_ok (hu : Template.ofText second config = .ok u) :
    Template.ofText (first ++ second) config =
      .ok ⟨first ++ second, Node.join t.nodes u.nodes, config⟩ := by
  obtain ⟨-, -, hfirst⟩ := Template.ofText_eq_ok ht
  obtain ⟨-, -, hsecond⟩ := Template.ofText_eq_ok hu
  have happend := Node.readNodes_append (Node.ofText_eq_ok_iff.1 hfirst) second
  rw [Node.ofText_eq_ok_iff.1 hsecond] at happend
  exact bind_eq_ok.2 ⟨_, Node.ofText_eq_ok_iff.2 happend, rfl⟩

theorem ofText_append_eq_error {shown : Text} {position : Nat} {reason : Reason}
    (h : Template.ofText second config = .error (.malformed shown position reason)) :
    Template.ofText (first ++ second) config =
      .error (.malformed (first ++ second) (first.length + position) reason) := by
  obtain ⟨-, -, hfirst⟩ := Template.ofText_eq_ok ht
  have happend := Node.readNodes_append (Node.ofText_eq_ok_iff.1 hfirst) second
  unfold Template.ofText Node.ofText at h ⊢
  cases hread : Node.readNodes second with
  | ok nodes =>
    rw [hread] at h
    cases h
  | error f =>
    rw [hread] at h happend
    rw [happend]
    cases f with
    | excess e => cases h
    | malformed found left =>
      cases h
      have hle := Node.left_le_of_readNodes hread
      have hplace : (first ++ second).length - left = first.length + (second.length - left) := by
        rw [List.length_append]
        omega
      change Except.error (ParseError.malformed _ ((first ++ second).length - left) _) = _
      rw [hplace]

end seam

theorem expand_join {t u both : Template} (hnodes : both.nodes = Node.join t.nodes u.nodes)
    (ht : t.config = both.config) (hu : u.config = both.config)
    {bindings : List (Datum × Datum)} {normalize : Option Bool} {hooks : Hooks} {uri more : Text}
    (huri : t.expand bindings normalize hooks = .ok uri)
    (hmore : u.expand bindings normalize hooks = .ok more) :
    both.expand bindings normalize hooks = .ok (uri ++ more) := by
  obtain ⟨named, hnamed, huri⟩ := bind_eq_ok.1 huri
  obtain ⟨again, hagain, hmore⟩ := bind_eq_ok.1 hmore
  cases hnamed.symm.trans hagain
  refine bind_eq_ok.2 ⟨named, hnamed, ?_⟩
  unfold form? at huri hmore ⊢
  rw [ht] at huri
  rw [hu] at hmore
  rw [hnodes]
  exact expandNodes_join huri hmore

/-- A template and a text behind it: if the text is a template too, both are one, with the nodes of
    both and expanding to the texts of both; if it is malformed, the same is wrong with both, as much
    further on as the template is long. -/
theorem ofText_append {first : Text} {config : Config} {t : Template}
    (ht : Template.ofText first config = .ok t) (second : Text) :
    (∀ u, Template.ofText second config = .ok u →
      ∃ both, Template.ofText (first ++ second) config = .ok both ∧
        both.nodes = Node.join t.nodes u.nodes ∧
        ∀ bindings normalize hooks uri more, t.expand bindings normalize hooks = .ok uri →
          u.expand bindings normalize hooks = .ok more →
          both.expand bindings normalize hooks = .ok (uri ++ more)) ∧
      ∀ shown position reason,
        Template.ofText second config = .error (.malformed shown position reason) →
        Template.ofText (first ++ second) config =
          .error (.malformed (first ++ second) (first.length + position) reason) := by
  obtain ⟨-, hconfig, -⟩ := Template.ofText_eq_ok ht
  refine ⟨fun u hu => ?_, fun shown position reason h => ofText_append_eq_error ht h⟩
  obtain ⟨-, hsame, -⟩ := Template.ofText_eq_ok hu
  exact ⟨_, ofText_append_eq_ok ht hu, rfl, fun bindings normalize hooks uri more huri hmore =>
    expand_join rfl hconfig hsame huri hmore⟩

theorem ofText_append_seam :
    let t : Template := ⟨"/{a}b".toList,
      [.literal ['/'], .expression ⟨.plain, [⟨['a'], .none⟩]⟩, .literal ['b']], {}⟩
    let u : Template := ⟨"c{?d}".toList, [.literal ['c'], .expression ⟨.form, [⟨['d'], .none⟩]⟩], {}⟩
    let bindings : List (Datum × Datum) := [(.text ['a'], .text ['x']), (.text ['d'], .text ['y'])]
    Template.ofText t.source {} = .ok t ∧ Template.ofText u.source {} = .ok u ∧
      (∃ both, Template.ofText "/{a}bc{?d}".toList {} = .ok both ∧
        both.nodes = [.literal ['/'], .expression ⟨.plain, [⟨['a'], .none⟩]⟩, .literal "bc".toList,
          .expression ⟨.form, [⟨['d'], .none⟩]⟩] ∧
        both.expand bindings none {} = .ok "/xbc?d=y".toList) ∧
      Template.ofText "/{a}bc{d:0}".toList {} =
        .error (.malformed "/{a}bc{d:0}".toList 9 (.notPositive ['d'])) := by
  intro t u bindings
  have ht : Template.ofText t.source {} = .ok t := by with_unfolding_all rfl
  have hu : Template.ofText u.source {} = .ok u := by with_unfolding_all rfl
  obtain ⟨both, hboth, hnodes, hexpand⟩ := (ofText_append ht u.source).1 u hu
  have huri : t.expand bindings none {} = .ok "/xb".toList := by with_unfolding_all rfl
  have hmore : u.expand bindings none {} = .ok "c?d=y".toList := by with_unfolding_all rfl
  have hfault : Template.ofText "c{d:0}".toList {} =
      .error (.malformed "c{d:0}".toList 4 (.notPositive ['d'])) := by with_unfolding_all rfl
  exact ⟨ht, hu, ⟨both, hboth, hnodes, hexpand _ _ _ _ _ huri hmore⟩,
    (ofText_append ht "c{d:0}".toList).2 _ _ _ hfault⟩

end Template

end UriTemplate
