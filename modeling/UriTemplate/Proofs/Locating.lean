import UriTemplate.Proofs.Concatenation

set_option autoImplicit false

/-!
A fault lies in an expression behind a text that is a template. Inside the braces the variables up to
the fault are read as they are in any other expression, so without what comes behind them the
expression is just unterminated. `Stuck` says what stands there.
-/

namespace UriTemplate

open Text

theorem Digits.eq_zero_of_ofDigitChars {digits : Text} (hdigits : ∀ c ∈ digits, c.isDigit = true)
    (h : Nat.ofDigitChars 10 digits 0 = 0) : ∀ c ∈ digits, c = '0' := by
  have hfold : ∀ (digits : Text) (start : Nat), (∀ c ∈ digits, c.isDigit = true) →
      Nat.ofDigitChars 10 digits start = 0 → start = 0 ∧ ∀ c ∈ digits, c = '0' := by
    intro digits
    induction digits with
    | nil => exact fun start _ h => ⟨by simpa using h, nofun⟩
    | cons c digits ih =>
      intro start hdigits h
      rw [Nat.ofDigitChars_cons] at h
      obtain ⟨hstart, hzeros⟩ := ih _ (fun d hd => hdigits d (List.mem_cons_of_mem c hd)) h
      have hdigit := hdigits c List.mem_cons_self
      simp only [Char.isDigit, Bool.and_eq_true, decide_eq_true_eq] at hdigit
      have hlower : '0'.toNat ≤ c.toNat := hdigit.1
      have hc : c = '0' := Char.toNat_inj.1 (by omega)
      refine ⟨by omega, fun d hd => ?_⟩
      rcases List.mem_cons.1 hd with rfl | hd
      · exact hc
      · exact hzeros d hd
  exact (hfold digits 0 hdigits h).2

namespace Node

variable {opened t left : Text} {seen : List VarSpec} {reason : Reason} {place : Nat}

/-- What is wrong with the text inside braces, behind the variables that are read already. -/
inductive Stuck (opened : Text) (seen : List VarSpec) : Text → Reason → Nat → Prop
  | ended : Stuck opened seen [] .unterminated opened.length
  | empty {rest : Text} : Stuck opened seen ('}' :: rest) .noVariables opened.length
  | foreign {c : Char} {rest : Text} (hcomma : c ≠ ',') (hbrace : c ≠ '}') :
      Stuck opened seen (c :: rest) .incomplete (c :: rest).length
  | again {v : VarSpec} {s rest : Text} (hv : v.Spelled s) (hstops : v.Stops rest)
      (hseen : v.name ∈ VarSpec.names seen) :
      Stuck opened seen (s ++ rest) (.repeated v.name) rest.length
  | zero {name digits rest : Text} (hname : Name.Valid name) (hne : digits ≠ [])
      (hzeros : ∀ c ∈ digits, c = '0') (hrest : ∀ c ∈ rest.head?, c.isDigit = false) :
      Stuck opened seen (name ++ ':' :: (digits ++ rest)) (.notPositive name)
        (digits ++ rest).length

theorem zeros_of_readModifier {name : Text}
    (h : readModifier name t = .error (.malformed reason place)) :
    ∃ digits rest, t = ':' :: (digits ++ rest) ∧ digits ≠ [] ∧ (∀ c ∈ digits, c = '0') ∧
      (∀ c ∈ rest.head?, c.isDigit = false) ∧ reason = .notPositive name ∧
      place = (digits ++ rest).length := by
  unfold readModifier at h
  split at h
  · cases h
  · next rest =>
    by_cases hnone : (rest.takeWhile Char.isDigit).isEmpty
    · rw [if_pos hnone] at h
      cases h
    · rw [if_neg hnone] at h
      have hrest := (List.takeWhile_append_dropWhile (p := Char.isDigit) (l := rest)).symm
      have hdigits : ∀ c ∈ rest.takeWhile Char.isDigit, c.isDigit = true :=
        List.all_eq_true.1 List.all_takeWhile
      have hne : rest.takeWhile Char.isDigit ≠ [] := by simpa using hnone
      cases hcount : countModifier name rest (rest.takeWhile Char.isDigit) with
      | ok m =>
        rw [hcount] at h
        cases h
      | error f =>
        rw [hcount] at h
        cases h
        unfold countModifier Digits.read at hcount
        by_cases hlength : Digits.limit < (rest.takeWhile Char.isDigit).length
        · rw [if_pos hlength] at hcount
          cases hcount
        · rw [if_neg hlength] at hcount
          simp only at hcount
          split at hcount
          · cases hcount
          · next hpositive =>
            cases hcount
            have hzero := Digits.eq_zero_of_ofDigitChars hdigits (Nat.eq_zero_of_not_pos hpositive)
            exact ⟨_, _, congrArg _ hrest, hne, hzero, head?_dropWhile rest, rfl,
              congrArg List.length hrest⟩
  · cases h

theorem stuck_of_readSpec (h : readSpec t = .error (.malformed reason place)) :
    Stuck opened seen t reason place := by
  have happend := Name.munch_append t
  unfold readSpec at h
  simp only at h
  split at h
  · cases h
  · next hne =>
    have hname := Name.munch_valid (t := t) (by simpa using hne)
    split at h
    · next f hread =>
      cases h
      obtain ⟨digits, rest, hrest, hdigits, hzeros, hnext, rfl, rfl⟩ := zeros_of_readModifier hread
      have hstuck : Stuck opened seen ((Name.munch t).1 ++ ':' :: (digits ++ rest)) _ _ :=
        .zero hname hdigits hzeros hnext
      rw [hrest] at happend
      rwa [happend] at hstuck
    · cases h

theorem stuck_of_readSpecs (h : readSpecs opened seen t = .error (.malformed reason place))
    (hnames : (VarSpec.names seen).Nodup) :
    ∃ more body rest, t = body ++ rest ∧ Scattered more body ∧
      (VarSpec.names (seen ++ more)).Nodup ∧ Stuck opened (seen ++ more) rest reason place := by
  fun_induction readSpecs opened seen t with
  | case1 =>
    cases h
    exact ⟨[], [], [], rfl, .nil, by rwa [List.append_nil], .ended⟩
  | case2 seen tail ih =>
    obtain ⟨more, body, rest, rfl, hbody, hall, hstuck⟩ := ih h hnames
    exact ⟨more, ',' :: body, rest, rfl, .comma hbody, hall, hstuck⟩
  | case3 =>
    cases h
    exact ⟨[], [], _, rfl, .nil, by rwa [List.append_nil], .empty⟩
  | case4 => cases h
  | case5 seen c tail _ _ f hread =>
    cases h
    exact ⟨[], [], _, rfl, .nil, by rwa [List.append_nil], stuck_of_readSpec hread⟩
  | case6 seen c tail hcomma hbrace =>
    cases h
    exact ⟨[], [], _, rfl, .nil, by rwa [List.append_nil], .foreign hcomma hbrace⟩
  | case7 seen c tail _ _ v rest hread hseen =>
    cases h
    obtain ⟨s, hv, ht, hstops⟩ := spelled_of_readSpec hread
    rw [ht]
    refine ⟨[], [], _, rfl, .nil, by rwa [List.append_nil], .again hv hstops ?_⟩
    rwa [List.append_nil]
  | case8 seen c tail _ _ v rest hread hnew ih =>
    obtain ⟨s, hv, ht, hstops⟩ := spelled_of_readSpec hread
    obtain ⟨more, body, rest, rfl, hbody, hall, hstuck⟩ := ih h (VarSpec.nodup_names_snoc hnames hnew)
    rw [List.append_assoc, List.singleton_append] at hall hstuck
    refine ⟨v :: more, s ++ body, rest, ?_, .spec hv (hstops.ends hbody) hbody, hall, hstuck⟩
    rw [ht, List.append_assoc]

theorem readNodes_of_scattered (op : Operator) {body : Text} (hbody : Scattered seen body)
    (hnames : (VarSpec.names seen).Nodup) : readNodes ('{' :: (op.symbol ++ body)) =
      .error (.malformed .unterminated ('{' :: (op.symbol ++ body)).length) := by
  have hhead : ∀ c ∈ body.head?, Operator.ofChar? c = none := by
    have hrest := hbody.ofChar?_head []
    cases body with
    | nil => exact nofun
    | cons c body => exact hrest
  have hspecs : readSpecs ('{' :: (op.symbol ++ body)) [] (readOperator (op.symbol ++ body)).2 =
      .error (.malformed .unterminated ('{' :: (op.symbol ++ body)).length) := by
    have hend : readSpecs ('{' :: (op.symbol ++ body)) [] (body ++ []) =
        readSpecs ('{' :: (op.symbol ++ body)) ([] ++ seen) [] :=
      readSpecs_of_scattered hbody nofun hnames
    rw [List.append_nil] at hend
    rw [readOperator_append op hhead, hend, readSpecs]
  rw [readNodes]
  split
  · next hread =>
    rw [hspecs] at hread
    cases hread
    rfl
  · next hread =>
    rw [hspecs] at hread
    cases hread

theorem exists_expression_of_readNodes {f : Fault} (h : readNodes t = .error f) :
    ∃ before nodes body, t = before ++ '{' :: body ∧ readNodes before = .ok nodes ∧
      readSpecs ('{' :: body) [] (readOperator body).2 = .error f := by
  fun_induction readNodes t with
  | case1 => cases h
  | case2 body f hread =>
    cases h
    exact ⟨[], [], body, rfl, by rw [readNodes], hread⟩
  | case3 body specs rest hread ih =>
    cases hlater : readNodes rest with
    | ok nodes =>
      rw [hlater] at h
      cases h
    | error f =>
      rw [hlater] at h
      cases h
      obtain ⟨before, nodes, more, rfl, hbefore, hmore⟩ := ih hlater
      obtain ⟨hne, hnames, -⟩ := readSpecs_wellFormed hread List.nodup_nil (List.forall_mem_nil _)
      obtain ⟨found, inner, hspecs, hbody, hinner⟩ := scattered_of_readSpecs hread
      rw [List.nil_append] at hspecs
      have hlonger : readNodes ('{' :: (readOperator body).1.symbol ++ inner ++ '}' :: before) = _ :=
        readNodes_expression hne hnames (hspecs ▸ hinner) before
      rw [hbefore] at hlonger
      have htext := symbol_append_readOperator body
      rw [hbody] at htext
      refine ⟨_, _, more, ?_, hlonger, hmore⟩
      refine (congrArg ('{' :: ·) htext.symm).trans ?_
      simp only [List.append_assoc, List.cons_append]
  | case4 c rest hc ih =>
    cases hlater : readNodes (rest.dropWhile (· ≠ '{')) with
    | ok nodes =>
      rw [hlater] at h
      cases h
    | error f =>
      rw [hlater] at h
      cases h
      obtain ⟨before, nodes, more, hrest, hbefore, hmore⟩ := ih hlater
      have hlonger := readNodes_literal_append (List.cons_ne_nil c _) (brace_not_mem hc rest) before
      rw [hbefore] at hlonger
      refine ⟨_, _, more, ?_, hlonger, hmore⟩
      rw [List.append_assoc, ← hrest, List.cons_append, List.takeWhile_append_dropWhile]

end Node

/-- What a text has at the place of a fault, in the expression that begins at `start`. -/
def Reason.At (t : Text) (start place : Nat) : Reason → Prop
  | .unterminated | .noVariables => place = start
  | .incomplete => (∃ c, t[place]? = some c ∧ c ≠ ',' ∧ c ≠ '}') ∧ start < place ∧
      Node.ofText (t.take place) = .error (.malformed (t.take place) start .unterminated)
  | .repeated name => ∃ (op : Operator) (seen : List VarSpec) (v : VarSpec) (body s : Text),
      t.take place = t.take start ++ '{' :: (op.symbol ++ (body ++ s)) ∧ Scattered seen body ∧
        name ∈ VarSpec.names seen ∧ v.name = name ∧ v.Spelled s ∧ v.Stops (t.drop place)
  | .notPositive name => ∃ front digits rest : Text,
      t.take place = t.take start ++ '{' :: (front ++ (name ++ [':'])) ∧
        t.drop place = digits ++ rest ∧ digits ≠ [] ∧ (∀ c ∈ digits, c = '0') ∧
        ∀ c ∈ rest.head?, c.isDigit = false

namespace Node

variable {t : Text} {reason : Reason}

theorem take_drop_of_append {front back : Text} (h : t = front ++ back) :
    t.length - back.length = front.length ∧ t.take front.length = front ∧
      t.drop front.length = back := by
  subst h
  refine ⟨?_, List.take_left' rfl, List.drop_left' rfl⟩
  rw [List.length_append, Nat.add_sub_cancel]

theorem Stuck.at {before body rest : Text} {nodes : List Node} {op : Operator} {seen : List VarSpec}
    {left : Nat} (hbefore : readNodes before = .ok nodes) (hbody : Scattered seen body)
    (hnames : (VarSpec.names seen).Nodup)
    (ht : t = before ++ '{' :: (op.symbol ++ (body ++ rest)))
    (h : Stuck ('{' :: (op.symbol ++ (body ++ rest))) seen rest reason left) :
    reason.At t before.length (t.length - left) := by
  obtain ⟨hstart, htake, -⟩ := take_drop_of_append ht
  cases h with
  | ended => exact hstart
  | empty => exact hstart
  | @foreign c rest hcomma hbrace =>
    have hfront : t = (before ++ '{' :: (op.symbol ++ body)) ++ c :: rest := by
      rw [ht]
      simp only [List.append_assoc, List.cons_append]
    obtain ⟨hplace, htaken, hdropped⟩ := take_drop_of_append hfront
    have hget : t[(before ++ '{' :: (op.symbol ++ body)).length]? = some c := by
      rw [hfront, List.getElem?_append_right (Nat.le_refl _), Nat.sub_self]
      rfl
    have hlater : before.length < (before ++ '{' :: (op.symbol ++ body)).length := by
      rw [List.length_append, List.length_cons]
      omega
    have hread := readNodes_append hbefore ('{' :: (op.symbol ++ body))
    rw [readNodes_of_scattered op hbody hnames] at hread
    obtain ⟨hopened, -, -⟩ := take_drop_of_append (rfl : before ++ '{' :: (op.symbol ++ body) = _)
    rw [hplace]
    refine ⟨⟨c, hget, hcomma, hbrace⟩, hlater, ?_⟩
    rw [htaken]
    unfold ofText
    rw [hread, ← hopened]
    rfl
  | @again v s rest hv hstops hseen =>
    have hfront : t = (before ++ '{' :: (op.symbol ++ (body ++ s))) ++ rest := by
      rw [ht]
      simp only [List.append_assoc, List.cons_append]
    obtain ⟨hplace, htaken, hdropped⟩ := take_drop_of_append hfront
    rw [hplace]
    refine ⟨op, seen, v, body, s, ?_, hbody, hseen, rfl, hv, ?_⟩
    · rw [htaken, htake]
    · rwa [hdropped]
  | @zero name digits rest hname hne hzeros hrest =>
    have hfront :
        t = (before ++ '{' :: (op.symbol ++ body ++ (name ++ [':']))) ++ (digits ++ rest) := by
      rw [ht]
      simp only [List.append_assoc, List.cons_append, List.nil_append]
    obtain ⟨hplace, htaken, hdropped⟩ := take_drop_of_append hfront
    rw [hplace]
    refine ⟨op.symbol ++ body, digits, rest, ?_, hdropped, hne, hzeros, hrest⟩
    rw [htaken, htake]

/-- A malformed template has a fault in an expression that begins where it could have ended. Reading
    stops at that place, in front of what is wrong or right behind it. -/
theorem ofText_malformed {shown : Text} {place : Nat}
    (h : ofText t = .error (.malformed shown place reason)) :
    shown = t ∧ ∃ start, t[start]? = some '{' ∧ start ≤ place ∧ place ≤ t.length ∧
      (∃ nodes, ofText (t.take start) = .ok nodes) ∧ reason.At t start place := by
  unfold ofText at h
  cases hread : readNodes t with
  | ok nodes =>
    rw [hread] at h
    cases h
  | error f =>
    rw [hread] at h
    cases f with
    | excess e => cases h
    | malformed found left =>
      cases h
      refine ⟨rfl, ?_⟩
      obtain ⟨before, nodes, inside, ht, hbefore, hspecs⟩ := exists_expression_of_readNodes hread
      obtain ⟨seen, body, rest, hbody, hlist, hnames, hstuck⟩ :=
        stuck_of_readSpecs hspecs List.nodup_nil
      have hleft : left ≤ ('{' :: inside).length :=
        left_le_of_readSpecs (Nat.le_refl _) (Nat.le_succ_of_le (readOperator_length_le inside)) hspecs
      have hinside := symbol_append_readOperator inside
      rw [hbody] at hinside
      rw [← hinside] at ht hstuck
      obtain ⟨hstart, htake, hdrop⟩ := take_drop_of_append ht
      refine ⟨before.length, ?_, ?_, Nat.sub_le _ _, ⟨nodes, ?_⟩, hstuck.at hbefore hlist hnames ht⟩
      · have hget : (t.drop before.length)[0]? = t[before.length + 0]? := List.getElem?_drop
        rw [hdrop] at hget
        exact hget.symm
      · have hlength := congrArg List.length hinside
        rw [List.length_cons] at hleft hstart
        omega
      · rw [htake]
        exact ofText_eq_ok_iff.2 hbefore

theorem ofText_malformed_incomplete :
    let t : Text := "/{a}{b:2,c.}".toList
    ofText t = .error (.malformed t 10 .incomplete) ∧
      ∃ start, t[start]? = some '{' ∧ start < 10 ∧ (∃ nodes, ofText (t.take start) = .ok nodes) ∧
        ofText (t.take 10) = .error (.malformed (t.take 10) start .unterminated) := by
  intro t
  have ht : ofText t = .error (.malformed t 10 .incomplete) := by with_unfolding_all rfl
  obtain ⟨-, start, hbrace, -, -, hbefore, -, hlater, hend⟩ := ofText_malformed ht
  exact ⟨ht, start, hbrace, hlater, hbefore, hend⟩

end Node

end UriTemplate
