import UriTemplate.Command.Outcome
import UriTemplate.Proofs.Locating

set_option autoImplicit false

namespace UriTemplate

open Character Text

namespace Node

variable {opened t left : Text} {seen : List VarSpec} {v : VarSpec} {e : Digits.Excess} {count : Nat}

/-- Inside braces, behind the variables that are read already, come further variables up to one with
    a limit of too many digits. Whether that one is new does not matter. -/
inductive LongLimit : List VarSpec → Text → Nat → Prop
  | here {seen : List VarSpec} {name digits rest : Text} (hname : Name.Valid name)
      (hdigits : ∀ c ∈ digits, c.isDigit = true) (hrest : ∀ c ∈ rest.head?, c.isDigit = false)
      (hlong : Digits.limit < digits.length) :
      LongLimit seen (name ++ ':' :: (digits ++ rest)) digits.length
  | comma {seen : List VarSpec} {t : Text} {count : Nat} (h : LongLimit seen t count) :
      LongLimit seen (',' :: t) count
  | spec {seen : List VarSpec} {v : VarSpec} {s t : Text} {count : Nat} (hv : v.Spelled s)
      (hend : v.Ends t) (hnew : v.name ∉ VarSpec.names seen)
      (h : LongLimit (seen ++ [v]) t count) : LongLimit seen (s ++ t) count

theorem LongLimit.head_cases (h : LongLimit seen t count) :
    (∃ rest, t = ',' :: rest) ∨ unit? isVarchar t ≠ none := by
  cases h with
  | here hname => exact .inr (hname.unit?_append_ne_none _)
  | comma => exact .inl ⟨_, rfl⟩
  | spec hv => exact .inr (hv.unit?_ne_none _)

theorem LongLimit.ofChar?_head (h : LongLimit seen t count) :
    ∀ c ∈ t.head?, Operator.ofChar? c = none := by
  intro c hc
  obtain ⟨rest, rfl⟩ := List.head?_eq_some_iff.1 (Option.mem_def.1 hc)
  rcases h.head_cases with ⟨rest, hcomma⟩ | hunit
  · cases hcomma
    rfl
  · exact Operator.ofChar?_eq_none_of_unit? hunit

theorem LongLimit.ends (h : LongLimit seen t count) (hstops : v.Stops t) : v.Ends t := by
  unfold VarSpec.Stops at hstops
  unfold VarSpec.Ends
  split
  · next hmod =>
    rw [hmod] at hstops
    rcases h.head_cases with ⟨rest, rfl⟩ | hunit
    · exact fun c hc => (Option.some.inj hc).symm
    · obtain ⟨r, hr⟩ := Option.ne_none_iff_exists'.1 hunit
      rw [Name.more?_of_unit? hr] at hstops
      cases hstops
  · trivial
  · next hmod =>
    rw [hmod] at hstops
    exact hstops

theorem digits_of_readModifier {name : Text} (h : readModifier name t = .error (.excess e)) :
    ∃ digits rest, t = ':' :: (digits ++ rest) ∧ (∀ c ∈ digits, c.isDigit = true) ∧
      (∀ c ∈ rest.head?, c.isDigit = false) ∧ Digits.limit < digits.length ∧
      e = .reading digits.length := by
  unfold readModifier at h
  split at h
  · cases h
  · next rest =>
    by_cases hnone : (rest.takeWhile Char.isDigit).isEmpty
    · rw [if_pos hnone] at h
      cases h
    · rw [if_neg hnone] at h
      cases hcount : countModifier name rest (rest.takeWhile Char.isDigit) with
      | ok m =>
        rw [hcount] at h
        cases h
      | error f =>
        rw [hcount] at h
        cases h
        unfold countModifier Digits.read at hcount
        by_cases hlong : Digits.limit < (rest.takeWhile Char.isDigit).length
        · rw [if_pos hlong] at hcount
          cases hcount
          exact ⟨_, _, congrArg _ List.takeWhile_append_dropWhile.symm,
            List.all_eq_true.1 List.all_takeWhile, head?_dropWhile rest, hlong, rfl⟩
        · rw [if_neg hlong] at hcount
          simp only at hcount
          split at hcount <;> cases hcount
  · cases h

theorem longLimit_of_readSpec (h : readSpec t = .error (.excess e)) :
    ∃ count, e = .reading count ∧ LongLimit seen t count := by
  have happend := Name.munch_append t
  unfold readSpec at h
  simp only at h
  split at h
  · cases h
  · next hne =>
    have hname := Name.munch_valid (t := t) (by simpa using hne)
    split at h
    · next f hread =>
      cases h
      obtain ⟨digits, rest, hrest, hdigits, hnext, hlong, rfl⟩ := digits_of_readModifier hread
      have hhere : LongLimit seen ((Name.munch t).1 ++ ':' :: (digits ++ rest)) digits.length :=
        .here hname hdigits hnext hlong
      rw [← hrest, happend] at hhere
      exact ⟨_, rfl, hhere⟩
    · cases h

theorem readSpec_of_long {name digits rest : Text} (hname : Name.Valid name)
    (hdigits : ∀ c ∈ digits, c.isDigit = true) (hrest : ∀ c ∈ rest.head?, c.isDigit = false)
    (hlong : Digits.limit < digits.length) :
    readSpec (name ++ ':' :: (digits ++ rest)) = .error (.excess (.reading digits.length)) := by
  have hmore : Name.more? (':' :: (digits ++ rest)) = none :=
    Name.more?_cons_eq_none (by decide) (by decide) (by decide) _
  have hne : digits.isEmpty = false := by
    cases digits with
    | nil => exact absurd hlong (Nat.not_lt_zero _)
    | cons d digits => rfl
  obtain ⟨htake, -⟩ := takeWhile_dropWhile_append hdigits hrest
  have hread : readModifier name (':' :: (digits ++ rest)) =
      .error (.excess (.reading digits.length)) := by
    simp only [readModifier, htake, hne, Bool.false_eq_true, if_false, countModifier, Digits.read,
      if_pos hlong]
    rfl
  unfold readSpec
  simp only [Name.munch_append_of_valid hname hmore, List.isEmpty_iff, hname.ne_nil, if_false, hread]

theorem readSpecs_of_readSpec_error {f : Fault} (h : readSpec t = .error f)
    (hunit : unit? isVarchar t ≠ none) : readSpecs opened seen t = .error f := by
  obtain ⟨c, t, rfl, hcomma, hbrace⟩ := exists_cons_of_unit? hunit
  rw [readSpecs]
  · split
    · next hread =>
      rw [h] at hread
      cases hread
      rfl
    · next hread =>
      rw [h] at hread
      cases hread
    · next hread =>
      rw [h] at hread
      cases hread
  · exact hcomma
  · exact hbrace

theorem readSpecs_eq_excess_iff : readSpecs opened seen t = .error (.excess e) ↔
    ∃ count, e = .reading count ∧ LongLimit seen t count := by
  constructor
  · intro h
    fun_induction readSpecs opened seen t with
    | case1 => cases h
    | case2 seen tail ih =>
      obtain ⟨count, he, hlong⟩ := ih h
      exact ⟨count, he, .comma hlong⟩
    | case3 => cases h
    | case4 => cases h
    | case5 seen c tail _ _ f hread =>
      cases h
      exact longLimit_of_readSpec hread
    | case6 => cases h
    | case7 => cases h
    | case8 seen c tail _ _ v rest hread hnew ih =>
      obtain ⟨s, hv, ht, hstops⟩ := spelled_of_readSpec hread
      obtain ⟨count, he, hlong⟩ := ih h
      rw [ht]
      exact ⟨count, he, .spec hv (hlong.ends hstops) hnew hlong⟩
  · rintro ⟨count, rfl, hlong⟩
    induction hlong with
    | @here seen name digits rest hname hdigits hrest hlong =>
      have hread := readSpec_of_long hname hdigits hrest hlong
      exact readSpecs_of_readSpec_error hread (hname.unit?_append_ne_none _)
    | comma _ ih =>
      rw [readSpecs]
      exact ih
    | @spec seen v s t count hv hend hnew _ ih =>
      have hread : readSpec (s ++ (t ++ [])) = .ok (some v, t ++ []) :=
        readSpec_of_spelled hv hend fun _ hc => absurd hc (Option.not_mem_none _)
      rw [List.append_nil] at hread
      rw [readSpecs_of_readSpec hread hnew]
      exact ih

/-- The template has a limit of too many digits, in an expression behind text that is a template, and
    is not malformed in front of it. -/
def Overlong (t : Text) (count : Nat) : Prop :=
  ∃ (before body : Text) (op : Operator), t = before ++ '{' :: (op.symbol ++ body) ∧
    (∃ nodes, ofText before = .ok nodes) ∧ LongLimit [] body count

theorem readNodes_of_longLimit (op : Operator) {body : Text} (h : LongLimit [] body count) :
    readNodes ('{' :: (op.symbol ++ body)) = .error (.excess (.reading count)) := by
  have hspecs : readSpecs ('{' :: (op.symbol ++ body)) [] body = .error (.excess (.reading count)) :=
    readSpecs_eq_excess_iff.2 ⟨count, rfl, h⟩
  have hop := readOperator_append op h.ofChar?_head
  rw [readNodes]
  split
  · next hread =>
    rw [hop, hspecs] at hread
    cases hread
    rfl
  · next hread =>
    rw [hop, hspecs] at hread
    cases hread

theorem ofText_eq_excess_iff :
    ofText t = .error (.excess e) ↔ ∃ count, e = .reading count ∧ Overlong t count := by
  have hnodes : ofText t = .error (.excess e) ↔ readNodes t = .error (.excess e) := by
    unfold ofText
    cases readNodes t with
    | ok nodes => exact ⟨nofun, nofun⟩
    | error f =>
      cases f with
      | malformed reason left => exact ⟨nofun, nofun⟩
      | excess own => exact ⟨fun h => by cases h; rfl, fun h => by cases h; rfl⟩
  rw [hnodes]
  constructor
  · intro h
    obtain ⟨before, nodes, inside, ht, hbefore, hspecs⟩ := exists_expression_of_readNodes h
    obtain ⟨count, he, hlong⟩ := readSpecs_eq_excess_iff.1 hspecs
    rw [← symbol_append_readOperator inside] at ht
    exact ⟨count, he, before, _, _, ht, ⟨nodes, ofText_eq_ok_iff.2 hbefore⟩, hlong⟩
  · rintro ⟨count, rfl, before, body, op, rfl, ⟨nodes, hbefore⟩, hlong⟩
    rw [readNodes_append (ofText_eq_ok_iff.1 hbefore), readNodes_of_longLimit op hlong]
    rfl

end Node

theorem Template.ofText_eq_error_iff {t : Text} {config : Config} {e : ParseError} :
    Template.ofText t config = .error e ↔ Node.ofText t = .error e := by
  unfold Template.ofText
  cases Node.ofText t with
  | ok nodes => exact ⟨nofun, nofun⟩
  | error own => exact ⟨fun h => by cases h; rfl, fun h => by cases h; rfl⟩

namespace Command

variable {t : Text} {e : ParseError}

theorem withTemplate_of_malformed {shown : Text} {place : Nat} {reason : Reason}
    (h : Node.ofText t = .error (.malformed shown place reason)) (config : Config)
    (use : Template → Outcome) : withTemplate t config use =
      .finished 2 [] (reported (ParseError.message (.malformed shown place reason))) := by
  unfold withTemplate
  rw [Template.ofText_eq_error_iff.2 h]

theorem withTemplate_of_overlong {count : Nat} (h : Node.Overlong t count) (config : Config)
    (use : Template → Outcome) :
    withTemplate t config use = .escaped (.template (.excess (.reading count))) := by
  unfold withTemplate
  rw [Template.ofText_eq_error_iff.2 (Node.ofText_eq_excess_iff.2 ⟨count, rfl, h⟩)]

theorem runExpand_of_unreadable (h : Template.ofText t {} = .error e) {pairs : List Text}
    {json? : Option Text} {bindings : Assoc Loose Json}
    (hbindings : readBindings pairs json? = .ok bindings) (verbose normalize : Bool) :
    runExpand verbose t pairs json? normalize = .finished 2 [] (reported e.message) := by
  unfold runExpand
  simp only [hbindings, h]

/-- What is wrong with a template is reported alike by all three commands, with exit code 2 and
    nothing on the output. Only a limit of too many digits is not: expanding reports it too, but it
    escapes matching and parsing. -/
theorem run_of_unreadable (h : Template.ofText t {} = .error e) :
    let refused := Outcome.finished 2 [] (line ("Error: ".toList ++ e.message))
    (∀ verbose pairs json? normalize bindings, readBindings pairs json? = .ok bindings →
      run verbose (.expand t pairs json? normalize) = refused) ∧
    ((∀ count, ¬ Node.Overlong t count) →
      (∀ verbose uri allowRest, run verbose (.matchUri t uri allowRest) = refused) ∧
        ∀ verbose, run verbose (.parse t) = refused) ∧
    ∀ count, Node.Overlong t count → e = .excess (.reading count) ∧
      (∀ verbose uri allowRest, run verbose (.matchUri t uri allowRest) = .escaped (.template e)) ∧
        ∀ verbose, run verbose (.parse t) = .escaped (.template e) := by
  have hnodes := Template.ofText_eq_error_iff.1 h
  refine ⟨fun verbose _ _ normalize _ hbindings =>
    runExpand_of_unreadable h hbindings verbose normalize, fun hnot => ?_, fun count hlong => ?_⟩
  · cases e with
    | malformed shown place reason =>
      exact ⟨fun _ _ _ => withTemplate_of_malformed hnodes _ _,
        fun _ => withTemplate_of_malformed hnodes _ _⟩
    | excess own =>
      obtain ⟨count, -, hlong⟩ := Node.ofText_eq_excess_iff.1 hnodes
      exact absurd hlong (hnot count)
  · have he : e = .excess (.reading count) := by
      have hread := Node.ofText_eq_excess_iff.2 ⟨count, rfl, hlong⟩
      rw [hnodes] at hread
      exact Except.error.inj hread
    subst he
    exact ⟨rfl, fun _ _ _ => withTemplate_of_overlong hlong _ _,
      fun _ => withTemplate_of_overlong hlong _ _⟩

theorem run_of_unreadable_unterminated :
    let t : Text := "\x7b+a,b:2".toList
    let message : Text := "Error: unterminated expression at position 0 in '\x7b+a,b:2'\n".toList
    (∃ e, Template.ofText t {} = .error e) ∧
      runLine ["expand".toList, t] = .finished 2 [] message ∧
      runLine ["expand".toList, t, "a=1".toList] = .finished 2 [] message ∧
      runLine ["match".toList, t, "/1".toList, "--prefix".toList] = .finished 2 [] message ∧
      runLine ["-v".toList, "parse".toList, t] = .finished 2 [] message := by
  intro t message
  have h : Template.ofText t {} = .error (.malformed t 0 .unterminated) := by
    with_unfolding_all rfl
  have hnot : ∀ count, ¬ Node.Overlong t count := by
    intro count hlong
    have hread := Node.ofText_eq_excess_iff.2 ⟨count, rfl, hlong⟩
    rw [Template.ofText_eq_error_iff.1 h] at hread
    cases hread
  obtain ⟨hexpand, hothers, -⟩ := run_of_unreadable h
  obtain ⟨hmatch, hparse⟩ := hothers hnot
  have hmessage : line ("Error: ".toList ++ ParseError.message (.malformed t 0 .unterminated)) =
      message := by with_unfolding_all rfl
  rw [hmessage] at hexpand hmatch hparse
  exact ⟨⟨_, h⟩, hexpand false [] none true [] rfl,
    hexpand false ["a=1".toList] none true _ rfl, hmatch false (.text "/1".toList) true,
    hparse true⟩

/-- A limit of one digit too many. Expanding reports it and parsing does not. -/
theorem runLine_of_overlong :
    let t : Text := '{' :: 'a' :: ':' :: (List.replicate 4301 '1' ++ ['}'])
    let e : ParseError := .excess (.reading 4301)
    Template.ofText t {} = .error e ∧
      runLine ["expand".toList, t] = .finished 2 [] (line ("Error: ".toList ++ e.message)) ∧
      runLine ["parse".toList, t] = .escaped (.template e) ∧
      ∀ exit output errors, runLine ["parse".toList, t] ≠ .finished exit output errors := by
  intro t e
  have hdigits : ∀ c ∈ List.replicate 4301 '1', c.isDigit = true := by
    intro c hc
    rw [List.eq_of_mem_replicate hc]
    rfl
  have hrest : ∀ c ∈ ['}'].head?, c.isDigit = false := by
    intro c hc
    cases hc
    rfl
  have hlength : (List.replicate 4301 '1').length = 4301 := List.length_replicate
  have hlong : Node.LongLimit [] ('a' :: ':' :: (List.replicate 4301 '1' ++ ['}'])) _ :=
    .here (.unit (.char 'a' rfl)) hdigits hrest (by rw [hlength]; decide)
  rw [hlength] at hlong
  have hoverlong : Node.Overlong t 4301 :=
    ⟨[], _, .plain, rfl, ⟨[], by with_unfolding_all rfl⟩, hlong⟩
  have h : Template.ofText t {} = .error e :=
    Template.ofText_eq_error_iff.2 (Node.ofText_eq_excess_iff.2 ⟨4301, rfl, hoverlong⟩)
  have hparse : runLine ["parse".toList, t] = .escaped (.template e) :=
    withTemplate_of_overlong hoverlong _ _
  have hnone : readBindings [] none = .ok [] := rfl
  refine ⟨h, runExpand_of_unreadable h hnone false true, hparse, fun exit output errors => ?_⟩
  rw [hparse]
  exact nofun

end Command

end UriTemplate
