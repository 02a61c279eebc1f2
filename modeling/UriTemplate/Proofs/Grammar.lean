import UriTemplate.Proofs.Munch
import UriTemplate.Proofs.WellFormed

set_option autoImplicit false

/-!
`Spelling list` relates nodes to the texts that spell them, where `list` says how the variables
inside braces are spelled: `Listed` has one comma between two variables and none elsewhere,
`Scattered` any number of commas anywhere and none where a variable ends of itself. Reading accepts
exactly the texts with scattered lists, among them all texts with proper lists.
-/

namespace UriTemplate

open Character Text

theorem Text.takeWhile_dropWhile_append {p : Char → Bool} {t rest : Text} (ht : ∀ c ∈ t, p c = true)
    (hrest : ∀ c ∈ rest.head?, p c = false) :
    (t ++ rest).takeWhile p = t ∧ (t ++ rest).dropWhile p = rest := by
  rw [List.takeWhile_append_of_pos ht, List.dropWhile_append_of_pos ht]
  cases rest with
  | nil => exact ⟨List.append_nil t, rfl⟩
  | cons c rest =>
    have hc : ¬ p c = true := Bool.eq_false_iff.1 (hrest c rfl)
    rw [List.takeWhile_cons_of_neg hc, List.dropWhile_cons_of_neg hc]
    exact ⟨List.append_nil t, rfl⟩

theorem Text.head?_dropWhile {p : Char → Bool} (t : Text) :
    ∀ c ∈ (t.dropWhile p).head?, p c = false := by
  intro c hc
  have h := List.head?_dropWhile_not p t
  rw [Option.mem_def.1 hc] at h
  exact h

namespace VarSpec

/-- The spellings of a variable: a name, and behind it a star, or a colon and the digits of a
    positive number. -/
inductive Spelled : VarSpec → Text → Prop
  | plain {name : Text} (hname : Name.Valid name) : Spelled ⟨name, .none⟩ name
  | exploded {name : Text} (hname : Name.Valid name) : Spelled ⟨name, .explode⟩ (name ++ ['*'])
  | limited {name digits : Text} {count : Nat} (hname : Name.Valid name)
      (hdigits : ∀ c ∈ digits, c.isDigit = true) (hlength : digits.length ≤ Digits.limit)
      (hcount : Nat.ofDigitChars 10 digits 0 = count) (positive : 0 < count) :
      Spelled ⟨name, .first count positive⟩ (name ++ ':' :: digits)

/-- Nothing of the text behind a variable goes on with its name or its digits. -/
def Stops (v : VarSpec) (rest : Text) : Prop :=
  match v.modifier with
  | .none => Name.more? rest = none
  | .explode => True
  | .first _ _ => ∀ c ∈ rest.head?, c.isDigit = false

/-- Inside braces a name alone ends at a comma or at the end, and digits in front of anything else. -/
def Ends (v : VarSpec) (rest : Text) : Prop :=
  match v.modifier with
  | .none => ∀ c ∈ rest.head?, c = ','
  | .explode => True
  | .first _ _ => ∀ c ∈ rest.head?, c.isDigit = false

variable {v : VarSpec} {s rest : Text}

theorem Spelled.name_valid (h : v.Spelled s) : Name.Valid v.name := by
  cases h with
  | plain hname => exact hname
  | exploded hname => exact hname
  | limited hname => exact hname

theorem Spelled.exists_name (h : v.Spelled s) : ∃ modifier, s = v.name ++ modifier := by
  cases h with
  | plain => exact ⟨[], (List.append_nil _).symm⟩
  | exploded => exact ⟨['*'], rfl⟩
  | @limited _ digits => exact ⟨':' :: digits, rfl⟩

theorem Spelled.unit?_ne_none (h : v.Spelled s) (rest : Text) :
    unit? isVarchar (s ++ rest) ≠ none := by
  obtain ⟨modifier, rfl⟩ := h.exists_name
  rw [List.append_assoc]
  exact h.name_valid.unit?_append_ne_none _

end VarSpec

namespace Node

variable {name s t left : Text} {v : VarSpec}

theorem readSpec_of_munch {rest : Text} (hm : Name.munch t = (name, rest)) (hne : name ≠ [])
    {modifier : Modifier} (hread : readModifier name rest = .ok (modifier, left)) :
    readSpec t = .ok (some ⟨name, modifier⟩, left) := by
  unfold readSpec
  simp only [hm, List.isEmpty_iff, hne, if_false, hread]

theorem countModifier_eq_ok (left : Text) {digits : Text} {count : Nat}
    (hlength : digits.length ≤ Digits.limit) (hcount : Nat.ofDigitChars 10 digits 0 = count)
    (positive : 0 < count) : countModifier name left digits = .ok (.first count positive) := by
  unfold countModifier Digits.read
  rw [if_neg (Nat.not_lt.2 hlength)]
  simp only [hcount, dif_pos positive]

theorem exists_count_of_countModifier {digits : Text} {modifier : Modifier}
    (h : countModifier name left digits = .ok modifier) :
    ∃ count positive, digits.length ≤ Digits.limit ∧ Nat.ofDigitChars 10 digits 0 = count ∧
      modifier = .first count positive := by
  unfold countModifier Digits.read at h
  by_cases hlength : Digits.limit < digits.length
  · rw [if_pos hlength] at h
    cases h
  · rw [if_neg hlength] at h
    simp only at h
    split at h
    · next positive => exact ⟨_, positive, Nat.not_lt.1 hlength, rfl, (Except.ok.inj h).symm⟩
    · cases h

theorem readModifier_eq_ok {modifier : Modifier} (h : readModifier name t = .ok (modifier, left)) :
    (modifier = .none ∧ t = left) ∨ (modifier = .explode ∧ t = '*' :: left) ∨
      ∃ digits count positive, modifier = .first count positive ∧ t = ':' :: digits ++ left ∧
        (∀ c ∈ digits, c.isDigit = true) ∧ digits.length ≤ Digits.limit ∧
        Nat.ofDigitChars 10 digits 0 = count ∧ ∀ c ∈ left.head?, c.isDigit = false := by
  unfold readModifier at h
  split at h
  · cases h
    exact .inr (.inl ⟨rfl, rfl⟩)
  · next rest =>
    by_cases hnone : (rest.takeWhile Char.isDigit).isEmpty
    · rw [if_pos hnone] at h
      cases h
      exact .inl ⟨rfl, rfl⟩
    · rw [if_neg hnone] at h
      cases hcount : countModifier name rest (rest.takeWhile Char.isDigit) with
      | error f =>
        rw [hcount] at h
        cases h
      | ok m =>
        rw [hcount] at h
        cases h
        obtain ⟨count, positive, hlength, hvalue, rfl⟩ := exists_count_of_countModifier hcount
        have hrest : ':' :: rest =
            ':' :: rest.takeWhile Char.isDigit ++ rest.dropWhile Char.isDigit := by
          rw [List.cons_append, List.takeWhile_append_dropWhile]
        exact .inr (.inr ⟨_, count, positive, rfl, hrest, List.all_eq_true.1 List.all_takeWhile,
          hlength, hvalue, head?_dropWhile rest⟩)
  · cases h
    exact .inl ⟨rfl, rfl⟩

theorem readSpec_of_spelled (h : v.Spelled s) {body rest : Text} (hend : v.Ends body)
    (hrest : ∀ c ∈ rest.head?, c = '}') :
    readSpec (s ++ (body ++ rest)) = .ok (some v, body ++ rest) := by
  cases h with
  | @plain name hname =>
    have hnext : ∀ c ∈ (body ++ rest).head?, c = ',' ∨ c = '}' := by
      cases body with
      | nil => exact fun c hc => .inr (hrest c hc)
      | cons d body => exact fun c hc => .inl (hend c hc)
    have hmore : Name.more? (body ++ rest) = none := by
      cases hbody : body ++ rest with
      | nil => rfl
      | cons c more =>
        rw [hbody] at hnext
        rcases hnext c rfl with rfl | rfl
        · exact Name.more?_cons_eq_none (by decide) (by decide) (by decide) more
        · exact Name.more?_cons_eq_none (by decide) (by decide) (by decide) more
    refine readSpec_of_munch (Name.munch_append_of_valid hname hmore) hname.ne_nil ?_
    cases hbody : body ++ rest with
    | nil => rfl
    | cons c more =>
      rw [hbody] at hnext
      rcases hnext c rfl with rfl | rfl
      · rfl
      · rfl
  | @exploded name hname =>
    have hmore : Name.more? ('*' :: (body ++ rest)) = none :=
      Name.more?_cons_eq_none (by decide) (by decide) (by decide) _
    rw [List.append_assoc, List.singleton_append]
    exact readSpec_of_munch (Name.munch_append_of_valid hname hmore) hname.ne_nil rfl
  | @limited name digits count hname hdigits hlength hcount positive =>
    have hmore : Name.more? (':' :: (digits ++ (body ++ rest))) = none :=
      Name.more?_cons_eq_none (by decide) (by decide) (by decide) _
    have hnext : ∀ c ∈ (body ++ rest).head?, c.isDigit = false := by
      cases body with
      | nil =>
        intro c hc
        rw [hrest c hc]
        rfl
      | cons c body => exact hend
    obtain ⟨htake, hdrop⟩ := takeWhile_dropWhile_append hdigits hnext
    have hne : digits.isEmpty = false := by
      cases digits with
      | nil => exact absurd positive (hcount ▸ Nat.lt_irrefl 0)
      | cons d digits => rfl
    rw [List.append_assoc, List.cons_append]
    refine readSpec_of_munch (Name.munch_append_of_valid hname hmore) hname.ne_nil ?_
    simp only [readModifier, htake, hdrop, hne, Bool.false_eq_true, if_false,
      countModifier_eq_ok _ hlength hcount positive]
    rfl

theorem spelled_of_readSpec (h : readSpec t = .ok (some v, left)) :
    ∃ s, v.Spelled s ∧ t = s ++ left ∧ v.Stops left := by
  have happend := Name.munch_append t
  unfold readSpec at h
  simp only at h
  split at h
  · cases h
  · next hne =>
    have hne : (Name.munch t).1 ≠ [] := by simpa using hne
    have hname := Name.munch_valid hne
    have hmore := Name.more?_munch hne
    split at h
    · cases h
    · next modifier rest hread =>
      cases h
      rcases readModifier_eq_ok hread with ⟨rfl, hrest⟩ | ⟨rfl, hrest⟩ |
        ⟨digits, count, positive, rfl, hrest, hdigits, hlength, hcount, hnext⟩
      · rw [hrest] at happend hmore
        exact ⟨_, .plain hname, happend.symm, hmore⟩
      · rw [hrest, ← List.singleton_append, ← List.append_assoc] at happend
        exact ⟨_, .exploded hname, happend.symm, trivial⟩
      · rw [hrest, ← List.append_assoc] at happend
        exact ⟨_, .limited hname hdigits hlength hcount positive, happend.symm, hnext⟩

end Node

/-- Variables with one comma between two of them. -/
inductive Listed : List VarSpec → Text → Prop
  | one {v : VarSpec} {s : Text} (hv : v.Spelled s) : Listed [v] s
  | cons {v : VarSpec} {s t : Text} {specs : List VarSpec} (hv : v.Spelled s)
      (h : Listed specs t) : Listed (v :: specs) (s ++ ',' :: t)

/-- Variables with commas anywhere, and with none where a variable ends of itself. -/
inductive Scattered : List VarSpec → Text → Prop
  | nil : Scattered [] []
  | comma {t : Text} {specs : List VarSpec} (h : Scattered specs t) : Scattered specs (',' :: t)
  | spec {v : VarSpec} {s t : Text} {specs : List VarSpec} (hv : v.Spelled s) (hend : v.Ends t)
      (h : Scattered specs t) : Scattered (v :: specs) (s ++ t)

theorem VarSpec.ends_nil (v : VarSpec) : v.Ends [] := by
  unfold Ends
  split
  · exact fun c hc => by cases hc
  · trivial
  · exact fun c hc => by cases hc

theorem VarSpec.ends_comma (v : VarSpec) (t : Text) : v.Ends (',' :: t) := by
  unfold Ends
  split
  · exact fun c hc => (Option.some.inj hc).symm
  · trivial
  · intro c hc
    cases hc
    rfl

theorem Listed.scattered {specs : List VarSpec} {t : Text} (h : Listed specs t) :
    Scattered specs t := by
  induction h with
  | @one v s hv =>
    have hspec := Scattered.spec hv v.ends_nil .nil
    rwa [List.append_nil] at hspec
  | @cons v s t specs hv _ ih => exact .spec hv (v.ends_comma t) (.comma ih)

theorem Listed.length_le {specs : List VarSpec} {t : Text} (h : Listed specs t) :
    specs.length ≤ t.count ',' + 1 := by
  induction h with
  | one => exact Nat.le_add_left 1 _
  | cons _ _ ih =>
    rw [List.count_append, List.count_cons_self, List.length_cons]
    omega

theorem Scattered.head_cases {specs : List VarSpec} {t : Text} (h : Scattered specs t) :
    t = [] ∨ (∃ rest, t = ',' :: rest) ∨ ∀ rest, unit? isVarchar (t ++ rest) ≠ none := by
  cases h with
  | nil => exact .inl rfl
  | comma => exact .inr (.inl ⟨_, rfl⟩)
  | spec hv => exact .inr (.inr fun rest => by rw [List.append_assoc]; exact hv.unit?_ne_none _)

theorem VarSpec.Stops.ends {v : VarSpec} {specs : List VarSpec} {body rest : Text}
    (h : v.Stops (body ++ rest)) (hbody : Scattered specs body) : v.Ends body := by
  unfold Stops at h
  unfold Ends
  split
  · next hmod =>
    rw [hmod] at h
    rcases hbody.head_cases with rfl | ⟨t, rfl⟩ | hunit
    · exact fun c hc => by cases hc
    · exact fun c hc => (Option.some.inj hc).symm
    · obtain ⟨r, hr⟩ := Option.ne_none_iff_exists'.1 (hunit rest)
      rw [Name.more?_of_unit? hr] at h
      cases h
  · trivial
  · next hmod =>
    rw [hmod] at h
    cases body with
    | nil => exact fun c hc => by cases hc
    | cons c body => exact h

namespace Node

variable {opened body t rest : Text} {seen specs : List VarSpec} {v : VarSpec}

theorem exists_cons_of_unit? (h : unit? isVarchar t ≠ none) :
    ∃ c rest, t = c :: rest ∧ c ≠ ',' ∧ c ≠ '}' := by
  cases t with
  | nil => exact absurd rfl h
  | cons c rest =>
    refine ⟨c, rest, rfl, ?_, ?_⟩
    · rintro rfl
      exact h (unit?_cons_eq_none (by decide) (by decide) rest)
    · rintro rfl
      exact h (unit?_cons_eq_none (by decide) (by decide) rest)

theorem readSpecs_of_readSpec {left : Text} (h : readSpec t = .ok (some v, left))
    (hv : v.name ∉ VarSpec.names seen) :
    readSpecs opened seen t = readSpecs opened (seen ++ [v]) left := by
  obtain ⟨s, hs, ht, -⟩ := spelled_of_readSpec h
  have hunit : unit? isVarchar t ≠ none := ht ▸ hs.unit?_ne_none left
  obtain ⟨c, t, rfl, hcomma, hbrace⟩ := exists_cons_of_unit? hunit
  rw [readSpecs]
  · split
    · next hread =>
      rw [h] at hread
      cases hread
    · next hread =>
      rw [h] at hread
      cases hread
    · next hread =>
      rw [h] at hread
      cases hread
      rw [if_neg hv]
  · exact hcomma
  · exact hbrace

theorem readSpecs_of_scattered (h : Scattered specs body) (hrest : ∀ c ∈ rest.head?, c = '}')
    (hnames : (VarSpec.names (seen ++ specs)).Nodup) :
    readSpecs opened seen (body ++ rest) = readSpecs opened (seen ++ specs) rest := by
  induction h generalizing seen with
  | nil => rw [List.nil_append, List.append_nil]
  | comma _ ih =>
    rw [List.cons_append, readSpecs]
    exact ih hnames
  | @spec v s t specs hv hend _ ih =>
    have hsnoc : seen ++ v :: specs = (seen ++ [v]) ++ specs := by simp
    have hnew : v.name ∉ VarSpec.names seen := by
      rw [VarSpec.names, List.map_append, List.map_cons] at hnames
      exact fun hm => (List.nodup_append.1 hnames).2.2 _ hm _ List.mem_cons_self rfl
    rw [List.append_assoc, readSpecs_of_readSpec (readSpec_of_spelled hv hend hrest) hnew, hsnoc]
    exact ih (hsnoc ▸ hnames)

/-- What stands between the braces is a scattered list. Reading knows of a variable only that it
    stops; that it ends there too is known from the list behind it. -/
theorem scattered_of_readSpecs (h : readSpecs opened seen t = .ok (specs, rest)) :
    ∃ more body, specs = seen ++ more ∧ t = body ++ '}' :: rest ∧ Scattered more body := by
  fun_induction readSpecs opened seen t with
  | case1 => cases h
  | case2 seen tail ih =>
    obtain ⟨more, body, hspecs, rfl, hbody⟩ := ih h
    exact ⟨more, ',' :: body, hspecs, rfl, .comma hbody⟩
  | case3 => cases h
  | case4 seen tail hne =>
    cases h
    exact ⟨[], [], (List.append_nil _).symm, rfl, .nil⟩
  | case5 => cases h
  | case6 => cases h
  | case7 => cases h
  | case8 seen c tail _ _ v left hs hnew ih =>
    obtain ⟨more, body, hspecs, rfl, hbody⟩ := ih h
    obtain ⟨s, hv, ht, hstops⟩ := spelled_of_readSpec hs
    refine ⟨v :: more, s ++ body, ?_, ?_, .spec hv (hstops.ends hbody) hbody⟩
    · rw [hspecs, List.append_assoc]
      rfl
    · rw [ht, List.append_assoc]

end Node

/-- The texts that spell a node sequence. A literal goes on up to the next brace, and an expression
    has its operator's symbol and then its variables inside braces. -/
inductive Spelling (list : List VarSpec → Text → Prop) : List Node → Text → Prop
  | nil : Spelling list [] []
  | literal {text t : Text} {nodes : List Node} (hne : text ≠ []) (hbrace : '{' ∉ text)
      (hnext : ∀ c ∈ t.head?, c = '{') (h : Spelling list nodes t) :
      Spelling list (.literal text :: nodes) (text ++ t)
  | expression {op : Operator} {specs : List VarSpec} {body t : Text} {nodes : List Node}
      (hne : specs ≠ []) (hnames : (VarSpec.names specs).Nodup) (hbody : list specs body)
      (h : Spelling list nodes t) :
      Spelling list (.expression ⟨op, specs⟩ :: nodes) ('{' :: op.symbol ++ body ++ '}' :: t)

theorem Spelling.mono {list wider : List VarSpec → Text → Prop} {nodes : List Node} {t : Text}
    (h : Spelling list nodes t) (hlist : ∀ specs body, list specs body → wider specs body) :
    Spelling wider nodes t := by
  induction h with
  | nil => exact .nil
  | literal hne hbrace hnext _ ih => exact .literal hne hbrace hnext ih
  | expression hne hnames hbody _ ih => exact .expression hne hnames (hlist _ _ hbody) ih

theorem Spelling.length_specs_le {nodes : List Node} {t : Text} (h : Spelling Listed nodes t)
    {e : Expression} (he : .expression e ∈ nodes) : e.specs.length ≤ t.count ',' + 1 := by
  induction h with
  | nil => cases he
  | literal _ _ _ _ ih =>
    rcases List.mem_cons.1 he with heq | he
    · cases heq
    · have hlater := ih he
      rw [List.count_append]
      omega
  | expression _ _ hbody _ ih =>
    rw [List.count_append, List.count_append, List.count_cons_of_ne (by decide),
      List.count_cons_of_ne (by decide)]
    rcases List.mem_cons.1 he with heq | he
    · cases heq
      have hspecs := hbody.length_le
      dsimp only
      omega
    · have hlater := ih he
      omega

theorem Operator.ofChar?_eq_none_of_unit? {c : Char} {t : Text}
    (h : unit? isVarchar (c :: t) ≠ none) : ofChar? c = none := by
  cases hop : ofChar? c with
  | none => rfl
  | some op =>
    refine absurd ?_ h
    have hc := ofChar?_eq_some_iff.1 hop
    cases op with
    | plain => cases hc
    | _ =>
      cases hc
      exact unit?_cons_eq_none (by decide) (by decide) t

theorem Scattered.ofChar?_head {specs : List VarSpec} {body : Text} (h : Scattered specs body)
    (rest : Text) : ∀ c ∈ (body ++ '}' :: rest).head?, Operator.ofChar? c = none := by
  intro c hc
  rcases h.head_cases with rfl | ⟨t, rfl⟩ | hunit
  · cases hc
    rfl
  · cases hc
    rfl
  · have hunit := hunit ('}' :: rest)
    obtain ⟨t, ht⟩ := List.head?_eq_some_iff.1 (Option.mem_def.1 hc)
    rw [ht] at hunit
    exact Operator.ofChar?_eq_none_of_unit? hunit

namespace Node

variable {t : Text} {nodes : List Node}

theorem readOperator_append (op : Operator) {t : Text}
    (ht : ∀ c ∈ t.head?, Operator.ofChar? c = none) : readOperator (op.symbol ++ t) = (op, t) := by
  cases hsymbol : op.symbol? with
  | none =>
    have hop : op = .plain := by
      revert hsymbol
      cases op <;> decide
    subst hop
    cases t with
    | nil => rfl
    | cons c t =>
      have hc := ht c rfl
      change readOperator (c :: t) = _
      simp only [readOperator, hc]
  | some c =>
    have hc := Operator.ofChar?_eq_some_iff.2 hsymbol
    simp only [Operator.symbol, hsymbol, Option.toList_some, List.singleton_append, readOperator, hc]

theorem symbol_append_readOperator (t : Text) :
    (readOperator t).1.symbol ++ (readOperator t).2 = t := by
  cases t with
  | nil => rfl
  | cons c t =>
    unfold readOperator
    simp only
    split
    · next op hop => rw [Operator.symbol, Operator.ofChar?_eq_some_iff.1 hop]; rfl
    · rfl

theorem readNodes_literal {text : Text} (hne : text ≠ []) (hbrace : '{' ∉ text) (rest : Text) :
    readNodes (text ++ rest) = (readNodes (rest.dropWhile (· ≠ '{'))).map
      (.literal (text ++ rest.takeWhile (· ≠ '{')) :: ·) := by
  obtain ⟨c, text, rfl⟩ := List.exists_cons_of_ne_nil hne
  obtain ⟨hc, htext⟩ : '{' ≠ c ∧ '{' ∉ text := by simpa using hbrace
  have hin : ∀ d ∈ text, decide (d ≠ '{') = true := fun d hd =>
    decide_eq_true fun heq => htext (heq ▸ hd)
  rw [List.cons_append, readNodes]
  · rw [List.takeWhile_append_of_pos hin, List.dropWhile_append_of_pos hin]
    rfl
  · exact fun heq => hc heq.symm

theorem readNodes_literal_of_head {text rest : Text} (hne : text ≠ []) (hbrace : '{' ∉ text)
    (hnext : ∀ c ∈ rest.head?, c = '{') :
    readNodes (text ++ rest) = (readNodes rest).map (.literal text :: ·) := by
  have hout : ∀ d ∈ rest.head?, decide (d ≠ '{') = false := fun d hd =>
    decide_eq_false (not_not_intro (hnext d hd))
  obtain ⟨htake, hdrop⟩ := takeWhile_dropWhile_append (t := []) (fun _ hc => nomatch hc) hout
  rw [List.nil_append] at htake hdrop
  rw [readNodes_literal hne hbrace, htake, hdrop, List.append_nil]

theorem readNodes_expression {op : Operator} {specs : List VarSpec} {body : Text} (hne : specs ≠ [])
    (hnames : (VarSpec.names specs).Nodup) (hbody : Scattered specs body) (rest : Text) :
    readNodes ('{' :: op.symbol ++ body ++ '}' :: rest) =
      (readNodes rest).map (.expression ⟨op, specs⟩ :: ·) := by
  have hop := readOperator_append op (hbody.ofChar?_head rest)
  have hspecs : readSpecs ('{' :: (op.symbol ++ (body ++ '}' :: rest))) []
      (readOperator (op.symbol ++ (body ++ '}' :: rest))).2 = .ok (specs, rest) := by
    have hbrace : ∀ c ∈ ('}' :: rest).head?, c = '}' := fun c hc => (Option.some.inj hc).symm
    have hall : (VarSpec.names ([] ++ specs)).Nodup := hnames
    have hseen : specs.isEmpty = false := by simpa using hne
    rw [hop, readSpecs_of_scattered hbody hbrace hall, List.nil_append, readSpecs, hseen]
    rfl
  rw [List.append_assoc, List.cons_append, readNodes]
  split
  · next hread =>
    rw [hspecs] at hread
    cases hread
  · next hread =>
    rw [hspecs] at hread
    cases hread
    rw [hop]

theorem readNodes_of_spelling (h : Spelling Scattered nodes t) : readNodes t = .ok nodes := by
  induction h with
  | nil => rw [readNodes]
  | literal hne hbrace hnext _ ih =>
    rw [readNodes_literal_of_head hne hbrace hnext, ih]
    rfl
  | expression hne hnames hbody _ ih =>
    rw [readNodes_expression hne hnames hbody, ih]
    rfl

theorem spelling_of_readNodes (h : readNodes t = .ok nodes) : Spelling Scattered nodes t := by
  have hwellFormed := readNodes_wellFormed h
  fun_induction readNodes t generalizing nodes with
  | case1 =>
    cases h
    exact .nil
  | case2 => cases h
  | case3 body specs rest hs ih =>
    cases hrest : readNodes rest with
    | error f =>
      rw [hrest] at h
      cases h
    | ok more =>
      rw [hrest] at h
      cases h
      obtain ⟨hne, hnames, -⟩ := hwellFormed _ List.mem_cons_self
      have hlater := ih hrest fun n hn => hwellFormed n (List.mem_cons_of_mem _ hn)
      obtain ⟨found, inner, hspecs, hbody, hinner⟩ := scattered_of_readSpecs hs
      rw [List.nil_append] at hspecs
      have htext : '{' :: body = '{' :: (readOperator body).1.symbol ++ inner ++ '}' :: rest := by
        rw [List.append_assoc, ← hbody, List.cons_append, symbol_append_readOperator]
      rw [htext]
      exact .expression hne hnames (hspecs ▸ hinner) hlater
  | case4 c rest hc ih =>
    cases hrest : readNodes (rest.dropWhile (· ≠ '{')) with
    | error f =>
      rw [hrest] at h
      cases h
    | ok more =>
      rw [hrest] at h
      cases h
      obtain ⟨hne, hbrace⟩ := hwellFormed _ List.mem_cons_self
      have hlater := ih hrest fun n hn => hwellFormed n (List.mem_cons_of_mem _ hn)
      have hnext : ∀ d ∈ (rest.dropWhile (· ≠ '{')).head?, d = '{' := fun d hd => by
        simpa using head?_dropWhile rest d hd
      have htext := Spelling.literal hne hbrace hnext hlater
      rwa [List.cons_append, List.takeWhile_append_dropWhile] at htext

/-- The texts that are read, each with its nodes. Proper lists of variables are read, but not only
    these. -/
theorem ofText_eq_ok_iff_spelling (t : Text) (nodes : List Node) :
    (Spelling Listed nodes t → ofText t = .ok nodes) ∧
      (ofText t = .ok nodes ↔ Spelling Scattered nodes t) := by
  have hread : ofText t = .ok nodes ↔ Spelling Scattered nodes t :=
    ofText_eq_ok_iff.trans ⟨spelling_of_readNodes, readNodes_of_spelling⟩
  exact ⟨fun h => hread.2 (h.mono fun _ _ => Listed.scattered), hread⟩

/-- Two variables without a comma between them are read, though no proper list spells them. -/
theorem ofText_eq_ok_of_adjacent :
    (∃ nodes, ofText "{a*b}".toList = .ok nodes) ∧
      ¬ ∃ nodes, Spelling Listed nodes "{a*b}".toList := by
  have hread : ofText "{a*b}".toList =
      .ok [.expression ⟨.plain, [⟨['a'], .explode⟩, ⟨['b'], .none⟩]⟩] := by
    with_unfolding_all rfl
  refine ⟨⟨_, hread⟩, ?_⟩
  rintro ⟨nodes, h⟩
  have hnodes := ofText_eq_ok_iff.2 (readNodes_of_spelling (h.mono fun _ _ => Listed.scattered))
  rw [hread] at hnodes
  cases hnodes
  exact absurd (h.length_specs_le List.mem_cons_self) (by decide)

end Node

end UriTemplate
