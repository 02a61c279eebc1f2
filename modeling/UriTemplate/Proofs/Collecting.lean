import Mathlib.Data.List.Nodup
import UriTemplate.Command.Bindings
import UriTemplate.Proofs.Bindings

set_option autoImplicit false

namespace UriTemplate

namespace Assoc

variable {κ α β : Type} [DecidableEq κ]

theorem keys_putAll_of_nodup {m entries : Assoc κ α} (h : entries.keys.Nodup) :
    (m.putAll entries).keys = m.keys ++ entries.keys.filter (· ∉ m.keys) := by
  induction entries generalizing m with
  | nil => exact (List.append_nil _).symm
  | cons e rest ih =>
    obtain ⟨hnot, hrest⟩ : e.1 ∉ keys rest ∧ (keys rest).Nodup := List.nodup_cons.1 h
    have hstep : m.putAll (e :: rest) = (m.put e.1 e.2).putAll rest := rfl
    have hkeys : keys (e :: rest) = e.1 :: keys rest := rfl
    rw [hstep, ih hrest, keys_put, hkeys]
    split
    · next hold => rw [List.filter_cons_of_neg (by simpa using hold)]
    · next hnew =>
      -- the name that has just come is none of those that are still to come
      have hfilter : (keys rest).filter (· ∉ m.keys ++ [e.1]) = (keys rest).filter (· ∉ m.keys) := by
        refine List.filter_congr fun k hk => ?_
        have hne : k ≠ e.1 := fun heq => hnot (heq ▸ hk)
        simp [hne]
      rw [List.filter_cons_of_pos (by simpa using hnew), hfilter, List.append_assoc]
      rfl

theorem find?_rename {ι : Type} [DecidableEq ι] {f : κ → ι} (hf : Function.Injective f)
    (m : Assoc κ α) (g : α → β) (name : κ) :
    find? (m.map fun e => (f e.1, g e.2)) (f name) = (m.find? name).map g := by
  induction m with
  | nil => rfl
  | cons e rest ih =>
    by_cases h : e.1 = name
    · simp [find?, h]
    · simpa [find?, h, hf.ne h] using ih

end Assoc

theorem Loose.ofText_injective : Function.Injective Loose.ofText := fun a b h => by
  rw [← chars_ofText a, h, chars_ofText]

namespace Command

def pairName (pair : Text) : Text := pair.takeWhile (· ≠ '=')

def pairText (pair : Text) : Text := (pair.dropWhile (· ≠ '=')).drop 1

def isPair (pair : Text) : Bool := pair.contains '=' && !(pairName pair).isEmpty

def given (pairs : List Text) (name : Text) : List Text :=
  (pairs.filter (pairName · = name)).map pairText

theorem partition?_equals (pair : Text) : Text.partition? '=' pair =
    if '=' ∈ pair then some (pairName pair, pairText pair) else none := by
  induction pair with
  | nil => rfl
  | cons c pair ih =>
    by_cases hc : c = '='
    · simp [Text.partition?, pairName, pairText, hc]
    · simp only [Text.partition?, hc, if_false, ih]
      by_cases hmem : '=' ∈ pair
      · simp [hmem, pairName, pairText, hc]
      · simp [hmem, Ne.symm hc]

theorem splitPair_eq (pair : Text) : splitPair pair =
    if isPair pair then .ok (pairName pair, pairText pair) else .error (.badPair pair) := by
  unfold splitPair isPair
  rw [partition?_equals]
  by_cases hmem : '=' ∈ pair
  · cases hname : pairName pair with
    | nil => simp [hmem]
    | cons c name => simp [hmem]
  · simp [hmem]

theorem mapM_splitPair_of_bad {pairs : List Text} {bad : Text}
    (h : pairs.find? (!isPair ·) = some bad) : pairs.mapM splitPair = .error (.badPair bad) := by
  induction pairs with
  | nil => cases h
  | cons pair pairs ih =>
    rw [List.mapM_cons, splitPair_eq]
    cases hpair : isPair pair with
    | false =>
      rw [List.find?_cons_of_pos (by simpa using hpair)] at h
      cases h
      rfl
    | true =>
      rw [List.find?_cons_of_neg (by simpa using hpair)] at h
      rw [ih h]
      rfl

theorem mapM_splitPair {pairs : List Text} (h : pairs.find? (!isPair ·) = none) :
    pairs.mapM splitPair = .ok (pairs.map fun pair => (pairName pair, pairText pair)) := by
  refine mapM_eq_ok fun pair hpair => ?_
  have hgood : isPair pair = true := by simpa using List.find?_eq_none.1 h pair hpair
  rw [splitPair_eq, if_pos hgood]

theorem find?_collect (m : Assoc Text (List Text)) (e : Text × Text) (name : Text) :
    (collect m e).find? name =
      if e.1 = name then some ((m.find? name).getD [] ++ [e.2]) else m.find? name := by
  unfold collect
  rw [Assoc.find?_put]
  split
  · next h => rw [h]
  · rfl

theorem find?_foldl_collect (entries : List (Text × Text)) (m : Assoc Text (List Text))
    (name : Text) : (entries.foldl collect m).find? name =
      match (entries.filter (·.1 = name)).map (·.2) with
      | [] => m.find? name
      | texts => some ((m.find? name).getD [] ++ texts) := by
  induction entries generalizing m with
  | nil => rfl
  | cons e entries ih =>
    rw [List.foldl_cons, ih, find?_collect]
    by_cases he : e.1 = name
    · rw [List.filter_cons_of_pos (by simpa using he), if_pos he, List.map_cons]
      cases (entries.filter (·.1 = name)).map (·.2) with
      | nil => rfl
      | cons next texts => simp
    · rw [List.filter_cons_of_neg (by simpa using he), if_neg he]

theorem keys_foldl_collect (entries : List (Text × Text)) (m : Assoc Text (List Text)) :
    (entries.foldl collect m).keys =
      m.keys ++ ((entries.map (·.1)).filter (· ∉ m.keys)).eraseDups := by
  induction entries generalizing m with
  | nil => exact (List.append_nil _).symm
  | cons e entries ih =>
    rw [List.foldl_cons, ih, collect, Assoc.keys_put, List.map_cons]
    by_cases hold : e.1 ∈ m.keys
    · rw [if_pos hold, List.filter_cons_of_neg (by simpa using hold)]
    · -- what `eraseDups` drops behind a new name is what is no longer new
      have hfilter : (entries.map (·.1)).filter (· ∉ m.keys ++ [e.1]) =
          ((entries.map (·.1)).filter (· ∉ m.keys)).filter (!· == e.1) := by
        rw [List.filter_filter]
        refine List.filter_congr fun name _ => ?_
        by_cases hname : name = e.1 <;> simp [hname]
      rw [if_neg hold, List.filter_cons_of_pos (by simpa using hold), List.eraseDups_cons, hfilter,
        List.append_assoc]
      rfl

theorem nodup_keys_foldl_collect {entries : List (Text × Text)} {m : Assoc Text (List Text)}
    (h : m.keys.Nodup) : (entries.foldl collect m).keys.Nodup := by
  induction entries generalizing m with
  | nil => exact h
  | cons e entries ih => exact ih (Assoc.nodup_keys_put h e.1 _)

variable {json? : Option Text} {members : Assoc Loose Json}

theorem readObject_eq_ok (h : (json? = none ∨ json? = some []) ∧ members = [] ∨
    ∃ source, json? = some source ∧ Json.parse source = .ok (.object members)) :
    readObject json? = .ok members := by
  rcases h with ⟨rfl | rfl, rfl⟩ | ⟨source, rfl, hparse⟩
  · rfl
  · rfl
  · cases source with
    | nil =>
      have hempty : ∃ e, Json.parse [] = .error e := ⟨_, by with_unfolding_all rfl⟩
      obtain ⟨e, he⟩ := hempty
      rw [he] at hparse
      cases hparse
    | cons c source =>
      unfold readObject
      simp only [hparse]

theorem readBindings_of_bad (hjson : readObject json? = .ok members) {pairs : List Text} {bad : Text}
    (h : pairs.find? (!isPair ·) = some bad) :
    readBindings pairs json? = .error (.badPair bad) := by
  unfold readBindings
  rw [hjson, mapM_splitPair_of_bad h]
  rfl

theorem exists_bindings (hjson : readObject json? = .ok members) {pairs : List Text}
    (h : pairs.find? (!isPair ·) = none) :
    ∃ bindings, readBindings pairs json? = .ok bindings ∧
      bindings.keys = members.keys ++
        ((pairs.map pairName).eraseDups.map Loose.ofText).filter (· ∉ members.keys) ∧
      (∀ name, bindings.find? (.ofText name) =
        if given pairs name = [] then members.find? (.ofText name)
        else some (ofCollected (given pairs name))) ∧
      ∀ key, (∀ name, key ≠ .ofText name) → bindings.find? key = members.find? key := by
  let entries := pairs.map fun pair => (pairName pair, pairText pair)
  let collected := entries.foldl collect []
  let written : Assoc Loose Json := collected.map fun e => (.ofText e.1, ofCollected e.2)
  have hread : readBindings pairs json? = .ok (members.putAll written) := by
    unfold readBindings
    rw [hjson, mapM_splitPair h]
    rfl
  have hnames : collected.keys = (pairs.map pairName).eraseDups := by
    have hfirst := keys_foldl_collect entries []
    simpa [entries, Assoc.keys, Function.comp_def] using hfirst
  have hkeys : written.keys = collected.keys.map Loose.ofText := by
    simp [written, Assoc.keys, Function.comp_def]
  have hnodup : written.keys.Nodup :=
    hkeys ▸ (nodup_keys_foldl_collect (m := []) .nil).map Loose.ofText_injective
  have hfind : ∀ name, written.find? (.ofText name) =
      if given pairs name = [] then none else some (ofCollected (given pairs name)) := by
    intro name
    have hgiven : (entries.filter (·.1 = name)).map (·.2) = given pairs name := by
      simp [entries, given, List.filter_map, Function.comp_def]
    rw [Assoc.find?_rename Loose.ofText_injective, find?_foldl_collect, hgiven]
    cases given pairs name <;> rfl
  refine ⟨_, hread, ?_, fun name => ?_, fun key hkey => ?_⟩
  · rw [Assoc.keys_putAll_of_nodup hnodup, hkeys, hnames]
    exact congrArg _ (List.filter_congr fun key _ => decide_eq_decide.2 Iff.rfl)
  · rw [Assoc.find?_putAll, Assoc.ofList_of_nodup hnodup, hfind]
    split <;> rfl
  · apply Assoc.find?_putAll_of_not_mem members
    intro hmem
    rw [hkeys] at hmem
    obtain ⟨name, -, hname⟩ := List.mem_map.1 hmem
    exact hkey name hname.symm

/-- The first pair without an equals sign or without a name is refused. Otherwise the members come
    first and then the names that are new, in the order in which they first come; a name that is given
    once has its text, one that is given more often all of its texts, and what is given to nobody keeps
    its member. Pairs of different names may change places. -/
theorem readBindings_of_object (hjson : (json? = none ∨ json? = some []) ∧ members = [] ∨
      ∃ source, json? = some source ∧ Json.parse source = .ok (.object members))
    (pairs : List Text) :
    (∀ bad, pairs.find? (!isPair ·) = some bad →
      readBindings pairs json? = .error (.badPair bad) ∧
        (BindingError.badPair bad).message =
          "Expected NAME=VALUE, got ".toList ++ Quoted.text bad) ∧
    (pairs.find? (!isPair ·) = none → ∃ bindings, readBindings pairs json? = .ok bindings ∧
      bindings.keys = members.keys ++
        ((pairs.map pairName).eraseDups.map Loose.ofText).filter (· ∉ members.keys) ∧
      (∀ name text, given pairs name = [text] →
        bindings.find? (.ofText name) = some (.ofText text)) ∧
      (∀ name, 2 ≤ (given pairs name).length →
        bindings.find? (.ofText name) = some (.array ((given pairs name).map Json.ofText))) ∧
      (∀ key, (∀ name, key = .ofText name → given pairs name = []) →
        bindings.find? key = members.find? key) ∧
      ∀ other : List Text, other.Perm pairs → (∀ name, given other name = given pairs name) →
        ∃ again, readBindings other json? = .ok again ∧
          ∀ key, again.find? key = bindings.find? key) := by
  have hread := readObject_eq_ok hjson
  refine ⟨fun bad hbad => ⟨readBindings_of_bad hread hbad, rfl⟩, fun hgood => ?_⟩
  obtain ⟨bindings, hbindings, hkeys, hfind, hkept⟩ := exists_bindings hread hgood
  refine ⟨bindings, hbindings, hkeys, ?_, ?_, ?_, ?_⟩
  · intro name text htext
    rw [hfind, htext, if_neg (List.cons_ne_nil _ _)]
    rfl
  · intro name htexts
    rw [hfind]
    match given pairs name, htexts with
    | first :: second :: texts, _ => rfl
  · intro key hnone
    by_cases hkey : ∃ name, key = .ofText name
    · obtain ⟨name, rfl⟩ := hkey
      rw [hfind, if_pos (hnone name rfl)]
    · exact hkept key fun name h => hkey ⟨name, h⟩
  · intro other hperm hsame
    have hother : other.find? (!isPair ·) = none := by
      rw [List.find?_eq_none] at hgood ⊢
      exact fun pair hpair => hgood pair (hperm.mem_iff.1 hpair)
    obtain ⟨again, hagain, -, hlook, hrest⟩ := exists_bindings hread hother
    refine ⟨again, hagain, fun key => ?_⟩
    by_cases hkey : ∃ name, key = .ofText name
    · obtain ⟨name, rfl⟩ := hkey
      rw [hlook, hfind, hsame]
    · have hno : ∀ name, key ≠ .ofText name := fun name h => hkey ⟨name, h⟩
      rw [hrest key hno, hkept key hno]

theorem readBindings_of_object_overridden :
    let source := "\x7b\"b\":true,\"c\":null\x7d".toList
    let members : Assoc Loose Json := [(.ofText ['b'], .bool true), (.ofText ['c'], .null)]
    let pairs := ["a=1".toList, "b==".toList, "a=".toList]
    Json.parse source = .ok (.object members) ∧ pairs.find? (!isPair ·) = none ∧
      ∃ bindings, readBindings pairs (some source) = .ok bindings ∧
        bindings.keys = [.ofText ['b'], .ofText ['c'], .ofText ['a']] ∧
        bindings.find? (.ofText ['a']) = some (.array [.ofText ['1'], .ofText []]) ∧
        bindings.find? (.ofText ['b']) = some (.ofText ['=']) ∧
        bindings.find? (.ofText ['c']) = some .null := by
  intro source members pairs
  have hsource : source = ['{', '"', 'b', '"', ':', 't', 'r', 'u', 'e', ',', '"', 'c', '"', ':',
      'n', 'u', 'l', 'l', '}'] := by decide
  have hparse : Json.parse source = .ok (.object members) := by
    rw [hsource]
    rfl
  have hgood : pairs.find? (!isPair ·) = none := by decide
  have ha : given pairs ['a'] = [['1'], []] := by decide
  have hb : given pairs ['b'] = [['=']] := by decide
  have hc : ∀ name, Loose.ofText ['c'] = .ofText name → given pairs name = [] := by
    intro name hname
    rw [← Loose.ofText_injective hname]
    decide
  obtain ⟨-, hread⟩ := readBindings_of_object (.inr ⟨source, rfl, hparse⟩) pairs
  obtain ⟨bindings, hbindings, hkeys, hone, hmany, hkept, -⟩ := hread hgood
  have hlist := hmany ['a'] (by rw [ha]; decide)
  rw [ha] at hlist
  exact ⟨hparse, hgood, bindings, hbindings, hkeys.trans (by decide), hlist, hone ['b'] ['='] hb,
    hkept _ hc⟩

end Command

end UriTemplate
