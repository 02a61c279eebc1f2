import UriTemplate.Proofs.Decoding
import UriTemplate.Proofs.Units

set_option autoImplicit false

namespace UriTemplate.Percent

open Character Text

theorem isUnreserved_percent : isUnreserved '%' = false := by decide

theorem isHexDigit_hexDigit {n : Nat} (h : n < 16) : isHexDigit (hexDigit n) = true := by
  rw [isHexDigit, hexValue?_hexDigit n h]
  rfl

theorem escapeBytes_units {accept : Char → Bool} {bs : List Nat} (h : ∀ b ∈ bs, b < 256) :
    Units accept (bs.flatMap escapeByte) := by
  refine Units.flatMap fun b hb => ?_
  have hlt := h b hb
  exact .escape (isHexDigit_hexDigit (by omega)) (isHexDigit_hexDigit (by omega)) .nil

theorem encodeChar_units (safe : Char → Bool) (c : Char) : Units safe (encodeChar safe c) := by
  unfold encodeChar
  split
  · next hc => exact .char hc .nil
  · exact escapeBytes_units (Utf8.bytes_lt c)

theorem encode_units (safe : Char → Bool) (t : Text) : Units safe (encode safe t) :=
  Units.flatMap fun c _ => encodeChar_units safe c

theorem encode_cons (safe : Char → Bool) (c : Char) (t : Text) :
    encode safe (c :: t) = encodeChar safe c ++ encode safe t := rfl

theorem bytes_ne_nil (c : Char) : Utf8.bytes c ≠ [] := by
  intro h
  have hfed := Utf8.feedAll_bytes c
  rw [h] at hfed
  cases hfed

theorem encodeChar_ne_nil (safe : Char → Bool) (c : Char) : encodeChar safe c ≠ [] := by
  unfold encodeChar
  split
  · exact List.cons_ne_nil c []
  · obtain ⟨b, bs, hb⟩ := List.exists_cons_of_ne_nil (bytes_ne_nil c)
    rw [hb]
    exact List.cons_ne_nil _ _

theorem encode_eq_nil {safe : Char → Bool} {t : Text} : encode safe t = [] ↔ t = [] := by
  cases t with
  | nil => simp [encode]
  | cons c t => simp [encode_cons, encodeChar_ne_nil safe c]

theorem not_mem_encode {c : Char} (h : isUnreserved c = false) (hp : c ≠ '%') (t : Text) :
    c ∉ encode isUnreserved t := by
  intro hc
  rcases (encode_units isUnreserved t).mem hc with hu | rfl | hx
  · rw [h] at hu
    cases hu
  · exact hp rfl
  · rw [isUnreserved_of_isHexDigit hx] at h
    cases h

theorem mem_encodeChar {safe : Char → Bool} {c d : Char} (hp : c ≠ '%')
    (hx : isHexDigit c = false) (h : c ∈ encodeChar safe d) : c = d := by
  unfold encodeChar at h
  split at h
  · exact List.mem_singleton.1 h
  · have hescapes : Units (fun _ => false) ((Utf8.bytes d).flatMap escapeByte) :=
      escapeBytes_units (Utf8.bytes_lt d)
    rcases hescapes.mem h with hf | hf | hf
    · cases hf
    · exact absurd hf hp
    · rw [hf] at hx
      cases hx

theorem mem_of_mem_encode {safe : Char → Bool} {c : Char} (hp : c ≠ '%')
    (hx : isHexDigit c = false) {t : Text} (h : c ∈ encode safe t) : c ∈ t := by
  obtain ⟨d, hd, hc⟩ := List.mem_flatMap.1 h
  exact mem_encodeChar hp hx hc ▸ hd

theorem decode_cons {c : Char} (hc : c ≠ '%') (t : Text) : decode (c :: t) = c :: decode t :=
  decodeFrom_cons .idle (escape?_of_ne hc t)

theorem decode_encodeChar {safe : Char → Bool} (hp : safe '%' = false) (c : Char) (t : Text) :
    decode (encodeChar safe c ++ t) = c :: decode t :=
  decodeFrom_encodeChar hp (s := .idle) trivial c t

theorem decode_encode_append {safe : Char → Bool} (hp : safe '%' = false) (t u : Text) :
    decode (encode safe t ++ u) = t ++ decode u := by
  induction t with
  | nil => rfl
  | cons c t ih => rw [encode_cons, List.append_assoc, decode_encodeChar hp, ih, List.cons_append]

theorem decode_encode_of_percent {safe : Char → Bool} (hp : safe '%' = false) (t : Text) :
    decode (encode safe t) = t := by
  have h := decode_encode_append hp t []
  rwa [List.append_nil, show decode [] = [] from rfl, List.append_nil] at h

theorem decode_encode (t : Text) : decode (encode isUnreserved t) = t :=
  decode_encode_of_percent isUnreserved_percent t

theorem decode_splitOn_commas {items : List Text} (h : items ≠ []) :
    (([','].intercalate (items.map (encode isUnreserved))).splitOn ',').map decode = items := by
  have hcomma : ∀ piece ∈ items.map (encode isUnreserved), ',' ∉ piece := by
    intro piece hpiece
    obtain ⟨t, -, rfl⟩ := List.mem_map.1 hpiece
    exact not_mem_encode (by decide) (by decide) t
  rw [List.splitOn_intercalate ',' hcomma (by simpa using h), List.map_map]
  have hid : decode ∘ encode isUnreserved = id := funext decode_encode
  rw [hid, List.map_id]

/-- Encoded text with separators of the class `sep` anywhere between its characters. -/
inductive Canonical (sep : Char → Bool) : Text → Prop
  | nil : Canonical sep []
  | encoded (c : Char) {t : Text} (ht : Canonical sep t) :
      Canonical sep (encodeChar isUnreserved c ++ t)
  | separator {c : Char} {t : Text} (hc : sep c = true) (ht : Canonical sep t) :
      Canonical sep (c :: t)

namespace Canonical

variable {sep : Char → Bool} {t u : Text}

theorem encode (s : Text) : Canonical sep (Percent.encode isUnreserved s) := by
  induction s with
  | nil => exact .nil
  | cons c s ih => exact .encoded c ih

theorem append (ht : Canonical sep t) (hu : Canonical sep u) : Canonical sep (t ++ u) := by
  induction ht with
  | nil => exact hu
  | encoded c _ ih => rw [List.append_assoc]; exact .encoded c ih
  | separator hc _ ih => exact .separator hc ih

theorem mono {wider : Char → Bool} (ht : Canonical sep t)
    (h : ∀ c ∈ t, sep c = true → wider c = true) : Canonical wider t := by
  induction ht with
  | nil => exact .nil
  | encoded c _ ih => exact .encoded c (ih fun d hd => h d (List.mem_append_right _ hd))
  | separator hc _ ih =>
    have htail := ih fun d hd => h d (List.mem_cons_of_mem _ hd)
    exact .separator (h _ List.mem_cons_self hc) htail

theorem intercalate {j : Char} (hj : sep j = true) {pieces : List Text}
    (h : ∀ piece ∈ pieces, Canonical sep piece) : Canonical sep ([j].intercalate pieces) := by
  match pieces with
  | [] => exact .nil
  | [piece] => simpa using h piece List.mem_cons_self
  | piece :: next :: rest =>
    have hrest := intercalate hj fun p hp => h p (List.mem_cons_of_mem piece hp)
    rw [List.intercalate_cons_cons, List.append_assoc]
    exact (h piece List.mem_cons_self).append (.separator hj hrest)

theorem units {accept : Char → Bool} (ht : Canonical sep t)
    (h : ∀ c ∈ t, isUnreserved c = true ∨ sep c = true → accept c = true) : Units accept t := by
  induction ht with
  | nil => exact .nil
  | encoded c _ ih =>
    have htail := ih fun d hd => h d (List.mem_append_right _ hd)
    have hhead := (encodeChar_units isUnreserved c).mono fun d hd hu =>
      h d (List.mem_append_left _ hd) (.inl hu)
    exact hhead.append htail
  | separator hc _ ih =>
    have htail := ih fun d hd => h d (List.mem_cons_of_mem _ hd)
    exact .char (h _ List.mem_cons_self (.inr hc)) htail

theorem not_mem {j : Char} (h : Canonical sep t) (hu : isUnreserved j = false)
    (hsep : sep j = false) (hp : j ≠ '%') : j ∉ t := by
  intro hj
  have hunits : Units (fun c => isUnreserved c || sep c) t :=
    h.units fun c _ hc => Bool.or_eq_true_iff.2 hc
  rcases hunits.mem hj with haccept | rfl | hx
  · rw [hu, hsep] at haccept
    cases haccept
  · exact hp rfl
  · rw [isUnreserved_of_isHexDigit hx] at hu
    cases hu

theorem of_separator {j : Char} (h : Canonical (fun c => c = ',' || c = j) t)
    (hj : isUnreserved j = true ∨ j = ',' ∨ j ∉ t) : Canonical (· = ',') t := by
  induction h with
  | nil => exact .nil
  | encoded c _ ih =>
    have htail := ih (hj.imp_right (Or.imp_right fun h hm => h (List.mem_append_right _ hm)))
    exact .encoded c htail
  | @separator c t hc _ ih =>
    have htail := ih (hj.imp_right (Or.imp_right fun h hm => h (List.mem_cons_of_mem _ hm)))
    rcases Bool.or_eq_true_iff.1 hc with hc | hc
    · exact .separator hc htail
    · have heq : c = j := of_decide_eq_true hc
      rcases hj with hu | hcomma | hnot
      · have hchar : encodeChar isUnreserved c = [c] := by simp [encodeChar, heq, hu]
        have hcons := Canonical.encoded c htail
        rwa [hchar] at hcons
      · exact .separator (decide_eq_true (heq.trans hcomma)) htail
      · exact absurd (heq ▸ List.mem_cons_self) hnot

theorem split {j : Char} (hj : isHexDigit j = false) (hp : j ≠ '%')
    (h : Canonical sep (t ++ j :: u)) : Canonical sep t ∧ Canonical sep u := by
  generalize hw : t ++ j :: u = w at h
  induction h generalizing t with
  | nil => simp at hw
  | @encoded c w hc ih =>
    rcases List.append_eq_append_iff.1 hw with ⟨a, hin, hout⟩ | ⟨a, rfl, hout⟩
    · -- The cut is in the character or right behind it.
      cases a with
      | nil =>
        rw [List.append_nil] at hin
        obtain ⟨-, hu⟩ := ih (t := []) hout
        refine ⟨?_, hu⟩
        rw [← hin]
        exact List.append_nil (encodeChar isUnreserved c) ▸ .encoded c .nil
      | cons a more =>
        obtain ⟨rfl, rfl⟩ := List.cons.inj hout
        have hmem : j ∈ encodeChar isUnreserved c := by rw [hin]; simp
        unfold encodeChar at hin hmem
        split at hin
        · obtain ⟨rfl, hin⟩ := List.append_eq_singleton_iff.1 hin.symm |>.resolve_right (by simp)
          obtain ⟨-, rfl⟩ := List.cons.inj hin
          exact ⟨.nil, hc⟩
        · next hnot =>
          simp only [hnot] at hmem
          have hesc : Units (fun _ => false) ((Utf8.bytes c).flatMap escapeByte) :=
            escapeBytes_units (Utf8.bytes_lt c)
          rcases hesc.mem hmem with hf | hf | hf
          · cases hf
          · exact absurd hf hp
          · rw [hj] at hf
            cases hf
    · obtain ⟨ha, hu⟩ := ih hout.symm
      exact ⟨.encoded c ha, hu⟩
  | @separator c w hc hw' ih =>
    cases t with
    | nil =>
      obtain ⟨-, rfl⟩ := List.cons.inj hw
      exact ⟨.nil, hw'⟩
    | cons d t =>
      obtain ⟨rfl, hrest⟩ := List.cons.inj hw
      obtain ⟨ht, hu⟩ := ih hrest
      exact ⟨.separator hc ht, hu⟩

theorem exists_items (h : Canonical (· = ',') t) :
    ∃ items, items ≠ [] ∧ t = [','].intercalate (items.map (Percent.encode isUnreserved)) := by
  induction h with
  | nil => exact ⟨[[]], by simp, rfl⟩
  | encoded c _ ih =>
    obtain ⟨items, hne, rfl⟩ := ih
    obtain ⟨i, items, rfl⟩ := List.exists_cons_of_ne_nil hne
    refine ⟨(c :: i) :: items, by simp, ?_⟩
    cases items with
    | nil => simp [encode_cons]
    | cons next items => simp [encode_cons, List.intercalate_cons_cons]
  | separator hc _ ih =>
    obtain ⟨items, hne, rfl⟩ := ih
    obtain ⟨i, items, rfl⟩ := List.exists_cons_of_ne_nil hne
    refine ⟨[] :: i :: items, by simp, ?_⟩
    simp [List.intercalate_cons_cons, of_decide_eq_true hc, Percent.encode]

end Canonical

end UriTemplate.Percent
