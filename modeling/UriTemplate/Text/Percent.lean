import UriTemplate.Text.Run
import UriTemplate.Text.Utf8

set_option autoImplicit false

namespace UriTemplate.Percent

open Character Text

def hexDigit (n : Nat) : Char := if n < 10 then Char.ofNat (48 + n) else Char.ofNat (55 + n)

def escapeByte (b : Nat) : Text := ['%', hexDigit (b / 16), hexDigit (b % 16)]

def encodeChar (safe : Char → Bool) (c : Char) : Text :=
  if safe c then [c] else (Utf8.bytes c).flatMap escapeByte

def encode (safe : Char → Bool) (t : Text) : Text := t.flatMap (encodeChar safe)

def encodeKeeping (safe : Char → Bool) : Text → Text
  | [] => []
  | '%' :: a :: b :: rest =>
    if isHexDigit a && isHexDigit b then '%' :: a :: b :: encodeKeeping safe rest
    else encodeChar safe '%' ++ encodeKeeping safe (a :: b :: rest)
  | c :: rest => encodeChar safe c ++ encodeKeeping safe rest

def byte? (a b : Char) : Option Nat :=
  match hexValue? a, hexValue? b with
  | some high, some low => some (16 * high + low)
  | _, _ => none

/-- Decoding from within a character of which some bytes have been read. -/
def decodeFrom (s : Utf8.State) : Text → Text
  | [] => Utf8.flush s
  | '%' :: a :: b :: rest =>
    match byte? a b with
    | some byte =>
      let fed := Utf8.feed s byte
      fed.1 ++ decodeFrom fed.2 rest
    | none => Utf8.flush s ++ '%' :: decodeFrom .idle (a :: b :: rest)
  | c :: rest => Utf8.flush s ++ c :: decodeFrom .idle rest

/-- A percent sign that opens no escape stays, and bytes that are no UTF-8 are replaced. -/
def decode (t : Text) : Text := decodeFrom .idle t

theorem hexValue?_hexDigit : ∀ n < 16, hexValue? (hexDigit n) = some n := by decide

theorem byte?_hexDigit {b : Nat} (h : b < 256) :
    byte? (hexDigit (b / 16)) (hexDigit (b % 16)) = some b := by
  simp only [byte?, hexValue?_hexDigit (b / 16) (by omega), hexValue?_hexDigit (b % 16) (by omega)]
  exact congrArg some (by omega)

theorem decodeFrom_escapeBytes (s : Utf8.State) {bs : List Nat} (h : ∀ b ∈ bs, b < 256) (t : Text) :
    decodeFrom s (bs.flatMap escapeByte ++ t) =
      (Utf8.feedAll s bs).1 ++ decodeFrom (Utf8.feedAll s bs).2 t := by
  induction bs generalizing s with
  | nil => simp [Utf8.feedAll]
  | cons b bs ih =>
    simp only [List.flatMap_cons, escapeByte, List.cons_append, List.nil_append, decodeFrom,
      byte?_hexDigit (h b List.mem_cons_self), Utf8.feedAll,
      ih _ fun b hb => h b (List.mem_cons_of_mem _ hb), List.append_assoc]

end UriTemplate.Percent
