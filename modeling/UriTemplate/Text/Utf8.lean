import UriTemplate.Text.Character

set_option autoImplicit false

/-!
The bytes of a character, and a reader that takes bytes one at a time. Bytes that begin no
character are replaced by one U+FFFD for each longest sequence that could still have become one.
`feedAll_bytes` says that the reader gives every character back from its bytes.
-/

namespace UriTemplate.Utf8

def bytes (c : Char) : List Nat :=
  let n := c.toNat
  if n < 0x80 then [n]
  else if n < 0x800 then [0xC0 + n / 0x40, 0x80 + n % 0x40]
  else if n < 0x10000 then [0xE0 + n / 0x1000, 0x80 + n / 0x40 % 0x40, 0x80 + n % 0x40]
  else [0xF0 + n / 0x40000, 0x80 + n / 0x1000 % 0x40, 0x80 + n / 0x40 % 0x40, 0x80 + n % 0x40]

/-- What the reader has of the character it is in: nothing, or the bits read, the number of bytes
    owed, and the range in which the next one has to lie. -/
inductive State
  | idle
  | pending (bits owed low high : Nat)
  deriving DecidableEq, Repr

def replacement : Char := '\uFFFD'

/-- The first byte of a character. The ranges of the second byte leave out overlong forms,
    surrogates and everything above U+10FFFF. -/
def start (b : Nat) : Text × State :=
  if b < 0x80 then ([Char.ofNat b], .idle)
  else if b < 0xC2 then ([replacement], .idle)
  else if b < 0xE0 then ([], .pending (b - 0xC0) 1 0x80 0xBF)
  else if b < 0xF0 then
    ([], .pending (b - 0xE0) 2 (if b = 0xE0 then 0xA0 else 0x80) (if b = 0xED then 0x9F else 0xBF))
  else if b < 0xF5 then
    ([], .pending (b - 0xF0) 3 (if b = 0xF0 then 0x90 else 0x80) (if b = 0xF4 then 0x8F else 0xBF))
  else ([replacement], .idle)

def feed : State → Nat → Text × State
  | .idle, b => start b
  | .pending bits owed low high, b =>
    if low ≤ b ∧ b ≤ high then
      let bits := bits * 0x40 + b % 0x40
      if owed = 1 then ([Char.ofNat bits], .idle) else ([], .pending bits (owed - 1) 0x80 0xBF)
    else
      let next := start b
      (replacement :: next.1, next.2)

def flush : State → Text
  | .idle => []
  | .pending .. => [replacement]

def feedAll : State → List Nat → Text × State
  | s, [] => ([], s)
  | s, b :: bs =>
    let first := feed s b
    let rest := feedAll first.2 bs
    (first.1 ++ rest.1, rest.2)

def decode (bs : List Nat) : Text :=
  let read := feedAll .idle bs
  read.1 ++ flush read.2

theorem bytes_lt (c : Char) : ∀ b ∈ bytes c, b < 256 := by
  have hc : c.toNat < 0x110000 := by
    have := c.valid
    simp only [UInt32.isValidChar, Nat.isValidChar] at this
    change c.val.toNat < _
    omega
  unfold bytes
  simp only
  split
  · simp; omega
  · split
    · simp; omega
    · split <;> · simp; omega

theorem feed_last {bits low high b : Nat} (h : low ≤ b ∧ b ≤ high) :
    feed (.pending bits 1 low high) b = ([Char.ofNat (bits * 0x40 + b % 0x40)], .idle) := by
  simp [feed, h]

theorem feed_inner {bits low high b : Nat} (owed : Nat) (h : low ≤ b ∧ b ≤ high) :
    feed (.pending bits (owed + 2) low high) b =
      ([], .pending (bits * 0x40 + b % 0x40) (owed + 1) 0x80 0xBF) := by
  simp [feed, h]

theorem feedAll_bytes (c : Char) : feedAll .idle (bytes c) = ([c], .idle) := by
  have hv := c.valid
  have hn : Char.ofNat c.toNat = c := Char.ofNat_toNat c
  simp only [UInt32.isValidChar, Nat.isValidChar] at hv
  change c.toNat < 0xD800 ∨ 0xDFFF < c.toNat ∧ c.toNat < 0x110000 at hv
  unfold bytes
  generalize c.toNat = n at hv hn
  simp only
  split
  · next h => simp [feedAll, feed, start, h, hn]
  split
  · have hs : start (0xC0 + n / 0x40) = ([], .pending (n / 0x40) 1 0x80 0xBF) := by
      rw [start, if_neg (by omega), if_neg (by omega), if_pos (by omega), Nat.add_sub_cancel_left]
    have hbits : n / 0x40 * 0x40 + (0x80 + n % 0x40) % 0x40 = n := by omega
    simp only [feedAll, feed.eq_1, hs, feed_last (by omega : 0x80 ≤ 0x80 + n % 0x40 ∧ _ ≤ 0xBF)]
    simp only [hbits, hn, List.nil_append, List.append_nil]
  split
  · have hs : start (0xE0 + n / 0x1000) = ([], .pending (n / 0x1000) 2
        (if n / 0x1000 = 0 then 0xA0 else 0x80) (if n / 0x1000 = 0xD then 0x9F else 0xBF)) := by
      rw [start, if_neg (by omega), if_neg (by omega), if_neg (by omega), if_pos (by omega),
        Nat.add_sub_cancel_left]
      simp [show 0xE0 + n / 0x1000 = 0xED ↔ n / 0x1000 = 0xD by omega]
    have hbits : (n / 0x1000 * 0x40 + (0x80 + n / 0x40 % 0x40) % 0x40) * 0x40
        + (0x80 + n % 0x40) % 0x40 = n := by omega
    have hsecond : (if n / 0x1000 = 0 then 0xA0 else 0x80) ≤ 0x80 + n / 0x40 % 0x40 ∧
        0x80 + n / 0x40 % 0x40 ≤ (if n / 0x1000 = 0xD then 0x9F else 0xBF) := by
      constructor <;> split <;> omega
    simp only [feedAll, feed.eq_1, hs, feed_inner 0 hsecond,
      feed_last (by omega : 0x80 ≤ 0x80 + n % 0x40 ∧ _ ≤ 0xBF)]
    simp only [hbits, hn, List.nil_append, List.append_nil]
  · have hs : start (0xF0 + n / 0x40000) = ([], .pending (n / 0x40000) 3
        (if n / 0x40000 = 0 then 0x90 else 0x80) (if n / 0x40000 = 4 then 0x8F else 0xBF)) := by
      rw [start, if_neg (by omega), if_neg (by omega), if_neg (by omega), if_neg (by omega),
        if_pos (by omega), Nat.add_sub_cancel_left]
      simp [show 0xF0 + n / 0x40000 = 0xF4 ↔ n / 0x40000 = 4 by omega]
    have hbits : ((n / 0x40000 * 0x40 + (0x80 + n / 0x1000 % 0x40) % 0x40) * 0x40
        + (0x80 + n / 0x40 % 0x40) % 0x40) * 0x40 + (0x80 + n % 0x40) % 0x40 = n := by omega
    have hsecond : (if n / 0x40000 = 0 then 0x90 else 0x80) ≤ 0x80 + n / 0x1000 % 0x40 ∧
        0x80 + n / 0x1000 % 0x40 ≤ (if n / 0x40000 = 4 then 0x8F else 0xBF) := by
      constructor <;> split <;> omega
    simp only [feedAll, feed.eq_1, hs, feed_inner 1 hsecond,
      feed_inner 0 (by omega : 0x80 ≤ 0x80 + n / 0x40 % 0x40 ∧ _ ≤ 0xBF),
      feed_last (by omega : 0x80 ≤ 0x80 + n % 0x40 ∧ _ ≤ 0xBF)]
    simp only [hbits, hn, List.nil_append, List.append_nil]

end UriTemplate.Utf8
