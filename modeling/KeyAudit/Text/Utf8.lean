/-
Reading bytes as UTF-8 text.

`decode?` refuses bytes that are not UTF-8. `decodeLossy` reads any bytes: each
longest run that begins a character but does not finish it, and each byte that
can begin none, is read as one replacement character. `decodeLossy_ascii` says
that ASCII is read as it stands.
-/

namespace KeyAudit.Text.Utf8

/-- The text that the bytes spell, if they are UTF-8. -/
def decode? (bytes : ByteArray) : Option String := String.fromUTF8? bytes

/-- Stands for bytes that spell no character. -/
def replacement : Char := '\uFFFD'

/-- How a character goes on after its first byte: the bits of that byte, the
range of the second byte, and how many bytes follow the second. -/
structure Lead where
  bits : Nat
  low : UInt8
  high : UInt8
  more : Nat
  deriving Repr, DecidableEq

/-- What a byte from `0x80` on begins, if it begins a character. -/
def lead? (b : UInt8) : Option Lead :=
  if b < 0xC2 then none
  else if b < 0xE0 then some ⟨b.toNat - 0xC0, 0x80, 0xBF, 0⟩
  else if b = 0xE0 then some ⟨0, 0xA0, 0xBF, 1⟩
  else if b = 0xED then some ⟨0xD, 0x80, 0x9F, 1⟩
  else if b < 0xF0 then some ⟨b.toNat - 0xE0, 0x80, 0xBF, 1⟩
  else if b = 0xF0 then some ⟨0, 0x90, 0xBF, 2⟩
  else if b < 0xF4 then some ⟨b.toNat - 0xF0, 0x80, 0xBF, 2⟩
  else if b = 0xF4 then some ⟨4, 0x80, 0x8F, 2⟩
  else none

/-- Six more bits. -/
def extend (bits : Nat) (b : UInt8) : Nat := bits * 64 + (b.toNat - 0x80)

/-- Reads `more` continuation bytes; gives the character, or the replacement if
one is missing, and how many bytes were read. -/
def continuation : Nat → Nat → List UInt8 → Char × Nat
  | 0, bits, _ => (Char.ofNat bits, 0)
  | _ + 1, _, [] => (replacement, 0)
  | more + 1, bits, b :: bs =>
    if 0x80 ≤ b ∧ b ≤ 0xBF then
      let (c, n) := continuation more (extend bits b) bs
      (c, n + 1)
    else (replacement, 0)

/-- The character that begins with byte `b`, and how many of the bytes after it
belong to it. -/
def character (b : UInt8) (bs : List UInt8) : Char × Nat :=
  if b < 0x80 then (Char.ofNat b.toNat, 0)
  else match lead? b with
    | none => (replacement, 0)
    | some l =>
      match bs with
      | [] => (replacement, 0)
      | b₂ :: rest =>
        if l.low ≤ b₂ ∧ b₂ ≤ l.high then
          let (c, n) := continuation l.more (extend l.bits b₂) rest
          (c, n + 1)
        else (replacement, 0)

/-- The characters of the bytes after the first `skip`, which belong to a
character already read. -/
def decodeFrom : Nat → List UInt8 → List Char
  | _, [] => []
  | skip + 1, _ :: bs => decodeFrom skip bs
  | 0, b :: bs => (character b bs).1 :: decodeFrom (character b bs).2 bs

/-- The characters that any bytes spell. -/
def decodeLossy (bytes : List UInt8) : List Char := decodeFrom 0 bytes

/-- ASCII is read as it stands. -/
theorem decodeLossy_ascii {bytes : List UInt8} (h : ∀ b ∈ bytes, b < 0x80) :
    decodeLossy bytes = bytes.map fun b => Char.ofNat b.toNat := by
  induction bytes with
  | nil => rfl
  | cons b bs ih =>
    have hb : b < 0x80 := h b (by simp)
    have hr := ih fun d hd => h d (by simp [hd])
    simp only [decodeLossy] at hr ⊢
    simp [decodeFrom, character, hb, hr]

end KeyAudit.Text.Utf8
