/-
What a file or a pipe holds: bytes, kept as the texts that were put behind one another.

Most writing goes on where the last writing ended, and a script writes many small
texts, so a text is put behind the others without a look at them. The bytes are
laid together when they are read.
-/

import KeyAudit.Host

namespace KeyAudit.Sandbox

structure Content where
  /-- The texts, the last one first. -/
  parts : List (List UInt8)
  length : Nat
  length_eq : length = parts.flatten.length

namespace Content

/-- The bytes in their order. -/
def bytes (c : Content) : List UInt8 :=
  match c.parts with
  | [part] => part
  | parts => parts.foldl (fun behind part => part ++ behind) []

def ofBytes (bytes : List UInt8) : Content := ⟨[bytes], bytes.length, by simp⟩

def empty : Content := ⟨[], 0, rfl⟩

instance : Inhabited Content := ⟨empty⟩

/-- The content with a text behind it. -/
def append (c : Content) (text : List UInt8) : Content :=
  ⟨text :: c.parts, c.length + text.length, by simp [c.length_eq, Nat.add_comm]⟩

/-- The content with a text put over it at a place. Behind the end it is filled up. -/
def overwrite (c : Content) (offset : Nat) (text : List UInt8) : Content :=
  if offset = c.length then c.append text
  else
    let bytes := c.bytes
    ofBytes (bytes.take offset ++ List.replicate (offset - c.length) 0 ++ text ++
      bytes.drop (offset + text.length))

theorem bytes_eq (c : Content) : c.bytes = c.parts.reverse.flatten := by
  unfold bytes
  split
  · rename_i h; simp [h]
  · simp

theorem length_bytes (c : Content) : c.bytes.length = c.length := by
  rw [bytes_eq, c.length_eq, List.length_flatten, List.length_flatten, List.map_reverse,
    List.sum_reverse]

/-- The content without its first bytes. -/
def drop (c : Content) (n : Nat) : Content :=
  ⟨[c.bytes.drop n], c.length - n, by simp [length_bytes]⟩

end Content

end KeyAudit.Sandbox
