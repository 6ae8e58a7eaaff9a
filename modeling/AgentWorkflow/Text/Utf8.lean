/-
Text and bytes.

* `decode?` — the text that bytes spell in UTF-8, if they do.
* `decodeLossy` — every maximal run of bytes that cannot be continued to a
  character becomes one replacement character.

Design notes: `step` reads one character or one faulty run, after the table of
well-formed sequences (the first continuation byte has a narrower range after
E0, ED, F0 and F4).  A faulty run is the longest beginning of a well-formed
sequence, or a single byte when there is none.
-/

namespace AgentWorkflow.Text

/-- The bytes of a text. -/
def encode (s : String) : List UInt8 :=
  s.toUTF8.data.toList

/-- The text spelled by the bytes, when they are well-formed. -/
def decode? (bytes : List UInt8) : Option String :=
  String.fromUTF8? (ByteArray.mk bytes.toArray)

theorem decode?_encode (s : String) : decode? (encode s) = some s := by
  have h : ByteArray.mk (encode s).toArray = s.toUTF8 := by simp [encode]
  rw [decode?, h, String.fromUTF8?, dif_pos (by simpa using s.isValidUTF8)]
  rfl

/-- The range of the byte after a leading byte, and how many continuation
bytes a character with that leading byte has. -/
def followers (lead : Nat) : Option (Nat × Nat × Nat) :=
  if 0xC2 ≤ lead && lead ≤ 0xDF then some (0x80, 0xBF, 1)
  else if lead == 0xE0 then some (0xA0, 0xBF, 2)
  else if lead == 0xED then some (0x80, 0x9F, 2)
  else if 0xE1 ≤ lead && lead ≤ 0xEF then some (0x80, 0xBF, 2)
  else if lead == 0xF0 then some (0x90, 0xBF, 3)
  else if 0xF1 ≤ lead && lead ≤ 0xF3 then some (0x80, 0xBF, 3)
  else if lead == 0xF4 then some (0x80, 0x8F, 3)
  else none

/-- How many of at most `count` continuation bytes are there, and the number
that their low bits extend `value` to. -/
def continuation : Nat → Nat → Nat → Nat → List UInt8 → Nat × Nat
  | 0, _, _, value, _ => (0, value)
  | count + 1, low, high, value, b :: rest =>
    let n := b.toNat
    if low ≤ n && n ≤ high then
      let (taken, value) := continuation count 0x80 0xBF (value * 64 + n % 64) rest
      (taken + 1, value)
    else (0, value)
  | _ + 1, _, _, value, [] => (0, value)

/-- The character at the head of the bytes (`none` for a faulty run) and how
many further bytes belong to it. -/
def headChar (lead : UInt8) (rest : List UInt8) : Option Char × Nat :=
  let n := lead.toNat
  if n < 0x80 then (some (Char.ofNat n), 0)
  else
    match followers n with
    | none => (none, 0)
    | some (low, high, count) =>
      let bits := if count = 1 then n % 32 else if count = 2 then n % 16 else n % 8
      let (taken, value) := continuation count low high bits rest
      if taken = count then (some (Char.ofNat value), taken) else (none, taken)

/-- Reads the bytes; `skip` counts those of the current character that are
still ahead. -/
def decodeLossyFrom (acc : List Char) : Nat → List UInt8 → List Char
  | _, [] => acc.reverse
  | 0, b :: rest =>
    let (c, taken) := headChar b rest
    decodeLossyFrom (c.getD '\uFFFD' :: acc) taken rest
  | skip + 1, _ :: rest => decodeLossyFrom acc skip rest

/-- The text that the bytes spell, with a replacement character for each
faulty run. -/
def decodeLossy (bytes : List UInt8) : String :=
  String.ofList (decodeLossyFrom [] 0 bytes)

end AgentWorkflow.Text
