import ShaderBindings.Spirv.Fault
/-!
# Reading words of an instruction

A cursor stands inside an instruction. It knows how many words of the instruction are left, which
can be more than the stream still holds. What a failed read has used up stays used up: how many
words are left decides which fault is reported in the end.

## Main definitions

* `ShaderBindings.Spirv.Cursor`, `Read` - a place in an instruction, and steps that move it.
* `ShaderBindings.Spirv.word`, `text`, `value` - the words of plain operands.
-/

set_option autoImplicit false

namespace ShaderBindings.Spirv

/-- A place inside an instruction. The words of the instruction and those of the stream are counted
apart: an instruction may claim more words than the stream has. -/
structure Cursor where
  /-- The byte offset of the next word. -/
  offset : Nat
  /-- The words of the instruction that are left. -/
  left : Nat
  /-- The words of the stream from here on. -/
  rest : List UInt32
deriving DecidableEq

/-- A step that moves a cursor and can fail. -/
abbrev Read (ε : Type) := ExceptT ε (StateM Cursor)

/-- Reads a word. Reading past the end of the instruction uses up nothing; reading past the end of
the stream uses up one of the words that the instruction claims. -/
def word : Read OperandFault Nat := do
  let c ← get
  if c.left = 0 then throw (.limitReached c.offset)
  else
    match c.rest with
    | [] =>
      set { c with left := c.left - 1 }
      throw (.streamExpected c.offset)
    | w :: rest =>
      set ({ offset := c.offset + 4, left := c.left - 1, rest } : Cursor)
      return w.toNat

/-- The bytes of a word, lowest first. -/
def wordBytes (w : Nat) : List Nat :=
  [w % 256, w / 0x100 % 256, w / 0x10000 % 256, w / 0x1000000 % 256]

/-- Reads words up to the first whose last byte is zero, at most `fuel` many before the instruction
is used up. -/
def textWords : Nat → Read OperandFault (List Nat)
  | 0 => List.singleton <$> word
  | fuel + 1 => do
    let w ← word
    if w < 0x1000000 then return [w]
    else
      let ws ← textWords fuel
      return w :: ws

/-- The bytes without the zeros they end in. -/
def dropZeros (bytes : List Nat) : List Nat := (bytes.reverse.dropWhile (· == 0)).reverse

/-- Reads a text. It ends with the first word whose last byte is zero, which has to come before the
end of the instruction, and all zero bytes at its end are dropped. -/
def text : Read OperandFault String := do
  let start ← get
  let ws ← textWords start.left
  match Text.decodeUtf8 (dropZeros (ws.flatMap wordBytes)) with
  | .ok s => return s
  | .error fault => throw (.badText start.offset fault)

/-- Reads a value of a set. A word that is not there counts as the end of the stream here, even if
the instruction ends first. -/
def value (e : Enumeration) : Read OperandFault Nat := do
  let start ← get
  let w ← tryCatch word fun _ => throw (.streamExpected start.offset)
  if e.accepts w then return w
  else throw (.unknown e start.offset w)

end ShaderBindings.Spirv
