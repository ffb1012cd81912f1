/-!
# Reading UTF-8

Text inside a shader module is UTF-8. Bytes that are not are refused with the place of the first bad
sequence and its length: the longest run of bytes there that could have begun a character.

## Main definitions

* `ShaderBindings.Text.Utf8Fault` - why bytes are not text.
* `ShaderBindings.Text.decodeUtf8` - the characters of a byte sequence.
-/

set_option autoImplicit false

namespace ShaderBindings.Text

/-- Why a byte sequence is not UTF-8. -/
inductive Utf8Fault where
  /-- The bytes from `index` begin no character; `length` of them could have begun one. -/
  | invalid (length index : Nat)
  /-- The sequence ends inside the character that begins at `index`. -/
  | incomplete (index : Nat)
deriving DecidableEq, Repr

/-- Describes the fault. -/
def Utf8Fault.message : Utf8Fault → String
  | .invalid length index => s!"invalid utf-8 sequence of {length} bytes from index {index}"
  | .incomplete index => s!"incomplete utf-8 byte sequence from index {index}"

/-- What the first byte of a character says about the bytes after it. The second byte has bounds of
its own, which rule out overlong forms, surrogates and numbers that are too large. -/
structure Utf8Lead where
  /-- The bits of the code point in the first byte. -/
  bits : Nat
  /-- The number of bytes that follow. -/
  more : Nat
  /-- The least value of the second byte. -/
  low : Nat := 0x80
  /-- The greatest value of the second byte. -/
  high : Nat := 0xbf

/-- Reads a first byte. The narrow ranges for the second byte rule out overlong forms, surrogates
and values past the last code point. -/
def utf8Lead? (b : Nat) : Option Utf8Lead :=
  if b < 0x80 then some ⟨b, 0, 0x80, 0xbf⟩
  else if b < 0xc2 then none
  else if b < 0xe0 then some ⟨b - 0xc0, 1, 0x80, 0xbf⟩
  else if b = 0xe0 then some ⟨0, 2, 0xa0, 0xbf⟩
  else if b = 0xed then some ⟨0xd, 2, 0x80, 0x9f⟩
  else if b < 0xf0 then some ⟨b - 0xe0, 2, 0x80, 0xbf⟩
  else if b = 0xf0 then some ⟨0, 3, 0x90, 0xbf⟩
  else if b < 0xf4 then some ⟨b - 0xf0, 3, 0x80, 0xbf⟩
  else if b = 0xf4 then some ⟨4, 3, 0x80, 0x8f⟩
  else none

/-- The number of leading bytes that can follow in a character, the first of them between the given
bounds. -/
def utf8Tail (low high : Nat) : List Nat → Nat
  | [] => 0
  | b :: bs => if low ≤ b && b ≤ high then utf8Tail 0x80 0xbf bs + 1 else 0

/-- The characters of the bytes, the first of which stands at `index`.

Where no character begins, as many bytes are at fault as could have begun one. The end of the bytes
is a fault of its own kind only if all bytes up to it could have begun a character. -/
def decodeUtf8From (index : Nat) (bytes : List Nat) : Except Utf8Fault (List Char) :=
  match bytes with
  | [] => .ok []
  | b :: rest =>
    match utf8Lead? b with
    | none => .error (.invalid 1 index)
    | some lead =>
      let body := rest.take lead.more
      let valid := utf8Tail lead.low lead.high body
      if valid < lead.more then
        if valid = rest.length then .error (.incomplete index)
        else .error (.invalid (valid + 1) index)
      else
        let code := body.foldl (fun n c => n * 64 + (c - 0x80)) lead.bits
        (decodeUtf8From (index + 1 + lead.more) (rest.drop lead.more)).map (Char.ofNat code :: ·)
termination_by bytes.length
decreasing_by
  simp only [List.length_drop, List.length_cons]
  omega

/-- The text that the bytes spell. -/
def decodeUtf8 (bytes : List Nat) : Except Utf8Fault String :=
  (decodeUtf8From 0 bytes).map String.ofList

end ShaderBindings.Text
