import ShaderBindings.Text.Glyph
/-!
# Quoted text

A text between double quotes, with the characters that would end it, break the line or show nothing
written as escapes.

## Main definitions

* `ShaderBindings.Text.hex` - a number in lower-case hexadecimal digits.
* `ShaderBindings.Text.quote` - a text in quotes.
-/

set_option autoImplicit false

namespace ShaderBindings.Text

/-- The hexadecimal digits of a number, lower case, without leading zeros. -/
def hexDigits (n : Nat) : List Char := Nat.toDigits 16 n

/-- A number in lower-case hexadecimal digits. -/
def hex (n : Nat) : String := String.ofList (hexDigits n)

/-- A text filled up with zeros on the left to at least `width` characters. -/
def zeroPad (width : Nat) (s : List Char) : List Char :=
  List.replicate (width - s.length) '0' ++ s

/-- How a character stands between quotes: by a short escape, by its code point, or as itself. A
single quote stands as itself, since the text is one between double quotes. -/
def quoteChar (c : Char) : List Char :=
  match c with
  | '\x00' => ['\\', '0']
  | '\t' => ['\\', 't']
  | '\n' => ['\\', 'n']
  | '\r' => ['\\', 'r']
  | '"' => ['\\', '"']
  | '\\' => ['\\', '\\']
  | c => if hasGlyph c then [c] else ['\\', 'u', '\x7b'] ++ hexDigits c.toNat ++ ['\x7d']

/-- A text between double quotes. -/
def quote (s : String) : String :=
  String.ofList (['"'] ++ s.toList.flatMap quoteChar ++ ['"'])

end ShaderBindings.Text
