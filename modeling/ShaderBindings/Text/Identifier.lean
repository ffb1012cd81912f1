import ShaderBindings.Text.UpperCase
/-!
# Identifiers

Shader names are arbitrary text. A name becomes an identifier of the printed source by replacing
what cannot stand in one; a name that would read as a keyword gets a mark.

## Main definitions

* `ShaderBindings.Text.sanitize` - the identifier characters of a name.
* `ShaderBindings.Text.identifier` - a name spelled as an identifier.
* `ShaderBindings.Text.typeName` - a module's short name spelled as a type.
-/

set_option autoImplicit false

namespace ShaderBindings.Text

/-- Whether the character may stand in an identifier: an ASCII letter, a digit or `_`. -/
def isIdentChar (c : Char) : Bool := c.isAlphanum || c == '_'

/-- Replaces every character that cannot stand in an identifier by `_`, and puts `_` in front of an
empty result and of one that starts with a digit. -/
def sanitize (name : String) : String :=
  let cs := name.toList.map fun c => if isIdentChar c then c else '_'
  match cs with
  | [] => "_"
  | c :: _ => if c.isDigit then String.ofList ('_' :: cs) else String.ofList cs

/-- Words that cannot be an identifier in any spelling. They get a mark behind them, where other
words of the language get one in front. -/
def fixedWords : List String := ["self", "Self", "super", "crate", "_"]

/-- Words that are an identifier only when they are marked as one. The words for which no mark helps
are `fixedWords`. -/
def keywords : List String :=
  ["abstract", "as", "async", "await", "become", "box", "break", "const",
   "continue", "do", "dyn", "else", "enum", "extern", "false", "final",
   "fn", "for", "if", "impl", "in", "let", "loop", "macro", "match", "mod",
   "move", "mut", "override", "priv", "pub", "ref", "return", "static",
   "struct", "trait", "true", "try", "type", "typeof", "unsafe", "unsized",
   "use", "virtual", "where", "while", "yield"]

/-- Spells a name as an identifier. Two names can have the same spelling, as `sanitize` replaces
every character that no identifier has by the same one. -/
def identifier (name : String) : String :=
  let s := sanitize name
  if s ∈ fixedWords then s ++ "_"
  else if s ∈ keywords then "r#" ++ s
  else s

/-- The parts between underscores one after the other, the first character of each in upper case. At
`start` a part begins. -/
def typeChars (start : Bool) : List Char → List Char
  | [] => []
  | c :: cs =>
    if c = '_' then typeChars true cs
    else (if start then upperChar c else [c]) ++ typeChars false cs

/-- A short name spelled as a type: `vert_1` becomes `Vert1`. -/
def typeName (name : String) : String := String.ofList (typeChars true name.toList)

end ShaderBindings.Text
