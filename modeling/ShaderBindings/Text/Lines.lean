import ShaderBindings.Text.Quoted
/-!
# Lines of printed source

Printed source is a list of lines. A line may hold text from a shader, line breaks included, so
before the lines are indented as a whole they are split again wherever such a text breaks them.

## Main definitions

* `ShaderBindings.Text.splitLines` - the lines of a text.
* `ShaderBindings.Text.indent`, `indentBy` - lines moved to the right, blank ones excepted.
* `ShaderBindings.Text.bracketed`, `braced` - a header with an indented body between braces.
* `ShaderBindings.Text.unlines` - the lines as one text.
-/

set_option autoImplicit false

namespace ShaderBindings.Text

/-- The pieces of a text between its line feeds; a carriage return before a line feed belongs to the
break. `line` holds the characters of the current piece, last one first. -/
def splitChars (line : List Char) : List Char → List (List Char)
  | [] => [line.reverse]
  | '\n' :: cs =>
    let piece := match line with
      | '\r' :: l => l.reverse
      | l => l.reverse
    piece :: splitChars [] cs
  | c :: cs => splitChars (c :: line) cs

/-- The lines of a text that is followed by a line feed. An empty text is one empty line. -/
def splitLines (s : String) : List String :=
  (splitChars [] (s.toList ++ ['\n'])).dropLast.map String.ofList

/-- Four spaces. -/
def tab : String := "    "

/-- Moves a line one step to the right, unless it is blank. -/
def indentLine (line : String) : String := if line.isEmpty then line else tab ++ line

/-- Moves lines one step to the right. -/
def indent (lines : List String) : List String := lines.map indentLine

/-- Moves lines `n` steps to the right. -/
def indentBy : Nat → List String → List String
  | 0, lines => lines
  | n + 1, lines => indent (indentBy n lines)

/-- An indented body between a first and a last line. -/
def bracketed (first : String) (body : List String) (last : String) : List String :=
  [first] ++ indent body ++ [last]

/-- A header, its indented body between braces, and what follows the closing brace. The opening
brace ends the line of the header. -/
def braced (header : String) (body : List String) (tail : String) : List String :=
  bracketed (header ++ " \x7b") body ("\x7d" ++ tail)

/-- The lines as one text, each ended by a line feed. -/
def unlines (lines : List String) : String :=
  String.join (lines.map (· ++ "\n"))

/-- The texts one after the other with a comma between them. -/
def commas (parts : List String) : String := ", ".intercalate parts

end ShaderBindings.Text
