/-
SchemaSemver.Text.Quoted — texts in quotes.

A text stands in single quotes, or in double quotes when it holds a single quote and no double one.
The quote itself, the backslash and every character without a visible form are escaped: `\n`, `\r`
and `\t` by their letters, others by their code in two, four or eight hexadecimal digits.
-/
import SchemaSemver.Text.Hexadecimal
import SchemaSemver.Text.Printable

namespace SchemaSemver.Text

/-- The escape of a character by its code. -/
def escapeCode (c : Char) : List Char :=
  let n := c.toNat
  if n ≤ 0xFF then '\\' :: 'x' :: hexadecimal 2 n
  else if n ≤ 0xFFFF then '\\' :: 'u' :: hexadecimal 4 n
  else '\\' :: 'U' :: hexadecimal 8 n

/-- A character as it stands between the given quotes. -/
def quotedChar (quote c : Char) : List Char :=
  if c = quote ∨ c = '\\' then ['\\', c]
  else if c = '\n' then ['\\', 'n']
  else if c = '\r' then ['\\', 'r']
  else if c = '\t' then ['\\', 't']
  else if isPrintable c then [c]
  else escapeCode c

/-- The quote that the text is put into. -/
def quoteFor (chars : List Char) : Char :=
  if chars.contains '\'' && !chars.contains '"' then '"' else '\''

/-- The text in quotes. -/
def quoted (text : String) : String :=
  let chars := text.toList
  let quote := quoteFor chars
  String.ofList (quote :: (chars.flatMap (quotedChar quote) ++ [quote]))

end SchemaSemver.Text
