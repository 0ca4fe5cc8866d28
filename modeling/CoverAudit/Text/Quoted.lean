import CoverAudit.Text.Printable
import CoverAudit.Text.Split

/-!
# Quoted texts

A text in quotes, as messages show it: single quotes, unless the text holds a single quote and no
double one. Backslashes, the quote itself and characters that are not printable are escaped.
-/

namespace CoverAudit.Text

/-- The character of single quotes. -/
def singleQuote : Char := Char.ofNat 39

/-- The lower-case hexadecimal digits of a number, padded with zeros to `width`. -/
def hexPadded (width n : Nat) : String :=
  let digits := Nat.toDigits 16 n
  String.ofList (List.replicate (width - digits.length) '0' ++ digits)

/-- A character as it stands between quotes of the given kind. -/
def escapeChar (quote c : Char) : String :=
  if c = '\\' then "\\\\"
  else if c = quote then String.ofList ['\\', c]
  else if c = '\n' then "\\n"
  else if c = '\r' then "\\r"
  else if c = '\t' then "\\t"
  else if isPrintable c then c.toString
  else if c.toNat < 0x100 then "\\x" ++ hexPadded 2 c.toNat
  else if c.toNat < 0x10000 then "\\u" ++ hexPadded 4 c.toNat
  else "\\U" ++ hexPadded 8 c.toNat

/-- The quote that a text is put in. -/
def quoteFor (s : String) : Char :=
  if s.toList.contains singleQuote && !s.toList.contains '"' then '"' else singleQuote

/-- The text in quotes. -/
def quoted (s : String) : String :=
  let quote := quoteFor s
  quote.toString ++ String.join (s.toList.map (escapeChar quote)) ++ quote.toString

/-- The texts in quotes, as a list in square brackets. -/
def quotedList (texts : List String) : String :=
  "[" ++ glue ", " (texts.map quoted) ++ "]"

end CoverAudit.Text
