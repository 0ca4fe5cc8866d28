import CoverAudit.Source.Identifier

/-!
# Tokens of a source file

The words a source file is made of. Layout is part of the grammar: the end of a logical line and a
change of indentation are tokens too.
-/

namespace CoverAudit.Source

/-- A string literal as it stands in the source: which letters preceded the quotes, and the
characters between the quotes, escapes not yet read. -/
structure Literal where
  bytes : Bool := false
  raw : Bool := false
  formatted : Bool := false
  body : List Char
  deriving DecidableEq, Repr

/-- A token. Numbers keep only whether they are imaginary. -/
inductive Token where
  | name (id : Identifier)
  | keyword (word : String)
  | number (imaginary : Bool)
  | literal (text : Literal)
  | symbol (text : String)
  | newline
  | indent
  | dedent
  deriving DecidableEq, Repr

/-- The reserved words. `match`, `case` and `_` are names that only some positions treat
specially. -/
def keywords : List String :=
  ["False", "None", "True", "and", "as", "assert", "async", "await", "break", "class", "continue",
    "def", "del", "elif", "else", "except", "finally", "for", "from", "global", "if", "import",
    "in", "is", "lambda", "nonlocal", "not", "or", "pass", "raise", "return", "try", "while",
    "with", "yield"]

/-- The token of a word. -/
def Token.ofWord (word : Identifier) : Token :=
  if word.text ∈ keywords then .keyword word.text else .name word

/-- The symbols of three characters, then those of two, then those of one: the longest wins. -/
def symbols : List String :=
  ["**=", "...", "//=", "<<=", ">>=",
    "!=", "%=", "&=", "**", "*=", "+=", "-=", "->", "//", "/=", ":=", "<<", "<=", "==", ">=", ">>",
    "@=", "^=", "|=",
    "%", "&", "(", ")", "*", "+", ",", "-", ".", "/", ":", ";", "<", "=", ">", "@", "[", "]", "^",
    "\x7b", "|", "\x7d", "~"]

end CoverAudit.Source
