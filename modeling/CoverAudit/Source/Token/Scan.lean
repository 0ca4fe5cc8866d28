import CoverAudit.Source.Token
import CoverAudit.Source.Token.Number

/-!
# From characters to tokens

`Token.scan` reads the characters of a source file as tokens, or refuses them. A line's indentation
is measured twice, with a tab going to the next multiple of eight and with a tab as wide as a
space, and the two measures must agree on how lines compare. Inside brackets line ends and
indentation mean nothing. A backslash joins a line with the next one.
-/

namespace CoverAudit.Source

/-- The source with `\r\n` and `\r` as line feeds, and ended by a line feed. A source that ends in
`\r\n` gets one more. -/
def normalizeNewlines : List Char → List Char
  | [] => ['\n']
  | ['\n'] => ['\n']
  | ['\r', '\n'] => ['\n', '\n']
  | ['\r'] => ['\n']
  | '\r' :: '\n' :: rest => '\n' :: normalizeNewlines rest
  | '\r' :: rest => '\n' :: normalizeNewlines rest
  | c :: rest => c :: normalizeNewlines rest

namespace Token

/-- The limits of the format: open brackets, and indentation steps. -/
def maxBrackets : Nat := 200

@[inherit_doc maxBrackets] def maxIndents : Nat := 100

/-- A line's indentation, measured with wide and with narrow tabs. -/
structure Indentation where
  wide : Nat := 0
  narrow : Nat := 0
  deriving DecidableEq, Repr

/-- What the reading of the next token depends on: the indentations of the enclosing blocks,
innermost first, and the closing brackets that are due, innermost first. -/
structure Layout where
  blocks : List Indentation := []
  brackets : List Char := []

/-- The characters that divide tokens within a line. -/
def isGap (c : Char) : Bool :=
  c = ' ' || c = '\t' || c = '\x0c'

/-- Measures the white space at the start of a line. A form feed starts the measure anew. When a
backslash joins lines here, what stands before the first one that is not at the margin counts. -/
def measure (wide narrow joined : Nat) : List Char → Option (Indentation × List Char)
  | ' ' :: rest => measure (wide + 1) (narrow + 1) joined rest
  | '\t' :: rest => measure ((wide / 8 + 1) * 8) (narrow + 1) joined rest
  | '\x0c' :: rest => measure 0 0 joined rest
  | '\\' :: '\n' :: rest =>
    if rest.isEmpty then none else measure wide narrow (if joined = 0 then wide else joined) rest
  | '\\' :: _ => none
  | cs => some (if joined = 0 then ⟨wide, narrow⟩ else ⟨joined, joined⟩, cs)

/-- Leaves the blocks that are indented deeper than `here`: how many are left, and the rest. -/
def leave (here : Indentation) : List Indentation → Nat × List Indentation
  | [] => (0, [])
  | block :: outer =>
    if here.wide < block.wide then
      let (count, blocks) := leave here outer
      (count + 1, blocks)
    else (0, block :: outer)

/-- The tokens and the blocks of a line that starts with the indentation `here`. -/
def enterLine (here : Indentation) (blocks : List Indentation) :
    Option (List Token × List Indentation) :=
  let current := blocks.headD {}
  if here.wide = current.wide then
    if here.narrow = current.narrow then some ([], blocks) else none
  else if current.wide < here.wide then
    if maxIndents ≤ blocks.length + 1 || here.narrow ≤ current.narrow then none
    else some ([.indent], here :: blocks)
  else
    let (count, outer) := leave here blocks
    if here = outer.headD {} then some (List.replicate count .dedent, outer) else none

/-- The characters of a string literal up to its closing quotes, behind those collected in reverse,
and what follows the quotes. A backslash keeps the next character from closing the literal; only a
literal with triple quotes may span lines. -/
def literalBody (quote : Char) (triple : Bool) (body : List Char) :
    List Char → Option (List Char × List Char)
  | [] => none
  | '\\' :: c :: rest => literalBody quote triple (c :: '\\' :: body) rest
  | c :: rest =>
    if c = quote then
      if !triple then some (body.reverse, rest)
      else
        match rest with
        | c' :: c'' :: rest' =>
          if c' = quote && c'' = quote then some (body.reverse, rest')
          else literalBody quote triple (c :: body) rest
        | _ => none
    else if c = '\n' && !triple then none
    else literalBody quote triple (c :: body) rest

/-- Whether a character opens a string literal. -/
def isQuote (c : Char) : Bool :=
  c = '"' || c.toNat = 39

/-- Reads a string literal from its opening quotes on. -/
def readLiteral (kind : List Char → Literal) : List Char → Option (Token × List Char)
  | q :: q' :: q'' :: rest =>
    if q = q' then
      if q = q'' then
        (literalBody q true [] rest).map fun (body, rest) => (.literal (kind body), rest)
      else some (.literal (kind []), q'' :: rest)
    else (literalBody q false [] (q' :: q'' :: rest)).map fun (body, rest) =>
      (.literal (kind body), rest)
  | q :: rest => (literalBody q false [] rest).map fun (body, rest) => (.literal (kind body), rest)
  | [] => none

/-- The kind of string literal that the letters in front of the quotes ask for. -/
def literalKind? (letters : List Char) : Option (List Char → Literal) :=
  match letters.map Char.toLower with
  | [] | ['u'] => some fun body => { body }
  | ['b'] => some fun body => { bytes := true, body }
  | ['r'] => some fun body => { raw := true, body }
  | ['f'] => some fun body => { formatted := true, body }
  | ['b', 'r'] | ['r', 'b'] => some fun body => { bytes := true, raw := true, body }
  | ['f', 'r'] | ['r', 'f'] => some fun body => { formatted := true, raw := true, body }
  | _ => none

/-- Reads a word, or a string literal that letters introduce. A word is taken as it is written:
different spellings that normalization (NFKC) would unite stay different names. -/
def readWord (cs : List Char) : Option (Token × List Char) :=
  let word := cs.takeWhile isWordChar
  let rest := cs.dropWhile isWordChar
  match if rest.head?.any isQuote then literalKind? word else none with
  | some kind => readLiteral kind rest
  | none =>
    if h : isName word = true then some (.ofWord ⟨String.ofList word, by simpa using h⟩, rest)
    else none

/-- Reads a symbol. -/
def readSymbol (cs : List Char) : Option (String × List Char) :=
  (symbols.find? fun text => text.toList.isPrefixOf cs).map fun text =>
    (text, cs.drop text.length)

/-- The closing bracket that an opening one asks for. -/
def closingOf? : String → Option Char
  | "(" => some ')'
  | "[" => some ']'
  | "\x7b" => some '\x7d'
  | _ => none

/-- The brackets that are due behind a symbol; refuses a bracket that closes another one, or none,
and brackets that are nested too deeply. -/
def bracketsBehind (text : String) (brackets : List Char) : Option (List Char) :=
  match closingOf? text with
  | some close => if maxBrackets ≤ brackets.length then none else some (close :: brackets)
  | none =>
    match text.toList with
    | [c] =>
      if c = ')' || c = ']' || c = '\x7d' then
        match brackets with
        | due :: outer => if due = c then some outer else none
        | [] => none
      else some brackets
    | _ => some brackets

/-- One step of the reading: the tokens read, the layout behind them, whether a new line starts,
and the characters that follow. -/
structure Step where
  tokens : List Token := []
  layout : Layout
  lineStart : Bool := false
  rest : List Char

/-- Reads the start of a line. Lines that hold nothing, or a comment, leave the indentation
alone. -/
def stepLineStart (layout : Layout) (cs : List Char) : Option Step := do
  let (here, rest) ← measure 0 0 0 cs
  match rest with
  | [] => failure
  | c :: _ =>
    if c = '#' || c = '\n' then
      return { layout, lineStart := true, rest := (rest.dropWhile (· != '\n')).drop 1 }
    else if layout.brackets.isEmpty then
      let (tokens, blocks) ← enterLine here layout.blocks
      return { tokens, layout := { layout with blocks }, rest }
    else return { layout, rest }

/-- Reads the next token within a line. -/
def stepInLine (layout : Layout) (cs : List Char) : Option Step :=
  match cs with
  | [] => none
  | '#' :: rest => some { layout, rest := rest.dropWhile (· != '\n') }
  | '\n' :: rest =>
    some { tokens := if layout.brackets.isEmpty then [.newline] else [], layout, lineStart := true
           rest }
  | '\\' :: '\n' :: rest => if rest.isEmpty then none else some { layout, rest }
  | c :: rest =>
    if isGap c then some { layout, rest }
    else if c.isDigit || (c = '.' && rest.head?.any Char.isDigit) then do
      let (imaginary, rest) ← if c = '.' then Number.fraction rest else Number.read cs
      return { tokens := [.number imaginary], layout, rest }
    else if isWordChar c then do
      let (token, rest) ← readWord cs
      return { tokens := [token], layout, rest }
    else if isQuote c then do
      let (token, rest) ← readLiteral (fun body => { body }) cs
      return { tokens := [token], layout, rest }
    else do
      let (text, rest) ← readSymbol cs
      let brackets ← bracketsBehind text layout.brackets
      return { tokens := [.symbol text], layout := { layout with brackets }, rest }

/-- Reads to the end, collecting tokens in reverse. Of two steps in a row one takes a character, so
that twice as many steps as there are characters are enough. At the end all blocks are left. -/
def scanFrom : Nat → Layout → Bool → List Char → List Token → Option (List Token)
  | _, layout, lineStart, [], tokens =>
    if lineStart && layout.brackets.isEmpty then
      some (tokens.reverse ++ List.replicate layout.blocks.length .dedent)
    else none
  | 0, _, _, _ :: _, _ => none
  | fuel + 1, layout, lineStart, cs, tokens => do
    let step ← if lineStart then stepLineStart layout cs else stepInLine layout cs
    scanFrom fuel step.layout step.lineStart step.rest (step.tokens.reverse ++ tokens)

/-- The tokens of a source, or `none` when a character does not fit. -/
def scan (source : List Char) : Option (List Token) :=
  let cs := normalizeNewlines source
  scanFrom (2 * cs.length + 1) {} true cs []

end Token

end CoverAudit.Source
