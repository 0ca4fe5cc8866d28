import CoverAudit.Source.Literal
import CoverAudit.Yaml.Token.Cursor

/-!
# Scalars of a YAML document

Reading the three notations for scalars: in a block behind `|` or `>`, in quotes, and plain. A
single line end inside a folded scalar reads as a space; further ones are kept.
-/

namespace CoverAudit.Yaml.Scan

/-! ### Blocks -/

/-- What is kept of the line ends behind a block. -/
inductive Chomping where
  | strip
  | clip
  | keep
  deriving DecidableEq

/-- The indicators behind `|` or `>`: what is kept at the end, and the indentation. -/
def blockIndicators : Scan (Chomping × Option Nat) := do
  let chomping : Scan (Option Chomping) := do
    let c ← peek
    if c = '+' || c = '-' then
      forward 1
      return some (if c = '+' then .keep else .strip)
    else return none
  let increment : Scan (Option Nat) := do
    let c ← peek
    if c.isDigit then
      require (c ≠ '0')
      forward 1
      return some (c.toNat - '0'.toNat)
    else return none
  let before ← chomping
  let width ← increment
  let behind ← if before.isNone && width.isSome then chomping else pure none
  require (isSpaceOrEnd (← peek))
  return ((before <|> behind).getD .clip, width)

/-- Goes past spaces up to the column `indent`. -/
def skipIndent (indent : Nat) : Scan Unit := do
  let cursor ← get
  forward (min (indent - cursor.column) (cursor.input.takeWhile (· = ' ')).length)

/-- The line ends in front of the next line of a block. -/
def blockBreaks (indent : Nat) : Nat → List Char → Scan (List Char)
  | 0, breaks => pure breaks
  | fuel + 1, breaks => do
    skipIndent indent
    if isBreak (← peek) then
      let ends ← lineBreak
      blockBreaks indent fuel (breaks ++ ends)
    else return breaks

/-- The line ends in front of the first line of a block that does not give its indentation, and the
widest indentation among them. -/
def firstBreaks : Nat → List Char → Nat → Scan (List Char × Nat)
  | 0, breaks, width => pure (breaks, width)
  | fuel + 1, breaks, width => do
    let c ← peek
    if c = ' ' then
      forward 1
      firstBreaks fuel breaks (max width (← get).column)
    else if isBreak c then
      let ends ← lineBreak
      firstBreaks fuel (breaks ++ ends) width
    else return (breaks, width)

/-- The lines of a block: its text without the line ends at the end, the last line end, and those
behind it. -/
def blockLines (folded : Bool) (indent : Nat) : Nat → List Char → List Char →
    Scan (List Char × List Char × List Char)
  | 0, text, breaks => pure (text, [], breaks)
  | fuel + 1, text, breaks => do
    let first ← peek
    let line ← takeWhile (!isBreakOrEnd ·)
    let text := text ++ breaks ++ line
    let lineEnd ← lineBreak
    let breaks ← blockBreaks indent ((← get).input.length + 1) []
    let next ← peek
    if (← get).column = indent && next ≠ endChar then
      let isIndented (c : Char) : Bool := c = ' ' || c = '\t'
      let folds := folded && lineEnd = ['\n'] && !isIndented first && !isIndented next
      let text :=
        if folds then (if breaks.isEmpty then text ++ [' '] else text) else text ++ lineEnd
      blockLines folded indent fuel text breaks
    else return (text, lineEnd, breaks)

/-- A scalar in a block. -/
def blockScalar (folded : Bool) : Scan Token := do
  forward 1
  let (chomping, increment) ← blockIndicators
  restOfLine
  let outer := ((← get).indent + 1).toNat
  let least := max outer 1
  let fuel := (← get).input.length + 1
  let (breaks, indent) ←
    match increment with
    | none => do
      let (breaks, width) ← firstBreaks fuel [] 0
      pure (breaks, max least width)
    | some increment => do
      let indent := least + increment - 1
      pure (← blockBreaks indent fuel [], indent)
  let (text, lineEnd, breaks) ←
    if (← get).column = indent && (← peek) ≠ endChar then blockLines folded indent fuel [] breaks
    else pure ([], [], breaks)
  let ending :=
    match chomping with
    | .strip => []
    | .clip => lineEnd
    | .keep => lineEnd ++ breaks
  return .scalar (String.ofList (text ++ ending)) false

/-! ### Quotes -/

/-- What a one-letter escape in double quotes stands for. -/
def escape? (c : Char) : Option Char :=
  match c with
  | '0' => some endChar
  | 'a' => some '\x07'
  | 'b' => some '\x08'
  | 't' => some '\t'
  | '\t' => some '\t'
  | 'n' => some '\n'
  | 'v' => some '\x0b'
  | 'f' => some '\x0c'
  | 'r' => some '\r'
  | 'e' => some '\x1b'
  | ' ' => some ' '
  | '"' => some '"'
  | '\\' => some '\\'
  | '/' => some '/'
  | 'N' => some '\x85'
  | '_' => some '\xa0'
  | 'L' => some '\u2028'
  | 'P' => some '\u2029'
  | _ => none

/-- The number of hexadecimal digits that an escape letter asks for. -/
def escapeWidth? : Char → Option Nat
  | 'x' => some 2
  | 'u' => some 4
  | 'U' => some 8
  | _ => none

/-- A character given by its code in `width` hexadecimal digits. -/
def codedChar (width : Nat) : Scan Char := do
  match Source.Literal.hexDigits width 0 (← get).input with
  | none => refuse
  | some (code, _) =>
    match Source.Literal.charOf? code with
    | some c =>
      forward width
      return c
    | none => throw (if code < 0x80000000 then .invalidValue else .codeTooLarge)

/-- The line ends in a quoted scalar, behind the first one. A line that divides documents must not
stand there. -/
def quotedBreaks : Nat → List Char → Scan (List Char)
  | 0, breaks => pure breaks
  | fuel + 1, breaks => do
    require !(← atDocumentMark)
    let _ ← takeWhile fun c => c = ' ' || c = '\t'
    if isBreak (← peek) then
      let ends ← lineBreak
      quotedBreaks fuel (breaks ++ ends)
    else return breaks

/-- What a line end and the empty lines behind it read as. -/
def foldBreaks (lineEnd breaks : List Char) : List Char :=
  if lineEnd ≠ ['\n'] then lineEnd ++ breaks
  else if breaks.isEmpty then [' ']
  else breaks

/-- The text of a quoted scalar up to its closing quote. -/
def quotedText (double : Bool) : Nat → List Char → Scan (List Char)
  | 0, _ => refuse
  | fuel + 1, text => do
    let c ← peek
    let isSingle := c.toNat = 39
    if c = endChar then refuse
    else if double && c = '"' then
      forward 1
      return text
    else if !double && isSingle then
      if (← peekAt 1) = c then
        forward 2
        quotedText double fuel (text ++ [c])
      else
        forward 1
        return text
    else if double && c = '\\' then
      forward 1
      let c ← peek
      match escape? c, escapeWidth? c with
      | some value, _ =>
        forward 1
        quotedText double fuel (text ++ [value])
      | none, some width =>
        forward 1
        let value ← codedChar width
        quotedText double fuel (text ++ [value])
      | none, none =>
        require (isBreak c)
        let _ ← lineBreak
        let breaks ← quotedBreaks ((← get).input.length + 1) []
        quotedText double fuel (text ++ breaks)
    else if isGapOrEnd c then
      let gap ← takeWhile fun c => c = ' ' || c = '\t'
      if isBreak (← peek) then
        let lineEnd ← lineBreak
        let breaks ← quotedBreaks ((← get).input.length + 1) []
        quotedText double fuel (text ++ foldBreaks lineEnd breaks)
      else
        require ((← peek) ≠ endChar)
        quotedText double fuel (text ++ gap)
    else
      let run ← takeWhile fun c => !(isGapOrEnd c || c = '"' || c.toNat = 39 || c = '\\')
      if run.isEmpty then
        -- A quote of the other kind, or a backslash in single quotes, stands for itself.
        forward 1
        quotedText double fuel (text ++ [c])
      else quotedText double fuel (text ++ run)

/-- A scalar in quotes. -/
def quotedScalar (double : Bool) : Scan Token := do
  forward 1
  let text ← quotedText double ((← get).input.length + 1) []
  return .scalar (String.ofList text) false

/-! ### Plain scalars -/

/-- The characters that divide the items of flow collections. -/
def isFlowMark (c : Char) : Bool :=
  c = ',' || c = '[' || c = ']' || c = '\x7b' || c = '\x7d'

/-- The characters of a plain scalar up to a space, a line end, or what ends the scalar. -/
def plainRun (inFlow : Bool) : List Char → List Char
  | [] => []
  | c :: rest =>
    let next := rest.headD endChar
    let ends := isGapOrEnd c
      || (c = ':' && (isGapOrEnd next || (inFlow && isFlowMark next)))
      || (inFlow && (isFlowMark c || c = '?'))
    if ends then [] else c :: plainRun inFlow rest

/-- The empty lines behind a line of a plain scalar; `none` when documents divide there. -/
def plainBreaks : Nat → List Char → Scan (Option (List Char))
  | 0, breaks => pure (some breaks)
  | fuel + 1, breaks => do
    let c ← peek
    if c = ' ' then
      forward 1
      plainBreaks fuel breaks
    else if isBreak c then
      let ends ← lineBreak
      if ← atDocumentMark then return none
      plainBreaks fuel (breaks ++ ends)
    else return some breaks

/-- The white space inside a plain scalar, as it reads; nothing when the scalar ends. -/
def plainGap : Scan (List Char) := do
  let gap ← takeWhile (· = ' ')
  if isBreak (← peek) then
    let lineEnd ← lineBreak
    allowKey true
    if ← atDocumentMark then return []
    match ← plainBreaks ((← get).input.length + 1) [] with
    | none => return []
    | some breaks => return foldBreaks lineEnd breaks
  else return gap

/-- The text of a plain scalar, whose lines are indented at least to `indent`. -/
def plainText (indent : Int) : Nat → List Char → List Char → Scan (List Char)
  | 0, text, _ => pure text
  | fuel + 1, text, gap => do
    if (← peek) = '#' then return text
    let inFlow := 0 < (← get).flowLevel
    let run := plainRun inFlow (← get).input
    if run.isEmpty then return text
    allowKey false
    forward run.length
    let text := text ++ gap ++ run
    let gap ← plainGap
    if gap.isEmpty || (← peek) = '#' then return text
    if !inFlow && (← get).column < indent then return text
    plainText indent fuel text gap

/-- A plain scalar. -/
def plainScalar : Scan Token := do
  let cursor ← get
  let text ← plainText (cursor.indent + 1) (cursor.input.length + 1) [] []
  return .scalar (String.ofList text) true

end CoverAudit.Yaml.Scan
