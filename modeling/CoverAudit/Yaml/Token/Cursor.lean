import CoverAudit.Yaml.Fault
import CoverAudit.Yaml.Token

/-!
# Reading position in a YAML document

The state of the reading of tokens: the characters that are left, where they stand, how deep the
collections around them are indented, and which tokens may turn out to be keys. A token that may
start a key is remembered until the colon behind it is met, or until it is too far away for that.
-/

namespace CoverAudit.Yaml

/-- A token that may turn out to be the start of a key: its place among the tokens, whether only a
key may stand there, and where it stands in the text. -/
structure PossibleKey where
  position : Nat
  required : Bool
  index : Nat
  line : Nat
  column : Nat

/-- The state of the reading. The indentation outside of all block collections is -1. -/
structure Cursor where
  input : List Char
  index : Nat := 0
  line : Nat := 0
  column : Nat := 0
  flowLevel : Nat := 0
  indent : Int := -1
  outerIndents : List Int := []
  /-- Whether a key may start here. -/
  keyAllowed : Bool := true
  /-- The possible keys by flow level. -/
  possibleKeys : List (Nat × PossibleKey) := []
  tokens : Array Token := #[]

/-- A step of the reading. -/
abbrev Scan := StateT Cursor (Except Fault)

/-- The characters that end a line. -/
def isBreak (c : Char) : Bool :=
  c = '\n' || c = '\r' || c = '\x85' || c = '\u2028' || c = '\u2029'

/-- The end of the input reads as the character U+0000, which a document does not hold. -/
def endChar : Char := Char.ofNat 0

/-- Line ends, and the end of the input. -/
def isBreakOrEnd (c : Char) : Bool :=
  c = endChar || isBreak c

/-- Spaces, line ends, and the end of the input. -/
def isSpaceOrEnd (c : Char) : Bool :=
  c = ' ' || isBreakOrEnd c

/-- Spaces, tabs, line ends, and the end of the input. -/
def isGapOrEnd (c : Char) : Bool :=
  c = '\t' || isSpaceOrEnd c

/-- The characters of names: of anchors, directives and tag handles. -/
def isWordChar (c : Char) : Bool :=
  c.isAlphanum || c = '-' || c = '_'

/-- The cursor behind the next character. -/
def Cursor.advance (cursor : Cursor) : Cursor :=
  match cursor.input with
  | [] => cursor
  | c :: rest =>
    let endsLine := if c = '\r' then rest.head? ≠ some '\n' else isBreak c
    { cursor with
      input := rest
      index := cursor.index + 1
      line := if endsLine then cursor.line + 1 else cursor.line
      column :=
        if endsLine then 0
        else if c = '\uFEFF' then cursor.column
        else cursor.column + 1 }

namespace Scan

/-- Refuses the document. -/
def refuse {α : Type} : Scan α :=
  throw .malformed

/-- Refuses the document unless a condition holds. -/
def require (condition : Bool) : Scan Unit :=
  if condition then pure () else refuse

/-- The character `n` places ahead. -/
def peekAt (n : Nat) : Scan Char := do
  return ((← get).input.drop n).headD endChar

/-- The next character. -/
def peek : Scan Char := do
  return (← get).input.headD endChar

/-- Goes past `n` characters. -/
def forward : Nat → Scan Unit
  | 0 => pure ()
  | n + 1 => do
    modify Cursor.advance
    forward n

/-- Goes past the characters of a class and returns them. -/
def takeWhile (p : Char → Bool) : Scan (List Char) := do
  let run := (← get).input.takeWhile p
  forward run.length
  return run

/-- Goes past the end of a line, if it stands here. It reads as a line feed, unless it is one of the
two separators that stand for themselves. -/
def lineBreak : Scan (List Char) := do
  let c ← peek
  if c = '\r' then
    forward (if (← peekAt 1) = '\n' then 2 else 1)
    return ['\n']
  else if c = '\n' || c = '\x85' then
    forward 1
    return ['\n']
  else if c = '\u2028' || c = '\u2029' then
    forward 1
    return [c]
  else return []

/-- Goes past the rest of a line that may only hold spaces and a comment. -/
def restOfLine : Scan Unit := do
  let _ ← takeWhile (· = ' ')
  if (← peek) = '#' then
    let _ ← takeWhile (!isBreakOrEnd ·)
  require (isBreakOrEnd (← peek))
  let _ ← lineBreak

/-- Whether a line that divides documents starts here. -/
def atDocumentMark : Scan Bool := do
  match (← get).input with
  | '-' :: '-' :: '-' :: rest => return isGapOrEnd (rest.headD endChar)
  | '.' :: '.' :: '.' :: rest => return isGapOrEnd (rest.headD endChar)
  | _ => return false

/-- Adds a token. -/
def emit (token : Token) : Scan Unit :=
  modify fun cursor => { cursor with tokens := cursor.tokens.push token }

/-- Puts a token in front of those from `position` on. -/
def emitAt (position : Nat) (token : Token) : Scan Unit :=
  modify fun cursor =>
    { cursor with
      tokens := (cursor.tokens.extract 0 position).push token ++
        cursor.tokens.extract position cursor.tokens.size }

/-- Says whether a key may start here. -/
def allowKey (allowed : Bool) : Scan Unit :=
  modify fun cursor => { cursor with keyAllowed := allowed }

/-- Forgets the possible key of the current flow level. -/
def dropPossibleKey : Scan Unit := do
  let cursor ← get
  match cursor.possibleKeys.find? (·.1 = cursor.flowLevel) with
  | some (_, key) =>
    require !key.required
    set { cursor with possibleKeys := cursor.possibleKeys.filter (·.1 ≠ cursor.flowLevel) }
  | none => pure ()

/-- Remembers that the next token may start a key, where keys are allowed. -/
def savePossibleKey : Scan Unit := do
  let cursor ← get
  if cursor.keyAllowed then
    dropPossibleKey
    let key : PossibleKey :=
      { position := cursor.tokens.size
        required := cursor.flowLevel = 0 && cursor.indent = cursor.column
        index := cursor.index
        line := cursor.line
        column := cursor.column }
    modify fun cursor =>
      { cursor with possibleKeys := (cursor.flowLevel, key) :: cursor.possibleKeys }

/-- The most characters between the start of a key and its colon. -/
def maxKeyLength : Nat := 1024

/-- Forgets the possible keys that are too far away: a key stands on one line with its colon. -/
def dropStaleKeys : Scan Unit := do
  let cursor ← get
  let isStale (key : PossibleKey) : Bool :=
    key.line ≠ cursor.line || maxKeyLength < cursor.index - key.index
  require (cursor.possibleKeys.all fun (_, key) => !(isStale key && key.required))
  set { cursor with possibleKeys := cursor.possibleKeys.filter fun (_, key) => !isStale key }

/-- Closes the block collections that are indented deeper than `column`. -/
def unwind (column : Int) : Scan Unit := do
  let cursor ← get
  if cursor.flowLevel = 0 then
    let rec close (indent : Int) : List Int → Nat × Int × List Int
      | [] => (0, indent, [])
      | outer :: rest =>
        if column < indent then
          let (count, indent, rest) := close outer rest
          (count + 1, indent, rest)
        else (0, indent, outer :: rest)
    let (count, indent, outerIndents) := close cursor.indent cursor.outerIndents
    set { cursor with
      indent, outerIndents
      tokens := cursor.tokens ++ Array.replicate count Token.blockEnd }

/-- Opens a block collection that is indented to `column`, unless one is open there. -/
def openBlock (column : Nat) : Scan Bool := do
  let cursor ← get
  if cursor.indent < column then
    set { cursor with indent := column, outerIndents := cursor.indent :: cursor.outerIndents }
    return true
  else return false

end Scan

end CoverAudit.Yaml
