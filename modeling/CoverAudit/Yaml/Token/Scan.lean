import CoverAudit.Yaml.Token.Scalar

/-!
# From characters to YAML tokens

`Token.scan` reads a whole document, or several, as tokens.
-/

namespace CoverAudit.Yaml

namespace Scan

/-! ### Directives and properties -/

/-- A name, which must not be empty. -/
def word : Scan String := do
  let run ← takeWhile isWordChar
  require !run.isEmpty
  return String.ofList run

/-- A tag handle: `!`, `!!` or `!name!`. -/
def tagHandle : Scan String := do
  require ((← peek) = '!')
  forward 1
  if (← peek) = ' ' then return "!"
  let run ← takeWhile isWordChar
  require ((← peek) = '!')
  forward 1
  return String.ofList ('!' :: run ++ ['!'])

/-- The characters of a tag besides letters and digits. -/
def isTagMark (c : Char) : Bool :=
  "-;/?:@&=+$,_.!~*()[]".toList.contains c || c.toNat = 39

/-- The bytes of characters that a tag gives by their codes, such as `%C3%A9`. -/
def codedBytes : Nat → ByteArray → Scan ByteArray
  | 0, bytes => pure bytes
  | fuel + 1, bytes => do
    if (← peek) = '%' then
      match Source.Literal.hexDigits 2 0 ((← get).input.drop 1) with
      | some (code, _) =>
        forward 3
        codedBytes fuel (bytes.push code.toUInt8)
      | none => refuse
    else return bytes

/-- The text of a tag, behind what is read of it already. -/
def tagTextFrom : Nat → List Char → Scan (List Char)
  | 0, text => pure text
  | fuel + 1, text => do
    if (← peek) = '%' then
      match String.fromUTF8? (← codedBytes ((← get).input.length + 1) ByteArray.empty) with
      | some coded => tagTextFrom fuel (text ++ coded.toList)
      | none => refuse
    else
      let run ← takeWhile fun c => c.isAlphanum || isTagMark c
      if run.isEmpty then return text else tagTextFrom fuel (text ++ run)

/-- The text of a tag, which must not be empty. -/
def tagText : Scan String := do
  let text ← tagTextFrom ((← get).input.length + 1) []
  require !text.isEmpty
  return String.ofList text

/-- A number in a directive. -/
def directiveNumber : Scan Nat := do
  let digits ← takeWhile Char.isDigit
  require !digits.isEmpty
  return digits.foldl (fun n d => 10 * n + (d.toNat - '0'.toNat)) 0

/-- A line that starts with `%`. -/
def directive : Scan Token := do
  forward 1
  let name ← word
  require (isSpaceOrEnd (← peek))
  let content ←
    if name = "YAML" then do
      let _ ← takeWhile (· = ' ')
      let major ← directiveNumber
      require ((← peek) = '.')
      forward 1
      let _ ← directiveNumber
      require (isSpaceOrEnd (← peek))
      pure (Directive.version major)
    else if name = "TAG" then do
      let _ ← takeWhile (· = ' ')
      let handle ← tagHandle
      require ((← peek) = ' ')
      let _ ← takeWhile (· = ' ')
      let meaning ← tagText
      require (isSpaceOrEnd (← peek))
      pure (Directive.tagHandle handle meaning)
    else do
      let _ ← takeWhile (!isBreakOrEnd ·)
      pure Directive.other
  restOfLine
  return .directive content

/-- The name behind `&` or `*`. -/
def anchorName : Scan String := do
  forward 1
  let name ← word
  let c ← peek
  require (isGapOrEnd c || ['?', ':', ',', ']', '\x7d', '%', '@', '\x60'].contains c)
  return name

/-- A tag. -/
def tag : Scan Token := do
  let c ← peekAt 1
  let token ←
    if c = '<' then do
      forward 2
      let suffix ← tagText
      require ((← peek) = '>')
      forward 1
      pure (Token.tag none suffix)
    else if isGapOrEnd c then do
      forward 1
      pure (Token.tag none "!")
    else do
      let rest := ((← get).input.drop 1).takeWhile (!isSpaceOrEnd ·)
      let handle ←
        if rest.contains '!' then tagHandle
        else do
          forward 1
          pure "!"
      pure (Token.tag (some handle) (← tagText))
  require (isSpaceOrEnd (← peek))
  return token

/-! ### The next token -/

/-- Goes past spaces, comments and line ends. -/
def skipToToken : Nat → Scan Unit
  | 0 => pure ()
  | fuel + 1 => do
    let _ ← takeWhile (· = ' ')
    if (← peek) = '#' then
      let _ ← takeWhile (!isBreakOrEnd ·)
    if !(← lineBreak).isEmpty then
      if (← get).flowLevel = 0 then allowKey true
      skipToToken fuel

/-- Whether a plain scalar may start here. -/
def atPlain : Scan Bool := do
  let c ← peek
  let next ← peekAt 1
  let isMark := c.toNat = 39 || "-?:,[]#&*!|>\"%@\x7b\x7d\x60".toList.contains c
  let inFlow := 0 < (← get).flowLevel
  return !(isGapOrEnd c || isMark)
    || (!isGapOrEnd next && (c = '-' || (!inFlow && (c = '?' || c = ':'))))

/-- Takes a character that opens a flow collection. -/
def openFlow (token : Token) : Scan Unit := do
  savePossibleKey
  modify fun cursor => { cursor with flowLevel := cursor.flowLevel + 1 }
  allowKey true
  forward 1
  emit token

/-- Takes a character that closes a flow collection. -/
def closeFlow (token : Token) : Scan Unit := do
  dropPossibleKey
  -- A collection that was never opened is for the grammar to refuse.
  modify fun cursor => { cursor with flowLevel := cursor.flowLevel - 1 }
  allowKey false
  forward 1
  emit token

/-- Takes a comma between the items of a flow collection. -/
def flowEntry : Scan Unit := do
  allowKey true
  dropPossibleKey
  forward 1
  emit .flowEntry

/-- Opens a block collection at this column where keys are allowed, if none is open there. -/
def openBlockHere (start : Token) : Scan Unit := do
  let cursor ← get
  if cursor.flowLevel = 0 then
    require cursor.keyAllowed
    if ← openBlock cursor.column then emit start

/-- Takes the `-` in front of an item. -/
def blockEntry : Scan Unit := do
  openBlockHere .blockSequenceStart
  allowKey true
  dropPossibleKey
  forward 1
  emit .blockEntry

/-- Takes the `?` in front of a key. -/
def key : Scan Unit := do
  openBlockHere .blockMappingStart
  allowKey ((← get).flowLevel = 0)
  dropPossibleKey
  forward 1
  emit .key

/-- Takes the `:` in front of a value. What may have been a key is one now. -/
def value : Scan Unit := do
  let cursor ← get
  match cursor.possibleKeys.find? (·.1 = cursor.flowLevel) with
  | some (_, key) =>
    set { cursor with possibleKeys := cursor.possibleKeys.filter (·.1 ≠ cursor.flowLevel) }
    emitAt key.position .key
    if cursor.flowLevel = 0 then
      if ← openBlock key.column then emitAt key.position .blockMappingStart
    allowKey false
  | none =>
    openBlockHere .blockMappingStart
    allowKey (cursor.flowLevel = 0)
    dropPossibleKey
  forward 1
  emit .value

/-- Takes a token that may start a key, and behind which none may start. -/
def property (token : Scan Token) : Scan Unit := do
  savePossibleKey
  allowKey false
  emit (← token)

/-- Takes a token that stands outside of all collections. -/
def outer (token : Scan Token) : Scan Unit := do
  unwind (-1)
  dropPossibleKey
  allowKey false
  emit (← token)

/-- Takes the next token; false at the end. -/
def nextToken : Scan Bool := do
  skipToToken ((← get).input.length + 1)
  dropStaleKeys
  unwind (← get).column
  let cursor ← get
  let c ← peek
  let next ← peekAt 1
  let inFlow := 0 < cursor.flowLevel
  if c = endChar then
    outer (pure .streamEnd)
    return false
  if c = '%' && cursor.column = 0 then outer directive
  else if c = '-' && cursor.column = 0 && (← atDocumentMark) then
    outer (do forward 3; return .documentStart)
  else if c = '.' && cursor.column = 0 && (← atDocumentMark) then
    outer (do forward 3; return .documentEnd)
  else if c = '[' then openFlow .flowSequenceStart
  else if c = '\x7b' then openFlow .flowMappingStart
  else if c = ']' then closeFlow .flowSequenceEnd
  else if c = '\x7d' then closeFlow .flowMappingEnd
  else if c = ',' then flowEntry
  else if c = '-' && isGapOrEnd next then blockEntry
  else if c = '?' && (inFlow || isGapOrEnd next) then key
  else if c = ':' && (inFlow || isGapOrEnd next) then value
  else if c = '*' then property (do return .alias (← anchorName))
  else if c = '&' then property (do return .anchor (← anchorName))
  else if c = '!' then property tag
  else if (c = '|' || c = '>') && !inFlow then
    allowKey true
    dropPossibleKey
    emit (← blockScalar (c = '>'))
  else if c = '"' || c.toNat = 39 then property (quotedScalar (c = '"'))
  else if ← atPlain then property plainScalar
  else refuse
  return true

/-- Takes all tokens. Every token but the last takes a character. -/
def allTokens : Nat → Scan Unit
  | 0 => refuse
  | fuel + 1 => do
    if ← nextToken then allTokens fuel

end Scan

/-- The characters that a document may hold. -/
def isDocumentChar (c : Char) : Bool :=
  c = '\t' || c = '\n' || c = '\r' || c = '\x85' ||
    (0x20 ≤ c.toNat && c.toNat ≤ 0x7E) || (0xA0 ≤ c.toNat && c.toNat ≤ 0xFFFD) || 0x10000 ≤ c.toNat

/-- The tokens of a text. A byte order mark in front of it is left out. -/
def Token.scan (text : String) : Except Fault (List Token) := do
  let input := text.toList
  unless input.all isDocumentChar do throw .malformed
  let cursor : Cursor := { input }
  let cursor := if input.head? = some '\uFEFF' then cursor.advance else cursor
  let (_, cursor) ← (Scan.allTokens (input.length + 2)).run cursor
  return cursor.tokens.toList

end CoverAudit.Yaml
