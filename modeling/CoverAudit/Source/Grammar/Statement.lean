import CoverAudit.Source.Grammar.Pattern

/-!
# Statements

The grammar of statements, and `Source.parse`, which reads a whole source file.
-/

namespace CoverAudit.Source

open Source.Parser

/-- How statements are read one step deeper, beside the rules for expressions. -/
structure StatementRules where
  rules : Rules
  statement : Parser (List Stmt)

namespace StatementRules

/-! ### Simple statements -/

/-- The value behind `=`: a `yield`, or expressions. -/
def assignedValue (s : StatementRules) : Parser Expr := do
  if ← atKeyword "yield" then
    s.rules.yieldExpression
    return .other
  else s.rules.starExpressions

/-- The targets and the value of an assignment, behind its first expression. -/
def assignmentFrom (s : StatementRules) : Nat → List Expr → Parser Stmt
  | 0, _ => failure
  | limit + 1, targets => do
    symbol "="
    if ← atKeyword "yield" then
      s.rules.yieldExpression
      return .assign targets.reverse .other
    let value ← s.rules.starExpressions
    if ← atSymbol "=" then
      guard value.isTarget
      s.assignmentFrom limit (value :: targets)
    else return .assign targets.reverse value

/-- The operators that combine with an assignment. -/
def augmentedOperators : List String :=
  ["+=", "-=", "*=", "@=", "/=", "%=", "&=", "|=", "^=", "<<=", ">>=", "**=", "//="]

/-- A statement that starts with an expression: an assignment in one of its forms, or the
expression alone. -/
def expressionStatement (s : StatementRules) : Parser Stmt := do
  if ← atKeyword "yield" then
    s.rules.yieldExpression
    return .other
  let value ← s.rules.starExpressions
  if ← atSymbol "=" then
    guard value.isTarget
    s.assignmentFrom s.rules.limit [value]
  else if ← symbol? ":" then
    guard value.isSingleTarget
    let _ ← s.rules.parse .expression
    if ← symbol? "=" then
      let _ ← s.assignedValue
    return .other
  else if (← maybe (symbolIn augmentedOperators)).isSome then
    guard value.isSingleTarget
    let _ ← s.assignedValue
    return .other
  else return .expr value

/-- A dotted name. -/
def dottedName (s : StatementRules) : Parser String := do
  return ".".intercalate ((← separated s.rules.limit "." name).map Identifier.text)

/-- `as name`, if it stands here. -/
def boundName? : Parser (Option Identifier) := do
  if ← keyword? "as" then return some (← name) else return none

/-- `import a.b, c as d` -/
def importStatement (s : StatementRules) : Parser Stmt := do
  keyword "import"
  return .importModules (← separated s.rules.limit "," do
    return ⟨← s.dottedName, ← boundName?⟩)

/-- One name of a `from` import. -/
def importedName : Parser ImportedName := do
  return ⟨← name, ← boundName?⟩

/-- The dots in front of a module: how many. -/
def leadingDots (s : StatementRules) : Parser Nat := do
  let dots ← many s.rules.limit (do
    if ← symbol? "..." then return 3
    symbol "."
    return 1)
  return dots.foldl Nat.add 0

/-- The names of a `from` import. -/
def importedNames (s : StatementRules) : Parser ImportedNames := do
  if ← symbol? "*" then return .all
  if ← symbol? "(" then
    let (names, _) ← commaList s.rules.limit importedName
    symbol ")"
    return .listed names
  else return .listed (← separated s.rules.limit "," importedName)

/-- `from ..a import b, c as d` -/
def fromStatement (s : StatementRules) : Parser Stmt := do
  keyword "from"
  let level ← s.leadingDots
  let module ← maybe s.dottedName
  guard (0 < level || module.isSome)
  keyword "import"
  return .importFrom level module (← s.importedNames)

/-- `del targets` -/
def deleteStatement (s : StatementRules) : Parser Stmt := do
  keyword "del"
  let (targets, _) ← commaList s.rules.limit (s.rules.parse .primary)
  guard (targets.all Expr.isDeletable)
  return .other

/-- `raise`, `raise value` or `raise value from cause`. -/
def raiseStatement (s : StatementRules) : Parser Stmt := do
  keyword "raise"
  if (← maybe (s.rules.parse .expression)).isSome then
    if ← keyword? "from" then
      let _ ← s.rules.parse .expression
  return .other

/-- `assert condition, message` -/
def assertStatement (s : StatementRules) : Parser Stmt := do
  keyword "assert"
  let _ ← s.rules.parse .expression
  if ← symbol? "," then
    let _ ← s.rules.parse .expression
  return .other

/-- A statement within a line. -/
def simple (s : StatementRules) : Parser Stmt := do
  match ← peek with
  | some (.keyword word) =>
    match word with
    | "import" => s.importStatement
    | "from" => s.fromStatement
    | "del" => s.deleteStatement
    | "raise" => s.raiseStatement
    | "assert" => s.assertStatement
    | "return" =>
      keyword "return"
      let _ ← maybe s.rules.starExpressions
      return .other
    | "pass" | "break" | "continue" =>
      keyword word
      return .other
    | "global" | "nonlocal" =>
      keyword word
      let _ ← separated s.rules.limit "," name
      return .other
    | _ => s.expressionStatement
  | _ => s.expressionStatement

/-- The statements of a line. -/
def simpleLine (s : StatementRules) : Parser (List Stmt) := do
  let statements ← separated s.rules.limit ";" s.simple
  let _ ← symbol? ";"
  token .newline
  return statements

/-! ### Compound statements -/

/-- An indented block, or the statements of the same line. -/
def block (s : StatementRules) : Parser (List Stmt) := do
  if ← token? .newline then
    token .indent
    let first ← s.statement
    let rest ← many s.rules.limit s.statement
    token .dedent
    return first ++ rest.flatten
  else s.simpleLine

/-- A colon and the block behind it. -/
def body (s : StatementRules) : Parser (List Stmt) := do
  symbol ":"
  s.block

/-- `else` with its block, if it stands here. -/
def elseBlock (s : StatementRules) : Parser Unit := do
  if ← keyword? "else" then
    let _ ← s.body

/-- `if condition`, with its alternatives. -/
def ifStatement (s : StatementRules) : Parser Unit := do
  keyword "if"
  let _ ← s.rules.named
  let _ ← s.body
  let _ ← many s.rules.limit do
    keyword "elif"
    let _ ← s.rules.named
    s.body
  s.elseBlock

/-- `while condition` -/
def whileStatement (s : StatementRules) : Parser Unit := do
  keyword "while"
  let _ ← s.rules.named
  let _ ← s.body
  s.elseBlock

/-- `for targets in values` -/
def forStatement (s : StatementRules) : Parser Unit := do
  keyword "for"
  s.rules.targets
  keyword "in"
  let _ ← s.rules.starExpressions
  let _ ← s.body
  s.elseBlock

/-- One item of a `with` statement. -/
def withItem (s : StatementRules) : Parser Unit := do
  let _ ← s.rules.parse .expression
  if ← keyword? "as" then
    let _ ← s.rules.target
    guard ((← atSymbol ",") || (← atSymbol ")") || (← atSymbol ":"))

/-- The items of a `with` statement, in parentheses or without. -/
def withItems (s : StatementRules) : Parser Unit := do
  let parenthesized : Parser Unit := do
    symbol "("
    let _ ← commaList s.rules.limit s.withItem
    symbol ")"
    guard (← atSymbol ":")
  let plain : Parser Unit := do
    let _ ← separated s.rules.limit "," s.withItem
    guard (← atSymbol ":")
  parenthesized <|> plain

/-- `with items` -/
def withStatement (s : StatementRules) : Parser Unit := do
  keyword "with"
  s.withItems
  let _ ← s.body

/-- `except` with what it catches: whether it is starred. -/
def exceptClause (s : StatementRules) : Parser Bool := do
  keyword "except"
  let starred ← symbol? "*"
  if starred || !(← atSymbol ":") then
    let _ ← s.rules.parse .expression
    let _ ← boundName?
  let _ ← s.body
  return starred

/-- `try` with its handlers. Starred and plain handlers do not mix. -/
def tryStatement (s : StatementRules) : Parser Unit := do
  keyword "try"
  let _ ← s.body
  let handlers ← many s.rules.limit s.exceptClause
  guard (handlers.all id || handlers.all (!·))
  if !handlers.isEmpty then s.elseBlock
  let final ← keyword? "finally"
  if final then
    let _ ← s.body
  guard (final || !handlers.isEmpty)

/-- The subject of a `match` statement. -/
def matchSubject (s : StatementRules) : Parser Unit := do
  let (items, comma) ← commaList s.rules.limit s.rules.starNamed
  match items with
  | [.starred _] => guard comma
  | _ => return

/-- `case patterns if condition` with its block. -/
def caseClause (s : StatementRules) : Parser Unit := do
  word "case"
  Pattern.top s.rules
  if ← keyword? "if" then
    let _ ← s.rules.named
  let _ ← s.body

/-- The first line of a `match` statement, up to its first case, which stays. -/
def matchHead (s : StatementRules) : Parser Unit := do
  word "match"
  s.matchSubject
  symbol ":"
  token .newline
  token .indent
  guard (← atWord "case")

/-- A statement that starts with the name `match`: it need not be a `match` statement. -/
def matchStatement (s : StatementRules) : Parser (List Stmt) := do
  if (← maybe s.matchHead).isSome then
    s.caseClause
    let _ ← many s.rules.limit s.caseClause
    token .dedent
    return [.other]
  else s.simpleLine

/-- `def name(parameters) -> result` with its body. -/
def functionDef (s : StatementRules) (decorators : List Expr) : Parser Stmt := do
  keyword "def"
  let id ← name
  symbol "("
  s.rules.parameters { annotated := true, close := ")" }
  symbol ")"
  if ← symbol? "->" then
    let _ ← s.rules.parse .expression
  return .function id decorators (← s.body)

/-- `class name(bases)` with its body. -/
def classDefinition (s : StatementRules) (decorators : List Expr) : Parser Stmt := do
  keyword "class"
  let id ← name
  let bases ← if ← symbol? "(" then s.rules.classArguments else pure []
  return .classDef id bases decorators (← s.body)

/-- `@decorator` on a line of its own. -/
def decorator (s : StatementRules) : Parser Expr := do
  symbol "@"
  let value ← s.rules.named
  token .newline
  return value

/-- A function or a class, with its decorators. -/
def definition (s : StatementRules) : Parser Stmt := do
  let decorators ← many s.rules.limit s.decorator
  if ← atKeyword "class" then s.classDefinition decorators
  else
    let _ ← keyword? "async"
    s.functionDef decorators

/-- A statement that is no definition and leaves no trace. -/
def traceless (p : Parser Unit) : Parser (List Stmt) := do
  p
  return [.other]

/-- A statement with a block, or a line of simple statements. -/
def any (s : StatementRules) : Parser (List Stmt) := do
  match ← peek with
  | some (.symbol "@") => return [← s.definition]
  | some (.name id) => if id.text = "match" then s.matchStatement else s.simpleLine
  | some (.keyword word) =>
    match word with
    | "def" | "class" => return [← s.definition]
    | "if" => traceless s.ifStatement
    | "while" => traceless s.whileStatement
    | "for" => traceless s.forStatement
    | "with" => traceless s.withStatement
    | "try" => traceless s.tryStatement
    | "async" =>
      (do return [← s.definition])
        <|> traceless (do keyword "async"; s.forStatement <|> s.withStatement)
    | _ => s.simpleLine
  | _ => s.simpleLine

/-- Reads statements that are nested at most `depth` deep. -/
def parseAt (r : Rules) : Nat → Parser (List Stmt)
  | 0 => failure
  | depth + 1 => any ⟨r, parseAt r depth⟩

end StatementRules

/-- Why a source file is refused. -/
inductive ParseError where
  /-- It holds the character U+0000. -/
  | nulCharacter
  /-- It does not fit the grammar. -/
  | malformed
  deriving DecidableEq, Repr

/-- Reads a source file: its statements, or why it is refused. -/
def parse (source : String) : Except ParseError (List Stmt) :=
  let cs := source.toList
  if cs.any (·.toNat = 0) then .error .nulCharacter
  else
    let depth := 2 * cs.length + 2
    let read := do
      let tokens ← Token.scan cs
      let (statements, rest) ←
        many depth (StatementRules.parseAt (Rules.ofDepth depth) depth) tokens
      guard rest.isEmpty
      return statements.flatten
    match read with
    | some statements => .ok statements
    | none => .error .malformed

/-- A way to read the statements of a source file from its text. `parse` is one. -/
abbrev Reader := String → Except ParseError (List Stmt)

end CoverAudit.Source
