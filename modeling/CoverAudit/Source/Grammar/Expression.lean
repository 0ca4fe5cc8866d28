import CoverAudit.Source.Grammar.Parser
import CoverAudit.Source.Literal.Formatted
import CoverAudit.Source.Token.Scan
import CoverAudit.Source.Tree

/-!
# Expressions

The grammar of expressions. Operators keep nothing but `other`, so the levels of binary operators
that accept the same operands are one rule. A rule that comes back to an expression inside brackets,
behind `lambda` or behind `else` does so through `Rules.parse`, which runs one step deeper;
`Rules.ofDepth` ties the knot.
-/

namespace CoverAudit.Source

open Source.Parser

/-- The rules of the grammar that other rules come back to. -/
inductive Level where
  /-- A conditional, a `lambda` or a disjunction. -/
  | expression
  /-- Comparisons joined by `not`, `and` and `or`. -/
  | disjunction
  /-- Operands joined by arithmetic and bit operators. -/
  | operand
  /-- An atom with attributes, calls and subscripts behind it. -/
  | primary

/-- How expressions are read one step deeper, and a bound on the tokens that are left. -/
structure Rules where
  limit : Nat
  parse : Level → Parser Expr

mutual

/-- Whether an expression may be assigned to: a name, an attribute, a subscript, or a list or tuple
of such targets, each of which may be starred. -/
def Expr.isTarget : Expr → Bool
  | .name _ => true
  | .attribute _ _ => true
  | .subscript _ => true
  | .starred value => value.isTarget
  | .list items => Expr.areTargets items
  | .tuple items => Expr.areTargets items
  | _ => false

@[inherit_doc Expr.isTarget]
def Expr.areTargets : List Expr → Bool
  | [] => true
  | item :: rest => item.isTarget && Expr.areTargets rest

end

/-- Whether an expression is a target that is neither a list, nor a tuple, nor starred. -/
def Expr.isSingleTarget : Expr → Bool
  | .name _ => true
  | .attribute _ _ => true
  | .subscript _ => true
  | _ => false

mutual

/-- Whether an expression may be deleted: a target without a star. -/
def Expr.isDeletable : Expr → Bool
  | .name _ => true
  | .attribute _ _ => true
  | .subscript _ => true
  | .list items => Expr.areDeletable items
  | .tuple items => Expr.areDeletable items
  | _ => false

@[inherit_doc Expr.isDeletable]
def Expr.areDeletable : List Expr → Bool
  | [] => true
  | item :: rest => item.isDeletable && Expr.areDeletable rest

end

namespace Rules

/-- `name := value`, or an expression. -/
def named (r : Rules) : Parser Expr := do
  if ← atNameThen ":=" then
    let _ ← name
    symbol ":="
    let _ ← r.parse .expression
    return .other
  else r.parse .expression

/-- `*value`, or a named expression. -/
def starNamed (r : Rules) : Parser Expr := do
  if ← symbol? "*" then return .starred (← r.parse .operand) else r.named

/-- `*value`, or an expression. -/
def starExpression (r : Rules) : Parser Expr := do
  if ← symbol? "*" then return .starred (← r.parse .operand) else r.parse .expression

/-- One expression, or several with commas, which make a tuple. -/
def starExpressions (r : Rules) : Parser Expr := do
  match ← commaList r.limit r.starExpression with
  | ([item], false) => return item
  | (items, _) => return .tuple items

/-- `yield`, `yield values` or `yield from value`. -/
def yieldExpression (r : Rules) : Parser Unit := do
  keyword "yield"
  if ← keyword? "from" then
    let _ ← r.parse .expression
  else
    let _ ← maybe r.starExpressions

/-- One assignment target. -/
def target (r : Rules) : Parser Expr := do
  let starred ← symbol? "*"
  let value ← r.parse .primary
  guard value.isTarget
  return if starred then .starred value else value

/-- The targets of a loop. -/
def targets (r : Rules) : Parser Unit := do
  let _ ← commaList r.limit r.target

/-- One `for` of a comprehension, with its conditions. -/
def comprehensionClause (r : Rules) : Parser Unit := do
  let _ ← keyword? "async"
  keyword "for"
  r.targets
  keyword "in"
  let _ ← r.parse .disjunction
  let _ ← many r.limit (do keyword "if"; r.parse .disjunction)

/-- The clauses of a comprehension over `item`, if they stand here. A starred item has none. -/
def comprehension? (r : Rules) (item : Expr) : Parser Bool := do
  if item matches .starred _ then return false
  if (← atKeyword "for") || (← atKeyword "async") then
    r.comprehensionClause
    let _ ← many r.limit r.comprehensionClause
    return true
  else return false

/-- What stands between parentheses: a tuple, a generator, a `yield`, or one expression. -/
def parenthesized (r : Rules) : Parser Expr := do
  if ← symbol? ")" then return .tuple []
  if ← atKeyword "yield" then
    r.yieldExpression
    symbol ")"
    return .other
  let first ← r.starNamed
  if ← atSymbol "," then
    let rest ← many r.limit (do symbol ","; r.starNamed)
    let _ ← symbol? ","
    symbol ")"
    return .tuple (first :: rest)
  if first matches .starred _ then failure
  let generator ← r.comprehension? first
  symbol ")"
  return if generator then .other else first

/-- What stands between square brackets: a list, or a comprehension. -/
def bracketed (r : Rules) : Parser Expr := do
  if ← symbol? "]" then return .list []
  let first ← r.starNamed
  if ← r.comprehension? first then
    symbol "]"
    return .other
  let rest ← many r.limit (do symbol ","; r.starNamed)
  let _ ← symbol? ","
  symbol "]"
  return .list (first :: rest)

/-- One item of a dictionary: `key: value` or `**mapping`. -/
def dictItem (r : Rules) : Parser Unit := do
  if ← symbol? "**" then
    let _ ← r.parse .operand
  else
    let _ ← r.parse .expression
    symbol ":"
    let _ ← r.parse .expression

/-- The items of a dictionary behind its first one. -/
def dictRest (r : Rules) : Parser Unit := do
  let _ ← many r.limit (do symbol ","; r.dictItem)
  let _ ← symbol? ","
  symbol "\x7d"

/-- What stands between curly brackets: a dictionary, a set, or a comprehension. -/
def braced (r : Rules) : Parser Expr := do
  if ← symbol? "\x7d" then return .other
  if ← atSymbol "**" then
    r.dictItem
    r.dictRest
    return .other
  let isKey := !(← atSymbol "*") && !(← atNameThen ":=")
  let first ← r.starNamed
  let isDict ← if isKey then symbol? ":" else pure false
  if isDict then
    let value ← r.parse .expression
    if ← r.comprehension? value then symbol "\x7d" else r.dictRest
    return .other
  if ← r.comprehension? first then
    symbol "\x7d"
    return .other
  let _ ← many r.limit (do symbol ","; r.starNamed)
  let _ ← symbol? ","
  symbol "\x7d"
  return .other

/-- Whether a text is what may stand in the braces of a formatted literal. -/
def isExpression (r : Rules) (text : List Char) : Bool :=
  match Token.scan ('(' :: text ++ [')']) with
  | some tokens => (r.starExpressions tokens).isSome
  | none => false

/-- The value of adjacent string literals, which are put together. Bytes do not mix with text. -/
def joinLiterals (r : Rules) (literals : List Literal) : Option Expr := do
  guard (literals.all (·.bytes) || literals.all (!·.bytes))
  let plain := literals.filter (!·.formatted)
  let values ← plain.mapM Literal.value?
  guard ((literals.filter (·.formatted)).all fun literal =>
    Literal.isWellFormatted literal.raw r.isExpression literal.body)
  if literals.all fun literal => !literal.bytes && !literal.formatted then
    return .text (String.ofList values.flatten)
  else return .other

/-- Takes a string literal. -/
def literal : Parser Literal
  | .literal text :: rest => some (text, rest)
  | _ => none

/-- Adjacent string literals. -/
def strings (r : Rules) : Parser Expr := do
  let first ← literal
  let rest ← many r.limit literal
  r.joinLiterals (first :: rest)

/-- A name, a constant, or something between brackets. -/
def atom (r : Rules) : Parser Expr := do
  match ← peek with
  | some (.literal _) => r.strings
  | _ =>
    match ← next with
    | .name id => return .name id.text
    | .number _ => return .other
    | .keyword word =>
      guard (word = "None" || word = "True" || word = "False")
      return .other
    | .symbol text =>
      if text = "(" then r.parenthesized
      else if text = "[" then r.bracketed
      else if text = "\x7b" then r.braced
      else if text = "..." then return .other
      else failure
    | _ => failure

/-- How far the arguments of a call have come: keywords follow positional arguments, and nothing
but keywords may stand beside `**mapping`. -/
inductive ArgumentPhase where
  | positional
  | keyword
  | mapping
  deriving DecidableEq

/-- One argument of a call, and the phase behind it. -/
def argument (r : Rules) (phase : ArgumentPhase) : Parser (ArgumentPhase × Option Expr) := do
  if ← symbol? "*" then
    guard (phase ≠ .mapping)
    return (phase, some (.starred (← r.parse .expression)))
  if ← symbol? "**" then
    let _ ← r.parse .expression
    return (.mapping, none)
  if ← atNameThen "=" then
    let _ ← name
    symbol "="
    let _ ← r.parse .expression
    return (if phase = .positional then .keyword else phase, none)
  guard (phase = .positional)
  return (phase, some (← r.named))

/-- The arguments of a call behind the given ones, up to the closing parenthesis. -/
def argumentsFrom (r : Rules) : Nat → ArgumentPhase → List Expr → Parser (List Expr)
  | 0, _, _ => failure
  | limit + 1, phase, items => do
    if ← symbol? ")" then return items.reverse
    let (phase, item) ← r.argument phase
    let items := item.toList ++ items
    if ← symbol? "," then r.argumentsFrom limit phase items
    else
      symbol ")"
      return items.reverse

/-- The arguments of a class, up to the closing parenthesis. -/
def classArguments (r : Rules) : Parser (List Expr) :=
  r.argumentsFrom (r.limit + 1) .positional []

/-- The arguments of a call, up to the closing parenthesis. A generator may be the only one. -/
def callArguments (r : Rules) : Parser (List Expr) := do
  if ← symbol? ")" then return []
  let (phase, first) ← r.argument .positional
  let generator ← match first with
    | some item => r.comprehension? item
    | none => pure false
  if generator then
    symbol ")"
    return [.other]
  if ← symbol? "," then r.argumentsFrom (r.limit + 1) phase first.toList
  else
    symbol ")"
    return first.toList

/-- One item between the brackets of a subscript. -/
def subscriptItem (r : Rules) : Parser Unit := do
  if ← symbol? "*" then
    let _ ← r.parse .expression
  else if ← atNameThen ":=" then
    let _ ← r.named
  else
    let lower ← maybe (r.parse .expression)
    if ← symbol? ":" then
      let _ ← maybe (r.parse .expression)
      if ← symbol? ":" then
        let _ ← maybe (r.parse .expression)
    else guard lower.isSome

/-- The attributes, calls and subscripts behind an expression. -/
def trailers (r : Rules) : Nat → Expr → Parser Expr
  | 0, value => pure value
  | limit + 1, value => do
    if ← symbol? "." then
      r.trailers limit (.attribute value (← name).text)
    else if ← symbol? "(" then
      r.trailers limit (.call value (← r.callArguments))
    else if ← symbol? "[" then
      let _ ← commaList r.limit r.subscriptItem
      symbol "]"
      r.trailers limit (.subscript value)
    else return value

/-- An atom with what follows it. -/
def primary (r : Rules) : Parser Expr := do
  r.trailers r.limit (← r.atom)

/-- `await value`, or a primary. -/
def awaited (r : Rules) : Parser Expr := do
  if ← keyword? "await" then
    let _ ← r.primary
    return .other
  else r.primary

/-- The signs in front of an operand. -/
def signs (r : Rules) : Parser Bool := do
  return !(← many r.limit (symbolIn ["+", "-", "~"])).isEmpty

/-- Signed operands joined by `**`. -/
def factor (r : Rules) : Parser Expr := do
  let signed ← r.signs
  let value ← r.awaited
  let powers ← many r.limit (do symbol "**"; let _ ← r.signs; r.awaited)
  return if signed || !powers.isEmpty then .other else value

/-- Joins several items of a rule to `other`, and keeps a single one. -/
def joined (r : Rules) (operator : Parser Unit) (item : Parser Expr) : Parser Expr := do
  let first ← item
  let rest ← many r.limit (do operator; item)
  return if rest.isEmpty then first else .other

/-- Operands joined by arithmetic and bit operators. -/
def operand (r : Rules) : Parser Expr :=
  r.joined (symbolIn ["|", "^", "&", "<<", ">>", "+", "-", "*", "/", "//", "%", "@"]) r.factor

/-- An operator of a comparison. -/
def comparisonOperator : Parser Unit := do
  if ← keyword? "in" then return
  if ← keyword? "is" then
    let _ ← keyword? "not"
    return
  if ← keyword? "not" then
    keyword "in"
    return
  symbolIn ["==", "!=", "<=", "<", ">=", ">"]

/-- A comparison, or its negation. -/
def inversion (r : Rules) : Parser Expr := do
  let negations ← many r.limit (keyword "not")
  let value ← r.joined comparisonOperator r.operand
  return if negations.isEmpty then value else .other

/-- Comparisons joined by `and` and `or`. -/
def disjunction (r : Rules) : Parser Expr :=
  r.joined (keyword "and" <|> keyword "or") r.inversion

/-! ### Parameters -/

/-- What the parameters of a function or of a `lambda` may look like, and which symbol ends them. -/
structure ParameterStyle where
  annotated : Bool
  close : String

/-- `: annotation`, where the style has annotations. A starred parameter may have a starred one. -/
def annotation (r : Rules) (style : ParameterStyle) (starred : Bool) : Parser Unit := do
  if style.annotated then
    if ← symbol? ":" then
      let _ ← if starred then r.starExpression else r.parse .expression

/-- The comma behind a parameter, or the end of the parameters. -/
def parameterEnd (style : ParameterStyle) : Parser Unit := do
  if !(← symbol? ",") then guard (← atSymbol style.close)

/-- `= value` behind a parameter, if it stands here. -/
def parameterDefault? (r : Rules) : Parser Bool := do
  if ← symbol? "=" then
    let _ ← r.parse .expression
    return true
  else return false

/-- The parameter behind `**`, which is the last one. -/
def mappingParameter (r : Rules) (style : ParameterStyle) : Parser Unit := do
  symbol "**"
  let _ ← name
  r.annotation style false
  parameterEnd style

/-- One parameter that may have a default, behind the star. -/
def keywordParameter (r : Rules) (style : ParameterStyle) : Parser Unit := do
  let _ ← name
  r.annotation style false
  let _ ← r.parameterDefault?
  parameterEnd style

/-- The parameters from the star on. -/
def starParameters (r : Rules) (style : ParameterStyle) : Parser Unit := do
  symbol "*"
  if ← symbol? "," then
    r.keywordParameter style
  else
    let _ ← name
    r.annotation style true
    parameterEnd style
  let _ ← many r.limit (r.keywordParameter style)
  if ← atSymbol "**" then r.mappingParameter style

/-- The parameters, up to the symbol that ends them, which stays. `slash` says whether the `/` that
ends the positional parameters has been met, `defaults` whether a default has been, and `first`
whether no parameter has been. -/
def parametersFrom (r : Rules) (style : ParameterStyle) :
    Nat → (slash defaults first : Bool) → Parser Unit
  | 0, _, _, _ => failure
  | limit + 1, slash, defaults, first => do
    if ← atSymbol style.close then return
    if ← atSymbol "*" then
      r.starParameters style
    else if ← atSymbol "**" then
      r.mappingParameter style
    else if ← symbol? "/" then
      guard (!slash && !first)
      parameterEnd style
      r.parametersFrom style limit true defaults false
    else
      let _ ← name
      r.annotation style false
      let hasDefault ← r.parameterDefault?
      guard (hasDefault || !defaults)
      parameterEnd style
      r.parametersFrom style limit slash hasDefault false

/-- The parameters of a function or of a `lambda`. -/
def parameters (r : Rules) (style : ParameterStyle) : Parser Unit := do
  r.parametersFrom style (r.limit + 1) false false true
  guard (← atSymbol style.close)

/-- `lambda parameters: value`. -/
def lambda (r : Rules) : Parser Expr := do
  keyword "lambda"
  r.parameters { annotated := false, close := ":" }
  symbol ":"
  let _ ← r.parse .expression
  return .other

/-- A `lambda`, a disjunction, or `value if condition else other`. -/
def expression (r : Rules) : Parser Expr := do
  if ← atKeyword "lambda" then r.lambda
  else
    let value ← r.disjunction
    let conditional ← maybe do
      keyword "if"
      let _ ← r.disjunction
      keyword "else"
      let _ ← r.parse .expression
    return if conditional.isSome then .other else value

/-- The rule of each level. -/
def level (r : Rules) : Level → Parser Expr
  | .expression => r.expression
  | .disjunction => r.disjunction
  | .operand => r.operand
  | .primary => r.primary

/-- Reads expressions that are nested at most `depth` deep. -/
def parseAt : Nat → Level → Parser Expr
  | 0, _ => failure
  | depth + 1, l => level ⟨depth, parseAt depth⟩ l

/-- The rules for expressions of at most `depth` tokens. -/
def ofDepth (depth : Nat) : Rules where
  limit := depth
  parse := parseAt depth

end Rules

end CoverAudit.Source
