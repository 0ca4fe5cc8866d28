import CoverAudit.Source.Grammar.Expression

/-!
# Patterns

The grammar of the patterns of a `match` statement. Only whether they are well formed matters.
-/

namespace CoverAudit.Source

open Source.Parser

namespace Pattern

/-- Whether nothing stands here that would make the name before it more than a capture. -/
def notContinued : Parser Unit := do
  guard !((← atSymbol ".") || (← atSymbol "(") || (← atSymbol "="))

/-- A name that a pattern binds. -/
def captureName : Parser Unit := do
  let id ← name
  guard (id.text ≠ "_")
  notContinued

/-- A number: whether it is imaginary. -/
def number : Parser Bool
  | .number imaginary :: rest => some (imaginary, rest)
  | _ => none

/-- A number with an optional minus sign, or a real and an imaginary part. -/
def signedNumber : Parser Unit := do
  let _ ← symbol? "-"
  let imaginary ← number
  if (← maybe (symbolIn ["+", "-"])).isSome then
    guard !imaginary
    guard (← number)

/-- A constant. -/
def constant (r : Rules) : Parser Unit := do
  match ← peek with
  | some (.literal _) => let _ ← r.strings
  | some (.keyword word) =>
    guard (word = "None" || word = "True" || word = "False")
    keyword word
  | _ => signedNumber

/-- The names behind the first one of a dotted name: whether there are any. -/
def dottedRest (r : Rules) : Parser Bool := do
  return !(← many r.limit (do symbol "."; name)).isEmpty

/-- `*name` or a pattern; whether it is starred. -/
def maybeStarred (pattern : Parser Unit) : Parser Bool := do
  if ← symbol? "*" then
    (do let id ← name; guard (id.text = "_")) <|> captureName
    return true
  else
    pattern
    return false

/-- The patterns of a sequence, separated by commas, with a comma at the end or without. -/
def sequence (r : Rules) (pattern : Parser Unit) : Parser Unit := do
  let _ ← commaList r.limit (maybeStarred pattern)

/-- One item of a mapping pattern: a constant or a dotted name with its pattern. -/
def mappingItem (r : Rules) (pattern : Parser Unit) : Parser Unit := do
  (do let _ ← name; guard (← dottedRest r)) <|> constant r
  symbol ":"
  pattern

/-- What stands between the curly brackets of a mapping pattern; `**rest` is the last item. -/
def mapping (r : Rules) (pattern : Parser Unit) : Parser Unit := do
  let _ ← many r.limit (do
    mappingItem r pattern
    if !(← symbol? ",") then guard (← atSymbol "\x7d"))
  if ← symbol? "**" then
    captureName
    let _ ← symbol? ","
  symbol "\x7d"

/-- What stands between the parentheses of a class pattern: patterns, then `name=pattern`. -/
def classItems (pattern : Parser Unit) : Nat → Bool → Parser Unit
  | 0, _ => failure
  | limit + 1, keywords => do
    if ← symbol? ")" then return
    let keywords ←
      if ← atNameThen "=" then
        let _ ← name
        symbol "="
        pure true
      else
        guard !keywords
        pure false
    pattern
    if ← symbol? "," then classItems pattern limit keywords else symbol ")"

/-- A pattern without `|` and `as` outside of brackets. -/
def closed (r : Rules) (pattern : Parser Unit) : Parser Unit := do
  match ← peek with
  | some (.name id) =>
    let _ ← name
    if id.text ≠ "_" then
      let _ ← dottedRest r
      if ← symbol? "(" then classItems pattern (r.limit + 1) false
      else notContinued
  | some (.symbol text) =>
    if text = "(" then
      symbol "("
      if !(← symbol? ")") then
        let starred ← maybeStarred pattern
        if ← symbol? "," then
          let _ ← maybe (sequence r pattern)
        else guard !starred
        symbol ")"
    else if text = "[" then
      symbol "["
      let _ ← maybe (sequence r pattern)
      symbol "]"
    else if text = "\x7b" then
      symbol "\x7b"
      mapping r pattern
    else constant r
  | _ => constant r

/-- Patterns joined by `|`, with an optional name behind `as`. -/
def full (r : Rules) (pattern : Parser Unit) : Parser Unit := do
  let _ ← separated r.limit "|" (closed r pattern)
  if ← keyword? "as" then captureName

/-- Reads patterns that are nested at most `depth` deep. -/
def parseAt (r : Rules) : Nat → Parser Unit
  | 0 => failure
  | depth + 1 => full r (parseAt r depth)

/-- The patterns of a case: one, or a sequence without brackets. -/
def top (r : Rules) : Parser Unit := do
  let pattern := parseAt r (r.limit + 1)
  let starred ← maybeStarred pattern
  if ← symbol? "," then
    let _ ← maybe (sequence r pattern)
  else guard !starred

end Pattern

end CoverAudit.Source
