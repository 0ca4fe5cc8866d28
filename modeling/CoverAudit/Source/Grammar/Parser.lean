import CoverAudit.Source.Token

/-!
# Parsers over tokens

A parser takes tokens off the front of a list, or refuses them. The rules of a grammar are put
together from the few parsers here; a rule that is tried and refused has taken nothing.
-/

namespace CoverAudit.Source

/-- A rule of a grammar: what it reads, and the tokens behind it. -/
abbrev Parser := StateT (List Token) Option

namespace Parser

variable {α β : Type}

/-- The next token, which stays. -/
def peek : Parser (Option Token) :=
  fun tokens => some (tokens.head?, tokens)

/-- Takes the next token. -/
def next : Parser Token
  | [] => none
  | token :: rest => some (token, rest)

/-- Takes one given token. -/
def token (expected : Token) : Parser Unit
  | [] => none
  | t :: rest => if t = expected then some ((), rest) else none

/-- Takes one given token if it stands here, and says whether it did. -/
def token? (expected : Token) : Parser Bool
  | [] => some (false, [])
  | t :: rest => if t = expected then some (true, rest) else some (false, t :: rest)

/-- Takes a symbol. -/
def symbol (text : String) : Parser Unit := token (.symbol text)

@[inherit_doc token?] def symbol? (text : String) : Parser Bool := token? (.symbol text)

/-- Takes a keyword. -/
def keyword (word : String) : Parser Unit := token (.keyword word)

@[inherit_doc token?] def keyword? (word : String) : Parser Bool := token? (.keyword word)

/-- Takes a name. -/
def name : Parser Identifier
  | .name id :: rest => some (id, rest)
  | _ => none

/-- Takes one given name. -/
def word (text : String) : Parser Unit
  | .name id :: rest => if id.text = text then some ((), rest) else none
  | _ => none

/-- Whether a given name stands here. -/
def atWord (text : String) : Parser Bool
  | .name id :: rest => some (id.text = text, .name id :: rest)
  | tokens => some (false, tokens)

/-- Takes a symbol out of a list. -/
def symbolIn (texts : List String) : Parser Unit
  | .symbol text :: rest => if text ∈ texts then some ((), rest) else none
  | _ => none

/-- Whether a given symbol stands here. -/
def atSymbol (text : String) : Parser Bool :=
  fun tokens => some (tokens.head? = some (.symbol text), tokens)

/-- Whether a given keyword stands here. -/
def atKeyword (word : String) : Parser Bool :=
  fun tokens => some (tokens.head? = some (.keyword word), tokens)

/-- Whether a name stands here that a given symbol follows. -/
def atNameThen (text : String) : Parser Bool
  | .name id :: .symbol s :: rest => some (s = text, .name id :: .symbol s :: rest)
  | tokens => some (false, tokens)

/-- Reads by `p`, or nothing when `p` refuses. -/
def maybe (p : Parser α) : Parser (Option α) :=
  fun tokens =>
    match p tokens with
    | some (a, rest) => some (some a, rest)
    | none => some (none, tokens)

/-- Reads by `p` as often as it accepts, at most `limit` times, collecting in reverse. -/
def manyRev (p : Parser α) : Nat → List α → Parser (List α)
  | 0, items => pure items
  | limit + 1, items => fun tokens =>
    match p tokens with
    | some (item, rest) => manyRev p limit (item :: items) rest
    | none => some (items, tokens)

/-- Reads by `p` as often as it accepts, at most `limit` times. -/
def many (limit : Nat) (p : Parser α) : Parser (List α) := do
  return (← manyRev p limit []).reverse

/-- Reads one or more items with `separator` between two of them. -/
def separated (limit : Nat) (separator : String) (p : Parser α) : Parser (List α) := do
  let first ← p
  let rest ← many limit (do symbol separator; p)
  return first :: rest

/-- Reads one or more items with commas between them, and says whether a comma ends the list. -/
def commaList (limit : Nat) (p : Parser α) : Parser (List α × Bool) := do
  let items ← separated limit "," p
  return (items, ← symbol? ",")

end Parser

end CoverAudit.Source
