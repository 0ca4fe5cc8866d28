import CoverAudit.Source.Literal

/-!
# Formatted string literals

A formatted literal holds expressions in braces between plain pieces of text. An expression may be
followed by `=`, a conversion (`!r`) and a format (`:>10`), and a format may again hold
expressions, one level deep. Expressions hold neither backslashes nor comments. Whether the text of
an expression is one is for the grammar to say, so the checks here take that test as an argument.
-/

namespace CoverAudit.Source.Literal

/-- Where the plain text at the front of a formatted literal ends. -/
inductive PlainEnd where
  /-- At the end, or at the brace in front of the rest. -/
  | stop (text rest : List Char)
  /-- Behind a doubled brace, which stands for one brace. -/
  | doubled (text rest : List Char)

/-- Reads plain text. Only outside of formats is a doubled brace text, and a single `\x7d` an error.
Without `raw`, a backslash takes the next character with it, braces excepted. -/
def plainText (raw : Bool) (level : Nat) : Nat → List Char → List Char → Option PlainEnd
  | 0, _, _ => none
  | _ + 1, text, [] => some (.stop text.reverse [])
  | fuel + 1, text, c :: rest =>
    let brace (c : Char) (text rest : List Char) : Option PlainEnd :=
      if level = 0 && rest.head? = some c then some (.doubled (c :: text).reverse (rest.drop 1))
      else if level = 0 && c = '\x7d' then none
      else some (.stop text.reverse (c :: rest))
    if c = '\\' && !raw then
      match rest with
      | [] => plainText raw level fuel (c :: text) rest
      | 'N' :: '\x7b' :: rest =>
        let name := rest.takeWhile (· != '\x7d')
        plainText raw level fuel (['\x7d'] ++ name.reverse ++ ['\x7b', 'N', '\\'] ++ text)
          (rest.drop (name.length + 1))
      | d :: rest' =>
        if d = '\x7b' || d = '\x7d' then brace d (c :: text) rest'
        else plainText raw level fuel (d :: c :: text) rest'
    else if c = '\x7b' || c = '\x7d' then brace c text rest
    else plainText raw level fuel (c :: text) rest

/-- The quotes of a string within an expression: the character, and whether there are three. -/
structure OpenQuote where
  quote : Char
  triple : Bool

/-- Reads the text of an expression up to the character that ends it: `!`, `:`, `=` or `\x7d`
outside of strings and brackets. The comparisons `!=`, `==`, `<=` and `>=` do not end it. -/
def expressionText : Nat → Option OpenQuote → List Char → List Char → List Char →
    Option (List Char × List Char)
  | 0, _, _, _, _ => none
  | _ + 1, _, _, _, [] => none
  | fuel + 1, quoted, brackets, text, c :: rest =>
    if c = '\\' then none
    else
      match quoted with
      | some q =>
        if c != q.quote then expressionText fuel quoted brackets (c :: text) rest
        else if !q.triple then expressionText fuel none brackets (c :: text) rest
        else
          match rest with
          | c' :: c'' :: rest' =>
            if c' = c && c'' = c then expressionText fuel none brackets (c :: c :: c :: text) rest'
            else expressionText fuel quoted brackets (c :: text) rest
          | _ => expressionText fuel quoted brackets (c :: text) rest
      | none =>
        if c = '"' || c.toNat = 39 then
          match rest with
          | c' :: c'' :: rest' =>
            if c' = c && c'' = c then
              expressionText fuel (some ⟨c, true⟩) brackets (c :: c :: c :: text) rest'
            else expressionText fuel (some ⟨c, false⟩) brackets (c :: text) rest
          | _ => expressionText fuel (some ⟨c, false⟩) brackets (c :: text) rest
        else if c = '(' then expressionText fuel none (')' :: brackets) (c :: text) rest
        else if c = '[' then expressionText fuel none (']' :: brackets) (c :: text) rest
        else if c = '\x7b' then expressionText fuel none ('\x7d' :: brackets) (c :: text) rest
        else if c = '#' then none
        else
          let ends := c = '!' || c = ':' || c = '\x7d' || c = '='
          if brackets.isEmpty && (ends || c = '<' || c = '>') then
            if rest.head? = some '=' && (c = '!' || c = '=' || c = '<' || c = '>') then
              expressionText fuel none brackets ('=' :: c :: text) (rest.drop 1)
            else if ends then some (text.reverse, c :: rest)
            else expressionText fuel none brackets (c :: text) rest
          else if c = ')' || c = ']' || c = '\x7d' then
            match brackets with
            | due :: outer =>
              if due = c then expressionText fuel none outer (c :: text) rest else none
            | [] => none
          else expressionText fuel none brackets (c :: text) rest

/-- Skips the `=` behind an expression, and the white space behind it. -/
def skipEqualsSign : List Char → List Char
  | '=' :: rest => rest.dropWhile fun c => c = ' ' || (0x09 ≤ c.toNat && c.toNat ≤ 0x0D)
  | cs => cs

/-- Skips a conversion, which is `!s`, `!r` or `!a`. -/
def skipConversion : List Char → Option (List Char)
  | '!' :: c :: rest => if c = 's' || c = 'r' || c = 'a' then some rest else none
  | ['!'] => none
  | cs => some cs

/-- Whether the text of an expression is more than white space. -/
def hasExpression (text : List Char) : Bool :=
  text.any fun c => !(c = ' ' || c = '\t' || c = '\n' || c = '\x0c')

/-- Reads the pieces of a formatted literal, or of a format at `level` one or two, up to the end or
to the brace that closes the format. `isExpression` tests the text of an expression. -/
def pieces (raw : Bool) (isExpression : List Char → Bool) : Nat → Nat → List Char →
    Option (List Char)
  | 0, _, _ => none
  | fuel + 1, level, cs =>
    match plainText raw level (cs.length + 1) [] cs with
    | none => none
    | some (.doubled text rest) =>
      if (unescape false raw text).isSome then pieces raw isExpression fuel level rest else none
    | some (.stop text rest) =>
      if (unescape false raw text).isNone then none
      else
        match rest with
        | '\x7b' :: rest => do
          guard (level < 2)
          let (text, rest) ← expressionText (rest.length + 1) none [] [] rest
          guard (hasExpression text && isExpression text)
          let rest ← skipConversion (skipEqualsSign rest)
          let rest ←
            match rest with
            | ':' :: rest => pieces raw isExpression fuel (level + 1) rest
            | _ => some rest
          match rest with
          | '\x7d' :: rest => pieces raw isExpression fuel level rest
          | _ => none
        | rest => some rest

/-- Whether the body of a formatted literal is well formed, given the test for expressions. -/
def isWellFormatted (raw : Bool) (isExpression : List Char → Bool) (body : List Char) : Bool :=
  match pieces raw isExpression (body.length + 1) 0 body with
  | some rest => rest.isEmpty
  | none => false

end CoverAudit.Source.Literal
