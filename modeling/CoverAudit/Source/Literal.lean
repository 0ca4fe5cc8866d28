import CoverAudit.Source.Token

/-!
# The text of a string literal

Reading the escapes of a string literal. An escape that the format does not know keeps its
backslash; an incomplete one (`\x4`, `\u12`) makes the literal invalid.

Two kinds of escapes are only recognized. Half of a surrogate pair is no character, and a character
given by its Unicode name would need the table of all names. Each reads as U+FFFD, whichever half
or name it is.
-/

namespace CoverAudit.Source.Literal

/-- The value of a hexadecimal digit. -/
def hexValue? (c : Char) : Option Nat :=
  if '0' ≤ c && c ≤ '9' then some (c.toNat - '0'.toNat)
  else if 'a' ≤ c && c ≤ 'f' then some (c.toNat - 'a'.toNat + 10)
  else if 'A' ≤ c && c ≤ 'F' then some (c.toNat - 'A'.toNat + 10)
  else none

/-- Reads exactly `count` hexadecimal digits. -/
def hexDigits : Nat → Nat → List Char → Option (Nat × List Char)
  | 0, value, cs => some (value, cs)
  | count + 1, value, c :: rest => do
    let digit ← hexValue? c
    hexDigits count (16 * value + digit) rest
  | _ + 1, _, [] => none

/-- Reads at most `count` octal digits. -/
def octalDigits : Nat → Nat → List Char → Nat × List Char
  | count + 1, value, c :: rest =>
    if '0' ≤ c && c ≤ '7' then octalDigits count (8 * value + (c.toNat - '0'.toNat)) rest
    else (value, c :: rest)
  | _, value, cs => (value, cs)

/-- The character of a code point, U+FFFD for a surrogate, and nothing beyond the last one. -/
def charOf? (code : Nat) : Option Char :=
  if code.isValidChar then some (Char.ofNat code)
  else if code < 0x110000 then some '\uFFFD'
  else none

/-- The characters that a one-letter escape stands for. -/
def simpleEscape? : Char → Option Char
  | '\\' => some '\\'
  | '"' => some '"'
  | 'a' => some '\x07'
  | 'b' => some '\x08'
  | 'f' => some '\x0c'
  | 'n' => some '\n'
  | 'r' => some '\r'
  | 't' => some '\t'
  | 'v' => some '\x0b'
  | c => if c.toNat = 39 then some c else none

/-- The number of hexadecimal digits that an escape letter asks for. Bytes have only `\x`. -/
def hexWidth? (bytes : Bool) : Char → Option Nat
  | 'x' => some 2
  | 'u' => if bytes then none else some 4
  | 'U' => if bytes then none else some 8
  | _ => none

/-- Reads the escape behind a backslash: the characters it stands for, and what follows. Any name
between braces passes for that of a character. -/
def readEscape (bytes : Bool) : List Char → Option (List Char × List Char)
  | [] => some (['\\'], [])
  | '\n' :: rest => some ([], rest)
  | c :: rest =>
    match simpleEscape? c, hexWidth? bytes c with
    | some value, _ => some ([value], rest)
    | none, some width => do
      let (code, rest) ← hexDigits width 0 rest
      let value ← charOf? code
      return ([value], rest)
    | none, none =>
      if '0' ≤ c && c ≤ '7' then do
        let (code, rest) := octalDigits 3 0 (c :: rest)
        let value ← charOf? code
        return ([value], rest)
      else if c = 'N' && !bytes then
        -- A character by its Unicode name; the name itself is not looked up.
        match rest with
        | '\x7b' :: rest =>
          match rest.dropWhile (· != '\x7d') with
          | _ :: rest' => if rest.head? = some '\x7d' then none else some (['\uFFFD'], rest')
          | [] => none
        | _ => none
      else some (['\\', c], rest)

/-- Reads the escapes in a text, collecting characters in reverse. Every step takes a character. -/
def unescapeFrom (bytes : Bool) : Nat → List Char → List Char → Option (List Char)
  | _, value, [] => some value.reverse
  | 0, _, _ :: _ => none
  | fuel + 1, value, '\\' :: rest => do
    let (chars, rest) ← readEscape bytes rest
    unescapeFrom bytes fuel (chars.reverse ++ value) rest
  | fuel + 1, value, c :: rest => unescapeFrom bytes fuel (c :: value) rest

/-- The text of the characters between two quotes. -/
def unescape (bytes raw : Bool) (body : List Char) : Option (List Char) :=
  if raw then some body else unescapeFrom bytes body.length [] body

/-- The text of a literal that is not formatted; bytes hold ASCII only. -/
def value? (literal : Literal) : Option (List Char) :=
  if literal.bytes && literal.body.any (0x80 ≤ ·.toNat) then none
  else unescape literal.bytes literal.raw literal.body

end CoverAudit.Source.Literal
