import CoverAudit.Source.Identifier

/-!
# Numbers in a source file

Reading a number off the front of a source. Digits may be grouped by single underscores, also
directly behind a radix mark (`0x_ff`). A decimal integer other than zero does not start with a
zero, and has at most 4300 digits. What follows a number must not continue it as a word, except
that a keyword may follow it directly (`1if x else 2`).
-/

namespace CoverAudit.Source.Number

/-- The most digits of a decimal integer. -/
def maxDigits : Nat := 4300

/-- Skips digits of a class and single underscores between two of them, counting the digits.
A trailing underscore, and two in a row, are refused. -/
def digitRun (isDigit : Char → Bool) (count : Nat) : List Char → Option (Nat × List Char)
  | [] => some (count, [])
  | c :: rest =>
    if isDigit c then digitRun isDigit (count + 1) rest
    else if c = '_' then
      match rest with
      | d :: rest' => if isDigit d then digitRun isDigit (count + 1) rest' else none
      | [] => none
    else some (count, c :: rest)

/-- Skips the digits behind a radix mark: at least one, after an optional underscore. -/
def radixDigits (isDigit : Char → Bool) : List Char → Option (List Char)
  | '_' :: c :: rest => if isDigit c then (digitRun isDigit 1 rest).map Prod.snd else none
  | c :: rest => if isDigit c then (digitRun isDigit 1 rest).map Prod.snd else none
  | [] => none

/-- Skips the zeros in front of a number, grouped like other digits. -/
def zeroRun : List Char → Option (List Char)
  | '0' :: rest => zeroRun rest
  | '_' :: d :: rest =>
    if d = '0' then zeroRun rest else if d.isDigit then some (d :: rest) else none
  | ['_'] => none
  | cs => some cs

/-- Whether a keyword that may follow a number directly stands here. -/
def keywordFollows : List Char → Bool
  | 'a' :: 'n' :: 'd' :: _ => true
  | 'e' :: 'l' :: 's' :: 'e' :: _ => true
  | 'f' :: 'o' :: 'r' :: _ => true
  | 'i' :: c :: _ => c = 'f' || c = 'n' || c = 's'
  | 'o' :: 'r' :: _ => true
  | 'n' :: 'o' :: 't' :: _ => true
  | _ => false

/-- Whether a number may end here. -/
def mayEnd (cs : List Char) : Bool :=
  keywordFollows cs ||
    match cs with
    | c :: _ => !isWordChar c
    | [] => true

/-- Ends a number here: whether it is imaginary, and what follows. -/
def finish : List Char → Option (Bool × List Char)
  | c :: rest =>
    if c = 'j' || c = 'J' then if mayEnd rest then some (true, rest) else none
    else if mayEnd (c :: rest) then some (false, c :: rest) else none
  | [] => some (false, [])

/-- Reads what may stand behind the digits of a decimal number: exponent and imaginary mark. An
`e` without digits is no exponent, and the number ends before it. -/
def exponent : List Char → Option (Bool × List Char)
  | e :: rest =>
    if e = 'e' || e = 'E' then
      match rest with
      | s :: rest' =>
        if s = '+' || s = '-' then
          match rest' with
          | d :: rest'' =>
            if d.isDigit then (digitRun Char.isDigit 1 rest'').bind (finish ·.2) else none
          | [] => none
        else if s.isDigit then (digitRun Char.isDigit 1 rest').bind (finish ·.2)
        else if mayEnd (e :: rest) then some (false, e :: rest) else none
      | [] => none
    else finish (e :: rest)
  | [] => some (false, [])

/-- Reads a number behind its decimal point. -/
def fraction : List Char → Option (Bool × List Char)
  | c :: rest =>
    if c.isDigit then (digitRun Char.isDigit 1 rest).bind (exponent ·.2) else exponent (c :: rest)
  | [] => exponent []

/-- Whether a fraction, an exponent or an imaginary mark follows the digits, so that they are not
an integer. -/
def goesOn : List Char → Bool
  | c :: _ => c = '.' || c = 'e' || c = 'E' || c = 'j' || c = 'J'
  | [] => false

/-- Reads a number behind the digits before its decimal point. -/
def tail : List Char → Option (Bool × List Char)
  | '.' :: rest => fraction rest
  | cs => exponent cs

/-- Reads a number that starts with the digit zero, which is already read. -/
def behindZero (cs : List Char) : Option (Bool × List Char) :=
  let radix (isDigit : Char → Bool) (rest : List Char) : Option (Bool × List Char) := do
    let rest ← radixDigits isDigit rest
    guard (mayEnd rest && !(rest.head?.any Char.isDigit))
    return (false, rest)
  match cs with
  | 'x' :: rest | 'X' :: rest =>
    radix (fun c => c.isDigit || ('a' ≤ c && c ≤ 'f') || ('A' ≤ c && c ≤ 'F')) rest
  | 'o' :: rest | 'O' :: rest => radix (fun c => '0' ≤ c && c ≤ '7') rest
  | 'b' :: rest | 'B' :: rest => radix (fun c => c = '0' || c = '1') rest
  | _ => do
    let rest ← zeroRun cs
    match rest with
    | c :: rest' =>
      if c.isDigit then
        let (_, rest) ← digitRun Char.isDigit 1 rest'
        if goesOn rest then tail rest else none
      else tail rest
    | [] => tail rest

/-- Reads a number that starts with a digit: whether it is imaginary, and what follows. -/
def read : List Char → Option (Bool × List Char)
  | '0' :: rest => behindZero rest
  | c :: rest => do
    guard c.isDigit
    let (count, rest) ← digitRun Char.isDigit 1 rest
    let (imaginary, rest') ← tail rest
    -- An `e` that starts a keyword leaves the number an integer.
    let integer := !goesOn rest || rest'.length = rest.length
    if integer && maxDigits < count then none else some (imaginary, rest')
  | [] => none

end CoverAudit.Source.Number
