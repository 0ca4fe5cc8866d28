import CoverAudit.Report.JsonValue
import Mathlib.Data.List.Forall2

/-!
# Reading JSON texts

A report is handed on as text, so what a run reports is what can be read off that text, whatever
the texts in it hold: quotes, line feeds, whole reports. The reader here knows nothing of how values
are written. It takes a text apart character by character, and puts values together token by token,
each time with its state written out, so nothing bounds how deep a value is.

* `scan`: the tokens of a text; blanks between them do not count.
* `assemble`: the value that tokens stand for, with the collections that are still open.
* `scans_render`: whatever the layout, a value is written as its tokens.
* `assemble_tokens`: the tokens of a value are put together to this value.
* `read_compact`, `read_pretty`: a value can be read off both of its texts.
-/

namespace CoverAudit.JsonValue

/-! ## Texts as tokens -/

/-- What JSON texts are made of. -/
inductive Token where
  | openList
  | closeList
  | openRecord
  | closeRecord
  | colon
  | comma
  | integer (value : Int)
  | text (value : String)

/-- The token that a character is on its own. -/
def Token.ofChar? : Char → Option Token
  | '[' => some .openList
  | ']' => some .closeList
  | '\x7b' => some .openRecord
  | '\x7d' => some .closeRecord
  | ':' => some .colon
  | ',' => some .comma
  | _ => none

/-- Whether a character may stand between tokens. -/
def isSpace (c : Char) : Bool :=
  c = ' ' || c = '\n' || c = '\r' || c = '\t'

/-- The character that stands for itself, or for a control character, behind a backslash. -/
def unescape? : Char → Option Char
  | '"' => some '"'
  | '\\' => some '\\'
  | '/' => some '/'
  | 'b' => some (Char.ofNat 0x08)
  | 'f' => some (Char.ofNat 0x0C)
  | 'n' => some '\n'
  | 'r' => some '\r'
  | 't' => some '\t'
  | _ => none

/-- The value of a hexadecimal digit. -/
def hexDigit? (c : Char) : Option Nat :=
  if c.isDigit then some (c.toNat - '0'.toNat)
  else if 'a' ≤ c ∧ c ≤ 'f' then some (c.toNat - 'a'.toNat + 10)
  else if 'A' ≤ c ∧ c ≤ 'F' then some (c.toNat - 'A'.toNat + 10)
  else none

/-- Where in a text a reader is. -/
inductive Scan where
  /-- Behind one token and before the next one. -/
  | between
  /-- Behind the sign of a number. -/
  | minus
  | number (negative : Bool) (size : Nat)
  /-- In quotes, behind these characters. -/
  | text (done : List Char)
  /-- Behind a backslash. -/
  | escape (done : List Char)
  /-- In the code of a character, of which so many digits are missing. -/
  | code (done : List Char) (missing value : Nat)

/-- A number by its sign and its size. -/
def signed (negative : Bool) (size : Nat) : Int :=
  if negative then -size else size

/-- Reads a character at which a token may start. -/
def Scan.start (c : Char) : Option (List Token × Scan) :=
  if isSpace c then some ([], .between)
  else if c = '"' then some ([], .text [])
  else if c = '-' then some ([], .minus)
  else if c.isDigit then some ([], .number false (c.toNat - '0'.toNat))
  else (Token.ofChar? c).map fun token => ([token], .between)

/-- Reads one character: the tokens that end there, and where the reader is then. A number ends at
the character behind it. -/
def Scan.step : Scan → Char → Option (List Token × Scan)
  | .between, c => start c
  | .minus, c => if c.isDigit then some ([], .number true (c.toNat - '0'.toNat)) else none
  | .number negative size, c =>
    if c.isDigit then some ([], .number negative (10 * size + (c.toNat - '0'.toNat)))
    else (start c).map fun (tokens, next) => (.integer (signed negative size) :: tokens, next)
  | .text done, c =>
    if c = '"' then some ([.text (String.ofList done)], .between)
    else if c = '\\' then some ([], .escape done)
    else if c.toNat < 0x20 then none
    else some ([], .text (done ++ [c]))
  | .escape done, c =>
    if c = 'u' then some ([], .code done 4 0)
    else (unescape? c).map fun plain => ([], .text (done ++ [plain]))
  | .code done missing value, c =>
    match hexDigit? c with
    | none => none
    | some digit =>
      let value := 16 * value + digit
      if 1 < missing then some ([], .code done (missing - 1) value)
      else if value.isValidChar then some ([], .text (done ++ [Char.ofNat value]))
      else none

/-- The tokens in the rest of a text. -/
def scan : Scan → List Char → Option (List Token)
  | .between, [] => some []
  | .number negative size, [] => some [.integer (signed negative size)]
  | _, [] => none
  | state, c :: rest =>
    match state.step c with
    | none => none
    | some (tokens, next) => (scan next rest).map (tokens ++ ·)

/-! ## Values of tokens -/

/-- A collection that is not complete: what it holds so far, and the name of the next field. -/
inductive Open where
  | list (items : List JsonValue)
  | record (fields : List (String × JsonValue)) (name : String)

/-- What a reader waits for, inside of some collections. The innermost one stands first, and may end
here when it is new. -/
inductive Assembly where
  | value (outer : List Open) (isNew : Bool)
  | name (fields : List (String × JsonValue)) (outer : List Open) (isNew : Bool)
  | colon (name : String) (fields : List (String × JsonValue)) (outer : List Open)
  /-- What follows a complete value. -/
  | behind (value : JsonValue) (outer : List Open)

/-- Takes one token. -/
def Assembly.step : Assembly → Token → Option Assembly
  | .value outer _, .integer n => some (.behind (.integer n) outer)
  | .value outer _, .text s => some (.behind (.text s) outer)
  | .value outer _, .openList => some (.value (.list [] :: outer) true)
  | .value outer _, .openRecord => some (.name [] outer true)
  | .value (.list [] :: outer) true, .closeList => some (.behind (.list []) outer)
  | .name fields outer _, .text s => some (.colon s fields outer)
  | .name [] outer true, .closeRecord => some (.behind (.record []) outer)
  | .colon s fields outer, .colon => some (.value (.record fields s :: outer) false)
  | .behind item (.list items :: outer), .comma =>
    some (.value (.list (items ++ [item]) :: outer) false)
  | .behind item (.list items :: outer), .closeList =>
    some (.behind (.list (items ++ [item])) outer)
  | .behind item (.record fields s :: outer), .comma =>
    some (.name (fields ++ [(s, item)]) outer false)
  | .behind item (.record fields s :: outer), .closeRecord =>
    some (.behind (.record (fields ++ [(s, item)])) outer)
  | _, _ => none

/-- The value that is complete when all tokens are taken. -/
def assemble : Assembly → List Token → Option JsonValue
  | .behind value [], [] => some value
  | _, [] => none
  | state, token :: rest => (state.step token).bind fun next => assemble next rest

/-- The value that a text holds. -/
def read (text : String) : Option JsonValue :=
  (scan .between text.toList).bind (assemble (.value [] false))

/-- A text that neither layout writes. -/
example : read "[-7, \"\\u0041\",\x7b\"a\": []\x7d ]" =
    some (.list [.integer (-7), .text "A", .record [("a", .list [])]]) := by rfl

/-! ## Scanning what is written -/

/-- The rest of a text does not go on with a number. -/
def NoDigitFirst (rest : List Char) : Prop :=
  ∀ c ∈ rest.head?, c.isDigit = false

/-- `text` is written for `tokens`: from between two tokens, the reader finds these and goes on
with what follows. -/
def Scans (text : String) (tokens : List Token) : Prop :=
  ∀ rest, NoDigitFirst rest →
    scan .between (text.toList ++ rest) = (scan .between rest).map (tokens ++ ·)

variable {state : Scan} {c : Char} {rest : List Char}

theorem scan_cons (tokens : List Token) (next : Scan) (h : state.step c = some (tokens, next)) :
    scan state (c :: rest) = (scan next rest).map (tokens ++ ·) := by
  cases state <;> simp [scan, h]

/-- At the character no token ends. -/
theorem scan_cons_nil (next : Scan) (h : state.step c = some ([], next)) :
    scan state (c :: rest) = scan next rest := by
  rw [scan_cons [] next h]
  simp

/-! ### Numbers -/

theorem scan_digits {digits : List Char} (h : ∀ c ∈ digits, c.isDigit = true) (negative : Bool)
    (size : Nat) (rest : List Char) :
    scan (.number negative size) (digits ++ rest) =
      scan (.number negative (Nat.ofDigitChars 10 digits size)) rest := by
  induction digits generalizing size with
  | nil => rfl
  | cons c digits ih =>
    obtain ⟨hc, hdigits⟩ := List.forall_mem_cons.mp h
    have hstep : Scan.step (.number negative size) c =
        some ([], .number negative (10 * size + (c.toNat - '0'.toNat))) := by
      simp only [Scan.step, hc, if_true]
    rw [List.cons_append, scan_cons_nil _ hstep, ih hdigits, Nat.ofDigitChars_cons]

/-- A number ends where no digit follows. -/
theorem scan_number (negative : Bool) (size : Nat) (hr : NoDigitFirst rest) :
    scan (.number negative size) rest =
      (scan .between rest).map (.integer (signed negative size) :: ·) := by
  cases rest with
  | nil => rfl
  | cons c rest =>
    have hc : c.isDigit = false := hr c rfl
    cases hs : Scan.start c with
    | none => simp [scan, Scan.step, hc, hs]
    | some started => simp [scan, Scan.step, hc, hs, Function.comp_def]

theorem start_of_isDigit (hc : c.isDigit = true) :
    Scan.start c = some ([], .number false (c.toNat - '0'.toNat)) := by
  have hspace : isSpace c = false := by
    rw [Bool.eq_false_iff]
    intro h
    simp only [isSpace, Bool.or_eq_true, decide_eq_true_eq] at h
    obtain ((rfl | rfl) | rfl) | rfl := h <;> cases hc
  have hquote : c ≠ '"' := by rintro rfl; cases hc
  have hminus : c ≠ '-' := by rintro rfl; cases hc
  simp [Scan.start, hspace, hquote, hminus, hc]

/-- No number goes on at a character that is, or stands between, tokens. -/
theorem noDigitFirst_cons {tokens : List Token} (h : Scan.start c = some (tokens, .between)) :
    NoDigitFirst (c :: rest) := by
  intro first hfirst
  cases hfirst
  rw [Bool.eq_false_iff]
  intro hdigit
  rw [start_of_isDigit hdigit] at h
  cases h

/-- The digits of a number, from a state in which its first digit is awaited. -/
theorem scan_toDigits (negative : Bool) (hs : ∀ c : Char, c.isDigit = true →
      state.step c = some ([], .number negative (c.toNat - '0'.toNat)))
    (n : Nat) (hr : NoDigitFirst rest) :
    scan state (Nat.toDigits 10 n ++ rest) =
      (scan .between rest).map (.integer (signed negative n) :: ·) := by
  have hdigits : ∀ c ∈ Nat.toDigits 10 n, c.isDigit = true :=
    fun c hc => Nat.isDigit_of_mem_toDigits (by decide) (by decide) hc
  have hvalue : Nat.ofDigitChars 10 (Nat.toDigits 10 n) 0 = n := Nat.ofDigitChars_ten_toDigits
  cases hlist : Nat.toDigits 10 n with
  | nil => exact absurd hlist Nat.toDigits_ne_nil
  | cons c digits =>
    rw [hlist] at hdigits hvalue
    obtain ⟨hc, hdigits⟩ := List.forall_mem_cons.mp hdigits
    rw [Nat.ofDigitChars_cons, Nat.mul_zero, Nat.zero_add] at hvalue
    rw [List.cons_append, scan_cons_nil _ (hs c hc), scan_digits hdigits, hvalue,
      scan_number _ _ hr]

theorem scans_integer (value : Int) : Scans (toString value) [.integer value] := by
  intro rest hr
  cases value with
  | ofNat n =>
    have hstep : ∀ c : Char, c.isDigit = true →
        Scan.step .between c = some ([], .number false (c.toNat - '0'.toNat)) :=
      fun c hc => start_of_isDigit hc
    show scan .between (n.repr.toList ++ rest) = _
    rw [Nat.toList_repr, scan_toDigits false hstep n hr]
    rfl
  | negSucc n =>
    have htext : (toString (Int.negSucc n)).toList = '-' :: Nat.toDigits 10 (n + 1) := by
      show ("-" ++ (n + 1).repr).toList = _
      rw [String.toList_append, Nat.toList_repr]
      rfl
    rw [htext, List.cons_append, scan_cons_nil .minus rfl,
      scan_toDigits true (fun c hc => by simp [Scan.step, hc]) (n + 1) hr]
    rfl

/-! ### Texts -/

theorem hexPadded_digits : ∀ n < 0x20,
    (Text.hexPadded 4 n).toList = ['0', '0', Nat.digitChar (n / 16), Nat.digitChar (n % 16)] ∧
      hexDigit? (Nat.digitChar (n / 16)) = some (n / 16) ∧
      hexDigit? (Nat.digitChar (n % 16)) = some (n % 16) := by
  decide +kernel

theorem scan_code (done : List Char) {n : Nat} (hn : n < 0x20) (rest : List Char) :
    scan (.code done 4 0) ((Text.hexPadded 4 n).toList ++ rest) =
      scan (.text (done ++ [Char.ofNat n])) rest := by
  obtain ⟨hdigits, hhigh, hlow⟩ := hexPadded_digits n hn
  have hvalue : 16 * (n / 16) + n % 16 = n := Nat.div_add_mod n 16
  have hvalid : n.isValidChar := .inl (by omega)
  rw [hdigits]
  simp only [List.cons_append, List.nil_append]
  rw [scan_cons_nil (.code done 3 0) rfl, scan_cons_nil (.code done 2 0) rfl,
    scan_cons_nil (.code done 1 (n / 16)) (by simp [Scan.step, hhigh]),
    scan_cons_nil (.text (done ++ [Char.ofNat n])) (by simp [Scan.step, hlow, hvalue, hvalid])]

/-- Behind a backslash stands the letter of an escape. -/
theorem scan_letter (done : List Char) {letter plain : Char} (hne : letter ≠ 'u')
    (h : unescape? letter = some plain) (rest : List Char) :
    scan (.text done) ('\\' :: letter :: rest) = scan (.text (done ++ [plain])) rest := by
  rw [scan_cons_nil (.escape done) rfl,
    scan_cons_nil (.text (done ++ [plain])) (by simp [Scan.step, hne, h])]

/-- An escaped character is read as the character. -/
theorem scan_escapeChar (done : List Char) (c : Char) (rest : List Char) :
    scan (.text done) ((escapeChar c).toList ++ rest) = scan (.text (done ++ [c])) rest := by
  unfold escapeChar
  split
  · exact scan_letter done (by decide) rfl rest
  · exact scan_letter done (by decide) rfl rest
  · exact scan_letter done (by decide) rfl rest
  · exact scan_letter done (by decide) rfl rest
  · exact scan_letter done (by decide) rfl rest
  rename_i hquote hslash _ _ _
  split
  · rename_i hc
    rw [← Char.ofNat_toNat c, hc]
    exact scan_letter done (by decide) rfl rest
  split
  · rename_i hc
    rw [← Char.ofNat_toNat c, hc]
    exact scan_letter done (by decide) rfl rest
  split
  · rename_i hc
    have hcode : "\\u".toList = ['\\', 'u'] := rfl
    rw [String.toList_append, hcode, List.append_assoc, List.cons_append, List.cons_append,
      List.nil_append, scan_cons_nil (.escape done) rfl, scan_cons_nil (.code done 4 0) rfl,
      scan_code done hc, Char.ofNat_toNat]
  · rename_i hc
    have hself : c.toString.toList = [c] := by simp [Char.toString]
    rw [hself, List.cons_append, List.nil_append, scan_cons_nil (.text (done ++ [c]))]
    simp only [Scan.step, if_neg hquote, if_neg hslash, if_neg hc]

theorem scan_escaped (done cs rest : List Char) :
    scan (.text done) (cs.flatMap (fun c => (escapeChar c).toList) ++ '"' :: rest) =
      (scan .between rest).map (.text (String.ofList (done ++ cs)) :: ·) := by
  induction cs generalizing done with
  | nil =>
    rw [List.flatMap_nil, List.nil_append, List.append_nil,
      scan_cons [.text (String.ofList done)] .between rfl]
    rfl
  | cons c cs ih =>
    rw [List.flatMap_cons, List.append_assoc, scan_escapeChar, ih, List.append_assoc]
    rfl

theorem scans_quote (text : String) : Scans (quote text) [.text text] := by
  intro rest _
  have hquote : (quote text).toList =
      '"' :: ((text.toList.flatMap fun c => (escapeChar c).toList) ++ ['"']) := by
    simp [quote, String.toList_join, List.flatMap_map]
  rw [hquote, List.cons_append, List.append_assoc, List.singleton_append,
    scan_cons_nil (.text []) rfl, scan_escaped, List.nil_append, String.ofList_toList]
  rfl

/-! ### Layouts -/

/-- A layout that adds only spaces: one comma stands between two items, and nothing around them. -/
structure Layout.IsBlank (layout : Layout) : Prop where
  between : ∀ depth, ∃ spaces, layout.between depth = "," ++ spaces ∧
    ∀ c ∈ spaces.toList, isSpace c = true
  around : ∀ depth, ∀ c ∈ (layout.around depth).toList, isSpace c = true

theorem Layout.isSpace_newLine (depth : Nat) :
    ∀ c ∈ (newLine depth).toList, isSpace c = true := by
  intro c hc
  rw [newLine, String.toList_append, List.mem_append] at hc
  obtain hc | hc := hc
  · rw [List.mem_singleton.mp hc]
    rfl
  · rw [String.toList_ofList] at hc
    rw [List.eq_of_mem_replicate hc]
    rfl

theorem Layout.isBlank_line : Layout.line.IsBlank where
  between _ := by
    refine ⟨" ", rfl, fun c hc => ?_⟩
    rw [List.mem_singleton.mp hc]
    rfl
  around _ := by simp [line]

theorem Layout.isBlank_lines : Layout.lines.IsBlank where
  between depth := ⟨newLine depth, rfl, isSpace_newLine depth⟩
  around depth := isSpace_newLine depth

theorem start_of_isSpace (hc : isSpace c = true) : Scan.start c = some ([], .between) :=
  if_pos hc

theorem scan_spaces {spaces : List Char} (h : ∀ c ∈ spaces, isSpace c = true)
    (rest : List Char) : scan .between (spaces ++ rest) = scan .between rest := by
  induction spaces with
  | nil => rfl
  | cons c spaces ih =>
    obtain ⟨hc, hspaces⟩ := List.forall_mem_cons.mp h
    have hstep : Scan.step .between c = some ([], .between) := start_of_isSpace hc
    rw [List.cons_append, scan_cons_nil _ hstep, ih hspaces]

theorem noDigitFirst_spaces {spaces : List Char} (h : ∀ c ∈ spaces, isSpace c = true)
    (hr : NoDigitFirst rest) : NoDigitFirst (spaces ++ rest) := by
  cases spaces with
  | nil => exact hr
  | cons c spaces => exact noDigitFirst_cons (start_of_isSpace (h c List.mem_cons_self))

/-! ### Collections -/

/-- Texts with a separator between them are written for their tokens with commas between them. -/
theorem scans_glue {texts : List String} {tokens : List (List Token)} {spaces : String}
    (hspaces : ∀ c ∈ spaces.toList, isSpace c = true) (h : List.Forall₂ Scans texts tokens) :
    Scans (Text.glue ("," ++ spaces) texts) (List.intercalate [.comma] tokens) := by
  induction h with
  | nil =>
    intro rest _
    simp [Text.glue]
  | @cons text first texts tokens hfirst htexts ih =>
    intro rest hr
    cases htexts with
    | nil =>
      rw [Text.glue, List.intercalate_singleton]
      exact hfirst rest hr
    | @cons second next texts tokens hsecond htexts =>
      simp only [Text.glue, List.intercalate_cons_cons, String.toList_append, List.append_assoc]
      have hcomma : NoDigitFirst (",".toList ++ (spaces.toList ++
          ((Text.glue ("," ++ spaces) (second :: texts)).toList ++ rest))) :=
        noDigitFirst_cons (c := ',') rfl
      rw [hfirst _ hcomma]
      show (scan .between (',' :: (spaces.toList ++ _))).map _ = _
      rw [scan_cons [.comma] .between rfl, scan_spaces hspaces, ih rest hr]
      simp [Function.comp_def]

/-- Items between two brackets are written for their tokens, with commas between them and the tokens
of the brackets around. -/
theorem scans_enclosed {layout : Layout} (hl : layout.IsBlank) (depth : Nat)
    {opening closing : String} {first last : Char} {left right : Token}
    (hopening : opening.toList = [first]) (hclosing : closing.toList = [last])
    (hfirst : Scan.start first = some ([left], .between))
    (hlast : Scan.start last = some ([right], .between))
    {texts : List String} {tokens : List (List Token)} (h : List.Forall₂ Scans texts tokens) :
    Scans (enclosed layout depth opening closing texts)
      (left :: List.intercalate [.comma] tokens ++ [right]) := by
  intro rest hr
  obtain ⟨spaces, hbetween, hspaces⟩ := hl.between (depth + 1)
  have hleft : ∀ more, scan .between (first :: more) = (scan .between more).map ([left] ++ ·) :=
    fun more => scan_cons [left] .between hfirst
  have hright : ∀ more, scan .between (last :: more) = (scan .between more).map ([right] ++ ·) :=
    fun more => scan_cons [right] .between hlast
  unfold enclosed
  split
  · rename_i hempty
    rw [List.isEmpty_iff] at hempty
    subst hempty
    cases h
    simp [hopening, hclosing, hleft, hright, Function.comp_def]
  · simp only [String.toList_append, hopening, hclosing, List.append_assoc, List.cons_append,
      List.nil_append, hleft, scan_spaces (hl.around (depth + 1))]
    rw [hbetween, scans_glue hspaces h _ (noDigitFirst_spaces (hl.around depth) (noDigitFirst_cons hlast)),
      scan_spaces (hl.around depth), hright]
    simp [Function.comp_def]

/-! ### Values -/

mutual

/-- The tokens of a value. -/
def tokens : JsonValue → List Token
  | .integer value => [.integer value]
  | .text value => [.text value]
  | .list items => .openList :: List.intercalate [.comma] (itemTokens items) ++ [.closeList]
  | .record fields =>
    .openRecord :: List.intercalate [.comma] (fieldTokens fields) ++ [.closeRecord]

/-- The tokens of some items. -/
def itemTokens : List JsonValue → List (List Token)
  | [] => []
  | item :: rest => tokens item :: itemTokens rest

/-- The tokens of some fields. -/
def fieldTokens : List (String × JsonValue) → List (List Token)
  | [] => []
  | (name, value) :: rest => (.text name :: .colon :: tokens value) :: fieldTokens rest

end

theorem scans_field {text : String} {tokens : List Token} (name : String) (h : Scans text tokens) :
    Scans (quote name ++ ": " ++ text) (.text name :: .colon :: tokens) := by
  intro rest hr
  have hcolon : NoDigitFirst (':' :: ' ' :: (text.toList ++ rest)) := noDigitFirst_cons rfl
  simp only [String.toList_append, List.append_assoc]
  show scan .between ((quote name).toList ++ ':' :: ' ' :: (text.toList ++ rest)) = _
  rw [scans_quote name _ hcolon, scan_cons [.colon] .between rfl, scan_cons_nil .between rfl,
    h rest hr]
  simp [Function.comp_def]

mutual

/-- Whatever the layout, a value is written for its tokens. -/
theorem scans_render {layout : Layout} (hl : layout.IsBlank) (depth : Nat) :
    (value : JsonValue) → Scans (render layout depth value) value.tokens
  | .integer value => by
    rw [render, tokens]
    exact scans_integer value
  | .text value => by
    rw [render, tokens]
    exact scans_quote value
  | .list items => by
    rw [render, tokens]
    exact scans_enclosed hl depth rfl rfl rfl rfl (scans_renderItems hl (depth + 1) items)
  | .record fields => by
    rw [render, tokens]
    exact scans_enclosed hl depth rfl rfl rfl rfl (scans_renderFields hl (depth + 1) fields)

theorem scans_renderItems {layout : Layout} (hl : layout.IsBlank) (depth : Nat) :
    (items : List JsonValue) →
      List.Forall₂ Scans (renderItems layout depth items) (itemTokens items)
  | [] => .nil
  | item :: rest => .cons (scans_render hl depth item) (scans_renderItems hl depth rest)

theorem scans_renderFields {layout : Layout} (hl : layout.IsBlank) (depth : Nat) :
    (fields : List (String × JsonValue)) →
      List.Forall₂ Scans (renderFields layout depth fields) (fieldTokens fields)
  | [] => .nil
  | (name, value) :: rest =>
    .cons (scans_field name (scans_render hl depth value)) (scans_renderFields hl depth rest)

end

/-! ## Putting values together -/

mutual

/-- The tokens of a value are put together to this value, wherever it stands. -/
theorem assemble_tokens (outer : List Open) (isNew : Bool) (rest : List Token) :
    (value : JsonValue) →
      assemble (.value outer isNew) (value.tokens ++ rest) = assemble (.behind value outer) rest
  | .integer _ => rfl
  | .text _ => rfl
  | .list [] => rfl
  | .list (item :: items) => by
    simp only [tokens, List.cons_append, List.append_assoc, List.nil_append]
    exact assemble_items outer true rest [] (item :: items) (List.cons_ne_nil item items)
  | .record [] => rfl
  | .record (field :: fields) => by
    simp only [tokens, List.cons_append, List.append_assoc, List.nil_append]
    exact assemble_fields outer true rest [] (field :: fields) (List.cons_ne_nil field fields)

/-- Items go into the list that is open, behind those that it holds. -/
theorem assemble_items (outer : List Open) (isNew : Bool) (rest : List Token)
    (done : List JsonValue) : (items : List JsonValue) → items ≠ [] →
      assemble (.value (.list done :: outer) isNew)
          (List.intercalate [.comma] (itemTokens items) ++ .closeList :: rest) =
        assemble (.behind (.list (done ++ items)) outer) rest
  | [], h => absurd rfl h
  | [item], _ => by
    rw [itemTokens, itemTokens, List.intercalate_singleton, assemble_tokens]
    rfl
  | item :: next :: items, _ => by
    rw [itemTokens, itemTokens, List.intercalate_cons_cons, List.append_assoc, List.append_assoc,
      assemble_tokens]
    show assemble (.value (.list (done ++ [item]) :: outer) false)
      (List.intercalate [.comma] (itemTokens (next :: items)) ++ _) = _
    rw [assemble_items outer false rest (done ++ [item]) (next :: items)
      (List.cons_ne_nil next items), List.append_assoc]
    rfl

/-- Fields go into the record that is open. -/
theorem assemble_fields (outer : List Open) (isNew : Bool) (rest : List Token)
    (done : List (String × JsonValue)) : (fields : List (String × JsonValue)) → fields ≠ [] →
      assemble (.name done outer isNew)
          (List.intercalate [.comma] (fieldTokens fields) ++ .closeRecord :: rest) =
        assemble (.behind (.record (done ++ fields)) outer) rest
  | [], h => absurd rfl h
  | [(name, value)], _ => by
    rw [fieldTokens, fieldTokens, List.intercalate_singleton]
    show assemble (.value (.record done name :: outer) false) (tokens value ++ _) = _
    rw [assemble_tokens]
    rfl
  | (name, value) :: next :: fields, _ => by
    rw [fieldTokens, fieldTokens, List.intercalate_cons_cons, List.append_assoc, List.append_assoc]
    show assemble (.value (.record done name :: outer) false) (tokens value ++ _) = _
    rw [assemble_tokens]
    show assemble (.name (done ++ [(name, value)]) outer false)
      (List.intercalate [.comma] (fieldTokens (next :: fields)) ++ _) = _
    rw [assemble_fields outer false rest (done ++ [(name, value)]) (next :: fields)
      (List.cons_ne_nil next fields), List.append_assoc]
    rfl

end

/-! ## Both texts of a value -/

theorem read_render {layout : Layout} (hl : layout.IsBlank) (value : JsonValue) :
    read (render layout 0 value) = some value := by
  have hscan := scans_render hl 0 value [] nofun
  have hvalue := assemble_tokens [] false [] value
  rw [List.append_nil] at hscan hvalue
  rw [read, hscan]
  simpa [scan, assemble] using hvalue

/-- A value can be read off its text on one line. -/
theorem read_compact (value : JsonValue) : read value.compact = some value :=
  read_render Layout.isBlank_line value

/-- A value can be read off its text over several lines. -/
theorem read_pretty (value : JsonValue) : read value.pretty = some value :=
  read_render Layout.isBlank_lines value

end CoverAudit.JsonValue
