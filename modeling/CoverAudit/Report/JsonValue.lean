import CoverAudit.Text.Quoted

/-!
# JSON texts

Values as JSON, on one line or laid out over several. Only quotes, backslashes and the control
characters below U+0020 are escaped; all other characters stand as they are.
-/

namespace CoverAudit

/-- A JSON value. The fields of a record have an order. -/
inductive JsonValue where
  | integer (value : Int)
  | text (value : String)
  | list (items : List JsonValue)
  | record (fields : List (String × JsonValue))
  deriving Repr, Inhabited

namespace JsonValue

/-- A character as it stands in a JSON text. -/
def escapeChar (c : Char) : String :=
  match c with
  | '"' => "\\\""
  | '\\' => "\\\\"
  | '\n' => "\\n"
  | '\r' => "\\r"
  | '\t' => "\\t"
  | _ =>
    if c.toNat = 0x08 then "\\b"
    else if c.toNat = 0x0C then "\\f"
    else if c.toNat < 0x20 then "\\u" ++ Text.hexPadded 4 c.toNat
    else c.toString

/-- A text in quotes. -/
def quote (s : String) : String :=
  "\"" ++ String.join (s.toList.map escapeChar) ++ "\""

/-- How values are laid out: what stands between items, and the line breaks around them. -/
structure Layout where
  /-- What stands between two items that are `depth` collections deep. -/
  between : Nat → String
  /-- What stands before the first and behind the last item. -/
  around : Nat → String

/-- Everything on one line. -/
def Layout.line : Layout where
  between _ := ", "
  around _ := ""

/-- A new line and the blanks at its start. -/
def Layout.newLine (depth : Nat) : String :=
  "\n" ++ String.ofList (List.replicate (2 * depth) ' ')

/-- Each item on a line of its own. -/
def Layout.lines : Layout where
  between depth := "," ++ newLine depth
  around depth := newLine depth

/-- Items between brackets. Without items nothing stands between them. -/
def enclosed (layout : Layout) (depth : Nat) (opening closing : String) (items : List String) :
    String :=
  if items.isEmpty then opening ++ closing
  else
    opening ++ layout.around (depth + 1) ++ Text.glue (layout.between (depth + 1)) items ++
      layout.around depth ++ closing

mutual

/-- The text of a value inside `depth` collections. -/
def render (layout : Layout) (depth : Nat) : JsonValue → String
  | .integer value => ToString.toString value
  | .text value => quote value
  | .list items => enclosed layout depth "[" "]" (renderItems layout (depth + 1) items)
  | .record fields =>
    enclosed layout depth "\x7b" "\x7d" (renderFields layout (depth + 1) fields)

/-- The texts of some items. -/
def renderItems (layout : Layout) (depth : Nat) : List JsonValue → List String
  | [] => []
  | item :: rest => render layout depth item :: renderItems layout depth rest

/-- The texts of some fields. -/
def renderFields (layout : Layout) (depth : Nat) : List (String × JsonValue) → List String
  | [] => []
  | (name, value) :: rest =>
    (quote name ++ ": " ++ render layout depth value) :: renderFields layout depth rest

end

/-- The text of a value on one line. -/
def compact (value : JsonValue) : String :=
  render .line 0 value

/-- The text of a value over several lines. -/
def pretty (value : JsonValue) : String :=
  render .lines 0 value

end JsonValue

end CoverAudit
