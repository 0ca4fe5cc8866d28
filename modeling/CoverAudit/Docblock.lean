import CoverAudit.Table
import CoverAudit.Text.Blank
import CoverAudit.Text.Split

/-!
# Tags of a docblock

A docblock is free text; a line of it that reads `@name value` declares a tag. Lines end at a line
feed and at nothing else. A tag line starts with spaces and tabs, then has `@` and a name of
ASCII letters, `_` and `-`, and ends there, or goes on with a space or a tab before its value. One
carriage return may stand directly behind the name. The value is what follows the name, without
blanks at either end, and is empty when nothing follows.
-/

namespace CoverAudit.Docblock

/-- Spaces and tabs: what may stand before a tag and what divides its name from its value. -/
def isIndent (c : Char) : Bool :=
  c = ' ' || c = '\t'

/-- The characters of a tag's name. -/
def isNameChar (c : Char) : Bool :=
  c.isAlpha || c = '_' || c = '-'

/-- One declared tag. -/
structure Tag where
  name : String
  value : String
  deriving DecidableEq, Repr

/-- Whether a tag line may go on like this behind its name. -/
def endsName : List Char → Bool
  | [] => true
  | ['\r'] => true
  | c :: _ => isIndent c

/-- The tag that a line declares, if it declares one. -/
def readLine (line : List Char) : Option Tag :=
  match line.dropWhile isIndent with
  | '@' :: rest =>
    let name := rest.takeWhile isNameChar
    let remainder := rest.dropWhile isNameChar
    if !name.isEmpty && endsName remainder then
      some ⟨String.ofList name, String.ofList (Text.stripChars remainder)⟩
    else none
  | _ => none

/-- The tags of a text, in line order. -/
def tagsOf (text : String) : List Tag :=
  (Text.splitChars '\n' text.toList).filterMap readLine

/-- Groups tags by name: names in order of first appearance, values in line order. -/
def group (tags : List Tag) : Table (List String) :=
  tags.foldl (fun table tag => table.append tag.name tag.value) Table.empty

/-- The tag values of a docblock by tag name. A missing docblock has no tags. -/
def tags (text : Option String) : Table (List String) :=
  group (tagsOf (text.getD ""))

/-- The values of one tag, in line order. -/
def valuesOf (name : String) (text : Option String) : List String :=
  (tags text).getD name []

end CoverAudit.Docblock
