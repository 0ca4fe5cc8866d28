import CoverAudit.Text.Split

/-!
# Paths

Paths of files as lists of components. Empty components and `.` mean nothing and are left out, so
`./a//b/` is `a/b`; `..` stays, because what it means depends on the files. A path of no components
is the current directory and is written `.`. Two leading slashes are kept apart from one, three or
more count as one.
-/

namespace CoverAudit

/-- Where a path starts. -/
inductive Path.Root where
  /-- At the current directory. -/
  | relative
  /-- At the root directory. -/
  | slash
  /-- At a root of its own, written with two slashes. -/
  | doubleSlash
  deriving DecidableEq, Repr

/-- A path. -/
structure Path where
  root : Path.Root := .relative
  parts : List String := []
  deriving DecidableEq, Repr

namespace Path

/-- How a root is written. -/
def Root.text : Root → String
  | .relative => ""
  | .slash => "/"
  | .doubleSlash => "//"

/-- The root of a text that is a path. -/
def rootOf : List Char → Root
  | '/' :: '/' :: '/' :: _ => .slash
  | '/' :: '/' :: _ => .doubleSlash
  | '/' :: _ => .slash
  | _ => .relative

/-- The components of a text, without those that mean nothing. -/
def partsOf (text : String) : List String :=
  (Text.split '/' text).filter fun part => part ≠ "" && part ≠ "."

/-- Reads a path. -/
def ofString (text : String) : Path :=
  ⟨rootOf text.toList, partsOf text⟩

/-- Writes a path. -/
def toString (path : Path) : String :=
  let text := path.root.text ++ Text.join '/' path.parts
  if text.isEmpty then "." else text

/-- Whether a path does not start at the current directory. -/
def isAbsolute (path : Path) : Bool :=
  path.root ≠ .relative

/-- The path that `inner` is when it is seen from `outer`. -/
def join (outer inner : Path) : Path :=
  if inner.isAbsolute then inner else ⟨outer.root, outer.parts ++ inner.parts⟩

/-- The path of something below a directory, by its components from there. -/
def below (directory : Path) (parts : List String) : Path :=
  ⟨directory.root, directory.parts ++ parts⟩

/-- The last component. -/
def name (path : Path) : String :=
  path.parts.getLastD ""

/-- A file name without its extension: what stands before the last dot, unless that dot is the
first or the last character. -/
def stemOf (name : String) : String :=
  match (Text.split '.' name).reverse with
  | extension :: front@(_ :: _) =>
    let stem := Text.join '.' front.reverse
    if extension.isEmpty || stem.isEmpty then name else stem
  | _ => name

/-- The last component without its extension. -/
def stem (path : Path) : String :=
  stemOf path.name

/-- Orders lists of components as the components order at the first difference; a list comes before
those that go on behind it. -/
def partsLe : List String → List String → Bool
  | [], _ => true
  | _ :: _, [] => false
  | a :: as, b :: bs => if a = b then partsLe as bs else decide (a < b)

end Path

end CoverAudit
