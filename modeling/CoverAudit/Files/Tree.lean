import CoverAudit.Files.Path
import CoverAudit.Text.Quoted

/-!
# File trees

The files that an audit reads and writes, as a value. A tree holds files and directories under
their components from the current directory, or from a root. A directory exists when the tree lists
it or anything below it.

* `FileTree.locate`: where a path leads; `..` only leads out of a directory that exists.
* `FileTree.read`, `FileTree.write`: reading and writing of texts, with the reasons why not.
* `FileTree.below`: what a directory holds at any depth, in order.
-/

namespace CoverAudit

/-- What a file tree holds at a place. -/
inductive FileTree.Node where
  | file (content : ByteArray)
  | directory

/-- A place in a file tree: a path without `..`. -/
abbrev FileTree.Place := Path

/-- Files and directories by their places. -/
structure FileTree where
  nodes : List (FileTree.Place × FileTree.Node) := []

/-- Why a file can not be read or written. -/
inductive FileError where
  | notFound
  | notADirectory
  | isADirectory
  /-- The content is not UTF-8. -/
  | undecodable
  deriving DecidableEq, Repr

/-- The error at a path in the words of the system, with its number. -/
def FileError.message (path : String) : FileError → String
  | .notFound => "[Errno 2] No such file or directory: " ++ Text.quoted path
  | .notADirectory => "[Errno 20] Not a directory: " ++ Text.quoted path
  | .isADirectory => "[Errno 21] Is a directory: " ++ Text.quoted path
  | .undecodable => "The file is not UTF-8 text: " ++ Text.quoted path

namespace FileTree

/-- Whether `inner` is at or below `outer`. -/
def isWithin (outer inner : Place) : Bool :=
  outer.root = inner.root && outer.parts.isPrefixOf inner.parts

/-- What a tree holds at a place. -/
def nodeAt? (tree : FileTree) (place : Place) : Option Node :=
  match tree.nodes.find? fun entry => entry.1 = place with
  | some (_, node) => some node
  | none =>
    if place.parts.isEmpty && place.root = .relative then some .directory
    else if tree.nodes.any fun entry => isWithin place entry.1 then some .directory
    else none

/-- Goes from a directory along components. Every component but the last must be a directory. -/
def walk (tree : FileTree) (place : Place) : List String → Except FileError Place
  | [] => .ok place
  | part :: rest =>
    match tree.nodeAt? place with
    | none => .error .notFound
    | some (.file _) => .error .notADirectory
    | some .directory =>
      if part = ".." then
        match place.parts, place.root with
        -- What lies above the current directory is not part of the tree.
        | [], .relative => .error .notFound
        | parts, _ => tree.walk { place with parts := parts.dropLast } rest
      else tree.walk { place with parts := place.parts ++ [part] } rest

/-- The place that a path leads to. It may hold nothing. -/
def locate (tree : FileTree) (path : Path) : Except FileError Place :=
  tree.walk { path with parts := [] } path.parts

/-- What a path leads to. -/
def find (tree : FileTree) (path : Path) : Except FileError Node := do
  let place ← tree.locate path
  match tree.nodeAt? place with
  | some node => return node
  | none => throw .notFound

/-- Whether a path leads to something. -/
def exists? (tree : FileTree) (path : Path) : Bool :=
  (tree.find path).toOption.isSome

/-- Whether a path leads to a file. -/
def isFile (tree : FileTree) (path : Path) : Bool :=
  match tree.find path with
  | .ok (.file _) => true
  | _ => false

/-- Whether a path leads to a directory. -/
def isDirectory (tree : FileTree) (path : Path) : Bool :=
  match tree.find path with
  | .ok .directory => true
  | _ => false

/-- The text with `\r\n` and `\r` as line feeds. -/
def unifyNewlines : List Char → List Char
  | [] => []
  | '\r' :: '\n' :: rest => '\n' :: unifyNewlines rest
  | '\r' :: rest => '\n' :: unifyNewlines rest
  | c :: rest => c :: unifyNewlines rest

/-- The text of a file's content. -/
def decode (content : ByteArray) : Except FileError String :=
  match String.fromUTF8? content with
  | some text => .ok (String.ofList (unifyNewlines text.toList))
  | none => .error .undecodable

/-- The text of the file that a path leads to. -/
def read (tree : FileTree) (path : Path) : Except FileError String := do
  match ← tree.find path with
  | .file content => decode content
  | .directory => throw .isADirectory

/-- Puts something at a place. -/
def put (tree : FileTree) (place : Place) (node : Node) : FileTree :=
  ⟨tree.nodes.filter (fun entry => entry.1 ≠ place) ++ [(place, node)]⟩

/-- Writes a text to the file that a path leads to; the directory must be there. -/
def write (tree : FileTree) (path : Path) (text : String) : Except FileError FileTree := do
  let place ← tree.locate path
  match tree.nodeAt? place with
  | some .directory => throw .isADirectory
  | some (.file _) => return tree.put place (.file text.toUTF8)
  | none =>
    match tree.nodeAt? { place with parts := place.parts.dropLast } with
    | some .directory => return tree.put place (.file text.toUTF8)
    | some (.file _) => throw .notADirectory
    | none => throw .notFound

/-- Whether the last component of a text that is a path is the directory itself. -/
def endsInDot (text : String) : Bool :=
  (Text.split '/' text).reverse.find? (· ≠ "") = some "."

/-- Whether a slash stands behind the last component of a text that is a path. -/
def endsInSlash (text : String) : Bool :=
  text.toList.getLast? = some '/'

/-- Why no text can be written to a path that asks for a directory. -/
def refuse (tree : FileTree) (path : Path) : Except FileError FileTree := do
  match ← tree.find path with
  | .file _ => throw .notADirectory
  | .directory => throw .isADirectory

/-- Writes a text to the file that a path leads to, by the path as it was written. A path that ends
in a slash or in `.` asks for a directory, which is no place for a text. -/
def create (tree : FileTree) (name text : String) : Except FileError FileTree :=
  let path := Path.ofString name
  if endsInDot name then tree.refuse path
  else if endsInSlash name then tree.refuse { path with parts := path.parts.dropLast }
  else tree.write path text

/-- The leading parts of a list that are not empty. -/
def fronts {α : Type} : List α → List (List α)
  | [] => []
  | a :: rest => [a] :: (fronts rest).map (a :: ·)

/-- Leaves out what equals its neighbour before it. -/
def dropRepeats : List (List String) → List (List String)
  | a :: b :: rest => if a = b then dropRepeats (b :: rest) else a :: dropRepeats (b :: rest)
  | short => short

/-- Everything below a place, by the components from there, in the order of paths. -/
def below (tree : FileTree) (place : Place) : List (List String) :=
  let found := tree.nodes.flatMap fun entry =>
    if isWithin place entry.1 then fronts (entry.1.parts.drop place.parts.length) else []
  dropRepeats (found.mergeSort Path.partsLe)

end FileTree

end CoverAudit
