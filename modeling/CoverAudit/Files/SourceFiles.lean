import CoverAudit.Files.Tree
import CoverAudit.Log
import CoverAudit.Source.Grammar.Statement

/-!
# Source files of a directory

The source files below a directory, and their parsed content. Files in hidden directories and in
caches are left out; a hidden file is not.
-/

namespace CoverAudit

/-- Why a source file is skipped. -/
inductive SourceError where
  | file (error : FileError)
  | parse (error : Source.ParseError)
  deriving DecidableEq, Repr

/-- The reason in words. -/
def SourceError.message : SourceError → String
  | .file .notFound => "the file does not exist"
  | .file .notADirectory => "a part of the path is not a directory"
  | .file .isADirectory => "the path leads to a directory"
  | .file .undecodable => "the file is not UTF-8 text"
  | .parse .nulCharacter => "the source holds a NUL character"
  | .parse .malformed => "the source does not parse"

/-- The entry for a source file that is skipped. -/
def SourceError.logEntry (part : Log.Part) (path : Path) (error : SourceError) : Log.Entry :=
  ⟨.warning, part, "Skipping '" ++ path.toString ++ "': " ++ error.message⟩

namespace FileTree

/-- Whether a name ends like that of a source file. -/
def hasSourceName (name : String) : Bool :=
  ['.', 'p', 'y'].isSuffixOf name.toList

/-- Whether a directory of this name is left out. -/
def isSkippedDirectory (name : String) : Bool :=
  name.toList.head? = some '.' || name = "__pycache__"

/-- Whether something below a directory, given by its components from there, is a source file to
look at. A directory may be named like one too. -/
def isSourcePath (parts : List String) : Bool :=
  hasSourceName (parts.getLastD "") && !parts.dropLast.any isSkippedDirectory

/-- The source files below a directory, by their components from there, in order. -/
def sourcesBelow (tree : FileTree) (directory : Path) : List (List String) :=
  match tree.locate directory with
  | .ok place => (tree.below place).filter isSourcePath
  | .error _ => []

/-- The content of a source file, parsed by `parse`. -/
def readSource (tree : FileTree) (parse : Source.Reader) (path : Path) :
    Except SourceError (List Source.Stmt) :=
  match tree.read path with
  | .error error => .error (.file error)
  | .ok text =>
    match parse text with
    | .error error => .error (.parse error)
    | .ok body => .ok body

end FileTree

end CoverAudit
