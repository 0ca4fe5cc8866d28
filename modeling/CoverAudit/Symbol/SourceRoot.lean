import CoverAudit.Files.SourceFiles
import CoverAudit.Symbol.Declarations

/-!
# Indexing source roots

Builds the symbol index of the code below some source roots. A root is where imports start, so
`pkg/mod.py` below a root is the module `pkg.mod`, and `pkg/__init__.py` the package `pkg`. A root
may also be a single file. Files that can not be read or do not parse are skipped. What a text
parses to is the reader's business.
-/

namespace CoverAudit.SymbolIndex

/-- The module that a source file below a root is, and whether it is a package; `none` for the
`__init__.py` of the root itself. -/
def moduleOf (parts : List String) : Option (String × Bool) :=
  let names := parts.dropLast ++ [Path.stemOf (parts.getLastD "")]
  let isPackage := names.getLastD "" = "__init__"
  let names := if isPackage then names.dropLast else names
  if names.isEmpty then none else some (Text.join '.' names, isPackage)

/-- Adds the module in a file, or says why it is skipped. -/
def addFile (tree : FileTree) (parse : Source.Reader) (index : SymbolIndex) (path : Path)
    (module : String) (isPackage : Bool) : SymbolIndex × List Log.Entry :=
  match tree.readSource parse path with
  | .ok body => (index.addBody module isPackage body, [])
  | .error error => (index, [error.logEntry .index path])

/-- The files that a source root contributes, with their modules, in order. -/
def rootFiles (tree : FileTree) (root : Path) : List (Path × String × Bool) :=
  if tree.isFile root then [(root, root.stem, false)]
  else
    (tree.sourcesBelow root).filterMap fun parts =>
      (moduleOf parts).map fun (module, isPackage) => (root.below parts, module, isPackage)

/-- Adds the modules of some files in order. -/
def addFiles (tree : FileTree) (parse : Source.Reader) (index : SymbolIndex) :
    List (Path × String × Bool) → SymbolIndex × List Log.Entry
  | [] => (index, [])
  | (path, module, isPackage) :: rest =>
    let (index, entries) := index.addFile tree parse path module isPackage
    let (index, more) := addFiles tree parse index rest
    (index, entries ++ more)

/-- Adds the modules of a source root. -/
def addRoot (tree : FileTree) (parse : Source.Reader) (index : SymbolIndex) (root : Path) :
    SymbolIndex × List Log.Entry :=
  if tree.exists? root then index.addFiles tree parse (rootFiles tree root)
  else
    (index, [⟨.warning, .index, "Source root '" ++ root.toString ++ "' does not exist, skipping"⟩])

/-- Adds the modules of some source roots in order. -/
def addRoots (tree : FileTree) (parse : Source.Reader) (index : SymbolIndex) :
    List Path → SymbolIndex × List Log.Entry
  | [] => (index, [])
  | root :: rest =>
    let (index, entries) := index.addRoot tree parse root
    let (index, more) := addRoots tree parse index rest
    (index, entries ++ more)

/-- The symbol index of the code below the source roots. -/
def ofRoots (tree : FileTree) (parse : Source.Reader) (interfaceBases : List String)
    (roots : List Path) : SymbolIndex × List Log.Entry :=
  let (index, entries) := (empty interfaceBases).addRoots tree parse roots
  let summary := "Indexed " ++ ToString.toString index.types.size ++ " types and "
    ++ ToString.toString index.functions.length ++ " functions"
  (index, entries ++ [⟨.debug, .index, summary⟩])

end CoverAudit.SymbolIndex
