import CoverAudit.Source.Grammar.Statement
import CoverAudit.Symbol.Index

/-!
# Declarations of a module

What a source file adds to the symbol index under its module name: the classes it declares, nested
ones included, its module-level functions, and the names its imports bind. Only statements that
stand directly in the module's body, or in the body of such a class, declare anything.
-/

namespace CoverAudit

/-- What one module declares, in the order of the source. -/
structure Declarations where
  types : List TypeSymbol := []
  functions : List String := []
  aliases : List (String × String) := []
  deriving DecidableEq, Repr

namespace Declarations

/-- The module that a `from` import names, seen from `package`: as many components are left out at
the end as it has dots beyond the first one. `none` when there are not enough. -/
def absoluteModule (package : String) (module : Option String) (level : Nat) : Option String :=
  if level = 0 then module
  else
    let parts := if package.isEmpty then [] else Text.split '.' package
    if parts.length < level - 1 then none
    else
      let named := match module with
        | some name => if name.isEmpty then [] else [name]
        | none => []
      let result := Text.join '.' (parts.take (parts.length - (level - 1)) ++ named)
      if result.isEmpty then none else some result

/-- The names that an import binds in a module, with what they stand for. `import a.b` binds `a`,
and `from a import *` none that is known. -/
def importAliases (module package : String) : Source.Stmt → List (String × String)
  | .importModules modules =>
    modules.map fun imported =>
      match imported.boundAs with
      | some bound => (module ++ "." ++ bound.text, imported.name)
      | none =>
        let top := (Text.split '.' imported.name).headD ""
        (module ++ "." ++ top, top)
  | .importFrom level origin (.listed names) =>
    match absoluteModule package origin level with
    | none => []
    | some origin =>
      names.map fun imported =>
        (module ++ "." ++ imported.bound.text, origin ++ "." ++ imported.name.text)
  | _ => []

/-- The names of the functions that stand directly in a body. -/
def functionNames (body : List Source.Stmt) : List String :=
  body.filterMap fun
    | .function name _ _ => some name.text
    | _ => none

/-- The dotted name of a base, without its type arguments. -/
def baseName? : Source.Expr → Option (List String)
  | .subscript value => value.dottedName?
  | base => base.dottedName?

/-- The class that a declaration describes. -/
def typeSymbol (interfaceBases : List String) (module qualifiedName : String)
    (bases : List Source.Expr) (body : List Source.Stmt) : TypeSymbol :=
  let named := bases.filterMap baseName?
  { name := qualifiedName
    methods := (functionNames body).eraseDups
    bases := named.map fun parts => module ++ "." ++ Text.join '.' parts
    isInterface := named.any fun parts => interfaceBases.contains (parts.getLastD "")
    module }

mutual

/-- The classes that a statement declares in `scope`: a class comes before the classes in its
body. -/
def typesOf (interfaceBases : List String) (module scope : String) :
    Source.Stmt → List TypeSymbol
  | .classDef name bases _ body =>
    typeSymbol interfaceBases module (scope ++ "." ++ name.text) bases body ::
      typesIn interfaceBases module (scope ++ "." ++ name.text) body
  | _ => []

/-- The classes that the statements of a body declare in `scope`, in the order of the source. -/
def typesIn (interfaceBases : List String) (module scope : String) :
    List Source.Stmt → List TypeSymbol
  | [] => []
  | statement :: rest =>
    typesOf interfaceBases module scope statement ++ typesIn interfaceBases module scope rest

end

/-- The package that relative imports of a module start from. -/
def packageOf (module : String) (isPackage : Bool) : String :=
  if isPackage then module else SymbolIndex.parentName module

/-- What the body of a module declares. -/
def ofBody (interfaceBases : List String) (module : String) (isPackage : Bool)
    (body : List Source.Stmt) : Declarations where
  types := typesIn interfaceBases module module body
  functions := (functionNames body).map fun name => module ++ "." ++ name
  aliases := body.flatMap (importAliases module (packageOf module isPackage))

end Declarations

namespace SymbolIndex

/-- Adds what a module declares. -/
def addDeclarations (index : SymbolIndex) (declared : Declarations) : SymbolIndex :=
  let index := declared.types.foldl addType index
  let index := declared.functions.foldl addFunction index
  declared.aliases.foldl (fun index (name, target) => index.addAlias name target) index

/-- Adds what the body of a module declares. -/
def addBody (index : SymbolIndex) (module : String) (isPackage : Bool)
    (body : List Source.Stmt) : SymbolIndex :=
  index.addDeclarations (Declarations.ofBody index.interfaceBases module isPackage body)

/-- Adds a module from its source; a source that does not parse adds nothing. -/
def addModule (index : SymbolIndex) (module source : String) (isPackage : Bool) :
    Except Source.ParseError SymbolIndex :=
  (Source.parse source).map (index.addBody module isPackage)

end SymbolIndex

end CoverAudit
