import CoverAudit.Source.Identifier

/-!
# Parsed source files

The shape of a source file as far as an audit needs it: imports, classes with their bases and
decorators, functions, assignments, and expressions that stand on their own. Everything else a
file may hold is `other`, and so is every expression whose value no audit looks at.
-/

namespace CoverAudit.Source

/-- An expression. Parentheses around an expression leave no trace. -/
inductive Expr where
  | name (id : String)
  | attribute (value : Expr) (attr : String)
  /-- `value[…]`; the index is dropped. -/
  | subscript (value : Expr)
  /-- A call with its positional arguments; keyword arguments are dropped. -/
  | call (function : Expr) (arguments : List Expr)
  /-- A string that is known from the source alone. -/
  | text (value : String)
  | list (items : List Expr)
  | tuple (items : List Expr)
  | starred (value : Expr)
  | other
  deriving Repr, Inhabited

/-- A module of an `import`, with the name it is bound to if the import gives one. -/
structure ImportedModule where
  name : String
  boundAs : Option Identifier := none
  deriving DecidableEq, Repr

/-- A name of a `from` import, with the name it is bound to if the import gives one. -/
structure ImportedName where
  name : Identifier
  boundAs : Option Identifier := none
  deriving DecidableEq, Repr

/-- The name that a `from` import binds. -/
def ImportedName.bound (imported : ImportedName) : Identifier :=
  imported.boundAs.getD imported.name

/-- What a `from` import takes over from a module. -/
inductive ImportedNames where
  /-- `*` -/
  | all
  | listed (names : List ImportedName)
  deriving DecidableEq, Repr

/-- A statement. -/
inductive Stmt where
  /-- `import a.b, c as d` -/
  | importModules (modules : List ImportedModule)
  /-- `from ..a import b, c as d`, with the number of leading dots. -/
  | importFrom (level : Nat) (module : Option String) (names : ImportedNames)
  | function (name : Identifier) (decorators : List Expr) (body : List Stmt)
  | classDef (name : Identifier) (bases : List Expr) (decorators : List Expr) (body : List Stmt)
  /-- `a = b = value` -/
  | assign (targets : List Expr) (value : Expr)
  | expr (value : Expr)
  | other
  deriving Repr, Inhabited

/-- The dotted name that an expression spells out, as its components: a name, or attributes of a
name. -/
def Expr.dottedName? : Expr → Option (List String)
  | .name id => some [id]
  | .attribute value attr => value.dottedName?.map (· ++ [attr])
  | _ => none

/-- The docstring of a body: its first statement, if that is a string. -/
def docstring? : List Stmt → Option String
  | .expr (.text value) :: _ => some value
  | _ => none

end CoverAudit.Source
