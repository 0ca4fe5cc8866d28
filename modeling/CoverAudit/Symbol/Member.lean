import CoverAudit.Symbol.Resolve

/-!
# Members of a class

Whether a class has a member: declared in it, or in a class it derives from, directly or through
others. About a base that the index does not hold the surroundings are asked, which may know classes
without their source (`Inspection`). When they do not know it either, the base can not be inspected,
and a member that might come from it is taken to exist.
-/

namespace CoverAudit

/-- What the search for a member found out. -/
inductive MemberSearch where
  | present
  | absent
  /-- Not found, but these bases can not be inspected. -/
  | undecided (bases : List String)
  deriving DecidableEq, Repr

/-- Whether the member is taken to exist. -/
def MemberSearch.holds : MemberSearch → Bool
  | .present => true
  | .absent => false
  | .undecided _ => true

namespace SymbolIndex

/-- What the surroundings know about the members of classes outside the index: whether the class of
a name has a member, or nothing. -/
abbrev Inspection := String → String → Option Bool

/-- The name under which a base that is not in the index is known outside. A base that is neither
declared nor imported in the module of its class is a builtin. -/
def externalName (index : SymbolIndex) (owner : TypeSymbol) (base : String) : String :=
  let target := index.canonical base
  let scope := (owner.module ++ ".").toList
  if !owner.module.isEmpty && target = base && scope.isPrefixOf base.toList then
    String.ofList (base.toList.drop scope.length)
  else target

/-- What the bases of one class contribute: parents to search, and bases that can not be inspected;
`none` when a base outside the index has the member. -/
def inspectBases (index : SymbolIndex) (inspect : Inspection) (member : String)
    (owner : TypeSymbol) : List String → Option (List TypeSymbol × List String)
  | [] => some ([], [])
  | base :: rest =>
    match index.lookup base with
    | some parent =>
      (index.inspectBases inspect member owner rest).map fun (parents, unknown) =>
        (parent :: parents, unknown)
    | none =>
      match inspect (index.externalName owner base) member with
      | some true => none
      | some false => index.inspectBases inspect member owner rest
      | none =>
        (index.inspectBases inspect member owner rest).map fun (parents, unknown) =>
          (parents, base :: unknown)

/-- Searches the classes on `stack` and those they derive from, last found first. `seen` holds the
classes already searched and `unknown` the bases that could not be inspected. -/
def searchFrom (index : SymbolIndex) (inspect : Inspection) (member : String) :
    Nat → List TypeSymbol → List String → List String → MemberSearch
  | _, [], _, unknown => if unknown.isEmpty then .absent else .undecided unknown
  | 0, _ :: _, _, unknown => .undecided unknown
  | fuel + 1, current :: stack, seen, unknown =>
    if seen.contains current.name then index.searchFrom inspect member fuel stack seen unknown
    else if current.methods.contains member then .present
    else
      match index.inspectBases inspect member current current.bases with
      | none => .present
      | some (parents, more) =>
        index.searchFrom inspect member fuel (parents.reverse ++ stack) (current.name :: seen)
          (unknown ++ more)

/-- A bound on the steps of a search: every class is entered once, and is met at most once for each
time it is named as a base. -/
def searchBound (index : SymbolIndex) (start : TypeSymbol) : Nat :=
  start.bases.length + (index.types.toList.flatMap fun entry => entry.2.bases).length + 2

/-- Searches a class for a member, with the given knowledge about classes outside the index. -/
def searchMember (index : SymbolIndex) (inspect : Inspection) (start : TypeSymbol)
    (member : String) : MemberSearch :=
  index.searchFrom inspect member (index.searchBound start) [start] [] []

/-- Searches the class that `typeName` stands for, with the given knowledge about classes outside
the index; `none` when it stands for none. -/
def findMemberBy (index : SymbolIndex) (inspect : Inspection) (typeName member : String) :
    Option MemberSearch :=
  (index.lookup typeName).map fun symbol => index.searchMember inspect symbol member

/-- What is said of a type that the index does not hold. -/
def unknownType (typeName : String) : String :=
  "Type '" ++ typeName ++ "' is not in the symbol index"

end SymbolIndex

end CoverAudit
