import CoverAudit.Audit.Check

/-!
# Validating the annotations of a test

A check says what is wrong with the annotations of a test. A validation goes through them and acts:
each violation is handed to a sink the moment it is found, and all of them are returned in the end.
It asks a resolver about symbols, which may be an index or anything else that has the answers.

* `Resolver`: answers to questions about symbols.
* `settleDefaultClass`, `checkTarget`: the default class, and one target behind it.
* `check`: all the annotations of a test.
-/

namespace CoverAudit

/-- Answers to questions about symbols. -/
structure Resolver where
  typeExists : String → Bool
  isInterface : String → Bool
  functionExists : String → Bool
  /-- Whether a class has a member. -/
  memberExists : String → String → Bool

namespace SymbolIndex

variable (index : SymbolIndex) (inspect : Inspection)

/-- The answers of an index, with the given knowledge about classes outside of it. -/
def resolver : Resolver where
  typeExists := index.typeExists
  isInterface := index.isInterface
  functionExists := index.functionExists
  memberExists := Check.memberExists index inspect

@[simp] theorem typeExists_resolver :
    (index.resolver inspect).typeExists = index.typeExists := rfl

@[simp] theorem isInterface_resolver :
    (index.resolver inspect).isInterface = index.isInterface := rfl

@[simp] theorem functionExists_resolver :
    (index.resolver inspect).functionExists = index.functionExists := rfl

@[simp] theorem memberExists_resolver :
    (index.resolver inspect).memberExists = Check.memberExists index inspect := rfl

end SymbolIndex

/-- A problem of the annotations of a test. -/
def Problem.violationOf (problem : Problem) (test : TestCase) : Violation :=
  ⟨problem.message, test.identifier⟩

namespace Validation

variable {m : Type → Type} [Monad m]

/-- Settles what targets without a type fall back to, and reports what is wrong with it. -/
def settleDefaultClass (resolver : Resolver) (fail : Problem → m Unit)
    (defaultClasses : List String) : m Check.DefaultClass := do
  match defaultClasses with
  | [] => return {}
  | name :: rest =>
    if !rest.isEmpty then
      fail .manyDefaultClasses
    let isValid := resolver.typeExists name
    if !isValid && resolver.isInterface name then
      fail (.defaultClassIsInterface name)
    else if !isValid then
      fail (.defaultClassMissing name)
    return { name, isValid }

/-- Reports what is wrong with the symbols that a target names. -/
def checkReference (resolver : Resolver) (fallback : Check.DefaultClass) (fail : Problem → m Unit)
    (target : String) : m Unit := do
  let ref := Reference.parse target
  let mut typeName := ref.typeName
  let mut isConfirmed := false
  if !typeName.isEmpty then
    if resolver.typeExists typeName then
      isConfirmed := true
    else if ref.memberName.isEmpty then
      -- Either the class is misspelt, or the `::` of a member is missing.
      fail (.noSeparator target)
      return
    else if resolver.isInterface typeName then
      fail (.typeIsInterface typeName)
    else
      fail (.typeMissing typeName)
      return
  else if fallback.name.isEmpty then
    -- There is no class at all, so the target names a function.
    if !resolver.functionExists ref.memberName then
      fail (.functionMissing ref.memberName)
  else if fallback.isValid then
    typeName := fallback.name
    isConfirmed := true
  if isConfirmed && !ref.memberName.isEmpty &&
      !resolver.memberExists typeName ref.memberName then
    fail (.methodMissing typeName ref.memberName)

/-- Reports what is wrong with one target. -/
def checkTarget (resolver : Resolver) (fallback : Check.DefaultClass) (fail : Problem → m Unit)
    (target : String) : m Unit := do
  if Text.isBlankText target then
    fail .emptyTarget
    return
  if Check.hasParentheses target.toList then
    fail .parentheses
  checkReference resolver fallback fail target

/-- Keeps a violation of a test, and hands it to the sink. -/
def report (sink : TestCase → Violation → m Unit) (test : TestCase) (problem : Problem) :
    StateT (List Violation) m Unit := do
  let violation := problem.violationOf test
  modify (· ++ [violation])
  sink test violation

/-- Validates the annotations of a test. Returns the violations in the order in which they are
found. -/
def check (resolver : Resolver) (sink : TestCase → Violation → m Unit) (test : TestCase)
    (annotations : Annotations) : m (List Violation) := do
  let fail := report sink test
  let validation : StateT (List Violation) m Unit := do
    let fallback ← settleDefaultClass resolver fail annotations.defaultClasses
    annotations.covers.forM (checkTarget resolver fallback fail)
  let (_, violations) ← validation.run []
  return violations

end Validation

end CoverAudit
