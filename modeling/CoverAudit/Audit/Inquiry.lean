import CoverAudit.Audit.Validation

/-!
# Questions that may fail

A resolver has an answer to every question. An index has not: whether a class has a member can only
be asked of a name that stands for a class, and to ask it of another name is an error. Here a
validation asks its questions as actions, so that what it asks, and whether that fails, is part of
what it does.

* `Questions`: questions about symbols, as actions of a monad.
* `SymbolIndex.questions`: those of an index. A question about a member is written down, and fails
  when the name stands for no class.
* `check`: a validation that asks such questions.
-/

namespace CoverAudit

/-- Questions about symbols. To ask one may have an effect, such as a failure. -/
structure Questions (m : Type → Type) where
  typeExists : String → m Bool
  isInterface : String → m Bool
  functionExists : String → m Bool
  /-- Whether a class has a member. -/
  memberExists : String → String → m Bool

/-- A question about the members of a name that stands for no class. What is said of it is
`SymbolIndex.unknownType`. -/
structure UnknownType where
  typeName : String
  deriving DecidableEq, Repr

/-- Actions that may ask about a class that is not there. The questions about members are kept, as
class and member, in the order in which they are asked. -/
abbrev Asking (m : Type → Type) : Type → Type :=
  ExceptT UnknownType (StateT (List (String × String)) m)

/-- The questions of an index, with the given knowledge about classes outside of it. -/
def SymbolIndex.questions {m : Type → Type} [Monad m] (index : SymbolIndex)
    (inspect : SymbolIndex.Inspection) : Questions (Asking m) where
  typeExists name := pure (index.typeExists name)
  isInterface name := pure (index.isInterface name)
  functionExists name := pure (index.functionExists name)
  memberExists typeName member := do
    modify (· ++ [(typeName, member)])
    match index.findMemberBy inspect typeName member with
    | some search => return search.holds
    | none => throw ⟨typeName⟩

namespace Inquiry

variable {m n : Type → Type} [Monad n] [MonadLiftT m n]

/-- Settles what targets without a type fall back to, and reports what is wrong with it. -/
def settleDefaultClass (questions : Questions m) (fail : Problem → n Unit)
    (defaultClasses : List String) : n Check.DefaultClass := do
  match defaultClasses with
  | [] => return {}
  | name :: rest =>
    if !rest.isEmpty then
      fail .manyDefaultClasses
    let isValid ← questions.typeExists name
    if !isValid then
      if ← questions.isInterface name then
        fail (.defaultClassIsInterface name)
      else
        fail (.defaultClassMissing name)
    return { name, isValid }

/-- Reports what is wrong with the symbols that a target names. -/
def checkReference (questions : Questions m) (fallback : Check.DefaultClass)
    (fail : Problem → n Unit) (target : String) : n Unit := do
  let ref := Reference.parse target
  let mut typeName := ref.typeName
  let mut isConfirmed := false
  if !typeName.isEmpty then
    if ← questions.typeExists typeName then
      isConfirmed := true
    else if ref.memberName.isEmpty then
      fail (.noSeparator target)
      return
    else if ← questions.isInterface typeName then
      fail (.typeIsInterface typeName)
    else
      fail (.typeMissing typeName)
      return
  else if fallback.name.isEmpty then
    if !(← questions.functionExists ref.memberName) then
      fail (.functionMissing ref.memberName)
  else if fallback.isValid then
    typeName := fallback.name
    isConfirmed := true
  -- The flag is all that keeps the next question from a name that stands for no class.
  if isConfirmed && !ref.memberName.isEmpty then
    if !(← questions.memberExists typeName ref.memberName) then
      fail (.methodMissing typeName ref.memberName)

/-- Reports what is wrong with one target. -/
def checkTarget (questions : Questions m) (fallback : Check.DefaultClass)
    (fail : Problem → n Unit) (target : String) : n Unit := do
  if Text.isBlankText target then
    fail .emptyTarget
    return
  if Check.hasParentheses target.toList then
    fail .parentheses
  checkReference questions fallback fail target

/-- Validates the annotations of a test by asking questions. Returns the violations in the order in
which they are found. -/
def check {m : Type → Type} [Monad m] (questions : Questions m)
    (sink : TestCase → Violation → m Unit) (test : TestCase) (annotations : Annotations) :
    m (List Violation) := do
  let fail := Validation.report sink test
  let validation : StateT (List Violation) m Unit := do
    let fallback ← settleDefaultClass questions fail annotations.defaultClasses
    annotations.covers.forM (checkTarget questions fallback fail)
  let (_, violations) ← validation.run []
  return violations

end Inquiry

end CoverAudit
