import CoverAudit.Docblock

/-!
# Coverage annotations of a test

What one test says about the code it covers: the values of `@coversDefaultClass`, read from the
docblock of its class (or module), and the values of `@covers`, read from its own docblock. Values
declared by markers are added behind those of the docblocks.
-/

namespace CoverAudit

/-- The coverage annotations of one test, as declared. -/
structure Annotations where
  defaultClasses : List String := []
  covers : List String := []
  deriving DecidableEq, Repr, Inhabited

namespace Annotations

/-- The tag, and marker, that names a coverage target. -/
def coversTag : String := "covers"

/-- The tag that names the class of targets without one. -/
def defaultClassTag : String := "coversDefaultClass"

/-- The marker that names the class of targets without one. -/
def defaultClassMarker : String := "covers_default_class"

/-- The default class: the first one declared. -/
def defaultClass (annotations : Annotations) : Option String :=
  annotations.defaultClasses.head?

/-- Whether nothing is declared. -/
def isEmpty (annotations : Annotations) : Bool :=
  annotations.defaultClasses.isEmpty && annotations.covers.isEmpty

/-- The annotations of a test with these docblocks, followed by the values of its markers. -/
def ofDocblocks (classDoc testDoc : Option String)
    (markedDefaultClasses markedCovers : List String) : Annotations where
  defaultClasses := Docblock.valuesOf defaultClassTag classDoc ++ markedDefaultClasses
  covers := Docblock.valuesOf coversTag testDoc ++ markedCovers

end Annotations

end CoverAudit
