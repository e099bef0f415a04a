-- SUMMARY: Failures outside the rules of this library.

/-! # Outside causes

Some failures start outside: the system refuses a file, a document does not parse, a container holds
no workbook. What the outside says about them is not kept; each cause is shown by a fixed tag.
-/

namespace MasterData

/-- Where a failure came from. -/
inductive Cause where
  /-- The system refused a file operation. -/
  | system
  /-- A text is no JSON document of the wanted shape. -/
  | json
  /-- A text is no YAML document of the wanted shape. -/
  | yaml
  /-- A file or a sheet in it cannot be taken in. -/
  | container
  deriving DecidableEq

/-- The tag shown for a cause. -/
def Cause.tag : Cause → String
  | system => "<io>"
  | json => "<json>"
  | yaml => "<yaml>"
  | container => "<cause>"

end MasterData
