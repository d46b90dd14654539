/-!
# Warnings — problems that do not stop the work
-/

namespace MetricQuery

/-- A problem that was met and worked around, and the stage that met it. -/
structure Warning where
  stage : String
  message : String
  deriving DecidableEq, Repr

/-- The warning on one line. -/
def Warning.render (w : Warning) : String :=
  "[" ++ w.stage ++ "] " ++ w.message

end MetricQuery
