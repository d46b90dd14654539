import MetricQuery.Correction.Stage
import MetricQuery.Warning

/-!
# Pipelines — stages in a row

Every stage works on what the stages before it have left. One that fails is undone and leaves a
warning, so that no later stage sees a trace of it.
-/

namespace MetricQuery.Correction

open MetricQuery.Sql

/-- Stages in the order in which they run. -/
structure Pipeline where
  stages : List Stage

namespace Pipeline

/-- What a warning says of a stage that could not do its work. -/
def failureMessage (err : ParseError) : String :=
  "Unparsable SQL: " ++ err.message

/-- Runs a stage, undoing it if it fails. -/
def runStage (engine : Option Engine) (stage : Stage) (d : Draft) : Draft × List Warning :=
  match stage.run engine d with
  | (d', .ok _) => (d', [])
  | (_, .error err) => (d, [⟨stage.name, failureMessage err⟩])

/-- Runs stages one after the other and gathers their warnings. -/
def runStages (engine : Option Engine) : List Stage → Draft → Draft × List Warning
  | [], d => (d, [])
  | stage :: rest, d =>
    let (d', warnings) := runStage engine stage d
    let (d'', more) := runStages engine rest d'
    (d'', warnings ++ more)

/-- Runs the pipeline over a draft. -/
def run (p : Pipeline) (engine : Option Engine) (d : Draft) : Draft × List Warning :=
  runStages engine p.stages d

/-- The names of the stages. -/
def stageNames (p : Pipeline) : List String :=
  p.stages.map Stage.name

/-- The four stages, of which the first may be left out. -/
def configured (ceiling : Nat) (appendColumns : Bool) : Pipeline :=
  ⟨(if appendColumns then [Stage.appendColumns] else [])
    ++ [.keywordCase, .rowLimit ceiling, .functionNames]⟩

/-- The four stages. -/
def standard (ceiling : Nat) : Pipeline :=
  configured ceiling true

/-- The corrected form of a text, and the warnings on the way to it. -/
def correct (p : Pipeline) (engine : Option Engine) (text : String) : String × List Warning :=
  let (d, warnings) := p.run engine (.ofText text)
  (d.text, warnings)

end Pipeline

end MetricQuery.Correction
