import MetricQuery.Proofs.Correction.FailedStages
import MetricQuery.Proofs.Correction.StatementFold
import MetricQuery.Proofs.Engine.NormalForm

/-!
# Wording alone — the words of an engine with and without a pipeline

A text can be put into the words of an engine directly, or by a pipeline that has no other stage.
The one works on a query and prints it, the other on a draft that keeps text and query apart and
goes back to what it has been if the stage fails. Both come to the same text.
-/

namespace MetricQuery.Correction

open MetricQuery.Sql MetricQuery.Engine

/-- The pipeline that puts calls into the words of an engine and does nothing else. -/
def Pipeline.wording : Pipeline :=
  ⟨[.functionNames]⟩

variable {e : Engine} {d : Draft} {q q' far : Query} {err : ParseError} {text : String}

/-! ## Without a pipeline -/

theorem rewordText_of_unreadable (hparse : Query.parse text = .error err) :
    e.rewordText text = text := by
  simp only [rewordText, hparse]

/-- What has been reworded before a formula that cannot be read is not in the text. -/
theorem rewordText_of_failed (hparse : Query.parse text = .ok q)
    (hfar : e.rewordFar q = (far, some err)) : e.rewordText text = text := by
  have hreword : e.reword q = .error err := by rw [reword_eq_outcome, hfar]; rfl
  simp only [rewordText, hparse, hreword]

/-! ## With a pipeline -/

theorem run_functionNames_of_unreadable (hread : d.read = .error err) :
    Stage.functionNames.run (some e) d = (d, .error err) := by
  simp only [Stage.functionNames, Stage.onQuery, hread]

/-- Where the work ends early, the draft has what has been reworded until then. -/
theorem run_functionNames_of_failed (hread : d.read = .ok q)
    (hfar : e.rewordFar q = (far, some err)) :
    Stage.functionNames.run (some e) d = (d.withQuery far, .error err) := by
  simp only [Stage.functionNames, Stage.onQuery, hread, hfar]

theorem run_functionNames_of_reworded (hread : d.read = .ok q)
    (hfar : e.rewordFar q = (q', none)) :
    Stage.functionNames.run (some e) d = Stage.committed (d.withQuery q') := by
  simp only [Stage.functionNames, Stage.onQuery, hread, hfar]

theorem run_wording (engine : Option Engine) (d : Draft) :
    Pipeline.wording.run engine d = Pipeline.runStage engine .functionNames d :=
  Pipeline.runStages_singleton _ _

theorem run_wording_of_error (h : (Stage.functionNames.run (some e) d).2 = .error err) :
    Pipeline.wording.run (some e) d
      = (d, [⟨Stage.functionNames.name, Pipeline.failureMessage err⟩]) := by
  rw [run_wording, Pipeline.runStage_of_error h]
  rfl

theorem run_wording_of_reworded (hread : d.read = .ok q) (hfar : e.rewordFar q = (q', none)) :
    Pipeline.wording.run (some e) d = (⟨q'.render, some q'⟩, []) := by
  have hstage := run_functionNames_of_reworded hread hfar
  rw [run_wording, Pipeline.runStage_of_ok (congrArg Prod.snd hstage), hstage]
  rfl

/-- The words of an engine are the same with and without a pipeline. A text that cannot be read, and
one for which some formula cannot be read, come back as they are from both, however much has been
reworded before: it is in the draft that the stage leaves, and gone from the one that the pipeline
leaves beside a warning. Any other text gives way to that of the reworded query. -/
theorem correct_wording (e : Engine) (text : String) :
    (Pipeline.wording.correct (some e) text).1 = e.rewordText text
      ∧ (∀ err, Query.parse text = .error err → e.rewordText text = text
        ∧ Pipeline.wording.run (some e) (.ofText text)
          = (.ofText text, [⟨Stage.functionNames.name, Pipeline.failureMessage err⟩]))
      ∧ (∀ q far err, Query.parse text = .ok q → e.rewordFar q = (far, some err) →
        e.rewordText text = text
        ∧ Stage.functionNames.run (some e) (.ofText text) = (⟨text, some far⟩, .error err)
        ∧ Pipeline.wording.run (some e) (.ofText text)
          = (.ofText text, [⟨Stage.functionNames.name, Pipeline.failureMessage err⟩]))
      ∧ ∀ q q', Query.parse text = .ok q → e.rewordFar q = (q', none) →
        e.rewordText text = q'.render
        ∧ Pipeline.wording.run (some e) (.ofText text) = (⟨q'.render, some q'⟩, []) := by
  have hunreadable : ∀ err, Query.parse text = .error err → e.rewordText text = text
      ∧ Pipeline.wording.run (some e) (.ofText text)
        = (.ofText text, [⟨Stage.functionNames.name, Pipeline.failureMessage err⟩]) := by
    intro err hparse
    have hstage := run_functionNames_of_unreadable (e := e) (d := .ofText text) hparse
    exact ⟨rewordText_of_unreadable hparse, run_wording_of_error (congrArg Prod.snd hstage)⟩
  have hfailed : ∀ q far err, Query.parse text = .ok q → e.rewordFar q = (far, some err) →
      e.rewordText text = text
      ∧ Stage.functionNames.run (some e) (.ofText text) = (⟨text, some far⟩, .error err)
      ∧ Pipeline.wording.run (some e) (.ofText text)
        = (.ofText text, [⟨Stage.functionNames.name, Pipeline.failureMessage err⟩]) := by
    intro q far err hparse hfar
    have hstage := run_functionNames_of_failed (d := .ofText text) hparse hfar
    exact ⟨rewordText_of_failed hparse hfar, hstage,
      run_wording_of_error (congrArg Prod.snd hstage)⟩
  have hreworded : ∀ q q', Query.parse text = .ok q → e.rewordFar q = (q', none) →
      e.rewordText text = q'.render
      ∧ Pipeline.wording.run (some e) (.ofText text) = (⟨q'.render, some q'⟩, []) := by
    intro q q' hparse hfar
    have hreword : e.reword q = .ok q' := by rw [reword_eq_outcome, hfar]; rfl
    exact ⟨rewordText_of_ok hparse hreword,
      run_wording_of_reworded (d := .ofText text) hparse hfar⟩
  refine ⟨?_, hunreadable, hfailed, hreworded⟩
  -- the text of the run is the first half of each case
  show (Pipeline.wording.run (some e) (.ofText text)).1.text = _
  cases hparse : Query.parse text with
  | error err =>
    obtain ⟨htext, hrun⟩ := hunreadable err hparse
    rw [htext, hrun]
    rfl
  | ok q =>
    rcases hfar : e.rewordFar q with ⟨far, _ | err⟩
    · obtain ⟨htext, hrun⟩ := hreworded q far hparse hfar
      rw [htext, hrun]
    · obtain ⟨htext, -, hrun⟩ := hfailed q far err hparse hfar
      rw [htext, hrun]
      rfl

/-- The year is in capitals already where the formula of the date difference cannot be read. -/
example : ((Query.parse "select year(a), datediff('day', b, all) from t").toOption.map fun q =>
    ((mysql.rewordFar q).1.render, (mysql.rewordFar q).2.isSome))
      = some ("SELECT YEAR(a), datediff('day', b, all) FROM t", true) := by
  decide +kernel

end MetricQuery.Correction
