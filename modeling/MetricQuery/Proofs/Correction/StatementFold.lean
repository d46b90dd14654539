import MetricQuery.Correction.Pipeline
import MetricQuery.Proofs.Correction.Edits

/-!
# Statement fold — the standard stages as a fold over one query

A draft holds a text and a query, and the stages update the two separately. What a list of standard
stages does is nevertheless a fold over queries: the query that the draft reads as goes through the
stages, and the text is its canonical form from the moment a stage has written it out. Nothing is
assumed of the printer, since a draft keeps the query that it has once read.
-/

namespace MetricQuery.Correction

open MetricQuery.Text MetricQuery.Sql

/-! ## Stages as transformers of queries -/

/-- One of the standard stages. -/
inductive StandardStage where
  | appendColumns
  | keywordCase
  | rowLimit (ceiling : UInt64)
  | functionNames
  deriving DecidableEq, Repr

namespace StandardStage

/-- The stage as the pipeline runs it. -/
def toStage : StandardStage → Stage
  | appendColumns => .appendColumns
  | keywordCase => .keywordCase
  | rowLimit ceiling => .rowLimit ceiling.toNat
  | functionNames => .functionNames

/-- What the stage makes of a query. Only the words of an engine can fail. -/
def transform? (engine : Option Engine) : StandardStage → Query → Except ParseError Query
  | appendColumns, q => .ok ((appendColumns? q).getD q)
  | keywordCase, q => .ok q
  | rowLimit ceiling, q => .ok ((limitRows? ceiling.toNat q).getD q)
  | functionNames, q =>
    match engine with
    | none => .ok q
    | some e => e.reword q

/-- The query after the stage, which is the query before it if the stage fails. -/
def transform (engine : Option Engine) (stage : StandardStage) (q : Query) : Query :=
  match stage.transform? engine q with
  | .ok q' => q'
  | .error _ => q

/-- The warnings of the stage: one if it fails. -/
def warnings (engine : Option Engine) (stage : StandardStage) (q : Query) : List Warning :=
  match stage.transform? engine q with
  | .ok _ => []
  | .error err => [⟨stage.toStage.name, Pipeline.failureMessage err⟩]

/-- Whether the stage asks for the query of a draft. -/
def asksForQuery (engine : Option Engine) : StandardStage → Bool
  | functionNames => engine.isSome
  | _ => true

/-- Whether the stage writes its query out even if it has changed nothing: writing keywords in
capitals does, and so does putting calls into the words of an engine, if that succeeds. -/
def AlwaysWrites (engine : Option Engine) : StandardStage → Query → Prop
  | keywordCase, _ => True
  | functionNames, q => ∃ e q', engine = some e ∧ e.reword q = .ok q'
  | _, _ => False

/-- Whether the stage writes its query out. -/
def Writes (engine : Option Engine) (stage : StandardStage) (q : Query) : Prop :=
  stage.transform engine q ≠ q ∨ stage.AlwaysWrites engine q

end StandardStage

/-- The query after all stages. -/
def foldQuery (engine : Option Engine) : List StandardStage → Query → Query
  | [], q => q
  | stage :: rest, q => foldQuery engine rest (stage.transform engine q)

/-- The warnings of all stages, each on the query that it meets. -/
def foldWarnings (engine : Option Engine) : List StandardStage → Query → List Warning
  | [], _ => []
  | stage :: rest, q =>
    stage.warnings engine q ++ foldWarnings engine rest (stage.transform engine q)

/-- Whether some stage writes out the query that it meets. -/
def SomeWrites (engine : Option Engine) : List StandardStage → Query → Prop
  | [], _ => False
  | stage :: rest, q => stage.Writes engine q ∨ SomeWrites engine rest (stage.transform engine q)

/-! ## One stage on a draft -/

variable {engine : Option Engine} {d : Draft} {q : Query}

/-- What a stage has to do to a draft that reads as `q`: the draft then reads as the transformed
query, and its text is written out or left as it was. -/
structure StandardStage.Follows (engine : Option Engine) (stage : StandardStage) (d : Draft)
    (q : Query) (result : Draft × List Warning) : Prop where
  warnings : result.2 = stage.warnings engine q
  read : result.1.read = .ok (stage.transform engine q)
  written : stage.Writes engine q → result.1.text = (stage.transform engine q).render
  kept : ¬ stage.Writes engine q → result.1.text = d.text

/-- An edit of the query, as a stage. -/
theorem runStage_edit {name : String} {change? : Query → Option Query} (hread : d.read = .ok q) :
    Pipeline.runStage engine ⟨name, fun _ => Stage.edit change?⟩ d
      = match change? q with
        | some q' => ((d.withQuery q').commit, [])
        | none => (d.withQuery q, []) := by
  simp only [Pipeline.runStage, Stage.edit, Stage.onQuery, hread]
  cases change? q <;> rfl

/-- An edit that changes whatever it answers with follows its transformer. -/
theorem follows_edit {stage : StandardStage} (change? : Query → Option Query)
    (hstage : stage.toStage = ⟨stage.toStage.name, fun _ => Stage.edit change?⟩)
    (htransform : ∀ q, stage.transform? engine q = .ok ((change? q).getD q))
    (halways : ¬ stage.AlwaysWrites engine q)
    (hchange : ∀ q', change? q = some q' → q' ≠ q) (hread : d.read = .ok q) :
    stage.Follows engine d q (Pipeline.runStage engine stage.toStage d) := by
  rw [hstage, runStage_edit hread]
  have hwarnings : stage.warnings engine q = [] := by
    simp only [StandardStage.warnings, htransform]
  have hquery : stage.transform engine q = (change? q).getD q := by
    simp only [StandardStage.transform, htransform]
  cases hq : change? q with
  | none =>
    rw [hq, Option.getD_none] at hquery
    -- nothing has changed, and an edit does not write for any other reason
    have hnot : ¬ stage.Writes engine q := by
      rintro (hne | hwrites)
      · exact hne hquery
      · exact halways hwrites
    exact ⟨hwarnings.symm, by rw [hquery]; rfl, fun h => absurd h hnot, fun _ => rfl⟩
  | some q' =>
    rw [hq, Option.getD_some] at hquery
    have hwrites : stage.Writes engine q := .inl (hquery ▸ hchange q' hq)
    exact ⟨hwarnings.symm, by rw [hquery]; rfl, fun _ => by rw [hquery]; rfl,
      fun h => absurd hwrites h⟩

theorem rewordFar_of_reword_ok {e : Engine} {q' : Query} (h : e.reword q = .ok q') :
    e.rewordFar q = (q', none) := by
  unfold Engine.reword at h
  split at h
  · next heq => rw [heq, Except.ok.inj h]
  · cases h

theorem rewordFar_of_reword_error {e : Engine} {err : ParseError} (h : e.reword q = .error err) :
    ∃ q', e.rewordFar q = (q', some err) := by
  unfold Engine.reword at h
  split at h
  · cases h
  · next heq => exact ⟨_, by rw [heq, Except.error.inj h]⟩

theorem transform_functionNames_ok {e : Engine} {q' : Query} (h : e.reword q = .ok q') :
    StandardStage.functionNames.transform (some e) q = q' := by
  simp only [StandardStage.transform, StandardStage.transform?, h]

theorem transform_functionNames_error {e : Engine} {err : ParseError}
    (h : e.reword q = .error err) : StandardStage.functionNames.transform (some e) q = q := by
  simp only [StandardStage.transform, StandardStage.transform?, h]

/-- The words of an engine. A failure is undone, and then nothing is written out. -/
theorem follows_functionNames (hread : d.read = .ok q) :
    StandardStage.functionNames.Follows engine d q
      (Pipeline.runStage engine .functionNames d) := by
  cases engine with
  | none =>
    have hnot : ¬ StandardStage.functionNames.Writes none q := by
      rintro (hne | ⟨e, q', hnone, -⟩)
      · exact hne rfl
      · cases hnone
    exact ⟨rfl, hread, fun h => absurd h hnot, fun _ => rfl⟩
  | some e =>
    cases hreword : e.reword q with
    | ok q' =>
      have hquery := transform_functionNames_ok hreword
      have hrun : Pipeline.runStage (some e) .functionNames d = ((d.withQuery q').commit, []) := by
        simp only [Pipeline.runStage, Stage.functionNames, Stage.onQuery, hread,
          rewordFar_of_reword_ok hreword, Stage.committed]
      rw [hrun]
      refine ⟨?_, by rw [hquery]; rfl, fun _ => by rw [hquery]; rfl,
        fun h => absurd (.inr ⟨e, q', rfl, hreword⟩) h⟩
      simp only [StandardStage.warnings, StandardStage.transform?, hreword]
    | error err =>
      have hquery := transform_functionNames_error hreword
      -- the stage has got as far as `q'` when it fails, and the pipeline goes back to the draft
      obtain ⟨q', hfar⟩ := rewordFar_of_reword_error hreword
      have hrun : Pipeline.runStage (some e) .functionNames d
          = (d, [⟨"function_name", Pipeline.failureMessage err⟩]) := by
        simp only [Pipeline.runStage, Stage.functionNames, Stage.onQuery, hread, hfar]
      have hnot : ¬ StandardStage.functionNames.Writes (some e) q := by
        rintro (hne | ⟨_, q', hsome, hok⟩)
        · exact hne hquery
        · rw [← Option.some.inj hsome, hreword] at hok
          cases hok
      rw [hrun]
      refine ⟨?_, by rw [hquery]; exact hread, fun h => absurd h hnot, fun _ => rfl⟩
      simp only [StandardStage.warnings, StandardStage.transform?, hreword]
      rfl

/-- Every standard stage follows its transformer. -/
theorem follows_runStage (engine : Option Engine) (stage : StandardStage) (hread : d.read = .ok q) :
    stage.Follows engine d q (Pipeline.runStage engine stage.toStage d) := by
  cases stage with
  | appendColumns =>
    exact follows_edit appendColumns? rfl (fun _ => rfl) id
      (fun _ => ne_of_appendColumns?) hread
  | keywordCase =>
    have hrun : Pipeline.runStage engine .keywordCase d = ((d.withQuery q).commit, []) := by
      simp only [Pipeline.runStage, Stage.keywordCase, Stage.onQuery, hread, Stage.committed]
    show StandardStage.Follows _ _ _ _ (Pipeline.runStage engine .keywordCase d)
    rw [hrun]
    exact ⟨rfl, rfl, fun _ => rfl, fun h => absurd (.inr trivial) h⟩
  | rowLimit ceiling =>
    exact follows_edit (limitRows? ceiling.toNat) rfl (fun _ => rfl) id
      (fun _ => ne_of_limitRows? (toNat_le_maxWord ceiling)) hread
  | functionNames => exact follows_functionNames hread

/-! ## A list of stages -/

/-- Stages that write nothing out leave the query as it is. -/
theorem foldQuery_of_not_someWrites {stages : List StandardStage} {q : Query}
    (h : ¬ SomeWrites engine stages q) : foldQuery engine stages q = q := by
  induction stages with
  | nil => rfl
  | cons stage rest ih =>
    rw [SomeWrites, not_or] at h
    have hquery : stage.transform engine q = q := by
      by_contra hne
      exact h.1 (.inl hne)
    rw [hquery] at h
    rw [foldQuery, hquery, ih h.2]

/-- A run over a draft that can be read is the fold over what it reads as. -/
theorem runStages_eq_fold (stages : List StandardStage) (hread : d.read = .ok q) :
    let result := Pipeline.runStages engine (stages.map StandardStage.toStage) d
    result.1.read = .ok (foldQuery engine stages q)
      ∧ result.2 = foldWarnings engine stages q
      ∧ (SomeWrites engine stages q → result.1.text = (foldQuery engine stages q).render)
      ∧ (¬ SomeWrites engine stages q → result.1.text = d.text) := by
  induction stages generalizing d q with
  | nil => exact ⟨hread, rfl, fun h => h.elim, fun _ => rfl⟩
  | cons stage rest ih =>
    -- the rest starts from a draft that reads as the transformed query
    have hstep := follows_runStage engine stage hread
    have ⟨hquery, hwarnings, hwritten, hkept⟩ := ih hstep.read
    refine ⟨hquery, congrArg₂ (· ++ ·) hstep.warnings hwarnings, fun h => ?_, fun h => ?_⟩
    · by_cases hrest : SomeWrites engine rest (stage.transform engine q)
      · exact hwritten hrest
      · -- the last one to write was this stage
        have hhere : stage.Writes engine q := h.resolve_right hrest
        show Draft.text _ = _
        rw [foldQuery, foldQuery_of_not_someWrites hrest, ← hstep.written hhere]
        exact hkept hrest
    · rw [SomeWrites, not_or] at h
      exact (hkept h.2).trans (hstep.kept h.1)

/-- A run over a draft that cannot be read changes nothing. -/
theorem runStages_of_unreadable (stages : List StandardStage) {err : ParseError}
    (hread : d.read = .error err) :
    Pipeline.runStages engine (stages.map StandardStage.toStage) d
      = (d, (stages.filter (StandardStage.asksForQuery engine)).map fun stage =>
          ⟨stage.toStage.name, Pipeline.failureMessage err⟩) := by
  induction stages with
  | nil => rfl
  | cons stage rest ih =>
    -- only the stage that has no engine to work for does not ask for the query
    have hstep : Pipeline.runStage engine stage.toStage d
        = (d, if stage.asksForQuery engine then
            [⟨stage.toStage.name, Pipeline.failureMessage err⟩] else []) := by
      cases stage with
      | functionNames =>
        cases engine <;>
          simp [Pipeline.runStage, StandardStage.toStage, Stage.functionNames, Stage.onQuery,
            StandardStage.asksForQuery, hread]
      | _ =>
        simp [Pipeline.runStage, StandardStage.toStage, Stage.appendColumns, Stage.keywordCase,
          Stage.rowLimit, Stage.edit, Stage.onQuery, StandardStage.asksForQuery, hread]
    rw [List.map_cons, Pipeline.runStages, hstep]
    simp only [ih]
    cases hasks : stage.asksForQuery engine <;> simp [hasks]

/-- What standard stages do to a text, in any order and number. A text that cannot be read comes
back with a warning from each stage that asks for its query. Any other text is folded over as a
query; it comes back in its canonical form if a stage writes it out, and as it was given if none
does. -/
theorem correct_eq_fold (engine : Option Engine) (stages : List StandardStage) (text : String) :
    match Query.parse text with
    | .error err =>
      Pipeline.correct ⟨stages.map StandardStage.toStage⟩ engine text
        = (text, (stages.filter (StandardStage.asksForQuery engine)).map fun stage =>
            ⟨stage.toStage.name, Pipeline.failureMessage err⟩)
    | .ok q =>
      (Pipeline.correct ⟨stages.map StandardStage.toStage⟩ engine text).2
          = foldWarnings engine stages q
        ∧ (SomeWrites engine stages q →
          (Pipeline.correct ⟨stages.map StandardStage.toStage⟩ engine text).1
            = (foldQuery engine stages q).render)
        ∧ (¬ SomeWrites engine stages q →
          (Pipeline.correct ⟨stages.map StandardStage.toStage⟩ engine text).1 = text) := by
  cases hparse : Query.parse text with
  | error err =>
    have hread : (Draft.ofText text).read = .error err := hparse
    show ((Pipeline.runStages engine _ (.ofText text)).1.text,
      (Pipeline.runStages engine _ (.ofText text)).2) = _
    rw [runStages_of_unreadable stages hread]
    rfl
  | ok q =>
    have hread : (Draft.ofText text).read = .ok q := hparse
    exact (runStages_eq_fold stages hread).2

end MetricQuery.Correction
