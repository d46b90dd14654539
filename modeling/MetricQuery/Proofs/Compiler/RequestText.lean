import MetricQuery.Proofs.Compiler.Compilation
import MetricQuery.Proofs.Correction.FixedPoint

/-!
# Request texts — what the text of a request is corrected to

The compiler puts the text of a request into the words of the engine and has it corrected, in the
course of which it is worded once more. Between the two the query is written out and read again.
-/

namespace MetricQuery

open MetricQuery.Sql MetricQuery.Correction

/-- What is answered, warnings aside. -/
def Compiled.content (out : Compiled) : String × Option LogicalTable × Bool :=
  (out.sql, out.logicalTable, out.hasAggregation)

/-- A query in the words of an engine, or as it was if there are no words for it. -/
abbrev Correction.worded (engine : Option Engine) (q : Query) : Query :=
  StandardStage.functionNames.transform engine q

namespace Compiler

variable {engine : Option Engine} {c : Compiler} {ceiling : UInt64} {append : Bool}
  {databaseType : Option String} {r : Request} {q q₁ : Query} {text : String}

/-- The engine of a database type, if there is one. -/
abbrev engine? (c : Compiler) (databaseType : Option String) : Option Engine :=
  (c.engineFor databaseType).1

/-- What the pipeline leaves of a request. -/
def draft (c : Compiler) (databaseType : Option String) (r : Request) : Draft :=
  c.pipeline.draftOf (c.engine? databaseType) (engineText (c.engine? databaseType) r.sql)

theorem text_draft (c : Compiler) (databaseType : Option String) (r : Request) :
    (c.draft databaseType r).text = c.requestText databaseType r := rfl

theorem engineText_of_reword {e : Engine} (h : Query.parse text = .ok q) (hreword : e.reword q = .ok q₁) :
    engineText (some e) text = q₁.render := by
  simp only [engineText, Engine.rewordText, h, hreword]

theorem engineText_of_error {e : Engine} {err : ParseError} (h : Query.parse text = .ok q)
    (hreword : e.reword q = .error err) : engineText (some e) text = text := by
  simp only [engineText, Engine.rewordText, h, hreword]

/-- The text of a query stays as it is, or is that of the query in the words of the engine. -/
theorem engineText_cases (engine : Option Engine) (h : Query.parse text = .ok q) :
    (engineText engine text = text ∧ worded engine q = q) ∨ ∃ e ∈ engine,
      e.reword q = .ok (worded engine q) ∧ engineText engine text = (worded engine q).render := by
  cases engine with
  | none => exact .inl ⟨rfl, rfl⟩
  | some e =>
    cases hreword : e.reword q with
    | error err => exact .inl ⟨engineText_of_error h hreword, transform_functionNames_error hreword⟩
    | ok q' =>
      have hworded : worded (some e) q = q' := transform_functionNames_ok hreword
      refine .inr ⟨e, rfl, by rw [hworded, hreword], ?_⟩
      rw [hworded]
      exact engineText_of_reword h hreword

/-- Between the words of the engine and the pipeline a query is written out and read. -/
theorem parse_engineText (h : Query.parse text = .ok q)
    (hback : ∀ e ∈ engine, ∀ q', e.reword q = .ok q' → Query.parse q'.render = .ok q') :
    Query.parse (engineText engine text) = .ok (worded engine q) := by
  rcases engineText_cases engine h with ⟨htext, hworded⟩ | ⟨e, he, hreword, htext⟩
  · rw [htext, hworded, h]
  · rw [htext]
    exact hback e he _ hreword

theorem eq_worded_of_parse (h : Query.parse text = .ok q)
    (hback : ∀ e ∈ engine, ∀ q', e.reword q = .ok q' →
      ∀ q'', Query.parse q'.render = .ok q'' → q'' = q')
    (hread : Query.parse (engineText engine text) = .ok q₁) : q₁ = worded engine q := by
  rcases engineText_cases engine h with ⟨htext, hworded⟩ | ⟨e, he, hreword, htext⟩
  · rw [htext, h] at hread
    rw [hworded, Except.ok.inj hread]
  · rw [htext] at hread
    exact hback e he _ hreword _ hread

section

variable (hpipeline : c.pipeline = .configured ceiling.toNat append)

include hpipeline

theorem read_draft
    (h : Query.parse (engineText (c.engine? databaseType) r.sql) = .ok q₁) :
    (c.draft databaseType r).read = .ok (corrected (c.engine? databaseType) ceiling append q₁) := by
  rw [draft, hpipeline]
  exact (draftOf_of_parse _ ceiling append h).1

/-- Only what can be read in the words of the engine can be read when it has been corrected. -/
theorem exists_parse_engineText (h : Query.parse (c.requestText databaseType r) = .ok q) :
    ∃ q₁, Query.parse (engineText (c.engine? databaseType) r.sql) = .ok q₁ := by
  cases hread : Query.parse (engineText (c.engine? databaseType) r.sql) with
  | ok q₁ => exact ⟨q₁, rfl⟩
  | error err =>
    have hsame : c.draft databaseType r
        = .ofText (engineText (c.engine? databaseType) r.sql) := by
      rw [draft, hpipeline]
      exact draftOf_of_unreadable _ ceiling append hread
    rw [← text_draft, hsame] at h
    exact absurd (hread.symm.trans h) nofun

end

/-- Whether the statements printed on the way to the corrected request are read back as themselves:
that in the words of the engine, and that of the pipeline. -/
structure PrintsBack (c : Compiler) (databaseType : Option String) (r : Request) : Prop where
  worded : ∀ q, Query.parse r.sql = .ok q → ∀ e ∈ c.engine? databaseType, ∀ q',
    e.reword q = .ok q' → Query.parse q'.render = .ok q'
  corrected : (c.draft databaseType r).ReadsBack

instance (c : Compiler) (databaseType : Option String) (r : Request) :
    Decidable (c.PrintsBack databaseType r) :=
  decidable_of_iff ((∀ q, Query.parse r.sql = .ok q → ∀ e ∈ c.engine? databaseType, ∀ q',
      e.reword q = .ok q' → Query.parse q'.render = .ok q')
    ∧ (c.draft databaseType r).ReadsBack)
  ⟨fun ⟨hworded, hcorrected⟩ => ⟨hworded, hcorrected⟩, fun h => ⟨h.worded, h.corrected⟩⟩

/-- The corrected request is what is read from its text. -/
theorem parse_requestText (hpipeline : c.pipeline = .configured ceiling.toNat append)
    (hback : c.PrintsBack databaseType r) (hread : Query.parse r.sql = .ok q) :
    Query.parse (c.requestText databaseType r)
      = .ok (corrected (c.engine? databaseType) ceiling append
        (Correction.worded (c.engine? databaseType) q)) := by
  rw [← text_draft]
  exact hback.corrected _ (read_draft hpipeline (parse_engineText hread (hback.worded q hread)))

/-- What is answered to a request whose corrected text is read as a query. -/
theorem content_compileTable {s : Schema} {tableName : String} {table : LogicalTable}
    {made : Option SynthesizedMetric}
    (hread : Query.parse (c.requestText databaseType r) = .ok q)
    (htable : c.logicalTable s tableName (q.fields ++ r.selectedFields)
      (c.requestText databaseType r) = (table, made)) :
    (c.compileTable databaseType s tableName r).toOption.map Compiled.content
      = (Physical.attachSource table.name
        (SourceQuery.ofTable (Physical.scopeOf s made q) made table).render
        (q.renameColumns (Physical.fieldNames (Physical.scopeOf s made q) q.fields))).toOption.map
          fun physical => ((c.limited physical.render).1, some table, q.aggregates) := by
  obtain ⟨warnings, hcorrected⟩ : ∃ warnings, c.correctedText (c.engineFor databaseType).1 r.sql
      = (c.requestText databaseType r, warnings) := ⟨_, rfl⟩
  unfold compileTable
  simp only [hcorrected, hread, htable, Physical.ofRequest, Request.toLogical, Physical.ofQuery, bind,
    Except.bind, pure, Except.pure]
  -- what becomes of the warnings is not part of the content
  generalize Physical.attachSource _ _ _ = attached
  cases attached with
  | error err => simp only [Except.toOption, Option.map_none]
  | ok physical => simp only [Except.toOption, Option.map_some, Compiled.content]

end Compiler

end MetricQuery
