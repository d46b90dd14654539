import MetricQuery.Proofs.Compiler.Compilation

/-!
# Planner warnings — what an answer says about the names of its request

The warnings of an answer are those of the engine, of the corrections, of the model, of the planner
and of the limit, each with the name of its stage. So the warnings under the planner's name are the
planner's, unless a correction goes by that name.
-/

namespace MetricQuery

open MetricQuery.Sql MetricQuery.Correction

/-! ## Warnings of stages -/

/-- What goes wrong in a stage is reported under its name. -/
theorem Correction.Pipeline.stage_of_mem_runStage {engine : Option Engine} {stage : Stage}
    {d : Draft} {w : Warning} (h : w ∈ (runStage engine stage d).2) : w.stage = stage.name := by
  unfold runStage at h
  split at h
  · cases h
  · rw [List.mem_singleton] at h
    rw [h]

theorem Correction.Pipeline.stage_of_mem_runStages {engine : Option Engine} {stages : List Stage}
    {d : Draft} {w : Warning} (h : w ∈ (runStages engine stages d).2) :
    w.stage ∈ stages.map Stage.name := by
  induction stages generalizing d with
  | nil => cases h
  | cons stage rest ih =>
    rcases List.mem_append.1 h with hfirst | hrest
    · rw [stage_of_mem_runStage hfirst]
      exact List.mem_cons_self
    · exact List.mem_cons_of_mem _ (ih hrest)

/-- No correction goes by the name of the planner. -/
theorem Correction.Pipeline.stageName_not_mem_configured (ceiling : Nat) (append : Bool) :
    Physical.stageName ∉ (Pipeline.configured ceiling append).stageNames := by
  cases append with
  | true =>
    show "planner" ∉ ["select_field_append", "keyword_case", "limit", "function_name"]
    decide
  | false =>
    show "planner" ∉ ["keyword_case", "limit", "function_name"]
    decide

namespace Physical

variable {s : Schema} {made : Option SynthesizedMetric} {t : LogicalTable} {q physical : Query}
  {warnings : List Warning}

/-- What the planner has to say about the fields and the table of a query. -/
def queryWarnings (s : Schema) (made : Option SynthesizedMetric) (t : LogicalTable) (q : Query) :
    List Warning :=
  q.fields.flatMap (fieldWarnings (scopeOf s made q))
    ++ if readsTable t.name (q.renameColumns (fieldNames (scopeOf s made q) q.fields)) then []
      else [⟨stageName, "logical table `" ++ t.name ++ "` not found in FROM"⟩]

theorem warnings_of_ofQuery (h : ofQuery s made t q = .ok (physical, warnings)) :
    warnings = queryWarnings s made t q := by
  simp only [ofQuery, bind, Except.bind, pure, Except.pure] at h
  split at h
  · cases h
  · cases h
    rfl

/-- What there is to say about a field is that it is ambiguous or that it is unknown. -/
theorem mem_fieldWarnings {scope : Scope} {field : String} {w : Warning} :
    w ∈ fieldWarnings scope field
      ↔ (scope.resolve field).ambiguous = true
          ∧ w = ⟨stageName, "ambiguous identifier `" ++ field ++ "` resolved by business name"⟩
        ∨ (scope.resolve field).isUnknown = true
          ∧ w = ⟨stageName, "unknown identifier `" ++ field ++ "` passed through"⟩ := by
  by_cases hambiguous : (scope.resolve field).ambiguous = true <;>
    by_cases hunknown : (scope.resolve field).isUnknown = true <;>
      simp [fieldWarnings, hambiguous, hunknown]

theorem stage_of_mem_fieldWarnings {scope : Scope} {field : String} {w : Warning}
    (h : w ∈ fieldWarnings scope field) : w.stage = stageName := by
  rcases mem_fieldWarnings.1 h with ⟨-, rfl⟩ | ⟨-, rfl⟩ <;> rfl

/-- Texts that begin with different letters are different. -/
theorem append_ne_append {start start' : String} {c c' : Char} (h : start.toList.head? = some c)
    (h' : start'.toList.head? = some c') (hne : c ≠ c') (middle middle' rest rest' : String) :
    start ++ middle ++ rest ≠ start' ++ middle' ++ rest' := by
  intro heq
  have hhead := congrArg (fun text => text.toList.head?) heq
  simp only [String.toList_append, List.head?_append, h, h', Option.some_or] at hhead
  exact hne (Option.some.inj hhead)

/-- No warning about a field is the one about the table. -/
theorem ne_of_mem_fieldWarnings {scope : Scope} {field name : String} {w : Warning}
    (h : w ∈ fieldWarnings scope field) :
    w ≠ ⟨stageName, "logical table `" ++ name ++ "` not found in FROM"⟩ := by
  rintro rfl
  have hlogical : "logical table `".toList.head? = some 'l' := by decide
  have hambiguous : "ambiguous identifier `".toList.head? = some 'a' := by decide
  have hunknown : "unknown identifier `".toList.head? = some 'u' := by decide
  rcases mem_fieldWarnings.1 h with ⟨-, heq⟩ | ⟨-, heq⟩
  · exact append_ne_append hlogical hambiguous (by decide) _ _ _ _ (congrArg Warning.message heq)
  · exact append_ne_append hlogical hunknown (by decide) _ _ _ _ (congrArg Warning.message heq)

/-- A warning about a field is about no other one. -/
theorem eq_of_mem_fieldWarnings {scope : Scope} {a b : String} {w : Warning}
    (ha : w ∈ fieldWarnings scope a) (hb : w ∈ fieldWarnings scope b) : a = b := by
  have hambiguous : "ambiguous identifier `".toList.head? = some 'a' := by decide
  have hunknown : "unknown identifier `".toList.head? = some 'u' := by decide
  rcases mem_fieldWarnings.1 ha with ⟨-, rfl⟩ | ⟨-, rfl⟩ <;>
    rcases mem_fieldWarnings.1 hb with ⟨-, heq⟩ | ⟨-, heq⟩ <;>
      replace heq := congrArg Warning.message heq
  · exact (String.append_right_inj _).1 ((String.append_left_inj _).1 heq)
  · exact absurd heq (append_ne_append hambiguous hunknown (by decide) _ _ _ _)
  · exact absurd heq (append_ne_append hunknown hambiguous (by decide) _ _ _ _)
  · exact (String.append_right_inj _).1 ((String.append_left_inj _).1 heq)

end Physical

namespace Compilation

variable {c : Compiler} {databaseType : Option String} {schemas : List Schema} {r : Request}
  {out : Compiled} (k : Compilation c databaseType schemas r out)

/-- What the planner has to say about the request. -/
def plannerWarnings : List Warning :=
  Physical.queryWarnings k.schema k.made k.table k.corrected

theorem ofQuery_eq : Physical.ofQuery k.schema k.made k.table k.corrected
    = .ok (k.physical, k.plannerWarnings) := by
  have hattached := k.attached
  simp only [Physical.ofQuery, bind, Except.bind, pure, Except.pure, hattached]
  rfl

/-- The planner says of a field what there is to say of it if it is a field of the request. -/
theorem mem_plannerWarnings_iff {name : String} {w : Warning}
    (h : w ∈ Physical.fieldWarnings k.scope name) :
    w ∈ k.plannerWarnings ↔ name ∈ k.corrected.fields := by
  rw [plannerWarnings, Physical.queryWarnings, List.mem_append, List.mem_flatMap]
  constructor
  · rintro (⟨field, hfield, hw⟩ | hw)
    · rwa [Physical.eq_of_mem_fieldWarnings h hw]
    · split at hw
      · cases hw
      · exact absurd (List.mem_singleton.1 hw) (Physical.ne_of_mem_fieldWarnings h)
  · exact fun hfield => .inl ⟨name, hfield, h⟩

theorem compileTable_eq {q : Query} (h : c.convert databaseType schemas r = .ok out)
    (hread : Query.parse r.sql = .ok q) (hname : q.tableName? = some k.tableName) :
    c.compileTable databaseType k.schema k.tableName r = .ok out := by
  unfold Compiler.convert at h
  simpa only [hread, k.chosen, hname] using h

/-- The warnings of an answer, stage by stage. -/
theorem warnings_eq (h : c.compileTable databaseType k.schema k.tableName r = .ok out) :
    out.warnings = (c.engineFor databaseType).2
      ++ (c.correctedText (c.engineFor databaseType).1 r.sql).2
      ++ Compiler.emptySchemaWarnings k.schema ++ k.plannerWarnings
      ++ (c.limited k.physical.render).2 := by
  unfold Compiler.compileTable at h
  simp only at h
  split at h
  · cases h
  · next corrected hread =>
    obtain rfl : k.corrected = corrected := Except.ok.inj (k.read.symm.trans hread)
    have hclassified := k.classified
    rw [Compiler.requestText] at hclassified
    split at h
    · cases h
    · next p hphysical =>
      obtain ⟨_, _, q, physical, warnings, htables, hread', hquery, rfl⟩ :=
        Physical.ofRequest_eq_ok hphysical
      obtain ⟨rfl, -⟩ := List.cons.inj htables
      obtain rfl : k.corrected = q := Except.ok.inj (hread.symm.trans hread')
      rw [hclassified] at hquery
      obtain rfl : k.physical = physical :=
        Except.ok.inj (k.attached.symm.trans (Physical.attachSource_of_ofQuery hquery))
      obtain rfl := Physical.warnings_of_ofQuery hquery
      -- so that the limited text is not looked into
      generalize c.limited k.physical.render = limited at h ⊢
      exact (congrArg Compiled.warnings (Except.ok.inj h)).symm

/-- The warnings under the planner's name are the planner's. -/
theorem mem_warnings_iff (h : c.compileTable databaseType k.schema k.tableName r = .ok out)
    (hstages : Physical.stageName ∉ c.pipeline.stageNames) {w : Warning}
    (hstage : w.stage = Physical.stageName) : w ∈ out.warnings ↔ w ∈ k.plannerWarnings := by
  have hengine : w ∉ (c.engineFor databaseType).2 := by
    intro hw
    unfold Compiler.engineFor at hw
    split at hw
    · cases hw
    · split at hw
      · cases hw
      · rw [List.mem_singleton.1 hw] at hstage
        exact absurd (show "engine" = "planner" from hstage) (by decide)
  have hcorrection : w ∉ (c.correctedText (c.engineFor databaseType).1 r.sql).2 := by
    intro hw
    have hname := Pipeline.stage_of_mem_runStages hw
    rw [hstage] at hname
    exact hstages hname
  have hschema : w ∉ Compiler.emptySchemaWarnings k.schema := by
    intro hw
    unfold Compiler.emptySchemaWarnings at hw
    split at hw
    · rw [List.mem_singleton.1 hw] at hstage
      exact absurd (show "schema" = "planner" from hstage) (by decide)
    · cases hw
  have hlimit : w ∉ (c.limited k.physical.render).2 := by
    intro hw
    have hrun : w ∈ (Pipeline.runStage none (.rowLimit c.ceiling)
        (.ofText k.physical.render)).2 := by
      unfold Compiler.limited at hw
      -- so that the run is not looked into
      generalize Pipeline.runStage none _ _ = run at hw ⊢
      exact hw
    have hname := Pipeline.stage_of_mem_runStage hrun
    rw [hstage] at hname
    exact absurd (show "planner" = "limit" from hname) (by decide)
  rw [k.warnings_eq h]
  simp only [List.mem_append, hengine, hcorrection, hschema, hlimit, false_or, or_false]

/-- No warning says that the logical table is missing if it is read. -/
theorem not_mem_warnings_of_readsTable
    (h : c.compileTable databaseType k.schema k.tableName r = .ok out)
    (hstages : Physical.stageName ∉ c.pipeline.stageNames)
    (hreads : Physical.readsTable k.table.name k.renamed = true) (name : String) :
    ⟨Physical.stageName, "logical table `" ++ name ++ "` not found in FROM"⟩ ∉ out.warnings := by
  rw [k.mem_warnings_iff h hstages rfl, plannerWarnings, Physical.queryWarnings]
  have hreads' : Physical.readsTable k.table.name (k.corrected.renameColumns
      (Physical.fieldNames (Physical.scopeOf k.schema k.made k.corrected) k.corrected.fields))
        = true := hreads
  rw [if_pos hreads', List.append_nil, List.mem_flatMap]
  rintro ⟨field, -, hmem⟩
  exact Physical.ne_of_mem_fieldWarnings hmem rfl

end Compilation

end MetricQuery
