import MetricQuery.Correction.Pipeline

/-!
# Failed stages — a run without the stages that fail in it

What a stage does, and whether it fails, depends on the draft that it meets. A stage may do anything
to that draft before it fails; the run then goes on from the draft as it has been, the query that was
read included. So a run leaves what is left by the stages alone that do not fail in it, and of the
others it keeps a warning each.
-/

namespace MetricQuery.Correction.Pipeline

open MetricQuery.Sql

/-! ## Where stages fail -/

/-- The draft that the stage at a place meets: what the stages in front of it leave. -/
def metBy (engine : Option Engine) (stages : List Stage) (d : Draft) (i : Nat) : Draft :=
  (runStages engine (stages.take i) d).1

/-- Why the stage at a place fails on the draft that it meets, if it does. -/
def failure? (engine : Option Engine) (stages : List Stage) (d : Draft) (i : Nat) :
    Option ParseError :=
  stages[i]?.bind fun stage =>
    match (stage.run engine (metBy engine stages d i)).2 with
    | .ok _ => none
    | .error err => some err

/-- The stages in front of a place that do not fail, in their order. -/
def keptBefore (engine : Option Engine) (stages : List Stage) (d : Draft) (n : Nat) : List Stage :=
  (List.range n).filterMap fun i =>
    if (failure? engine stages d i).isNone then stages[i]? else none

/-- The stages in front of a place that fail, in their order, each with its error. -/
def failedBefore (engine : Option Engine) (stages : List Stage) (d : Draft) (n : Nat) :
    List (Stage × ParseError) :=
  (List.range n).filterMap fun i =>
    stages[i]?.bind fun stage => (failure? engine stages d i).map fun err => (stage, err)

/-- The warning that is left of a stage that fails. -/
def warningOf (failed : Stage × ParseError) : Warning :=
  ⟨failed.1.name, failureMessage failed.2⟩

variable {engine : Option Engine} {stages : List Stage} {stage : Stage} {d : Draft} {i n : Nat}

/-! ## Stages in a row -/

theorem runStages_append (xs ys : List Stage) (d : Draft) :
    runStages engine (xs ++ ys) d
      = ((runStages engine ys (runStages engine xs d).1).1,
        (runStages engine xs d).2 ++ (runStages engine ys (runStages engine xs d).1).2) := by
  induction xs generalizing d with
  | nil => rfl
  | cons stage rest ih =>
    show ((runStages engine (rest ++ ys) (runStage engine stage d).1).1,
      (runStage engine stage d).2 ++ (runStages engine (rest ++ ys) (runStage engine stage d).1).2) = _
    rw [ih, ← List.append_assoc]
    rfl

theorem runStages_singleton (stage : Stage) (d : Draft) :
    runStages engine [stage] d = runStage engine stage d := by
  show ((runStage engine stage d).1, (runStage engine stage d).2 ++ []) = _
  rw [List.append_nil]

theorem runStage_of_ok {outcome : Outcome} (h : (stage.run engine d).2 = .ok outcome) :
    runStage engine stage d = ((stage.run engine d).1, []) := by
  unfold runStage
  split
  · next heq => rw [heq]
  · next heq =>
    rw [heq] at h
    cases h

/-- Whatever a failing stage has made of the draft is gone. -/
theorem runStage_of_error {err : ParseError} (h : (stage.run engine d).2 = .error err) :
    runStage engine stage d = (d, [warningOf (stage, err)]) := by
  unfold runStage
  split
  · next heq =>
    rw [heq] at h
    cases h
  · next heq =>
    rw [heq] at h
    cases h
    rfl

/-! ## One place further -/

theorem runStages_take_succ (h : stages[n]? = some stage) :
    runStages engine (stages.take (n + 1)) d
      = ((runStage engine stage (metBy engine stages d n)).1,
        (runStages engine (stages.take n) d).2
          ++ (runStage engine stage (metBy engine stages d n)).2) := by
  rw [List.take_add_one, h, Option.toList_some, runStages_append, runStages_singleton]
  rfl

theorem keptBefore_succ (h : stages[n]? = some stage) :
    keptBefore engine stages d (n + 1) = keptBefore engine stages d n
      ++ if (failure? engine stages d n).isNone then [stage] else [] := by
  rw [keptBefore, List.range_succ, List.filterMap_append]
  congr 1
  simp only [List.filterMap_cons, h, List.filterMap_nil]
  cases failure? engine stages d n <;> rfl

theorem failedBefore_succ (h : stages[n]? = some stage) :
    failedBefore engine stages d (n + 1) = failedBefore engine stages d n
      ++ ((failure? engine stages d n).map fun err => (stage, err)).toList := by
  rw [failedBefore, List.range_succ, List.filterMap_append]
  congr 1
  simp only [List.filterMap_cons, h, Option.bind_some, List.filterMap_nil]
  cases failure? engine stages d n <;> rfl

theorem failure?_of_getElem? (h : stages[n]? = some stage) : failure? engine stages d n
    = match (stage.run engine (metBy engine stages d n)).2 with
      | .ok _ => none
      | .error err => some err := by
  rw [failure?, h, Option.bind_some]

/-- Up to every place, the stages that do not fail come without warnings to the draft that all of them
come to, whose warnings are those of the stages that fail. -/
theorem runStages_take (engine : Option Engine) (stages : List Stage) (d : Draft)
    (hn : n ≤ stages.length) :
    (runStages engine (stages.take n) d).1 = (runStages engine (keptBefore engine stages d n) d).1
      ∧ (runStages engine (keptBefore engine stages d n) d).2 = []
      ∧ (runStages engine (stages.take n) d).2
        = (failedBefore engine stages d n).map warningOf := by
  induction n with
  | zero => exact ⟨rfl, rfl, rfl⟩
  | succ n ih =>
    obtain ⟨hdraft, hquiet, hwarnings⟩ := ih (Nat.le_of_succ_le hn)
    have hmet : metBy engine stages d n = (runStages engine (keptBefore engine stages d n) d).1 :=
      hdraft
    have hstage : stages[n]? = some stages[n] := List.getElem?_eq_getElem hn
    rw [runStages_take_succ hstage, keptBefore_succ hstage, failedBefore_succ hstage,
      failure?_of_getElem? hstage]
    cases hrun : (stages[n].run engine (metBy engine stages d n)).2 with
    | ok outcome =>
      -- the stage meets the same draft in both runs
      have hlast : runStages engine (keptBefore engine stages d n ++ [stages[n]]) d
          = ((stages[n].run engine (metBy engine stages d n)).1, []) := by
        rw [runStages_append, ← hmet, runStages_singleton, runStage_of_ok hrun, hquiet]
        rfl
      rw [runStage_of_ok hrun]
      show _ = (runStages engine (keptBefore engine stages d n ++ [stages[n]]) d).1
        ∧ (runStages engine (keptBefore engine stages d n ++ [stages[n]]) d).2 = [] ∧ _
      rw [hlast]
      exact ⟨rfl, rfl, by simp [hwarnings]⟩
    | error err =>
      -- the next stage meets what this one has met
      rw [runStage_of_error hrun]
      show metBy engine stages d n = (runStages engine (keptBefore engine stages d n ++ []) d).1
        ∧ (runStages engine (keptBefore engine stages d n ++ []) d).2 = [] ∧ _
      rw [List.append_nil]
      exact ⟨hmet, hquiet, by simp [hwarnings]⟩

theorem keptBefore_le (engine : Option Engine) (stages : List Stage) (d : Draft) (h : i ≤ n)
    (hn : n ≤ stages.length) :
    keptBefore engine stages d i <+: keptBefore engine stages d n := by
  induction h with
  | refl => exact List.prefix_rfl
  | step _ ih =>
    rw [keptBefore_succ (List.getElem?_eq_getElem hn)]
    exact (ih (Nat.le_of_succ_le hn)).trans (List.prefix_append _ _)

/-- Each stage is either kept or among those that fail. -/
theorem perm_keptBefore_failedBefore (engine : Option Engine) (stages : List Stage) (d : Draft)
    (hn : n ≤ stages.length) :
    List.Perm (keptBefore engine stages d n ++ (failedBefore engine stages d n).map Prod.fst)
      (stages.take n) := by
  induction n with
  | zero => exact .refl _
  | succ n ih =>
    have hstage : stages[n]? = some stages[n] := List.getElem?_eq_getElem hn
    have hprefix := ih (Nat.le_of_succ_le hn)
    rw [keptBefore_succ hstage, failedBefore_succ hstage, List.take_add_one, hstage]
    -- the next stage goes to the end of one of the two lists
    cases failure? engine stages d n with
    | none =>
      simp only [Option.isNone_none, if_true, Option.map_none, Option.toList_none, List.append_nil,
        Option.toList_some, List.append_assoc]
      refine (List.perm_append_comm.append_left _).trans ?_
      rw [← List.append_assoc]
      exact hprefix.append_right _
    | some err =>
      simp only [Option.isNone_some, Bool.false_eq_true, if_false, List.append_nil, Option.map_some,
        Option.toList_some, List.map_append, List.map_cons, List.map_nil, ← List.append_assoc]
      exact hprefix.append_right _

/-- A run comes to the text and to the query that the stages come to which do not fail in it, when they
run without the others; then none of them fails, and each meets the draft that it has met. What is
left of the stages that fail is one warning each, under the name of the stage, in the order of the
stages, and no stage is lost. -/
theorem run_eq_run_kept (p : Pipeline) (engine : Option Engine) (d : Draft) :
    let kept := keptBefore engine p.stages d p.stages.length
    let failed := failedBefore engine p.stages d p.stages.length
    (kept ++ failed.map Prod.fst).Perm p.stages
      ∧ (p.run engine d).1 = (run ⟨kept⟩ engine d).1
      ∧ (p.run engine d).2 = failed.map warningOf
      ∧ (run ⟨kept⟩ engine d).2 = []
      ∧ ∀ i ≤ p.stages.length, metBy engine p.stages d i
        = metBy engine kept d (keptBefore engine p.stages d i).length := by
  obtain ⟨hdraft, hquiet, hwarnings⟩ := runStages_take engine p.stages d (Nat.le_refl _)
  rw [List.take_length] at hdraft hwarnings
  have hperm := perm_keptBefore_failedBefore engine p.stages d (Nat.le_refl _)
  rw [List.take_length] at hperm
  refine ⟨hperm, hdraft, hwarnings, hquiet, fun i hi => ?_⟩
  -- the stages that are kept in front of the place are the first ones of those that are kept
  have hfirst := List.prefix_iff_eq_take.1 (keptBefore_le engine p.stages d hi (Nat.le_refl _))
  rw [metBy, metBy, ← hfirst]
  exact (runStages_take engine p.stages d hi).1

example :
    let truncate : Stage := ⟨"truncate", fun _ _ => Stage.onQuery (.ofText "SELECT") fun q =>
      Stage.committed ((Draft.ofText "SELECT").withQuery q)⟩
    let result := Pipeline.correct ⟨[truncate, .keywordCase]⟩ none "select a from t"
    result.1 = "SELECT a FROM t" ∧ result.2.map Warning.stage = ["truncate"] := by
  decide +kernel

end MetricQuery.Correction.Pipeline
