import MetricQuery.Proofs.Correction.ColumnOrder

/-!
# Stage order — engines for which the stages may run in any order

Appending columns and limiting rows change different clauses, and neither looks at what the other
one changes. An engine without formulas only gives calls other names: the same columns are then to
be appended, in the same order, and the limit is the same number. So any two of the standard stages
commute. A stage that fails would be undone where it stands, but without formulas none does.
-/

namespace MetricQuery

open MetricQuery.Text MetricQuery.Sql MetricQuery.Sql.SyntaxTree

/-! ## Engines without formulas -/

namespace Engine

variable {e : Engine}

theorem rewordNode_of_ne_mysql (h : e ≠ .mysql) (t : SyntaxTree) :
    e.rewordNode t = .ok (e.wordNode t) := by
  rw [rewordNode, wordNode, formulaText?_eq, bind_formulaTree?_of_ne_mysql h]
  rfl

theorem rewords_of_ne_mysql (h : e ≠ .mysql) (t : SyntaxTree) :
    e.Rewords t (t.mapNodes e.wordNode) := by
  induction t using SyntaxTree.induction with
  | node form parts ih =>
    refine rewords_node.2 ⟨parts.map (mapNodes e.wordNode), ?_, ?_⟩
    · rw [List.forall₂_map_right_iff, List.forall₂_same]
      exact ih
    · rw [mapNodes_node]
      exact rewordNode_of_ne_mysql h _

theorem readsFormulasBack_of_ne_mysql (h : e ≠ .mysql) (t : SyntaxTree) :
    e.ReadsFormulasBack t := by
  intro n _ x hx
  unfold formulaMet? at hx
  split at hx
  · rw [bind_formulaTree?_of_ne_mysql h] at hx
    cases hx
  · cases hx

theorem exists_reword_of_ne_mysql (h : e ≠ .mysql) (q : Query) : ∃ q', e.reword q = .ok q' := by
  have hrewords := rewords_of_ne_mysql h q.toTree
  rw [Rewords, tryMapNodes_rewordNode, toTree_mapNodesWith] at hrewords
  rw [reword_eq_outcome]
  generalize e.rewordFar q = far at hrewords
  obtain ⟨far, failed⟩ := far
  cases failed with
  | none => exact ⟨far, rfl⟩
  | some err => cases hrewords

end Engine

namespace Correction

variable {e : Engine} {engine : Option Engine} {q : Query}

/-! ## Two stages -/

theorem columnsToAppend_limited (ceiling : Nat) (q : Query) :
    columnsToAppend (limited ceiling q) = columnsToAppend q := by
  rcases limited_cases ceiling q with ⟨heq, -⟩ | heq
  · rw [heq]
  · rw [heq]
    rfl

theorem appended_limited (ceiling : Nat) (q : Query) :
    appended true (limited ceiling q) = limited ceiling (appended true q) := by
  rw [appended_true, appended_true, limited_withColumns, columnsToAppend_limited]

/-- Of two ceilings the lower one counts, whichever comes first. -/
theorem limited_limited {low high : Nat} (hle : low ≤ high) (hword : high ≤ maxWord) (q : Query) :
    limited low (limited high q) = limited low q ∧ limited high (limited low q) = limited low q := by
  have hraise : ∀ {q : Query}, withinCeiling low q = true → withinCeiling high q = true := by
    intro q h
    obtain ⟨n, hn, hwithin⟩ := withinCeiling_eq_true.1 h
    exact withinCeiling_eq_true.2 ⟨n, hn, Nat.le_trans hwithin hle⟩
  refine ⟨?_, limited_eq_self (hraise (withinCeiling_limited (Nat.le_trans hle hword)))⟩
  by_cases hwithin : withinCeiling high q = true
  · rw [limited_eq_self hwithin]
  · -- the higher limit is written, and then again replaced unless it is the lower one too
    rw [limited_of_over hwithin, limited_of_over (mt hraise hwithin)]
    rcases limited_cases low { q with limit := limitClause high } with ⟨heq, hkept⟩ | heq
    · obtain ⟨n, hn, hn'⟩ := withinCeiling_eq_true.1 hkept
      rw [limitCount?_limitClause hword, Option.some.injEq] at hn
      obtain rfl : low = high := by omega
      exact heq
    · exact heq

theorem limited_comm (a b : UInt64) (q : Query) :
    limited a.toNat (limited b.toNat q) = limited b.toNat (limited a.toNat q) := by
  rcases Nat.le_total a.toNat b.toNat with hle | hle
  · obtain ⟨hfirst, hsecond⟩ := limited_limited hle (toNat_le_maxWord b) q
    rw [hfirst, hsecond]
  · obtain ⟨hfirst, hsecond⟩ := limited_limited hle (toNat_le_maxWord a) q
    rw [hfirst, hsecond]

/-- An edit commutes with putting calls into the words of the engine if it makes of queries that are
each other in these words such queries again. -/
theorem transform_functionNames_comm (hengine : engine ≠ some .mysql) {edit : Query → Query}
    (hedit : ∀ e ≠ Engine.mysql, ∀ q q', e.Rewords q.toTree q'.toTree →
      e.Rewords (edit q).toTree (edit q').toTree) (q : Query) :
    StandardStage.functionNames.transform engine (edit q)
      = edit (StandardStage.functionNames.transform engine q) := by
  cases engine with
  | none => rfl
  | some e =>
    have he : e ≠ .mysql := fun heq => hengine (congrArg some heq)
    obtain ⟨q', hq'⟩ := Engine.exists_reword_of_ne_mysql he q
    rw [transform_functionNames_ok hq']
    exact transform_functionNames_ok
      (Engine.reword_eq_ok.2 (hedit e he q q' (Engine.reword_eq_ok.1 hq')))

theorem appended_functionNames (hengine : engine ≠ some .mysql) (q : Query) :
    StandardStage.functionNames.transform engine (appended true q)
      = appended true (StandardStage.functionNames.transform engine q) := by
  -- the words of the engine leave the columns in their order, so the same ones are appended
  refine transform_functionNames_comm hengine (fun e he q q' h => ?_) q
  have hback := Engine.readsFormulasBack_of_ne_mysql he q.toTree
  rw [appended_true q',
    columnsToAppend_of_keepsOrder hback (Engine.keepsOrder_of_ne_mysql he q.toTree) h]
  exact rewords_appended hback h

theorem limited_functionNames (hengine : engine ≠ some .mysql) (ceiling : Nat) (q : Query) :
    StandardStage.functionNames.transform engine (limited ceiling q)
      = limited ceiling (StandardStage.functionNames.transform engine q) :=
  transform_functionNames_comm hengine (fun _ _ _ _ h => rewords_limited ceiling h) q

theorem transform_comm (hengine : engine ≠ some .mysql) (a b : StandardStage) (q : Query) :
    a.transform engine (b.transform engine q) = b.transform engine (a.transform engine q) := by
  -- keywords are written in capitals by writing out, so that stage leaves the query alone
  cases a with
  | keywordCase => rfl
  | appendColumns =>
    cases b with
    | appendColumns | keywordCase => rfl
    | rowLimit ceiling => exact appended_limited ceiling.toNat q
    | functionNames => exact (appended_functionNames hengine q).symm
  | rowLimit ceiling =>
    cases b with
    | appendColumns => exact (appended_limited ceiling.toNat q).symm
    | keywordCase => rfl
    | rowLimit other => exact limited_comm ceiling other q
    | functionNames => exact (limited_functionNames hengine ceiling.toNat q).symm
  | functionNames =>
    cases b with
    | appendColumns => exact appended_functionNames hengine q
    | keywordCase | functionNames => rfl
    | rowLimit ceiling => exact limited_functionNames hengine ceiling.toNat q

/-! ## All stages -/

theorem foldQuery_eq_foldl (engine : Option Engine) (stages : List StandardStage) (q : Query) :
    foldQuery engine stages q = stages.foldl (fun q stage => stage.transform engine q) q := by
  induction stages generalizing q with
  | nil => rfl
  | cons stage rest ih => exact ih _

theorem foldQuery_perm (hengine : engine ≠ some .mysql) {stages stages' : List StandardStage}
    (h : stages.Perm stages') (q : Query) :
    foldQuery engine stages q = foldQuery engine stages' q := by
  rw [foldQuery_eq_foldl, foldQuery_eq_foldl]
  exact h.foldl_eq' (fun a _ b _ q => transform_comm hengine b a q) q

theorem foldWarnings_eq_nil (hengine : engine ≠ some .mysql) (stages : List StandardStage)
    (q : Query) : foldWarnings engine stages q = [] := by
  have hstage : ∀ (stage : StandardStage) (q : Query), stage.warnings engine q = [] := by
    intro stage q
    cases stage with
    | functionNames =>
      cases engine with
      | none => rfl
      | some e =>
        -- only the formulas of one engine have to be read back, and only this can fail
        obtain ⟨q', hq'⟩ :=
          Engine.exists_reword_of_ne_mysql (fun heq => hengine (congrArg some heq)) q
        simp only [StandardStage.warnings, StandardStage.transform?, hq']
    | _ => rfl
  induction stages generalizing q with
  | nil => rfl
  | cons stage rest ih => rw [foldWarnings, hstage, ih, List.append_nil]

/-- Writing keywords in capitals always writes the query out. -/
theorem someWrites_of_keywordCase {stages : List StandardStage} (h : .keywordCase ∈ stages)
    (q : Query) : SomeWrites engine stages q := by
  induction stages generalizing q with
  | nil => cases h
  | cons stage rest ih =>
    rcases List.mem_cons.1 h with rfl | h
    · exact .inl (.inr trivial)
    · exact .inr (ih h _)

/-- What the stages of the pipeline make of a text, in any order. -/
theorem correct_of_perm (hengine : engine ≠ some .mysql) {ceiling : UInt64}
    {stages : List StandardStage} (h : stages.Perm (configuredStages ceiling true)) (text : String) :
    (Pipeline.correct ⟨stages.map StandardStage.toStage⟩ engine text).1
        = ((Pipeline.standard ceiling.toNat).correct engine text).1
      ∧ (Pipeline.correct ⟨stages.map StandardStage.toStage⟩ engine text).2.Perm
        ((Pipeline.standard ceiling.toNat).correct engine text).2 := by
  have hstandard : Pipeline.standard ceiling.toNat
      = ⟨(configuredStages ceiling true).map StandardStage.toStage⟩ :=
    congrArg Pipeline.mk (@stages_configured ceiling true)
  rw [hstandard]
  cases hread : (Draft.ofText text).read with
  | error err =>
    -- each stage that asks for the query leaves its warning, wherever it stands
    simp only [Pipeline.correct, Pipeline.run, runStages_of_unreadable _ hread, true_and]
    exact (h.filter _).map _
  | ok q =>
    -- both runs write the query out, and end with the same one
    have hkeyword : StandardStage.keywordCase ∈ configuredStages ceiling true := by
      simp [configuredStages]
    obtain ⟨-, hwarnings, hwritten, -⟩ := @runStages_eq_fold engine _ q stages hread
    obtain ⟨-, hwarnings', hwritten', -⟩ :=
      @runStages_eq_fold engine _ q (configuredStages ceiling true) hread
    constructor
    · calc (Pipeline.correct ⟨stages.map StandardStage.toStage⟩ engine text).1
          = (foldQuery engine stages q).render :=
            hwritten (someWrites_of_keywordCase (h.mem_iff.2 hkeyword) q)
        _ = (foldQuery engine (configuredStages ceiling true) q).render := by
            rw [foldQuery_perm hengine h]
        _ = _ := (hwritten' (someWrites_of_keywordCase hkeyword q)).symm
    · have hnil : (Pipeline.correct ⟨stages.map StandardStage.toStage⟩ engine text).2 = [] :=
        hwarnings.trans (foldWarnings_eq_nil hengine stages q)
      have hnil' : (Pipeline.correct ⟨(configuredStages ceiling true).map StandardStage.toStage⟩
          engine text).2 = [] :=
        hwarnings'.trans (foldWarnings_eq_nil hengine (configuredStages ceiling true) q)
      rw [hnil, hnil']

/-- Stages in the order of the pipeline or in another one are standard stages in that order. -/
theorem exists_stages_of_perm {p : Pipeline} {ceiling : UInt64}
    (h : p.stages.Perm (Pipeline.standard ceiling.toNat).stages) :
    ∃ stages : List StandardStage, stages.Perm (configuredStages ceiling true)
      ∧ p = ⟨stages.map StandardStage.toStage⟩ := by
  have hstages : List.Forall₂ (fun (s : Stage) (stage : StandardStage) => s = stage.toStage)
      (Pipeline.standard ceiling.toNat).stages (configuredStages ceiling true) := by
    rw [Pipeline.standard, stages_configured, List.forall₂_map_left_iff, List.forall₂_same]
    exact fun _ _ => rfl
  obtain ⟨stages, hmap, hperm⟩ := List.perm_comp_forall₂ h hstages
  refine ⟨stages, hperm, ?_⟩
  rw [← List.forall₂_map_right_iff (f := StandardStage.toStage), List.forall₂_eq_eq_eq] at hmap
  exact congrArg Pipeline.mk hmap

/-- Unless the engine has formulas, the stages of the pipeline may run in any order: the text comes
out the same, and so do the warnings, up to their order. -/
theorem correct_eq_correct_of_perm (hengine : engine ≠ some .mysql) (ceiling : UInt64)
    {p p' : Pipeline} (hp : p.stages.Perm (Pipeline.standard ceiling.toNat).stages)
    (hp' : p'.stages.Perm (Pipeline.standard ceiling.toNat).stages) (text : String) :
    (p.correct engine text).1 = (p'.correct engine text).1
      ∧ (p.correct engine text).2.Perm (p'.correct engine text).2 := by
  obtain ⟨stages, hstages, rfl⟩ := exists_stages_of_perm hp
  obtain ⟨stages', hstages', rfl⟩ := exists_stages_of_perm hp'
  obtain ⟨htext, hwarnings⟩ := correct_of_perm hengine hstages text
  obtain ⟨htext', hwarnings'⟩ := correct_of_perm hengine hstages' text
  exact ⟨htext.trans htext'.symm, hwarnings.trans hwarnings'.symm⟩

/-- The stages of a pipeline backwards. -/
def Pipeline.backwards (p : Pipeline) : Pipeline :=
  ⟨p.stages.reverse⟩

/-- A text with a call to be renamed, columns to be appended and a limit to be lowered. -/
def yearText : String :=
  "select name from t where year(Day) > 2020 order by cost, Day limit 5000"

/-- Backwards, the call is renamed first and the columns are appended last. -/
theorem correct_backwards_clickhouse :
    ((Pipeline.standard 1000).backwards.correct (some .clickhouse) yearText).1
        = ((Pipeline.standard 1000).correct (some .clickhouse) yearText).1
      ∧ ((Pipeline.standard 1000).backwards.correct (some .clickhouse) yearText).2.Perm
        ((Pipeline.standard 1000).correct (some .clickhouse) yearText).2
      ∧ ((Pipeline.standard 1000).correct (some .clickhouse) yearText).1
        = "SELECT name, cost, Day FROM t WHERE toYear(Day) > 2020 ORDER BY cost, Day LIMIT 1000" := by
  have horder := correct_eq_correct_of_perm (show some Engine.clickhouse ≠ some .mysql by decide) 1000
    (show (Pipeline.standard 1000).backwards.stages.Perm _ from List.reverse_perm _)
    (show (Pipeline.standard 1000).stages.Perm _ from .refl _) yearText
  exact ⟨horder.1, horder.2, by decide +kernel⟩

-- A formula turns the dates of a difference around, and names of one hash are appended as they come.
example : ((Pipeline.standard 1000).backwards.correct (some .mysql)
      "select 1 from t where datediff('day', Aa, BB)").1
    ≠ ((Pipeline.standard 1000).correct (some .mysql)
      "select 1 from t where datediff('day', Aa, BB)").1 := by
  decide +kernel

end Correction

end MetricQuery
