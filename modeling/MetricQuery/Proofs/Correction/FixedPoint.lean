import MetricQuery.Proofs.Correction.RewordedQuery
import MetricQuery.Proofs.Correction.StatementFold
import MetricQuery.Proofs.Semantics.Resolution

/-!
# Fixed point — running the pipeline over its own output

Once the pipeline has been over a query, there is nothing left to limit and nothing left to reword.
A column is left to append in one case only: rewording has turned the dates of a date difference
around, so that a reserved column is now referred to first by a spelling that is not recognised as
reserved. The output is a fixed point of the pipeline exactly if that has not happened.
-/

namespace MetricQuery.Correction

open MetricQuery.Text MetricQuery.Sql MetricQuery.Sql.SyntaxTree MetricQuery.Engine

variable {e : Engine} {engine : Option Engine} {q q' : Query} {s s' : Select}

/-- Whether a query filters or sorts by a column to append that bears, letter case aside, the name
of a reserved column. Its spelling is not recognised as that of the reserved column. -/
def MissesReserved (q : Query) : Prop :=
  ∃ s ∈ q.select?, takesColumns s = true ∧ ∃ c ∈ referencedColumns q s,
    isMissing s c = true ∧ lower (referenceName c) ∈ internalColumns

instance (q : Query) : Decidable (MissesReserved q) :=
  inferInstanceAs (Decidable (∃ s ∈ q.select?, takesColumns s = true ∧ ∃ c ∈ referencedColumns q s,
    isMissing s c = true ∧ lower (referenceName c) ∈ internalColumns))

/-- Only names outside ASCII are missed. -/
theorem MissesReserved.exists_not_isAscii (h : MissesReserved q) :
    ∃ s ∈ q.select?, ∃ c ∈ referencedColumns q s, ¬ IsAscii (referenceName c) := by
  obtain ⟨s, hs, -, c, hc, hmissing, hreserved⟩ := h
  refine ⟨s, hs, c, hc, fun hascii => ?_⟩
  rw [lower_of_isAscii hascii] at hreserved
  have hcolumn : internalColumn? (referenceName c) = some (asciiLower (referenceName c)) :=
    internalColumn?_eq_some.2 ⟨hreserved, rfl⟩
  rw [isMissing, hcolumn] at hmissing
  simp at hmissing

/-! ## Rewording a query with nothing to append -/

/-- Rewording makes a column missing only if it is a reserved one in another spelling. -/
theorem missesReserved_of_rewords (hback : e.ReadsFormulasBack q.toTree)
    (hplain : PlainDateDifferences q.toTree) (h : e.Rewords q.toTree q'.toTree)
    (hnone : appendColumns? q = none) (hsome : appendColumns? q' ≠ none) : MissesReserved q' := by
  obtain ⟨q'', hq''⟩ := Option.ne_none_iff_exists'.1 hsome
  obtain ⟨s', hs', htakes, hany, -⟩ := appendColumns?_eq_some.1 hq''
  obtain ⟨c, hc, hmissing⟩ := List.any_eq_true.1 hany
  refine ⟨s', hs', htakes, c, hc, hmissing, ?_⟩
  obtain ⟨s, hs, hrewords⟩ := exists_select?_of_rewords hback h hs'
  have hback' : e.ReadsFormulasBack s.toTree := hback.part (Query.select_mem_clauses hs)
  have hplain' : PlainDateDifferences s.toTree := hplain.part (Query.select_mem_clauses hs)
  -- the name was referred to before, by a reference that needed no appending
  obtain ⟨c₀, hc₀, hsame⟩ := (exists_mem_referencedColumns_iff_of_rewords hback hplain h hs
    hrewords).1 ⟨c, hc, sameName_self _⟩
  have hkept := appendColumns?_eq_none.1 hnone s hs
    (hrewords.takesColumns_eq hback' hplain' ▸ htakes) c₀ hc₀
  have hlower : lower (referenceName c) = lower (referenceName c₀) := by
    simpa [sameName] using hsame
  have hlist : hasName s.fields (referenceName c₀) = false := by
    rw [isMissing, Bool.and_eq_true, Bool.not_eq_true'] at hmissing
    rw [← Bool.not_eq_true, hasName_congr hlower.symm, ← hrewords.hasName_fields_iff hback' hplain',
      hmissing.1]
    simp
  rw [isMissing, hlist, Bool.not_false, Bool.true_and, Option.isNone_eq_false_iff,
    Option.isSome_iff_exists] at hkept
  obtain ⟨column, hcolumn⟩ := hkept
  rw [hlower, lower_of_internalColumn? hcolumn]
  exact mem_internalColumns_of_internalColumn? hcolumn

/-! ## The configured pipeline on queries -/

/-- The stages of the pipeline, of which the first may be left out. -/
def configuredStages (ceiling : UInt64) (append : Bool) : List StandardStage :=
  (if append then [.appendColumns] else []) ++ [.keywordCase, .rowLimit ceiling, .functionNames]

/-- What the pipeline makes of a query. -/
def corrected (engine : Option Engine) (ceiling : UInt64) (append : Bool) (q : Query) : Query :=
  StandardStage.functionNames.transform engine (limited ceiling.toNat (appended append q))

variable {ceiling : UInt64} {append : Bool}

theorem stages_configured : (Pipeline.configured ceiling.toNat append).stages
    = (configuredStages ceiling append).map StandardStage.toStage := by
  cases append <;> rfl

theorem foldQuery_configuredStages :
    foldQuery engine (configuredStages ceiling append) q = corrected engine ceiling append q := by
  cases append <;> rfl

/-- Writing keywords in capitals is among the stages. -/
theorem someWrites_configuredStages : SomeWrites engine (configuredStages ceiling append) q := by
  cases append with
  | false => exact .inl (.inr trivial)
  | true => exact .inr (.inl (.inr trivial))

/-- The words of the engine leave the query as it is or reword its tree. -/
theorem functionNames_cases (engine : Option Engine) (q : Query) :
    StandardStage.functionNames.transform engine q = q
      ∨ ∃ e ∈ engine,
        e.Rewords q.toTree (StandardStage.functionNames.transform engine q).toTree := by
  cases engine with
  | none => exact .inl rfl
  | some e =>
    cases hreword : e.reword q with
    | error err => exact .inl (transform_functionNames_error hreword)
    | ok q' =>
      refine .inr ⟨e, rfl, ?_⟩
      rw [transform_functionNames_ok hreword]
      exact reword_eq_ok.1 hreword

/-- A query in the words of the engine is left as it is by the engine. -/
theorem functionNames_settled (hback : ∀ e ∈ engine, e.ReadsFormulasBack q.toTree) :
    StandardStage.functionNames.transform engine (StandardStage.functionNames.transform engine q)
      = StandardStage.functionNames.transform engine q := by
  rcases functionNames_cases engine q with heq | ⟨e, he, hrewords⟩
  · rw [heq, heq]
  · obtain rfl := Option.mem_def.1 he
    exact transform_functionNames_ok
      (reword_eq_ok.2 (settled_of_rewords (hback e he) hrewords))

/-! ## A second run over a query -/

theorem readsFormulasBack_edited (h : e.ReadsFormulasBack q.toTree) :
    e.ReadsFormulasBack (limited ceiling.toNat (appended append q)).toTree := by
  intro n hn x hx
  rcases mem_exprs_of_limited hn with hn | rfl
  · exact h n (mem_exprs_of_appended hn) x hx
  · cases hx

theorem plainDateDifferences_edited (h : PlainDateDifferences q.toTree) :
    PlainDateDifferences (limited ceiling.toNat (appended append q)).toTree := by
  intro n hn hname
  rcases mem_exprs_of_limited hn with hn | rfl
  · exact h n (mem_exprs_of_appended hn) hname
  · cases hname

/-- The engine changes no more of a list than its items. -/
theorem exists_select?_functionNames (engine : Option Engine) (hs : q.select? = some s) :
    ∃ s', (StandardStage.functionNames.transform engine q).select? = some s'
      ∧ s'.items.length = s.items.length := by
  rcases functionNames_cases engine q with heq | ⟨e, -, hrewords⟩
  · exact ⟨s, by rw [heq, hs], rfl⟩
  · obtain ⟨s', hs', hselect⟩ := (clausewise_rewords e).exists_select? hrewords hs
    exact ⟨s', hs', hselect.items.length_eq.symm⟩

/-- Columns that are appended are still in the list after the run. -/
theorem exists_select?_corrected (engine : Option Engine) (ceiling : UInt64)
    (hs : q.select? = some s) (happend : appendColumns? q = some q') :
    ∃ s', (corrected engine ceiling true q).select? = some s'
      ∧ s.items.length < s'.items.length := by
  obtain ⟨s₀, hs₀, -, hany, rfl⟩ := appendColumns?_eq_some.1 happend
  obtain rfl : s = s₀ := Option.some.inj (hs.symm.trans hs₀)
  obtain ⟨c, hc, hmissing⟩ := List.any_eq_true.1 hany
  have hlonger : 0 < (appendedColumns q s).length :=
    List.length_pos_of_mem (mem_appendedColumns.2 ⟨hc, hmissing⟩)
  have hselect : (limited ceiling.toNat (appended true q)).select?
      = some (s.withItems (s.items ++ appendedColumns q s)) := by
    rw [select?_limited, appended, if_pos rfl, happend]
    rfl
  -- limiting leaves the list alone, and rewording leaves its length
  obtain ⟨s', hs', hlength⟩ := exists_select?_functionNames engine hselect
  rw [Select.items_withItems, List.length_append] at hlength
  exact ⟨s', hs', by omega⟩

/-- A second run changes a query exactly if there is a reserved column that the first run has passed
over and that is not recognised any more. -/
theorem corrected_corrected_iff (hplain : PlainDateDifferences q.toTree)
    (hback : ∀ e ∈ engine, e.ReadsFormulasBack q.toTree) :
    corrected engine ceiling append (corrected engine ceiling append q)
        = corrected engine ceiling append q
      ↔ (append = true → ¬ MissesReserved (corrected engine ceiling append q)) := by
  constructor
  · -- the missed column makes the list longer
    rintro heq rfl ⟨s, hs, htakes, c, hc, hmissing, -⟩
    have hany : (referencedColumns (corrected engine ceiling true q) s).any (isMissing s) = true :=
      List.any_eq_true.2 ⟨c, hc, hmissing⟩
    have happend := appendColumns?_eq_some.2 ⟨s, hs, htakes, hany, rfl⟩
    obtain ⟨s', hs', hlonger⟩ := exists_select?_corrected engine ceiling hs happend
    rw [heq, hs, Option.some.injEq] at hs'
    subst hs'
    omega
  · intro hnot
    have hcases := functionNames_cases engine (limited ceiling.toNat (appended append q))
    -- what the first run has limited keeps to the ceiling
    have hwithin : withinCeiling ceiling.toNat (corrected engine ceiling append q) = true := by
      have hlimited : withinCeiling ceiling.toNat (limited ceiling.toNat (appended append q))
          = true := withinCeiling_limited (toNat_le_maxWord ceiling)
      rcases hcases with heq | ⟨e, -, hrewords⟩
      · rw [corrected, heq, hlimited]
      · rw [← hlimited]
        exact withinCeiling_of_rewords _ hrewords
    have hnone : append = true → appendColumns? (corrected engine ceiling append q) = none := by
      rintro rfl
      have hedited : appendColumns? (limited ceiling.toNat (appended true q)) = none :=
        appendColumns?_limited.2 appendColumns?_appended_true
      rcases hcases with heq | ⟨e, he, hrewords⟩
      · rw [corrected, heq, hedited]
      · by_contra hsome
        exact hnot rfl (missesReserved_of_rewords (readsFormulasBack_edited (hback e he))
          (plainDateDifferences_edited hplain) hrewords hedited hsome)
    have hback' : ∀ e ∈ engine,
        e.ReadsFormulasBack (limited ceiling.toNat (appended append q)).toTree := fun e he =>
      readsFormulasBack_edited (hback e he)
    rw [corrected, appended_eq_self hnone, limited_eq_self hwithin]
    exact functionNames_settled hback'

/-! ## A second run over a text -/

/-- Whether the query of a draft is what is read from its text. -/
def Draft.ReadsBack (d : Draft) : Prop :=
  ∀ q, d.read = .ok q → Query.parse d.text = .ok q

instance (d : Draft) : Decidable d.ReadsBack :=
  inferInstanceAs (Decidable (∀ q, d.read = .ok q → Query.parse d.text = .ok q))

/-- The draft that a pipeline leaves of a text. -/
def Pipeline.draftOf (p : Pipeline) (engine : Option Engine) (text : String) : Draft :=
  (p.run engine (.ofText text)).1

/-- A text that can be read is written out as the corrected query. -/
theorem draftOf_of_parse (engine : Option Engine) (ceiling : UInt64) (append : Bool) {text : String}
    (h : Query.parse text = .ok q) :
    ((Pipeline.configured ceiling.toNat append).draftOf engine text).read
        = .ok (corrected engine ceiling append q)
      ∧ ((Pipeline.configured ceiling.toNat append).draftOf engine text).text
        = (corrected engine ceiling append q).render := by
  have hread : (Draft.ofText text).read = .ok q := h
  rw [Pipeline.draftOf, Pipeline.run, stages_configured, ← foldQuery_configuredStages]
  exact ⟨(runStages_eq_fold _ hread).1,
    (runStages_eq_fold _ hread).2.2.1 someWrites_configuredStages⟩

theorem draftOf_of_unreadable (engine : Option Engine) (ceiling : UInt64) (append : Bool)
    {text : String} {err : ParseError} (h : Query.parse text = .error err) :
    (Pipeline.configured ceiling.toNat append).draftOf engine text = .ofText text := by
  have hread : (Draft.ofText text).read = .error err := h
  rw [Pipeline.draftOf, Pipeline.run, stages_configured, runStages_of_unreadable _ hread]

/-- Correcting a corrected text changes nothing, unless columns are appended and rewording has
brought a reserved column to the front in a spelling that is not recognised. -/
theorem correct_correct_iff (engine : Option Engine) (ceiling : UInt64) (append : Bool)
    (text : String)
    (hplain : ∀ q, Query.parse text = .ok q → PlainDateDifferences q.toTree)
    (hformulas : ∀ q, Query.parse text = .ok q → ∀ e ∈ engine, e.ReadsFormulasBack q.toTree)
    (hfirst : ((Pipeline.configured ceiling.toNat append).draftOf engine text).ReadsBack)
    (hsecond : ((Pipeline.configured ceiling.toNat append).draftOf engine
      ((Pipeline.configured ceiling.toNat append).correct engine text).1).ReadsBack) :
    ((Pipeline.configured ceiling.toNat append).correct engine
          ((Pipeline.configured ceiling.toNat append).correct engine text).1).1
        = ((Pipeline.configured ceiling.toNat append).correct engine text).1
      ↔ (append = true → ∀ q,
        ((Pipeline.configured ceiling.toNat append).draftOf engine text).read = .ok q →
          ¬ MissesReserved q) := by
  have htext : ∀ text, ((Pipeline.configured ceiling.toNat append).correct engine text).1
      = ((Pipeline.configured ceiling.toNat append).draftOf engine text).text := fun _ => rfl
  simp only [htext] at hsecond ⊢
  cases hparse : Query.parse text with
  | error err =>
    have hsame := draftOf_of_unreadable engine ceiling append hparse
    have hread : (Draft.ofText text).read = .error err := hparse
    rw [hsame, show (Draft.ofText text).text = text from rfl, hsame, hread]
    simp [Draft.ofText]
  | ok q =>
    obtain ⟨hread, hwritten⟩ := draftOf_of_parse engine ceiling append hparse
    have hback := hfirst _ hread
    obtain ⟨hread', hwritten'⟩ := draftOf_of_parse engine ceiling append hback
    have hback' := hsecond _ hread'
    -- queries that are read back are told apart by their texts
    have hrender : (corrected engine ceiling append (corrected engine ceiling append q)).render
          = (corrected engine ceiling append q).render
        ↔ corrected engine ceiling append (corrected engine ceiling append q)
          = corrected engine ceiling append q := by
      refine ⟨fun heq => ?_, fun heq => by rw [heq]⟩
      rw [hwritten', heq, ← hwritten, hback] at hback'
      exact (Except.ok.inj hback').symm
    rw [hwritten', hwritten, hread, hrender,
      corrected_corrected_iff (hplain q hparse) (hformulas q hparse)]
    simp only [Except.ok.injEq, forall_eq']

/-- A date difference of columns that are to be appended. -/
def datesText : String :=
  "select a from t where datediff('day', b, c) <= 1"

theorem dates_readBack :
    (∀ q, Query.parse datesText = .ok q →
        PlainDateDifferences q.toTree ∧ Engine.mysql.ReadsFormulasBack q.toTree)
      ∧ ((Pipeline.standard 1000).draftOf (some .mysql) datesText).ReadsBack
      ∧ ((Pipeline.standard 1000).draftOf (some .mysql)
        ((Pipeline.standard 1000).correct (some .mysql) datesText).1).ReadsBack
      ∧ ∀ q, ((Pipeline.standard 1000).draftOf (some .mysql) datesText).read = .ok q →
        ¬ MissesReserved q := by
  decide +kernel

/-- The dates of a difference that are to be appended are appended once. -/
theorem correct_correct_iff_dates :
    ((Pipeline.standard 1000).correct (some .mysql)
        ((Pipeline.standard 1000).correct (some .mysql)
          "select a from t where datediff('day', b, c) <= 1").1).1
      = ((Pipeline.standard 1000).correct (some .mysql)
          "select a from t where datediff('day', b, c) <= 1").1 := by
  obtain ⟨hread, hfirst, hsecond, hmisses⟩ := dates_readBack
  have hformulas : ∀ q, Query.parse datesText = .ok q →
      ∀ e ∈ some Engine.mysql, e.ReadsFormulasBack q.toTree := by
    intro q hparse e he
    obtain rfl := Option.some.inj he
    exact (hread q hparse).2
  exact (correct_correct_iff (some .mysql) 1000 true datesText (fun q hparse => (hread q hparse).1)
    hformulas hfirst hsecond).2 fun _ => hmisses

/-- A reserved column that is also written with a Kelvin sign comes first in the engine's formula,
and the second run appends it. -/
theorem correct_correct_ne :
    (∀ q, Query.parse "select a from t where datediff('day', sys_imp_week, sys_imp_wee\u212a) <= 1"
          = .ok q →
        PlainDateDifferences q.toTree ∧ Engine.mysql.ReadsFormulasBack q.toTree)
      ∧ ((Pipeline.standard 1000).draftOf (some .mysql)
        "select a from t where datediff('day', sys_imp_week, sys_imp_wee\u212a) <= 1").ReadsBack
      ∧ ((Pipeline.standard 1000).draftOf (some .mysql)
        "SELECT a FROM t WHERE DATEDIFF(sys_imp_wee\u212a, sys_imp_week) <= 1 LIMIT 1000").ReadsBack
      ∧ ((Pipeline.standard 1000).correct (some .mysql)
          "select a from t where datediff('day', sys_imp_week, sys_imp_wee\u212a) <= 1").1
        = "SELECT a FROM t WHERE DATEDIFF(sys_imp_wee\u212a, sys_imp_week) <= 1 LIMIT 1000"
      ∧ ((Pipeline.standard 1000).correct (some .mysql)
          "SELECT a FROM t WHERE DATEDIFF(sys_imp_wee\u212a, sys_imp_week) <= 1 LIMIT 1000").1
        = "SELECT a, sys_imp_wee\u212a FROM t "
          ++ "WHERE DATEDIFF(sys_imp_wee\u212a, sys_imp_week) <= 1 LIMIT 1000" := by
  decide +kernel

end MetricQuery.Correction
