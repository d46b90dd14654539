import MetricQuery.Proofs.Compiler.RequestText
import MetricQuery.Proofs.Correction.ColumnOrder

/-!
# Early wording — a request in the words of the engine before it is corrected

The compiler puts a request into the words of the engine before the pipeline appends columns to it;
the pipeline by itself appends them first. Both ways lead to the same query with columns behind its
list, and these are the same columns exactly if the formulas of the engine leave them in their order.
-/

namespace MetricQuery.Compiler

open MetricQuery.Text MetricQuery.Sql MetricQuery.Sql.SyntaxTree MetricQuery.Correction
  MetricQuery.Engine

variable {engine : Option Engine} {e : Engine} {ceiling : UInt64} {q q' : Query} {text : String}

/-- What the standard pipeline makes of a text. -/
abbrev standardText (engine : Option Engine) (ceiling : UInt64) (text : String) : String :=
  ((Pipeline.standard ceiling.toNat).correct engine text).1

/-- Whether the corrected text is read as the query that it is the text of. -/
abbrev ReadsCorrectedBack (engine : Option Engine) (ceiling : UInt64) (text : String) : Prop :=
  ((Pipeline.standard ceiling.toNat).draftOf engine text).ReadsBack

theorem standardText_eq (engine : Option Engine) (ceiling : UInt64) (h : Query.parse text = .ok q) :
    standardText engine ceiling text = (corrected engine ceiling true q).render :=
  (draftOf_of_parse engine ceiling true h).2

theorem standardText_eq_iff {text' : String} (h : Query.parse text = .ok q)
    (h' : Query.parse text' = .ok q') (hback : ReadsCorrectedBack engine ceiling text)
    (hback' : ReadsCorrectedBack engine ceiling text') :
    standardText engine ceiling text' = standardText engine ceiling text
      ↔ corrected engine ceiling true q' = corrected engine ceiling true q := by
  constructor
  · -- the query of a corrected text is what is read from it
    intro heq
    have hread : Query.parse (standardText engine ceiling text)
        = .ok (corrected engine ceiling true q) := hback _ (draftOf_of_parse engine ceiling true h).1
    have hread' : Query.parse (standardText engine ceiling text')
        = .ok (corrected engine ceiling true q') :=
      hback' _ (draftOf_of_parse engine ceiling true h').1
    rw [heq, hread, Except.ok.injEq] at hread'
    exact hread'.symm
  · intro heq
    rw [standardText_eq engine ceiling h', standardText_eq engine ceiling h, heq]

/-- A query is corrected to the same query before and after it has been put into the words of the
engine, exactly if the columns to append are the same. -/
theorem corrected_reworded_eq_iff (hback : e.ReadsFormulasBack q.toTree)
    (hreword : e.reword q = .ok q') :
    corrected (some e) ceiling true q' = corrected (some e) ceiling true q
      ↔ columnsToAppend q' = (columnsToAppend q).map (mapNodes e.wordNode) := by
  rw [corrected_of_reword hback hreword, corrected_reworded hback hreword]
  refine ⟨fun heq => ?_, fun heq => by rw [heq]⟩
  cases hs' : (Correction.limited ceiling.toNat q').select? with
  | some s' => exact withColumns_injective hs' heq
  | none =>
    -- without a list there are no columns on either side
    rw [select?_limited] at hs'
    have hs : q.select? = none := by
      refine Option.eq_none_iff_forall_ne_some.2 fun s hs => ?_
      obtain ⟨s', hsome, -⟩ := (clausewise_rewords e).exists_select? (reword_eq_ok.1 hreword) hs
      rw [hs'] at hsome
      cases hsome
    rw [columnsToAppend, columnsToAppend, hs, hs']
    rfl

/-- Whether printed statements are read back on both ways to the corrected text: the formulas that are
put in, the query in the words of the engine, and the two corrected texts. -/
structure ReadsWordingsBack (engine : Option Engine) (ceiling : UInt64) (text : String) : Prop where
  formulas : ∀ q, Query.parse text = .ok q → ∀ e ∈ engine, e.ReadsFormulasBack q.toTree
  worded : ∀ q, Query.parse text = .ok q → ∀ e ∈ engine, ∀ q', e.reword q = .ok q' →
    Query.parse q'.render = .ok q'
  direct : ReadsCorrectedBack engine ceiling text
  early : ReadsCorrectedBack engine ceiling (engineText engine text)

instance (engine : Option Engine) (ceiling : UInt64) (text : String) :
    Decidable (ReadsWordingsBack engine ceiling text) :=
  decidable_of_iff ((∀ q, Query.parse text = .ok q → ∀ e ∈ engine, e.ReadsFormulasBack q.toTree)
    ∧ (∀ q, Query.parse text = .ok q → ∀ e ∈ engine, ∀ q', e.reword q = .ok q' →
      Query.parse q'.render = .ok q')
    ∧ ReadsCorrectedBack engine ceiling text
    ∧ ReadsCorrectedBack engine ceiling (engineText engine text))
  ⟨fun ⟨hformulas, hworded, hdirect, hearly⟩ => ⟨hformulas, hworded, hdirect, hearly⟩,
    fun h => ⟨h.formulas, h.worded, h.direct, h.early⟩⟩

theorem ReadsWordingsBack.parse_engineText (hback : ReadsWordingsBack (some e) ceiling text)
    (hread : Query.parse text = .ok q) (hreword : e.reword q = .ok q') :
    Query.parse (engineText (some e) text) = .ok q' := by
  rw [engineText_of_reword hread hreword]
  exact hback.worded q hread e rfl q' hreword

/-- The pipeline makes the same query of a text and of the text in the words of the engine, but for the
columns behind the list. It appends them as they are in the one text and in the other, so that the two
corrected texts are the same exactly if these columns are the same and come in the same order. Engines
without formulas leave them so, and so does any engine where each formula shows what the date
difference has shown; and both texts get the same names but for reserved columns, letter case aside. -/
theorem standardText_engineText_eq_iff (engine : Option Engine) (ceiling : UInt64)
    (hread : Query.parse text = .ok q) (hback : ReadsWordingsBack engine ceiling text) :
    (standardText engine ceiling (engineText engine text) = standardText engine ceiling text
        ↔ ∀ e ∈ engine, ∀ q', e.reword q = .ok q' →
          columnsToAppend q' = (columnsToAppend q).map (mapNodes e.wordNode))
      ∧ ((∀ e ∈ engine, e = .mysql → e.KeepsOrder q.toTree) →
        standardText engine ceiling (engineText engine text) = standardText engine ceiling text)
      ∧ ∀ e ∈ engine, ∀ q', e.reword q = .ok q' →
        standardText engine ceiling text = ((Correction.limited ceiling.toNat q').withColumns
            ((columnsToAppend q).map (mapNodes e.wordNode))).render
          ∧ standardText engine ceiling (engineText engine text)
            = ((Correction.limited ceiling.toNat q').withColumns (columnsToAppend q')).render
          ∧ (PlainDateDifferences q.toTree → ∀ name, lower name ∉ internalColumns →
            hasName ((columnsToAppend q').map referenceName) name
              = hasName ((columnsToAppend q).map referenceName) name) := by
  have hiff : standardText engine ceiling (engineText engine text) = standardText engine ceiling text
      ↔ ∀ e ∈ engine, ∀ q', e.reword q = .ok q' →
        columnsToAppend q' = (columnsToAppend q).map (mapNodes e.wordNode) := by
    cases engine with
    | none => simp [engineText]
    | some e =>
      simp only [Option.mem_def, Option.some.injEq, forall_eq']
      cases hreword : e.reword q with
      | error err =>
        -- the text stays as it is
        rw [engineText_of_error hread hreword]
        simp
      | ok q' =>
        -- the pipeline begins with the one query or with the other one
        rw [standardText_eq_iff hread (hback.parse_engineText hread hreword) hback.direct hback.early,
          corrected_reworded_eq_iff (hback.formulas q hread e rfl) hreword]
        simp only [Except.ok.injEq, forall_eq']
  refine ⟨hiff, fun hkeeps => hiff.2 fun e he q' hreword => ?_, fun e he q' hreword => ?_⟩
  · have hkept : e.KeepsOrder q.toTree := by
      by_cases hmysql : e = .mysql
      · exact hkeeps e he hmysql
      · exact keepsOrder_of_ne_mysql hmysql _
    exact columnsToAppend_of_keepsOrder (hback.formulas q hread e he) hkept
      (reword_eq_ok.1 hreword)
  · obtain rfl := Option.mem_def.1 he
    have hformulas : e.ReadsFormulasBack q.toTree := hback.formulas q hread e rfl
    refine ⟨?_, ?_, fun hplain name hname => ?_⟩
    · rw [standardText_eq _ _ hread, corrected_of_reword hformulas hreword]
    · rw [standardText_eq _ _ (hback.parse_engineText hread hreword),
        corrected_reworded hformulas hreword]
    · exact hasName_columnsToAppend_of_rewords hformulas hplain (reword_eq_ok.1 hreword) hname

/-- A date difference of a column and a text. -/
def dateText : String :=
  "select 1 from t where datediff('day', a, '1')"

theorem standardText_engineText_date : ReadsWordingsBack (some .mysql) 1000 dateText
    ∧ standardText (some .mysql) 1000 dateText
      = "SELECT 1, a FROM t WHERE DATEDIFF('1', a) LIMIT 1000"
    ∧ standardText (some .mysql) 1000 (engineText (some .mysql) dateText)
      = standardText (some .mysql) 1000 dateText := by
  obtain ⟨hok, hback, hkeeps, hdirect⟩ : (Query.parse dateText).isOk = true
      ∧ ReadsWordingsBack (some .mysql) 1000 dateText
      ∧ (∀ q, Query.parse dateText = .ok q → mysql.KeepsOrder q.toTree)
      ∧ standardText (some .mysql) 1000 dateText
        = "SELECT 1, a FROM t WHERE DATEDIFF('1', a) LIMIT 1000" := by
    decide +kernel
  cases hread : Query.parse dateText with
  | error err =>
    rw [hread] at hok
    cases hok
  | ok q =>
    have hkept : ∀ e ∈ some mysql, e = .mysql → e.KeepsOrder q.toTree := by
      rintro e - rfl
      exact hkeeps q hread
    exact ⟨hback, hdirect, (standardText_engineText_eq_iff _ _ hread hback).2.1 hkept⟩

/-- A date difference of two columns whose names have the same hash. -/
def collidingText : String :=
  "select 1 from t where datediff('day', Aa, BB)"

/-- The columns are appended in the order in which the one text and the other one come to them. -/
theorem standardText_engineText_ne : (Query.parse collidingText).isOk = true
    ∧ ReadsWordingsBack (some .mysql) 1000 collidingText
    ∧ standardText (some .mysql) 1000 collidingText
      = "SELECT 1, Aa, BB FROM t WHERE DATEDIFF(BB, Aa) LIMIT 1000"
    ∧ standardText (some .mysql) 1000 (engineText (some .mysql) collidingText)
      = "SELECT 1, BB, Aa FROM t WHERE DATEDIFF(BB, Aa) LIMIT 1000"
    ∧ standardText (some .mysql) 1000 (engineText (some .mysql) collidingText)
      ≠ standardText (some .mysql) 1000 collidingText := by
  obtain ⟨hok, hback, hdirect, hearly⟩ : (Query.parse collidingText).isOk = true
      ∧ ReadsWordingsBack (some .mysql) 1000 collidingText
      ∧ standardText (some .mysql) 1000 collidingText
        = "SELECT 1, Aa, BB FROM t WHERE DATEDIFF(BB, Aa) LIMIT 1000"
      ∧ standardText (some .mysql) 1000 (engineText (some .mysql) collidingText)
        = "SELECT 1, BB, Aa FROM t WHERE DATEDIFF(BB, Aa) LIMIT 1000" := by
    decide +kernel
  refine ⟨hok, hback, hdirect, hearly, ?_⟩
  rw [hdirect, hearly]
  decide

end MetricQuery.Compiler
