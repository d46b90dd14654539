import MetricQuery.Proofs.Compiler.Compilation
import MetricQuery.Proofs.Correction.AppendedReferences
import MetricQuery.Proofs.Sql.Aggregation

/-!
# The aggregation flag — what an answer says of the query that it is made from

A query over the store is flagged as aggregating if the search has found aggregation in the query that
it is made from, and the stage that appends columns leaves such a query as it is. Where the search is
wrong, so is the flag, and a query that is grouped by `GROUP BY ALL` gets columns that change its
groups.
-/

namespace MetricQuery

open MetricQuery.Sql MetricQuery.Correction

/-! ## The stage that appends columns -/

namespace Correction

variable {text : String} {q : Query} {engine : Option Engine} {d : Draft}

theorem appended_of_aggregates (h : q.aggregates = true) : appended true q = q := by
  refine appended_eq_self_iff.2 (appendColumns?_eq_none.2 fun s hs htakes => ?_)
  obtain ⟨-, hcalls, hgrouped⟩ := takesColumns_eq_true.1 htakes
  obtain ⟨own, hown, haggregates⟩ := Query.aggregates_iff.1 h
  obtain rfl : s = own := Option.some.inj (hs.symm.trans hown)
  rw [Select.aggregates, hcalls, hgrouped] at haggregates
  cases haggregates

/-- The stage leaves a query that itself sums up rows as it is, unless the query is misjudged. -/
theorem run_appendColumns_of_aggregatesItself (hread : Query.parse text = .ok q)
    (hitself : q.AggregatesItself) (hjudged : ¬ q.Misjudged) (hdraft : d.read = .ok q) :
    Stage.appendColumns.run engine d = (d.withQuery q, .ok .unchanged) := by
  have hfound := ((Query.aggregates_iff_aggregatesItself hread).2 hjudged).2 hitself
  exact run_appendColumns_of_eq hdraft (appended_of_aggregates hfound)

end Correction

/-! ## The flags -/

variable {q : Query}

theorem Physical.hasAggregation_of_ofRequest {r : LogicalRequest} {s : Schema}
    {made : Option SynthesizedMetric} {p : Physical} (h : ofRequest r s made = .ok p)
    (hread : Query.parse r.sql = .ok q) : p.hasAggregation = q.aggregates := by
  obtain ⟨t, rest, own, physical, warnings, -, hown, -, rfl⟩ := ofRequest_eq_ok h
  obtain rfl : q = own := Except.ok.inj (hread.symm.trans hown)
  rfl

namespace Compiler

variable {c : Compiler} {databaseType : Option String} {schemas : List Schema} {r : Request}
  {out : Compiled}

theorem hasAggregation_of_compileTable {s : Schema} {tableName : String}
    (hread : Query.parse (c.requestText databaseType r) = .ok q)
    (h : c.compileTable databaseType s tableName r = .ok out) :
    out.hasAggregation = q.aggregates := by
  unfold compileTable at h
  simp only at h
  split at h
  · cases h
  · split at h
    · cases h
    · next p hphysical =>
      have hflag := Physical.hasAggregation_of_ofRequest hphysical hread
      -- so that the limited text is not looked into
      generalize c.limited p.sql = limited at h
      rw [← Except.ok.inj h]
      exact hflag

/-- An answer is empty or has the flag of the corrected query. -/
theorem hasAggregation_of_convert (hread : Query.parse (c.requestText databaseType r) = .ok q)
    (h : c.convert databaseType schemas r = .ok out) :
    out = .empty ∨ out.hasAggregation = q.aggregates := by
  unfold convert at h
  split at h
  · cases h
  · split at h
    · exact .inr (hasAggregation_of_compileTable hread h)
    · exact .inl (Except.ok.inj h).symm

end Compiler

/-- What is found out about aggregation in a query that has been read. The search finds aggregation if
the `SELECT` calls an aggregate function outside nested queries, has a `GROUP BY` clause other than
`GROUP BY ALL`, or holds a nested query that calls one. It tells whether the query itself sums up rows
exactly if the query is not misjudged. Whether a query does can be told from the outline of its body;
the search tells queries with one outline apart if it finds nothing but what is nested. Of the queries
that themselves sum up rows columns are appended to misjudged ones only. The flags of a physical query
and of a compiled request say what the search says. -/
theorem aggregation_of_parse {text : String} (hread : Query.parse text = .ok q) :
    (q.aggregates = true ↔ q.FoundOutside ∨ q.CallsNested)
      ∧ ((q.aggregates = true ↔ q.AggregatesItself) ↔ ¬ q.Misjudged)
      ∧ (∀ text' q', Query.parse text' = .ok q' → q'.body.outline = q.body.outline →
        (q'.AggregatesItself ↔ q.AggregatesItself)
        ∧ (q'.aggregates = q.aggregates ↔ q.FoundOutside ∨ (q'.CallsNested ↔ q.CallsNested)))
      ∧ (q.AggregatesItself → ¬ q.Misjudged → ∀ (engine : Option Engine) (d : Draft),
        d.read = .ok q → Stage.appendColumns.run engine d = (d.withQuery q, .ok .unchanged))
      ∧ (∀ (r : LogicalRequest) s made p, r.sql = text → Physical.ofRequest r s made = .ok p →
        p.hasAggregation = q.aggregates)
      ∧ ∀ (c : Compiler) databaseType schemas r out, c.requestText databaseType r = text →
        c.convert databaseType schemas r = .ok out →
        out = .empty ∨ out.hasAggregation = q.aggregates := by
  refine ⟨Query.aggregates_iff_of_parse hread, Query.aggregates_iff_aggregatesItself hread,
    fun text' q' hread' houtline => ?_, fun hitself hjudged engine d hdraft => ?_,
    fun r s made p hsql hphysical => ?_, fun c databaseType schemas r out htext hconvert => ?_⟩
  · exact ⟨Query.aggregatesItself_of_outline houtline,
      Query.aggregates_eq_iff_of_outline hread hread' houtline⟩
  · exact run_appendColumns_of_aggregatesItself hread hitself hjudged hdraft
  · rw [← hsql] at hread
    exact Physical.hasAggregation_of_ofRequest hphysical hread
  · rw [← htext] at hread
    exact Compiler.hasAggregation_of_convert hread hconvert

/-! ## Queries that are misjudged -/

/-- A query that is grouped by the columns in its list. -/
def groupedByAllText : String :=
  "select a from t where b = 1 group by all"

/-- A query with an aggregate call in a query nested in its list. -/
def nestedCallText : String :=
  "select city, (select max(x) from u) as m from t"

/-- The query without the call. -/
def nestedColumnText : String :=
  "select city, (select x from u) as m from t"

/-- What is found in the three queries, and what the first one becomes. -/
theorem searches :
    ((Query.parse groupedByAllText).toOption.any fun q =>
        q.AggregatesItself ∧ q.aggregates = false
          ∧ (appended true q).render = "SELECT a, b FROM t WHERE b = 1 GROUP BY ALL") = true
      ∧ ((Query.parse nestedCallText).toOption.any fun q =>
        ¬ q.AggregatesItself ∧ q.aggregates = true) = true
      ∧ ((Query.parse nestedColumnText).toOption.any fun q =>
        ¬ q.AggregatesItself ∧ q.aggregates = false) = true := by
  decide +kernel

theorem aggregation_of_parse_groupedByAll :
    ∃ q, Query.parse groupedByAllText = .ok q ∧ q.Misjudged ∧ ¬ q.FoundOutside
      ∧ ¬ q.CallsNested := by
  obtain ⟨q, hread, hvalue⟩ := exists_ok_of_any searches.1
  obtain ⟨hitself, hfound, -⟩ := of_decide_eq_true hvalue
  obtain ⟨hsearch, hjudged, -⟩ := aggregation_of_parse hread
  -- the query sums up rows, but nothing is found
  have hmissed : q.aggregates ≠ true := Bool.eq_false_iff.1 hfound
  refine ⟨q, hread, ?_, fun houtside => hmissed (hsearch.2 (.inl houtside)),
    fun hnested => hmissed (hsearch.2 (.inr hnested))⟩
  by_contra hno
  exact hmissed ((hjudged.2 hno).2 hitself)

/-- The search misses `GROUP BY ALL`, and a column is appended that the rows are then grouped by. It
takes the call of a nested query for the query's own, so that what it says changes with that call. -/
theorem search_misjudges :
    (∃ q, Query.parse groupedByAllText = .ok q ∧ q.AggregatesItself ∧ q.aggregates = false
        ∧ (appended true q).render = "SELECT a, b FROM t WHERE b = 1 GROUP BY ALL")
      ∧ (∃ q, Query.parse nestedCallText = .ok q ∧ ¬ q.AggregatesItself ∧ q.aggregates = true)
      ∧ ∃ q, Query.parse nestedColumnText = .ok q ∧ ¬ q.AggregatesItself
        ∧ q.aggregates = false := by
  obtain ⟨hall, hcall, hcolumn⟩ := searches
  obtain ⟨grouped, hgrouped, hmissed⟩ := exists_ok_of_any hall
  obtain ⟨called, hcalled, hfound⟩ := exists_ok_of_any hcall
  obtain ⟨plain, hplain, hnone⟩ := exists_ok_of_any hcolumn
  exact ⟨⟨grouped, hgrouped, of_decide_eq_true hmissed⟩,
    ⟨called, hcalled, of_decide_eq_true hfound⟩, ⟨plain, hplain, of_decide_eq_true hnone⟩⟩

end MetricQuery
