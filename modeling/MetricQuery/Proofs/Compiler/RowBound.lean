import MetricQuery.Proofs.Compiler.RequestText
import MetricQuery.Proofs.Compiler.TableReferences

/-!
# Row bound — the limit of whatever is compiled

The pipeline limits a query to the ceiling, or to fewer rows if the query asks for fewer by a number.
No later step changes that limit: the words of the engine keep it, renaming columns does not touch
it, the derived table stands elsewhere, and the second limit finds nothing to do.
-/

namespace MetricQuery

open MetricQuery.Sql MetricQuery.Correction MetricQuery.Text

/-! ## Limits -/

/-- Whether a query is limited to an integer literal that fits a machine word. -/
def Sql.Query.IsLimitedTo (q : Query) (n : Nat) : Prop :=
  ∃ text long parts, q.limitExpr? = some (.expr (.literal (.number text long)) parts)
    ∧ IsDecimal text n ∧ n < UInt64.size

theorem Sql.Query.limitCount?_eq_some {q : Query} {n : Nat} :
    q.limitCount? = some n ↔ q.IsLimitedTo n := by
  have hword (n : Nat) : n ≤ maxWord ↔ n < UInt64.size := Nat.lt_succ_iff.symm
  rw [limitCount?, Option.bind_eq_some_iff]
  constructor
  · rintro ⟨t, ht, hcount⟩
    unfold literalCount? at hcount
    split at hcount
    · next text long parts =>
      obtain ⟨hdecimal, hle⟩ := readWord?_eq_some.1 hcount
      exact ⟨text, long, parts, ht, hdecimal, (hword n).1 hle⟩
    · cases hcount
  · rintro ⟨text, long, parts, ht, hdecimal, hlt⟩
    exact ⟨_, ht, readWord?_eq_some.2 ⟨hdecimal, (hword n).2 hlt⟩⟩

/-! ## The pipeline -/

namespace Correction

variable {engine : Option Engine} {ceiling : UInt64} {append : Bool} {q q' : Query}

/-- The number of rows that a query is to be limited to: the ceiling, or what the query says if that
is a smaller number. -/
def rowBound (ceiling : Nat) (q : Query) : Nat :=
  q.limitCount?.elim ceiling (min · ceiling)

theorem rowBound_le (ceiling : Nat) (q : Query) : rowBound ceiling q ≤ ceiling := by
  unfold rowBound
  cases q.limitCount? with
  | none => exact Nat.le_refl _
  | some n => exact Nat.min_le_right _ _

theorem rowBound_congr (h : q'.limitCount? = q.limitCount?) (ceiling : Nat) :
    rowBound ceiling q' = rowBound ceiling q := by
  rw [rowBound, rowBound, h]

/-- Whether the second query is limited to the ceiling, or to the number that the first one is limited
to if that is a smaller one. -/
def KeepsBound (ceiling : Nat) (q q' : Query) : Prop :=
  (∀ n, q.IsLimitedTo n → q'.IsLimitedTo (min n ceiling))
    ∧ ((∀ n, ¬ q.IsLimitedTo n) → q'.IsLimitedTo ceiling)

theorem keepsBound_of_limitCount? {ceiling : Nat}
    (h : q'.limitCount? = some (rowBound ceiling q)) : KeepsBound ceiling q q' := by
  unfold rowBound at h
  constructor
  · intro n hn
    rw [← Query.limitCount?_eq_some] at hn
    rw [hn] at h
    exact Query.limitCount?_eq_some.1 h
  · intro hnone
    have hcount : q.limitCount? = none :=
      Option.eq_none_iff_forall_ne_some.2 fun n hn => hnone n (Query.limitCount?_eq_some.1 hn)
    rw [hcount] at h
    exact Query.limitCount?_eq_some.1 h

theorem limitCount?_limited (q : Query) (ceiling : UInt64) :
    (limited ceiling.toNat q).limitCount? = some (rowBound ceiling.toNat q) := by
  have hclause := limitCount?_limitClause (q := q) (toNat_le_maxWord ceiling)
  unfold limited limitRows? withinCeiling rowBound
  cases hcount : q.limitCount? with
  | none => exact hclause
  | some n =>
    simp only [Option.elim_some]
    by_cases hle : n ≤ ceiling.toNat
    · rw [if_pos (decide_eq_true hle), Option.getD_none, hcount, Nat.min_eq_left hle]
    · rw [if_neg (by simpa using hle), Option.getD_some, hclause, Nat.min_eq_right (by omega)]

/-- The appended columns stand in the list. -/
theorem appended_cases (append : Bool) (q : Query) :
    ∃ body, appended append q = { q with body } := by
  cases append with
  | false => exact ⟨q.body, rfl⟩
  | true =>
    rw [appended, if_pos rfl]
    cases happend : appendColumns? q with
    | none => exact ⟨q.body, rfl⟩
    | some q' =>
      obtain ⟨s, -, -, -, rfl⟩ := appendColumns?_eq_some.1 happend
      exact ⟨_, rfl⟩

/-- Whether two queries sort, skip and fetch by the same. -/
def SameTail (q q' : Query) : Prop :=
  q'.orderBy = q.orderBy ∧ q'.offset = q.offset ∧ q'.fetch = q.fetch

/-- Whether a query sorts, skips and fetches as another one does, in the words of an engine. -/
def RewordsTail (e : Engine) (q q' : Query) : Prop :=
  e.Rewords q.orderBy q'.orderBy ∧ e.Rewords q.offset q'.offset ∧ e.Rewords q.fetch q'.fetch

/-- The query of the pipeline before it is put into the words of an engine. -/
abbrev edited (ceiling : UInt64) (append : Bool) (q : Query) : Query :=
  limited ceiling.toNat (appended append q)

theorem limitCount?_edited (ceiling : UInt64) (append : Bool) (q : Query) :
    (edited ceiling append q).limitCount? = some (rowBound ceiling.toNat q) := by
  obtain ⟨body, hbody⟩ := appended_cases append q
  rw [limitCount?_limited, hbody]
  rfl

theorem sameTail_edited (ceiling : UInt64) (append : Bool) (q : Query) :
    SameTail q (edited ceiling append q) := by
  obtain ⟨body, hbody⟩ := appended_cases append q
  rw [edited, hbody]
  rcases limited_cases ceiling.toNat { q with body } with ⟨heq, -⟩ | heq
  · rw [heq]
    exact ⟨rfl, rfl, rfl⟩
  · rw [heq]
    exact ⟨rfl, rfl, rfl⟩

/-- The words of an engine do not come into the limit, be there any or not. -/
theorem limitCount?_corrected (engine : Option Engine) (ceiling : UInt64) (append : Bool)
    (q : Query) :
    (corrected engine ceiling append q).limitCount? = some (rowBound ceiling.toNat q) := by
  rcases functionNames_cases engine (edited ceiling append q) with heq | ⟨e, -, hrewords⟩
  · rw [corrected, heq, limitCount?_edited]
  · rw [corrected, Engine.limitCount?_of_rewords hrewords, limitCount?_edited]

/-- An engine either has words for the query, or what has been done of them is undone. -/
theorem tail_corrected (engine : Option Engine) (ceiling : UInt64) (append : Bool) (q : Query) :
    ((∀ e ∈ engine, (e.reword (edited ceiling append q)).isOk = false)
        ∧ SameTail q (corrected engine ceiling append q))
      ∨ ∃ e ∈ engine, e.reword (edited ceiling append q) = .ok (corrected engine ceiling append q)
        ∧ RewordsTail e q (corrected engine ceiling append q) := by
  obtain ⟨horder, hoffset, hfetch⟩ := sameTail_edited ceiling append q
  cases engine with
  | none => exact .inl ⟨nofun, horder, hoffset, hfetch⟩
  | some e =>
    cases hreword : e.reword (edited ceiling append q) with
    | error err =>
      have hquery : corrected (some e) ceiling append q = edited ceiling append q :=
        transform_functionNames_error hreword
      refine .inl ⟨fun e' he' => ?_, ?_⟩
      · obtain rfl := Option.some.inj he'
        rw [hreword]
        rfl
      · rw [hquery]
        exact ⟨horder, hoffset, hfetch⟩
    | ok q' =>
      have hquery : corrected (some e) ceiling append q = q' := transform_functionNames_ok hreword
      -- rewording goes clause by clause, and the clauses before it are those of the edited query
      have hrelated := (Engine.clausewise_rewords e).query (Engine.reword_eq_ok.1 hreword)
      have horder' := hrelated.orderBy
      have hoffset' := hrelated.offset
      have hfetch' := hrelated.fetch
      rw [horder] at horder'
      rw [hoffset] at hoffset'
      rw [hfetch] at hfetch'
      rw [hquery]
      exact .inr ⟨e, rfl, hreword, horder', hoffset', hfetch'⟩

end Correction

/-! ## The compiler -/

namespace Compiler

variable {c : Compiler} {ceiling : UInt64} {append : Bool} {databaseType : Option String}
  {schemas : List Schema} {r : Request} {out : Compiled} {q : Query}

/-- The query over the store that a request is compiled to, before its text is limited. -/
def physicalQuery? (c : Compiler) (databaseType : Option String) (schemas : List Schema)
    (r : Request) : Option Query :=
  match Query.parse r.sql, chooseSchema? schemas r.modelId,
    Query.parse (c.requestText databaseType r) with
  | .ok q, some s, .ok corrected =>
    q.tableName?.bind fun tableName =>
      let (table, made) := c.logicalTable s tableName (corrected.fields ++ r.selectedFields)
        (c.requestText databaseType r)
      (Physical.ofQuery s made table corrected).toOption.map Prod.fst
  | _, _, _ => none

theorem physicalQuery?_eq (k : Compilation c databaseType schemas r out)
    (hread : Query.parse r.sql = .ok q) (hname : q.tableName? = some k.tableName) :
    c.physicalQuery? databaseType schemas r = some k.physical := by
  simp only [physicalQuery?, hread, k.chosen, k.read, hname, Option.bind_some, k.classified,
    Physical.toOption_ofQuery, k.attached]
  rfl

/-- Whether a query that can be read from its text is read as itself. -/
def ReadAsPrinted (q : Query) : Prop :=
  ∀ q', Query.parse q.render = .ok q' → q' = q

/-- Whether the statements that are printed on the way to an answer are read as themselves, as far as
they can be read: that in the words of the engine, that of the pipeline, and that over the store. -/
structure ReadsPrinted (c : Compiler) (databaseType : Option String) (schemas : List Schema)
    (r : Request) : Prop where
  worded : ∀ q, Query.parse r.sql = .ok q → ∀ e ∈ c.engine? databaseType, ∀ q',
    e.reword q = .ok q' → ReadAsPrinted q'
  corrected : ∀ q, (c.draft databaseType r).read = .ok q → ReadAsPrinted q
  physical : ∀ q ∈ c.physicalQuery? databaseType schemas r, ReadAsPrinted q

instance (q : Query) : Decidable (ReadAsPrinted q) :=
  inferInstanceAs (Decidable (∀ q', Query.parse q.render = .ok q' → q' = q))

instance (c : Compiler) (databaseType : Option String) (schemas : List Schema) (r : Request) :
    Decidable (c.ReadsPrinted databaseType schemas r) :=
  decidable_of_iff ((∀ q, Query.parse r.sql = .ok q → ∀ e ∈ c.engine? databaseType, ∀ q',
      e.reword q = .ok q' → ReadAsPrinted q')
    ∧ (∀ q, (c.draft databaseType r).read = .ok q → ReadAsPrinted q)
    ∧ ∀ q ∈ c.physicalQuery? databaseType schemas r, ReadAsPrinted q)
  ⟨fun ⟨hworded, hcorrected, hphysical⟩ => ⟨hworded, hcorrected, hphysical⟩,
    fun h => ⟨h.worded, h.corrected, h.physical⟩⟩

/-- The words of an engine leave the limit of a query. -/
theorem limitCount?_worded (engine : Option Engine) (q : Query) :
    (Correction.worded engine q).limitCount? = q.limitCount? := by
  rcases functionNames_cases engine q with heq | ⟨e, -, hrewords⟩
  · rw [Correction.worded, heq]
  · exact Engine.limitCount?_of_rewords hrewords

theorem read_draft_text (hpipeline : c.pipeline = .configured ceiling.toNat append)
    (h : Query.parse (engineText (c.engine? databaseType) r.sql) = .ok q) :
    c.requestText databaseType r
      = (Correction.corrected (c.engine? databaseType) ceiling append q).render := by
  rw [← text_draft, draft, hpipeline]
  exact (draftOf_of_parse _ ceiling append h).2

/-- The corrected request keeps to the bound of the request. -/
theorem limitCount?_request (hpipeline : c.pipeline = .configured ceiling.toNat append)
    (hback : c.ReadsPrinted databaseType schemas r) (hread : Query.parse r.sql = .ok q)
    {q' : Query} (hread' : Query.parse (c.requestText databaseType r) = .ok q') :
    q'.limitCount? = some (rowBound ceiling.toNat q) := by
  obtain ⟨q₁, hq₁⟩ := exists_parse_engineText hpipeline hread'
  have hworded : q₁ = Correction.worded (c.engine? databaseType) q :=
    eq_worded_of_parse hread (hback.worded q hread) hq₁
  rw [read_draft_text hpipeline hq₁] at hread'
  rw [hback.corrected _ (read_draft hpipeline hq₁) q' hread', limitCount?_corrected, hworded,
    rowBound_congr (limitCount?_worded _ q)]

/-- A text whose query keeps to the ceiling already is not written anew. -/
theorem limited_of_within {text : String}
    (h : ∀ q, Query.parse text = .ok q → withinCeiling c.ceiling q = true) :
    (c.limited text).1 = text := by
  cases hread : Query.parse text with
  | error err =>
    have hdraft : (Draft.ofText text).read = .error err := hread
    simp only [limited, Pipeline.runStage, Stage.rowLimit, Stage.edit, Stage.onQuery, hdraft]
    rfl
  | ok q =>
    have hnone : limitRows? c.ceiling q = none := if_pos (h q hread)
    have hdraft : (Draft.ofText text).read = .ok q := hread
    have hstage : Pipeline.runStage none (.rowLimit c.ceiling) (.ofText text)
        = ((Draft.ofText text).withQuery q, []) := by
      rw [Stage.rowLimit, runStage_edit hdraft, hnone]
    rw [limited, hstage]
    rfl

/-- Whatever is read from an answer is limited to the bound of the request. -/
theorem limitCount?_answer (hpipeline : c.pipeline = .configured ceiling.toNat append)
    (hceiling : c.ceiling = ceiling.toNat) (hback : c.ReadsPrinted databaseType schemas r)
    (h : c.convert databaseType schemas r = .ok out) (hnonempty : out.isEmpty = false)
    (hread : Query.parse r.sql = .ok q) {q' : Query} (hread' : Query.parse out.sql = .ok q') :
    q'.limitCount? = some (rowBound ceiling.toNat q) := by
  obtain ⟨k, own, hown, hname⟩ := exists_compilation_of_convert h hnonempty
  obtain rfl : own = q := Except.ok.inj (hown.symm.trans hread)
  have hcorrected : k.corrected.limitCount? = some (rowBound ceiling.toNat own) :=
    limitCount?_request hpipeline hback hread k.read
  have hphysical : k.physical.limitCount? = some (rowBound ceiling.toNat own) := by
    have hlimit := Physical.limit_of_attachSource k.attached
    rw [← hcorrected, ← k.respells_renamed.limitCount?_eq, Query.limitCount?, Query.limitExpr?, hlimit]
    rfl
  have hprinted := hback.physical k.physical (physicalQuery?_eq k hread hname)
  -- so the text over the store is not limited once more
  have hwithin : ∀ q, Query.parse k.physical.render = .ok q → withinCeiling c.ceiling q = true := by
    intro q hq
    rw [hprinted q hq, withinCeiling, hphysical, hceiling]
    exact decide_eq_true (rowBound_le _ _)
  rw [k.text, limited_of_within hwithin] at hread'
  rw [hprinted q' hread', hphysical]

/-- The query that the pipeline ends with is limited to the smaller one of the ceiling and its own
number of rows, and is otherwise sorted, skipped and fetched as it was but for the words of the
engine. An answer that can be read is limited to the same. -/
theorem convert_keepsBound {text : String} (hread : Query.parse text = .ok q) (ceiling : UInt64) :
    (∀ engine, ∃ q',
      ((Pipeline.standard ceiling.toNat).draftOf engine text).read = .ok q'
        ∧ ((Pipeline.standard ceiling.toNat).draftOf engine text).text = q'.render
        ∧ KeepsBound ceiling.toNat q q'
        ∧ (((∀ e ∈ engine, (e.reword (edited ceiling true q)).isOk = false) ∧ SameTail q q')
          ∨ ∃ e ∈ engine, e.reword (edited ceiling true q) = .ok q' ∧ RewordsTail e q q'))
      ∧ ∀ (c : Compiler) (append : Bool) (databaseType : Option String) (schemas : List Schema)
        (r : Request) (out : Compiled), r.sql = text →
        c.pipeline = .configured ceiling.toNat append → c.ceiling = ceiling.toNat →
        c.ReadsPrinted databaseType schemas r → c.convert databaseType schemas r = .ok out →
        out.isEmpty = false →
        ∀ q', Query.parse out.sql = .ok q' → KeepsBound ceiling.toNat q q' := by
  constructor
  · intro engine
    obtain ⟨hquery, htext⟩ := draftOf_of_parse engine ceiling true hread
    exact ⟨corrected engine ceiling true q, hquery, htext,
      keepsBound_of_limitCount? (limitCount?_corrected engine ceiling true q),
      tail_corrected engine ceiling true q⟩
  · rintro c append databaseType schemas r out rfl hpipeline hceiling hback h hnonempty q' hread'
    exact keepsBound_of_limitCount?
      (limitCount?_answer hpipeline hceiling hback h hnonempty hread hread')

/-- A request for more rows than there may be. -/
def wideRequest : Request :=
  ⟨1, "select 1 from t limit 5000 offset 2", []⟩

def wideAnswer : Compiled where
  sql := "SELECT 1 FROM (SELECT COUNT(1) AS t_internal_cnt FROM dw.t) AS t LIMIT 1000 OFFSET 2"
  logicalTable := some ⟨"t", ["t_internal_cnt"], []⟩
  hasAggregation := false
  warnings := []

theorem convert_wideRequest :
    standard.convert none [nestedReferenceSchema] wideRequest = .ok wideAnswer
      ∧ standard.ReadsPrinted none [nestedReferenceSchema] wideRequest := by
  decide +kernel

theorem convert_keepsBound_wide :
    ∃ q, Query.parse wideRequest.sql = .ok q ∧ q.IsLimitedTo 5000
      ∧ (∃ q', ((Pipeline.standard 1000).draftOf none wideRequest.sql).read = .ok q'
        ∧ q'.IsLimitedTo 1000)
      ∧ ∀ q', Query.parse wideAnswer.sql = .ok q' → q'.IsLimitedTo 1000 := by
  have hcount : (Query.parse wideRequest.sql).toOption.bind Query.limitCount? = some 5000 := by
    decide +kernel
  cases hread : Query.parse wideRequest.sql with
  | error err =>
    rw [hread] at hcount
    cases hcount
  | ok q =>
    rw [hread] at hcount
    have hwide : q.IsLimitedTo 5000 := Query.limitCount?_eq_some.1 hcount
    obtain ⟨hpipeline, hanswer⟩ := convert_keepsBound hread 1000
    obtain ⟨q', hq', -, hbound, -⟩ := hpipeline none
    refine ⟨q, rfl, hwide, ⟨q', hq', hbound.1 5000 hwide⟩, fun q' hq' => ?_⟩
    obtain ⟨hconvert, hprinted⟩ := convert_wideRequest
    have hkept := hanswer standard true none [nestedReferenceSchema] wideRequest wideAnswer
      rfl rfl rfl hprinted hconvert (by decide +kernel) q' hq'
    exact hkept.1 5000 hwide

end Compiler

end MetricQuery
