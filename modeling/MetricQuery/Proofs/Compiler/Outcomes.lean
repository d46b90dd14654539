import MetricQuery.Proofs.Compiler.RequestText
import MetricQuery.Proofs.Planning.Emission

/-!
# Outcomes — when a request is refused, when there is nothing to answer, and when there is a query

A request is refused only for its own text. The texts that are read later on have been printed by
the compiler; if they are read back, every step after the first succeeds, and what fails on the way
leaves a warning. The answer is empty only where there is no schema or no table to begin with, since
a query with a `SELECT` for its body stays one up to the end, and has a text.
-/

namespace MetricQuery

open MetricQuery.Sql MetricQuery.Correction

theorem exists_ok_of_isOk {ε α : Type} {result : Except ε α} (h : result.isOk = true) :
    ∃ a, result = .ok a := by
  cases result with
  | error err => cases h
  | ok a => exact ⟨a, rfl⟩

/-! ## Texts that are queries -/

namespace Sql

variable {text : String} {q : Query}

theorem Query.parse_eq_ok : Query.parse text = .ok q ↔ readStatements? text = some [.query q] := by
  unfold Query.parse
  split
  -- nothing is read, one query, another statement, or another number of statements
  · next hread => simp [hread]
  · next q' hread => simp [hread]
  · next statement hno hread =>
    rw [hread]
    exact ⟨nofun, fun h => absurd (List.singleton_inj.1 (Option.some.inj h)) (hno q)⟩
  · next statements hno hsingle hread =>
    rw [hread]
    exact ⟨nofun, fun h => absurd (Option.some.inj h) (hno q)⟩

/-- Whether the body of the query is a plain `SELECT` and the first table in its `FROM` clause has a
name. -/
def Query.ReadsNamedTable (q : Query) : Prop :=
  ∃ s table name, q.select? = some s ∧ s.sourceTables.head? = some table
    ∧ table.tableName? = some name

theorem Query.readsNamedTable_iff : q.ReadsNamedTable ↔ ∃ name, q.tableName? = some name := by
  unfold ReadsNamedTable Query.tableName? Select.tableName?
  constructor
  · rintro ⟨s, table, name, hs, htable, hname⟩
    exact ⟨name.name, by simp [hs, htable, hname]⟩
  · rintro ⟨name, h⟩
    obtain ⟨ident, hident, -⟩ := Option.map_eq_some_iff.1 h
    obtain ⟨s, hs, hbind⟩ := Option.bind_eq_some_iff.1 hident
    obtain ⟨table, htable, hname⟩ := Option.bind_eq_some_iff.1 hbind
    exact ⟨s, table, ident, hs, htable, hname⟩

instance (q : Query) : Decidable q.ReadsNamedTable :=
  decidable_of_iff (q.tableName?.isSome = true) (by
    rw [Query.readsNamedTable_iff, Option.isSome_iff_exists])

/-! ## Texts that are not empty -/

theorem intercalate_ne_empty {separator a : String} {texts : List String} (hmem : a ∈ texts)
    (hne : a ≠ "") : separator.intercalate texts ≠ "" := by
  induction texts with
  | nil => cases hmem
  | cons first rest ih =>
    cases rest with
    | nil =>
      rw [String.intercalate_singleton]
      rwa [← List.mem_singleton.1 hmem]
    | cons second rest =>
      rw [String.intercalate_cons_cons]
      intro hempty
      obtain ⟨hfront, hrest⟩ := String.append_eq_empty_iff.1 hempty
      rcases List.mem_cons.1 hmem with rfl | hmem
      · exact hne (String.append_eq_empty_iff.1 hfront).1
      · exact ih hmem hrest

theorem mem_presentTexts {ts : List SyntaxTree} {t : SyntaxTree} (hmem : t ∈ ts)
    (hpresent : t.form ≠ .clause .absent) :
    t.render ∈ presentTexts (ts.map fun t => (t.form, t.render)) := by
  refine List.mem_map.2 ⟨(t.form, t.render), List.mem_filter.2 ⟨?_, ?_⟩, rfl⟩
  · exact List.mem_map.2 ⟨t, hmem, rfl⟩
  · exact bne_iff_ne.2 hpresent

theorem Query.render_ne_empty {clause : SyntaxTree} (hmem : clause ∈ q.clauses)
    (hpresent : clause.form ≠ .clause .absent) (hne : clause.render ≠ "") : q.render ≠ "" := by
  show " ".intercalate (presentTexts ([q.commonTables, q.body, q.orderBy, q.limit, q.offset,
    q.limitBy].map fun t => (t.form, t.render)) ++ q.options.settingTexts
      ++ presentTexts ([q.fetch].map fun t => (t.form, t.render)) ++ q.options.endTexts) ≠ ""
  refine intercalate_ne_empty (a := clause.render) ?_ hne
  -- all clauses but the last one stand in front of the settings
  have hsides : clause ∈ [q.commonTables, q.body, q.orderBy, q.limit, q.offset, q.limitBy]
      ∨ clause ∈ [q.fetch] := by
    simp only [clauses, List.mem_cons, List.not_mem_nil, or_false] at hmem ⊢
    tauto
  rcases hsides with hfront | hback
  · exact List.mem_append_left _ (List.mem_append_left _
      (List.mem_append_left _ (mem_presentTexts hfront hpresent)))
  · exact List.mem_append_left _ (List.mem_append_right _ (mem_presentTexts hback hpresent))

theorem Select.render_ne_empty (s : Select) : s.toTree.render ≠ "" :=
  intercalate_ne_empty (a := "SELECT") (.head _) (by decide)

theorem Query.render_ne_empty_of_select? {s : Select} (h : q.select? = some s) : q.render ≠ "" := by
  have hbody : q.body = s.toTree := (Select.toTree_of_ofTree? h).symm
  refine Query.render_ne_empty q.body_mem_clauses ?_ ?_
  · rw [hbody]
    nofun
  · rw [hbody]
    exact s.render_ne_empty

end Sql

/-! ## Queries that stay -/

namespace Correction

variable {engine : Option Engine} {ceiling : UInt64} {append : Bool} {q : Query} {s : Select}

theorem exists_select?_appended (append : Bool) (hs : q.select? = some s) :
    ∃ s', (appended append q).select? = some s' := by
  cases append with
  | false => exact ⟨s, hs⟩
  | true =>
    rw [appended, if_pos rfl]
    cases happend : appendColumns? q with
    | none => exact ⟨s, hs⟩
    | some q' =>
      obtain ⟨own, -, -, -, rfl⟩ := appendColumns?_eq_some.1 happend
      exact ⟨_, Query.select?_withBody _ _⟩

theorem exists_select?_corrected_worded (engine : Option Engine) (ceiling : UInt64) (append : Bool)
    (hs : q.select? = some s) :
    ∃ s', (corrected engine ceiling append (worded engine q)).select? = some s' := by
  -- the engine's words come first and last, the columns and the limit in between
  obtain ⟨s₁, h₁, -⟩ := exists_select?_functionNames engine hs
  obtain ⟨s₂, h₂⟩ := exists_select?_appended append h₁
  have h₃ : (limited ceiling.toNat (appended append (worded engine q))).select? = some s₂ :=
    (select?_limited _ _).trans h₂
  obtain ⟨s', hs', -⟩ := exists_select?_functionNames engine h₃
  exact ⟨s', hs'⟩

end Correction

namespace Compiler

variable {c : Compiler} {ceiling : UInt64} {append : Bool} {databaseType : Option String}
  {schemas : List Schema} {s : Schema} {tableName : String} {r : Request} {q : Query}

theorem limited_ne_empty (c : Compiler) {text : String} (h : text ≠ "") :
    (c.limited text).1 ≠ "" := by
  cases hread : (Draft.ofText text).read with
  | error err =>
    simp only [limited, Pipeline.runStage, Stage.rowLimit, Stage.edit, Stage.onQuery, hread]
    exact h
  | ok q =>
    rw [limited, Stage.rowLimit, runStage_edit hread]
    cases hlimit : limitRows? c.ceiling q with
    | none => exact h
    | some q' =>
      obtain ⟨-, rfl⟩ := limitRows?_eq_some.1 hlimit
      have hmem : limitClause c.ceiling
          ∈ ({ q with limit := limitClause c.ceiling } : Query).clauses := by
        simp [Query.clauses]
      -- the text now has a limit, whatever else is in it
      refine Query.render_ne_empty hmem (fun habsent => by cases habsent) fun hempty => ?_
      have hlimit : "LIMIT " = "" := (String.append_eq_empty_iff.1 hempty).1
      exact absurd hlimit (by decide)

theorem chooseSchema?_eq_none {id : Nat} : chooseSchema? schemas id = none ↔ schemas = [] := by
  unfold chooseSchema?
  cases schemas <;> simp

/-- Whether the text of the derived table is read as a table, under each name by which the corrected
request refers to the logical table. -/
def ReadsDerived (c : Compiler) (databaseType : Option String) (s : Schema) (tableName : String)
    (r : Request) : Prop :=
  ∀ q, Query.parse (c.requestText databaseType r) = .ok q →
    let logical := c.logicalTable s tableName (q.fields ++ r.selectedFields)
      (c.requestText databaseType r)
    let inner := (SourceQuery.ofTable (Physical.scopeOf s logical.2 q) logical.2 logical.1).render
    ∀ select ∈ q.select?, ∀ table ∈ select.sourceTables,
      Physical.bearsName logical.1.name table = true →
        (Physical.derivedTable inner ((table.boundName?.map Ident.render).getD "")).isOk = true

instance (c : Compiler) (databaseType : Option String) (s : Schema) (tableName : String)
    (r : Request) : Decidable (c.ReadsDerived databaseType s tableName r) :=
  inferInstanceAs (Decidable (∀ q, Query.parse (c.requestText databaseType r) = .ok q →
    ∀ select ∈ q.select?, ∀ table ∈ select.sourceTables, _ = true → _ = true))

theorem exists_attached {made : Option SynthesizedMetric} {table : LogicalTable} {q' : Query}
    (hread' : Query.parse (c.requestText databaseType r) = .ok q')
    (htable : c.logicalTable s tableName (q'.fields ++ r.selectedFields)
      (c.requestText databaseType r) = (table, made))
    (hderived : c.ReadsDerived databaseType s tableName r) :
    ∃ physical, Physical.attachSource table.name
      (SourceQuery.ofTable (Physical.scopeOf s made q') made table).render
      (q'.renameColumns (Physical.fieldNames (Physical.scopeOf s made q') q'.fields))
        = .ok physical := by
  have hnames := hderived q' hread'
  simp only [htable] at hnames
  refine Physical.exists_attachSource fun renamed hrenamed t ht hbears => ?_
  -- a table is referred to by the name that it had before the columns were renamed
  obtain ⟨own, hown, hrelated⟩ : ∃ own, q'.select? = some own
      ∧ own.Related (SyntaxTree.Respells _) renamed := by
    rcases (Physical.respells_renameColumns (Physical.scopeOf s made q') q').select? with
      ⟨-, hnone⟩ | ⟨own, renamed', hown, hrenamed', hrelated⟩
    · rw [hrenamed] at hnone
      cases hnone
    · obtain rfl := Option.some.inj (hrenamed.symm.trans hrenamed')
      exact ⟨own, hown, hrelated⟩
  obtain ⟨t', ht', hrespells⟩ := SyntaxTree.exists_mem_of_forall₂ hrelated.sourceTables ht
  rw [Physical.bearsName, hrespells.tableName?_eq] at hbears
  rw [hrespells.boundName?_eq]
  exact exists_ok_of_isOk (hnames own hown t' ht' hbears)

/-- Over a table whose name is given every request is answered with a query. -/
theorem exists_compileTable (hpipeline : c.pipeline = .configured ceiling.toNat append)
    (hback : c.PrintsBack databaseType r) (hread : Query.parse r.sql = .ok q) {select : Select}
    (hselect : q.select? = some select) (hderived : c.ReadsDerived databaseType s tableName r) :
    ∃ out table, c.compileTable databaseType s tableName r = .ok out ∧ out.sql ≠ ""
      ∧ out.logicalTable = some table := by
  have hrequest := parse_requestText hpipeline hback hread
  obtain ⟨own, hown⟩ :=
    exists_select?_corrected_worded (c.engine? databaseType) ceiling append hselect
  generalize corrected (c.engine? databaseType) ceiling append _ = q' at hrequest hown
  obtain ⟨table, made, htable⟩ : ∃ table made, c.logicalTable s tableName
      (q'.fields ++ r.selectedFields) (c.requestText databaseType r) = (table, made) := ⟨_, _, rfl⟩
  obtain ⟨physical, hattached⟩ := exists_attached hrequest htable hderived
  -- renaming and attaching leave the body a `SELECT`, so there is a text
  obtain ⟨renamed, hrenamed, -⟩ := (SyntaxTree.clausewise_respells _).exists_select?
    (Physical.respells_renameColumns (Physical.scopeOf s made q') q') hown
  obtain ⟨select', hselect'⟩ := Physical.exists_select?_of_attachSource hattached hrenamed
  have htext := c.limited_ne_empty (Query.render_ne_empty_of_select? hselect')
  have hcontent := content_compileTable hrequest htable
  rw [hattached] at hcontent
  cases hcompiled : c.compileTable databaseType s tableName r with
  | error err =>
    rw [hcompiled] at hcontent
    cases hcontent
  | ok out =>
    rw [hcompiled] at hcontent
    have hsame : out.content = _ := Option.some.inj hcontent
    rw [Compiled.content, Prod.mk.injEq, Prod.mk.injEq] at hsame
    obtain ⟨hsql, hanswered, -⟩ := hsame
    exact ⟨out, table, rfl, hsql ▸ htext, hanswered⟩

/-- A request that is a query has an empty answer, or a schema, a table and an answer with a text. -/
theorem convert_cases (hpipeline : c.pipeline = .configured ceiling.toNat append)
    (hback : c.PrintsBack databaseType r) (hread : Query.parse r.sql = .ok q)
    (hderived : ∀ s ∈ chooseSchema? schemas r.modelId, ∀ tableName ∈ q.tableName?,
      c.ReadsDerived databaseType s tableName r) :
    (c.convert databaseType schemas r = .ok .empty ∧ (schemas = [] ∨ ¬ q.ReadsNamedTable))
      ∨ schemas ≠ [] ∧ q.ReadsNamedTable ∧ ∃ out table,
        c.convert databaseType schemas r = .ok out ∧ out.sql ≠ ""
          ∧ out.logicalTable = some table := by
  rw [convert, hread, Query.readsNamedTable_iff]
  dsimp only
  -- there is nothing to answer with either for want of a schema or for want of a table
  cases hchosen : chooseSchema? schemas r.modelId with
  | none => exact .inl ⟨rfl, .inl (chooseSchema?_eq_none.1 hchosen)⟩
  | some s =>
    have hschemas : schemas ≠ [] := fun hnil => by
      rw [chooseSchema?_eq_none.2 hnil] at hchosen
      cases hchosen
    cases hname : q.tableName? with
    | none => exact .inl ⟨rfl, .inr fun ⟨_, hnamed⟩ => nomatch hnamed⟩
    | some tableName =>
      obtain ⟨select, _, _, hselect, -⟩ := Query.readsNamedTable_iff.2 ⟨tableName, hname⟩
      exact .inr ⟨hschemas, ⟨tableName, rfl⟩, exists_compileTable hpipeline hback hread hselect
        (hderived s hchosen tableName hname)⟩

/-- What becomes of a request, as far as printed statements are read back and the derived table can
be read. It is refused exactly if its text does not hold one query and nothing else, and then with
that text. The answer to any other request is empty exactly if there is no schema or the query reads
no table with a name first; otherwise it has a text and a logical table. -/
theorem convert_outcome (hpipeline : c.pipeline = .configured ceiling.toNat append)
    (hback : c.PrintsBack databaseType r)
    (hderived : ∀ s ∈ chooseSchema? schemas r.modelId, ∀ q, Query.parse r.sql = .ok q →
      ∀ tableName ∈ q.tableName?, c.ReadsDerived databaseType s tableName r) :
    ((∃ err, c.convert databaseType schemas r = .error err)
        ↔ ∀ q, readStatements? r.sql ≠ some [.query q])
      ∧ (∀ err, c.convert databaseType schemas r = .error err → err.sql = r.sql)
      ∧ ∀ q, readStatements? r.sql = some [.query q] →
        (c.convert databaseType schemas r = .ok .empty ↔ schemas = [] ∨ ¬ q.ReadsNamedTable)
          ∧ (schemas ≠ [] → q.ReadsNamedTable → ∃ out table,
            c.convert databaseType schemas r = .ok out ∧ out.sql ≠ ""
              ∧ out.logicalTable = some table) := by
  cases hread : Query.parse r.sql with
  | error err =>
    -- what is refused is the text as it came in
    have hno : ∀ q, readStatements? r.sql ≠ some [.query q] := fun q hholds => by
      rw [Query.parse_eq_ok.2 hholds] at hread
      cases hread
    have hrefused : c.convert databaseType schemas r = .error ⟨r.sql, err.message⟩ := by
      rw [convert, hread]
    refine ⟨⟨fun _ => hno, fun _ => ⟨_, hrefused⟩⟩, fun err' herr => ?_, fun q hq =>
      absurd hq (hno q)⟩
    rw [hrefused] at herr
    rw [← Except.error.inj herr]
  | ok q =>
    have hholds := Query.parse_eq_ok.1 hread
    have hcases := convert_cases hpipeline hback hread fun s hs => hderived s hs q hread
    -- neither an empty answer nor one with a table is an error
    have hanswered : ∀ err, c.convert databaseType schemas r ≠ .error err := by
      intro err herr
      rw [herr] at hcases
      obtain ⟨h, -⟩ | ⟨-, -, _, _, h, -⟩ := hcases <;> cases h
    refine ⟨⟨fun ⟨err, herr⟩ => absurd herr (hanswered err), fun hno => absurd hholds (hno q)⟩,
      fun err herr => absurd herr (hanswered err), fun q' hq' => ?_⟩
    obtain rfl : q = q' := by
      rw [hholds] at hq'
      cases hq'
      rfl
    rcases hcases with ⟨hempty, hnone⟩ | ⟨hschemas, hnamed, out, table, hout, htext, htable⟩
    · refine ⟨⟨fun _ => hnone, fun _ => hempty⟩, fun hschemas hnamed => ?_⟩
      exact (hnone.elim hschemas (absurd hnamed)).elim
    · refine ⟨⟨fun hempty => ?_, fun hnone => ?_⟩, fun _ _ => ⟨out, table, hout, htext, htable⟩⟩
      · -- the empty answer has no text
        rw [hout] at hempty
        exact absurd (congrArg Compiled.sql (Except.ok.inj hempty)) htext
      · exact (hnone.elim hschemas (absurd hnamed)).elim

/-- A model that declares nothing. -/
def bareSchema : Schema :=
  Schema.ofNames 1 "t" "t" "u"

def bareRequest : Request :=
  ⟨1, "select 1 from t", []⟩

theorem bareRequest_readable : (Query.parse bareRequest.sql).isOk = true
    ∧ (∀ q, Query.parse bareRequest.sql = .ok q → q.ReadsNamedTable)
    ∧ standard.PrintsBack (some "mysql") bareRequest
    ∧ ∀ s ∈ chooseSchema? [bareSchema] bareRequest.modelId, ∀ q,
      Query.parse bareRequest.sql = .ok q → ∀ tableName ∈ q.tableName?,
        standard.ReadsDerived (some "mysql") s tableName bareRequest := by
  decide +kernel

/-- There is an answer even if the model declares nothing. -/
theorem convert_outcome_bare :
    ∃ out table, standard.convert (some "mysql") [bareSchema] bareRequest = .ok out
      ∧ out.sql ≠ "" ∧ out.logicalTable = some table := by
  obtain ⟨hok, hnamed, hback, hderived⟩ := bareRequest_readable
  obtain ⟨q, hread⟩ := exists_ok_of_isOk hok
  have hpipeline : standard.pipeline = .configured (1000 : UInt64).toNat true := rfl
  obtain ⟨-, -, hanswer⟩ := convert_outcome hpipeline hback hderived
  exact (hanswer q (Query.parse_eq_ok.1 hread)).2 (List.cons_ne_nil _ _) (hnamed q hread)

end Compiler

end MetricQuery
