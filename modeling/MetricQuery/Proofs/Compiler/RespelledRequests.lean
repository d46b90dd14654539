import MetricQuery.Proofs.Compiler.DerivedTable
import MetricQuery.Proofs.Compiler.RequestText
import MetricQuery.Proofs.Engine.Words
import MetricQuery.Proofs.Planning.Emission

/-!
# Respelled requests — one query in several spellings

A declared element may be referred to by either of its names and in any letter case. Two requests
that differ in nothing but such spellings are compiled to the same answer: each step of the compiler
either does not look at the names of columns or looks them up in the model. Two things come in
between. A date difference is worded through its text, which may be readable in one spelling and not
in the other; and the text is searched for reserved columns by their letters alone.
-/

namespace MetricQuery

open MetricQuery.Sql MetricQuery.Correction MetricQuery.Text

/-! ## Spellings of one element -/

/-- Whether two names are the same or find the same declared element. -/
def Schema.SameReference (s : Schema) (a b : String) : Prop :=
  a = b ∨ ((s.find? a).isSome = true ∧ s.find? b = s.find? a)

instance (s : Schema) (a b : String) : Decidable (s.SameReference a b) :=
  inferInstanceAs (Decidable (a = b ∨ ((s.find? a).isSome = true ∧ s.find? b = s.find? a)))

theorem Schema.SameReference.find?_eq {s : Schema} {a b : String} (h : s.SameReference a b) :
    s.find? b = s.find? a := by
  rcases h with rfl | ⟨-, h⟩
  · rfl
  · exact h

theorem Schema.SameReference.emittedName_eq {scope : Scope} {a b : String}
    (h : scope.schema.SameReference a b) : scope.emittedName b = scope.emittedName a := by
  rcases h with rfl | ⟨hsome, hfind⟩
  · rfl
  · obtain ⟨d, hd⟩ := Option.isSome_iff_exists.1 hsome
    simp only [Scope.emittedName, Scope.element?_resolve, hfind, hd, Option.map_some,
      Option.getD_some]

section

variable {s : Schema} {q q' : Query}

/-- Respelled queries refer to the same elements in the same order, though one may have two names
where the other has one. -/
theorem Classification.ofFields_of_respells (h : q.Respells s.SameReference q')
    (selected : List String) (text : String) :
    ofFields s (q'.fields ++ selected) text = ofFields s (q.fields ++ selected) text := by
  refine ofFields_congr fun kind acc => ?_
  -- of several references to a name the first one is enough
  have hfirst : ∀ (own : Query) acc, (own.fields.filterMap (listedName? s kind)).foldl pushNew acc
      = ((own.toTree.nodes.filterMap SyntaxTree.columnName?).filterMap
        (listedName? s kind ∘ Ident.name)).foldl pushNew acc := by
    intro own acc
    rw [Query.fields, List.filterMap_map]
    refine foldl_pushNew_distinctBy (fun x y hsame => ?_) _ _
    rw [sameName, beq_iff_eq] at hsame
    exact listedName?_congr (s.find?_congr hsame.symm)
  have hnames : List.Forall₂ Eq
      ((q.toTree.nodes.filterMap SyntaxTree.columnName?).filterMap
        (listedName? s kind ∘ Ident.name))
      ((q'.toTree.nodes.filterMap SyntaxTree.columnName?).filterMap
        (listedName? s kind ∘ Ident.name)) := by
    rw [← List.filterMap_map, ← List.filterMap_map]
    refine List.rel_filterMap (fun a b hab => ?_) (SyntaxTree.Respells.names h)
    rw [listedName?_congr hab.find?_eq]
    cases listedName? s kind a with
    | none => exact .none
    | some name => exact .some rfl
  rw [List.forall₂_eq_eq_eq] at hnames
  rw [List.filterMap_append, List.filterMap_append, List.foldl_append, List.foldl_append, hfirst,
    hfirst, hnames]

theorem Physical.scopeOf_of_respells (h : q.Respells s.SameReference q')
    (made : Option SynthesizedMetric) : scopeOf s made q' = scopeOf s made q := by
  unfold scopeOf
  rcases h.select? with ⟨hs, hs'⟩ | ⟨select, select', hs, hs', hrelated⟩
  · rw [hs, hs']
  · rw [hs, hs', Option.map_some, Option.map_some, hrelated.aliases_eq]

/-- Renaming undoes the difference. -/
theorem Physical.renameColumns_of_respells {scope : Scope}
    (h : q.Respells scope.schema.SameReference q') :
    q'.renameColumns (fieldNames scope q'.fields) = q.renameColumns (fieldNames scope q.fields) := by
  rw [renameColumns_fieldNames, renameColumns_fieldNames]
  exact Scope.query_mapNodes_emitColumn_of_respells (fun _ _ hab => hab.emittedName_eq) h

end

/-! ## The corrections -/

namespace Correction

variable {P : String → String → Prop} {engine : Option Engine} {ceiling : UInt64} {q q' : Query}

theorem respells_limited (h : q.Respells P q') (ceiling : Nat) :
    (limited ceiling q).Respells P (limited ceiling q') := by
  have hwithin : withinCeiling ceiling q' = withinCeiling ceiling q := by
    rw [withinCeiling, withinCeiling, h.limitCount?_eq]
  rw [limited, limited, limitRows?, limitRows?, hwithin]
  split
  · exact h
  · have hclause : (limitClause ceiling).Respells P (limitClause ceiling) :=
      .node rfl (.cons (.node rfl .nil) .nil)
    exact .of_related { h.related with limit := hclause }

/-- Whether an engine has words for both queries or for none of them. -/
def RewordsAlike (e : Engine) (q q' : Query) : Prop :=
  (e.reword q).isOk = (e.reword q').isOk

instance (e : Engine) (q q' : Query) : Decidable (RewordsAlike e q q') :=
  inferInstanceAs (Decidable (_ = _))

/-- Respelled queries have respelled words, or the engine has no words for them. -/
theorem respells_worded (h : q.Respells P q')
    (hback : ∀ e ∈ engine, e.ReadsFormulasBack q.toTree)
    (hback' : ∀ e ∈ engine, e.ReadsFormulasBack q'.toTree)
    (halike : ∀ e ∈ engine, RewordsAlike e q q') :
    (worded engine q).Respells P (worded engine q') := by
  cases engine with
  | none => exact h
  | some e =>
    have hsame := halike e rfl
    rw [RewordsAlike] at hsame
    -- both are reworded or both are left as they are; in the mixed cases `hsame` fails
    cases hreword : e.reword q with
    | error err =>
      cases hreword' : e.reword q' with
      | error err' =>
        rw [worded, worded, transform_functionNames_error hreword,
          transform_functionNames_error hreword']
        exact h
      | ok u' =>
        rw [hreword, hreword'] at hsame
        cases hsame
    | ok u =>
      cases hreword' : e.reword q' with
      | error err' =>
        rw [hreword, hreword'] at hsame
        cases hsame
      | ok u' =>
        rw [worded, worded, transform_functionNames_ok hreword, transform_functionNames_ok hreword']
        exact Engine.Rewords.respells (hback e rfl) (hback' e rfl) h (Engine.reword_eq_ok.1 hreword)
          (Engine.reword_eq_ok.1 hreword')

/-- What the engine has words for is in these words before the pipeline begins. -/
theorem corrected_worded_of_isOk (hback : ∀ e ∈ engine, e.ReadsFormulasBack q.toTree)
    (h : ∀ e ∈ engine, (e.reword q).isOk = true) :
    corrected engine ceiling false (worded engine q)
      = limited ceiling.toNat (worded engine q) := by
  cases engine with
  | none => rfl
  | some e =>
    cases hreword : e.reword q with
    | error err =>
      have hok := h e rfl
      rw [hreword] at hok
      cases hok
    | ok u =>
      -- what has been reworded is settled, and lowering its limit does not unsettle it
      have hsettled : e.Settled u.toTree :=
        Engine.settled_of_rewords (hback e rfl) (Engine.reword_eq_ok.1 hreword)
      rw [corrected, worded, transform_functionNames_ok hreword]
      exact transform_functionNames_ok (Engine.reword_eq_ok.2 (rewords_limited _ hsettled))

/-- What the engine has no words for may have some once its limit has given way. -/
theorem corrected_worded_of_not_isOk {e : Engine} (h : (e.reword q).isOk = false) :
    corrected (some e) ceiling false (worded (some e) q)
      = worded (some e) (limited ceiling.toNat q) := by
  cases hreword : e.reword q with
  | error err =>
    rw [corrected, worded, transform_functionNames_error hreword]
    rfl
  | ok u =>
    rw [hreword] at h
    cases h

/-- Respelled queries are corrected to respelled queries. -/
theorem respells_corrected (h : q.Respells P q')
    (hback : ∀ e ∈ engine, e.ReadsFormulasBack q.toTree)
    (hback' : ∀ e ∈ engine, e.ReadsFormulasBack q'.toTree)
    (halike : ∀ e ∈ engine, RewordsAlike e q q')
    (hlimited : ∀ e ∈ engine,
      RewordsAlike e (limited ceiling.toNat q) (limited ceiling.toNat q')) :
    (corrected engine ceiling false (worded engine q)).Respells P
      (corrected engine ceiling false (worded engine q')) := by
  -- what has been reworded is not reworded again by the pipeline; what has failed is tried once
  -- more with its rows limited
  by_cases hok : ∀ e ∈ engine, (e.reword q).isOk = true
  · have hok' : ∀ e ∈ engine, (e.reword q').isOk = true := fun e he => by
      rw [← halike e he]
      exact hok e he
    rw [corrected_worded_of_isOk hback hok, corrected_worded_of_isOk hback' hok']
    exact respells_limited (respells_worded h hback hback' halike) ceiling.toNat
  · push Not at hok
    obtain ⟨e, he, hfails⟩ := hok
    obtain rfl := Option.mem_def.1 he
    rw [ne_eq, Bool.not_eq_true] at hfails
    rw [corrected_worded_of_not_isOk hfails,
      corrected_worded_of_not_isOk ((halike e rfl).symm.trans hfails)]
    have hedited : ∀ own : Query, (∀ e' ∈ some e, e'.ReadsFormulasBack own.toTree) →
        ∀ e' ∈ some e, e'.ReadsFormulasBack (limited ceiling.toNat (appended false own)).toTree :=
      fun own hown e' he' => readsFormulasBack_edited (hown e' he')
    exact respells_worded (respells_limited h ceiling.toNat) (hedited q hback) (hedited q' hback')
      hlimited

end Correction

/-! ## The answer -/

namespace Compiler

variable {c : Compiler} {ceiling : UInt64} {databaseType : Option String} {schemas : List Schema}
  {s : Schema} {tableName : String} {r r' : Request} {q q' : Query}

/-- Whether printed statements are read back on the way to the corrected request: that in the words
of the engine, that of the pipeline, and the formulas that are put in. -/
structure ReadsBack (c : Compiler) (databaseType : Option String) (r : Request) : Prop where
  worded : ∀ q, Query.parse r.sql = .ok q → ∀ e ∈ c.engine? databaseType, ∀ q',
    e.reword q = .ok q' → Query.parse q'.render = .ok q'
  formulas : ∀ q, Query.parse r.sql = .ok q → ∀ e ∈ c.engine? databaseType,
    e.ReadsFormulasBack q.toTree
  corrected : (c.draft databaseType r).ReadsBack

instance (c : Compiler) (databaseType : Option String) (r : Request) :
    Decidable (c.ReadsBack databaseType r) :=
  decidable_of_iff ((∀ q, Query.parse r.sql = .ok q → ∀ e ∈ c.engine? databaseType, ∀ q',
      e.reword q = .ok q' → Query.parse q'.render = .ok q')
    ∧ (∀ q, Query.parse r.sql = .ok q → ∀ e ∈ c.engine? databaseType,
      e.ReadsFormulasBack q.toTree)
    ∧ (c.draft databaseType r).ReadsBack)
  ⟨fun ⟨hworded, hformulas, hcorrected⟩ => ⟨hworded, hformulas, hcorrected⟩,
    fun h => ⟨h.worded, h.formulas, h.corrected⟩⟩

/-- Whether two texts are queries that differ in nothing but the spelling of declared elements. -/
def ReadsAlike (s : Schema) (text text' : String) : Prop :=
  ∃ q q', Query.parse text = .ok q ∧ Query.parse text' = .ok q' ∧ q.Respells s.SameReference q'

instance (s : Schema) (text text' : String) : Decidable (ReadsAlike s text text') :=
  match hread : Query.parse text, hread' : Query.parse text' with
  | .ok q, .ok q' => decidable_of_iff (q.Respells s.SameReference q')
    ⟨fun h => ⟨q, q', hread, hread', h⟩, fun ⟨_, _, h, h', hrespells⟩ => by
      rw [hread, Except.ok.injEq] at h
      rw [hread', Except.ok.injEq] at h'
      rw [h, h']
      exact hrespells⟩
  | .error _, _ => isFalse fun ⟨_, _, h, _⟩ => by rw [hread] at h; cases h
  | _, .error _ => isFalse fun ⟨_, _, _, h, _⟩ => by rw [hread'] at h; cases h

/-- Whether the engine has words for both of two requests or for none, as they are given and with
their rows limited. -/
def WordsAlike (c : Compiler) (databaseType : Option String) (ceiling : Nat) (r r' : Request) :
    Prop :=
  ∀ q, Query.parse r.sql = .ok q → ∀ q', Query.parse r'.sql = .ok q' →
    ∀ e ∈ c.engine? databaseType, RewordsAlike e q q'
      ∧ RewordsAlike e (Correction.limited ceiling q) (Correction.limited ceiling q')

instance (c : Compiler) (databaseType : Option String) (ceiling : Nat) (r r' : Request) :
    Decidable (c.WordsAlike databaseType ceiling r r') :=
  inferInstanceAs (Decidable (∀ q, Query.parse r.sql = .ok q → ∀ q', Query.parse r'.sql = .ok q' →
    ∀ e ∈ c.engine? databaseType, RewordsAlike e q q'
      ∧ RewordsAlike e (Correction.limited ceiling q) (Correction.limited ceiling q')))

/-- Whether the corrected texts of two requests mention the same reserved columns, beside those that
fields refer to. -/
def MentionsAlike (c : Compiler) (databaseType : Option String) (s : Schema) (r r' : Request) :
    Prop :=
  ∀ q, Query.parse (c.requestText databaseType r) = .ok q →
    Classification.MentionsAlike s (q.fields ++ r.selectedFields) (c.requestText databaseType r)
      (c.requestText databaseType r')

instance (c : Compiler) (databaseType : Option String) (s : Schema) (r r' : Request) :
    Decidable (c.MentionsAlike databaseType s r r') :=
  inferInstanceAs (Decidable (∀ q, Query.parse (c.requestText databaseType r) = .ok q →
    Classification.MentionsAlike s (q.fields ++ r.selectedFields) (c.requestText databaseType r)
      (c.requestText databaseType r')))

theorem ReadsBack.printsBack (h : c.ReadsBack databaseType r) : c.PrintsBack databaseType r :=
  ⟨h.worded, h.corrected⟩

theorem logicalTable_congr {fields fields' : List String} {text text' : String}
    (h : Classification.ofFields s fields' text' = Classification.ofFields s fields text) :
    c.logicalTable s tableName fields' text' = c.logicalTable s tableName fields text := by
  unfold logicalTable
  rw [h]

section

variable (hpipeline : c.pipeline = .configured ceiling.toNat false)
  (hmodel : r'.modelId = r.modelId) (hselected : r'.selectedFields = r.selectedFields)
  (hschema : chooseSchema? schemas r.modelId = some s) (halike : ReadsAlike s r.sql r'.sql)
  (hback : c.ReadsBack databaseType r) (hback' : c.ReadsBack databaseType r')
  (hwords : c.WordsAlike databaseType ceiling.toNat r r')

include hpipeline halike hback hback' hwords

/-- The corrected requests are respelled as the requests are. -/
theorem exists_respelled_requestText :
    ∃ q q', Query.parse (c.requestText databaseType r) = .ok q
      ∧ Query.parse (c.requestText databaseType r') = .ok q' ∧ q.Respells s.SameReference q' := by
  obtain ⟨q, q', hread, hread', hrespells⟩ := halike
  refine ⟨_, _, parse_requestText hpipeline hback.printsBack hread,
    parse_requestText hpipeline hback'.printsBack hread', ?_⟩
  exact respells_corrected hrespells (hback.formulas q hread) (hback'.formulas q' hread')
    (fun e he => (hwords q hread q' hread' e he).1) (fun e he => (hwords q hread q' hread' e he).2)

include hselected

/-- Tables of one name are compiled to the same answer if the same reserved columns are mentioned. -/
theorem content_compileTable_of_respells (hmentions : c.MentionsAlike databaseType s r r') :
    (c.compileTable databaseType s tableName r').toOption.map Compiled.content
      = (c.compileTable databaseType s tableName r).toOption.map Compiled.content := by
  obtain ⟨q, q', hread, hread', hrespells⟩ :=
    exists_respelled_requestText hpipeline halike hback hback' hwords
  -- the same metrics and dimensions are listed, so the same metric is made up
  obtain ⟨table, made, htable⟩ : ∃ table made, c.logicalTable s tableName
      (q.fields ++ r.selectedFields) (c.requestText databaseType r) = (table, made) := ⟨_, _, rfl⟩
  have htable' : c.logicalTable s tableName (q'.fields ++ r'.selectedFields)
      (c.requestText databaseType r') = (table, made) := by
    rw [← htable, hselected]
    refine logicalTable_congr ?_
    rw [Classification.ofFields_of_respells hrespells]
    exact Classification.ofFields_text_eq_of_mentionsAlike (hmentions q hread)
  -- and the columns are written under the same names
  have hscope := Physical.scopeOf_of_respells hrespells made
  have hrenamed : q'.renameColumns (Physical.fieldNames (Physical.scopeOf s made q) q'.fields)
      = q.renameColumns (Physical.fieldNames (Physical.scopeOf s made q) q.fields) :=
    Physical.renameColumns_of_respells hrespells
  rw [content_compileTable hread htable, content_compileTable hread' htable', hscope, hrenamed,
    hrespells.aggregates_eq]

include hmodel hschema

/-- The dimensions of an answer tell which reserved columns have been found in the text. -/
theorem mentionsAlike_of_content {out out' : Compiled}
    (h : c.convert databaseType schemas r = .ok out)
    (h' : c.convert databaseType schemas r' = .ok out') (hnonempty : out.isEmpty = false)
    (hcontent : out'.content = out.content) : c.MentionsAlike databaseType s r r' := by
  obtain ⟨q, q', hread, hread', hrespells⟩ :=
    exists_respelled_requestText hpipeline halike hback hback' hwords
  obtain ⟨hsql, htable, -⟩ : out'.sql = out.sql ∧ out'.logicalTable = out.logicalTable
      ∧ out'.hasAggregation = out.hasAggregation := by simpa [Compiled.content] using hcontent
  have hnonempty' : out'.isEmpty = false := by rw [Compiled.isEmpty, hsql]; exact hnonempty
  obtain ⟨k⟩ := compilation_of_convert h hnonempty
  obtain ⟨k'⟩ := compilation_of_convert h' hnonempty'
  -- both have been compiled with the schema of the model
  have hown : k.schema = s := Option.some.inj (k.chosen.symm.trans hschema)
  have hown' : k'.schema = s := Option.some.inj (k'.chosen.symm.trans (hmodel ▸ hschema))
  have hcorrected : k.corrected = q := Except.ok.inj (k.read.symm.trans hread)
  have hcorrected' : k'.corrected = q' := Except.ok.inj (k'.read.symm.trans hread')
  have hsame : k'.table = k.table :=
    Option.some.inj (k'.answered.symm.trans (htable.trans k.answered))
  have hdimensions : (Classification.ofFields s (q.fields ++ r.selectedFields)
        (c.requestText databaseType r')).dimensions
      = (Classification.ofFields s (q.fields ++ r.selectedFields)
        (c.requestText databaseType r)).dimensions := by
    have hlisted := k.table_dimensions
    have hlisted' := k'.table_dimensions
    rw [Compilation.classification, Compilation.fields, hown, hcorrected] at hlisted
    rw [Compilation.classification, Compilation.fields, hown', hcorrected', hselected,
      Classification.ofFields_of_respells hrespells] at hlisted'
    rw [← hlisted, ← hlisted', hsame]
  intro q₀ hq₀
  obtain rfl : q = q₀ := Except.ok.inj (hread.symm.trans hq₀)
  exact Classification.ofFields_dimensions_text_eq_iff.1 hdimensions

/-- Two requests that differ in nothing but the spelling of declared elements have the same answer,
or none of them has one, if their corrected texts mention the same reserved columns; and for requests
that are answered with a query this is necessary. -/
theorem convert_respelled :
    (c.MentionsAlike databaseType s r r' →
        (c.convert databaseType schemas r').toOption.map Compiled.content
          = (c.convert databaseType schemas r).toOption.map Compiled.content)
      ∧ ∀ out, c.convert databaseType schemas r = .ok out → out.isEmpty = false →
        (c.convert databaseType schemas r').toOption.map Compiled.content = some out.content →
        c.MentionsAlike databaseType s r r' := by
  constructor
  · intro hmentions
    obtain ⟨q, q', hread, hread', hrespells⟩ := id halike
    rw [convert, convert, hread, hread', hmodel, hschema]
    dsimp only
    rw [hrespells.tableName?_eq]
    cases q.tableName? with
    | none => rfl
    | some tableName =>
      exact content_compileTable_of_respells hpipeline hselected halike hback hback' hwords
        hmentions
  · intro out hout hnonempty hsame
    obtain ⟨out', hout', hcontent⟩ := Option.map_eq_some_iff.1 hsame
    -- an answer with the same content is an answer
    have hconvert' : c.convert databaseType schemas r' = .ok out' := by
      cases hresult : c.convert databaseType schemas r' with
      | error err =>
        rw [hresult] at hout'
        cases hout'
      | ok own =>
        rw [hresult] at hout'
        exact congrArg Except.ok (Option.some.inj hout')
    exact mentionsAlike_of_content hpipeline hmodel hselected hschema halike hback hback' hwords hout
      hconvert' hnonempty hcontent

end

/-- A compiler that leaves the columns of a request as they are. -/
def withoutAppending : Compiler :=
  configured 1000 false []

def citySchema : Schema :=
  (Schema.ofNames 1 "t" "t" "dw.t").withDimension (.named "city" "c")

def cityRequest : Request :=
  ⟨1, "select city from t", []⟩

/-- The same request, with the other name of the element in another letter case. -/
def otherCityRequest : Request :=
  ⟨1, "select C from t", []⟩

theorem cityRequest_spellings : ReadsAlike citySchema cityRequest.sql otherCityRequest.sql
    ∧ withoutAppending.ReadsBack (some "mysql") cityRequest
    ∧ withoutAppending.ReadsBack (some "mysql") otherCityRequest
    ∧ withoutAppending.WordsAlike (some "mysql") (1000 : UInt64).toNat cityRequest otherCityRequest
    ∧ withoutAppending.MentionsAlike (some "mysql") citySchema cityRequest otherCityRequest := by
  decide +kernel

theorem convert_respelled_city :
    withoutAppending.MentionsAlike (some "mysql") citySchema cityRequest otherCityRequest
      ∧ (withoutAppending.convert (some "mysql") [citySchema] otherCityRequest).toOption.map
          Compiled.content
        = (withoutAppending.convert (some "mysql") [citySchema] cityRequest).toOption.map
          Compiled.content := by
  obtain ⟨halike, hback, hback', hwords, hmentions⟩ := cityRequest_spellings
  have hpipeline : withoutAppending.pipeline = .configured (1000 : UInt64).toNat false := rfl
  have hmodel : otherCityRequest.modelId = cityRequest.modelId := rfl
  have hselected : otherCityRequest.selectedFields = cityRequest.selectedFields := rfl
  have hschema : chooseSchema? [citySchema] cityRequest.modelId = some citySchema := rfl
  have hboth := convert_respelled hpipeline hmodel hselected hschema halike hback hback' hwords
  exact ⟨hmentions, hboth.1 hmentions⟩

/-- A model with a dimension that is called like a keyword. -/
def keywordSchema : Schema :=
  ((Schema.ofNames 1 "t" "t" "dw.t").withDimension (.named "all" "b")).withDimension
    (.named "day" "d")

def keywordRequest : Request :=
  ⟨1, "select datediff('day', d, all) from t", []⟩

def otherKeywordRequest : Request :=
  ⟨1, "select datediff('day', d, b) from t", []⟩

theorem keywordRequest_spellings :
    ReadsAlike keywordSchema keywordRequest.sql otherKeywordRequest.sql
      ∧ withoutAppending.ReadsBack (some "mysql") keywordRequest
      ∧ withoutAppending.ReadsBack (some "mysql") otherKeywordRequest := by
  decide +kernel

/-- The one request is left in the words it has come in. -/
def keywordAnswer : String × Option LogicalTable × Bool :=
  ("SELECT datediff('day', d, b) FROM (SELECT d, b, COUNT(1) AS t_internal_cnt FROM dw.t "
    ++ "GROUP BY d, b) AS t LIMIT 1000", some ⟨"t", ["t_internal_cnt"], ["day", "all"]⟩, false)

/-- The other one is put into the words of the engine. -/
def otherKeywordAnswer : String × Option LogicalTable × Bool :=
  ("SELECT DATEDIFF(b, d) FROM (SELECT b, d, COUNT(1) AS t_internal_cnt FROM dw.t "
    ++ "GROUP BY b, d) AS t LIMIT 1000", some ⟨"t", ["t_internal_cnt"], ["all", "day"]⟩, false)

theorem content_keywordRequest :
    (withoutAppending.convert (some "mysql") [keywordSchema] keywordRequest).toOption.map
      Compiled.content = some keywordAnswer := by
  decide +kernel

theorem content_otherKeywordRequest :
    (withoutAppending.convert (some "mysql") [keywordSchema] otherKeywordRequest).toOption.map
      Compiled.content = some otherKeywordAnswer := by
  decide +kernel

/-- The formula for a date difference puts the second date first, and behind the parenthesis a
column `all` is no column any more. So the one spelling is worded and the other one is not. -/
theorem convert_respelled_ne :
    ReadsAlike keywordSchema keywordRequest.sql otherKeywordRequest.sql
      ∧ withoutAppending.ReadsBack (some "mysql") keywordRequest
      ∧ withoutAppending.ReadsBack (some "mysql") otherKeywordRequest
      ∧ internalColumnsIn keywordRequest.sql = [] ∧ internalColumnsIn otherKeywordRequest.sql = []
      ∧ (withoutAppending.convert (some "mysql") [keywordSchema] keywordRequest).toOption.map
        Compiled.content = some keywordAnswer
      ∧ (withoutAppending.convert (some "mysql") [keywordSchema] otherKeywordRequest).toOption.map
        Compiled.content = some otherKeywordAnswer
      ∧ otherKeywordAnswer ≠ keywordAnswer := by
  obtain ⟨halike, hback, hback'⟩ := keywordRequest_spellings
  exact ⟨halike, hback, hback', by decide +kernel, by decide +kernel, content_keywordRequest,
    content_otherKeywordRequest, by decide +kernel⟩

end Compiler

end MetricQuery
