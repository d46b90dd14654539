import MetricQuery.Proofs.Compiler.DeclaredColumns
import MetricQuery.Proofs.Compiler.RequestText
import MetricQuery.Proofs.Compiler.TableReferences
import MetricQuery.Proofs.Correction.AppendedReferences
import MetricQuery.Proofs.Semantics.Ambiguity

/-!
# Doubled columns — elements that are selected under one name and appended under the other

Columns are appended by their spelling: none of them has a name that the `SELECT` list has. An
element has two names, though, and the planner writes both as the technical one. So a column that
stands in the list gets a double exactly if the query filters or sorts by its element under the
other name.
-/

namespace MetricQuery

open MetricQuery.Text MetricQuery.Sql MetricQuery.Correction

/-! ## Two names of an element -/

namespace Schema

variable {s : Schema} {d : Declared} {a b : String}

/-- Whether users call the element by the first name, and the second one, by which they call no
element, leads to it as its technical name. -/
def Renames (s : Schema) (d : Declared) (name technicalName : String) : Prop :=
  s.findByName? name = some d ∧ s.findByName? technicalName = none
    ∧ s.findByTechnicalName? technicalName = some d

theorem Renames.find? (h : s.Renames d a b) : s.find? a = some d ∧ s.find? b = some d := by
  obtain ⟨hname, hnone, htechnical⟩ := h
  constructor
  · rw [Schema.find?, hname, Option.some_or]
  · rw [Schema.find?, hnone, htechnical, Option.none_or]

/-- Two different names lead to one element exactly if one of them is its technical name. -/
theorem find?_eq_some_and_iff (hne : sameName a b = false) :
    s.find? a = some d ∧ s.find? b = some d ↔ s.Renames d a b ∨ s.Renames d b a := by
  have hcases : ∀ {name}, s.find? name = some d → s.findByName? name = some d
      ∨ s.findByName? name = none ∧ s.findByTechnicalName? name = some d := Option.or_eq_some_iff.1
  have hdifferent : ∀ {own}, sameName own a = true → sameName own b = true → False := by
    intro own ha hb
    rw [← congrFun (sameName_congr_left ha) b, hb] at hne
    cases hne
  constructor
  · rintro ⟨ha, hb⟩
    -- an element has one name and one technical name, so that two names find it by one of each
    rcases hcases ha with ha | ⟨ha, ha'⟩ <;> rcases hcases hb with hb | ⟨hb, hb'⟩
    · exact (hdifferent (findByName?_spec ha).2 (findByName?_spec hb).2).elim
    · exact .inl ⟨ha, hb, hb'⟩
    · exact .inr ⟨hb, ha, ha'⟩
    · exact (hdifferent (findByTechnicalName?_spec ha').2 (findByTechnicalName?_spec hb').2).elim
  · rintro (h | h)
    · exact h.find?
    · exact h.find?.symm

end Schema

/-- Two different names are written alike exactly if they lead to elements of one technical name: a
name that an element bears is never left as it is for want of one. -/
theorem Scope.emittedName_eq_emittedName_iff {scope : Scope} {a b : String}
    (hne : sameName a b = false) : scope.emittedName a = scope.emittedName b
      ↔ ∃ d d', scope.schema.find? a = some d ∧ scope.schema.find? b = some d'
        ∧ d.element.technicalName = d'.element.technicalName := by
  -- a technical name is itself found: so a name that is emitted as it is cannot be one of them
  have hborne : ∀ {x y d}, scope.schema.find? x = some d → d.element.technicalName = y →
      scope.schema.find? y ≠ none := by
    intro x y d hd htechnical hnone
    have hbears : d.IsTechnical y := htechnical ▸ sameName_self d.element.technicalName
    obtain ⟨d', hd'⟩ := Schema.exists_find?_iff.2 ⟨d, Schema.mem_elements_of_find? hd, .inr hbears⟩
    rw [hd'] at hnone
    cases hnone
  rw [Scope.emittedName_eq, Scope.emittedName_eq]
  constructor
  · intro heq
    cases ha : scope.schema.find? a with
    | none =>
      cases hb : scope.schema.find? b with
      | none =>
        rw [ha, hb] at heq
        obtain rfl : a = b := heq
        rw [sameName_self] at hne
        cases hne
      | some d' =>
        rw [ha, hb] at heq
        exact absurd ha (hborne hb heq.symm)
    | some d =>
      cases hb : scope.schema.find? b with
      | none =>
        rw [ha, hb] at heq
        exact absurd hb (hborne ha heq)
      | some d' =>
        rw [ha, hb] at heq
        exact ⟨d, d', rfl, rfl, heq⟩
  · rintro ⟨d, d', ha, hb, heq⟩
    rw [ha, hb]
    exact heq

/-! ## Columns that stand in the list -/

namespace Sql

/-- The names of the columns that stand by themselves in the `SELECT` list. -/
def Select.bareNames (s : Select) : List String :=
  (s.items.filterMap SyntaxTree.columnName?).map Ident.name

/-- The names of the columns that stand by themselves in the `SELECT` list of the query. -/
def Query.bareNames (q : Query) : List String :=
  (q.select?.map Select.bareNames).getD []

/-- The names that the `SELECT` list of the query refers to or declares. -/
def Query.listedNames (q : Query) : List String :=
  (q.select?.map Select.fields).getD []

variable {q q' : Query} {s : Select}

theorem Query.bareNames_of_select? (h : q.select? = some s) : q.bareNames = s.bareNames := by
  rw [bareNames, h]
  rfl

theorem Query.bareNames_of_none (h : q.select? = none) : q.bareNames = [] := by
  rw [bareNames, h]
  rfl

theorem Query.listedNames_of_select? (h : q.select? = some s) : q.listedNames = s.fields := by
  rw [listedNames, h]
  rfl

/-- A column that stands by itself is one of those that the list refers to. -/
theorem Query.hasName_listedNames {name : String} (h : name ∈ q.bareNames) :
    hasName q.listedNames name = true := by
  cases hs : q.select? with
  | none =>
    rw [bareNames_of_none hs] at h
    cases h
  | some s =>
    rw [bareNames_of_select? hs, Select.bareNames, List.mem_map] at h
    obtain ⟨own, hown, rfl⟩ := h
    obtain ⟨item, hitem, hcolumn⟩ := List.mem_filterMap.1 hown
    have hnode : item ∈ s.projection.nodes :=
      SyntaxTree.mem_nodes_of_mem_part hitem (SyntaxTree.mem_nodes_self item)
    obtain ⟨first, hfirst, hsame⟩ :
        ∃ first ∈ s.projection.columnNames, sameName first.name own.name = true :=
      exists_mem_distinctBy (List.mem_filterMap.2 ⟨item, hnode, hcolumn⟩)
    rw [listedNames_of_select? hs, Select.fields, hasName, List.any_append, Bool.or_eq_true]
    refine .inl (hasName_map_iff.2 ⟨first, hfirst, ?_⟩)
    rwa [sameName_comm]

theorem Query.bareNames_of_respells {f : String → String}
    (h : q.Respells (fun a b => b = f a) q') : q'.bareNames = q.bareNames.map f := by
  rcases h.select? with ⟨hs, hs'⟩ | ⟨s, s', hs, hs', hrelated⟩
  · rw [bareNames_of_none hs, bareNames_of_none hs', List.map_nil]
  · have hnames : List.Forall₂ (fun a b => b = f a) s.bareNames s'.bareNames := by
      rw [Select.bareNames, Select.bareNames, List.forall₂_map_left_iff, List.forall₂_map_right_iff]
      exact List.rel_filterMap (fun n n' hn => hn.columnName?) hrelated.items
    rw [bareNames_of_select? hs, bareNames_of_select? hs']
    have hequal : List.Forall₂ Eq s'.bareNames (s.bareNames.map f) :=
      List.forall₂_map_right_iff.2 hnames.flip
    rwa [List.forall₂_eq_eq_eq] at hequal

end Sql

namespace Correction

open SyntaxTree Engine

variable {q q' : Query} {s : Select} {c : SyntaxTree} {engine : Option Engine} {ceiling : UInt64}
  {columns : List SyntaxTree}

theorem map_name_columns (h : ∀ c ∈ columns, c.columnName?.isSome = true) :
    (columns.filterMap columnName?).map Ident.name = columns.map referenceName := by
  induction columns with
  | nil => rfl
  | cons c columns ih =>
    obtain ⟨name, hname⟩ := Option.isSome_iff_exists.1 (h c (.head _))
    rw [List.filterMap_cons, hname, List.map_cons, List.map_cons, ih fun d hd => h d (.tail _ hd),
      referenceName, hname]
    rfl

theorem isSome_columnName?_of_mem (hc : c ∈ columnsToAppend q) : c.columnName?.isSome = true := by
  obtain ⟨s, -, -, hreferenced, -⟩ := mem_columnsToAppend.1 hc
  rw [referencedColumns_eq] at hreferenced
  exact (List.mem_filter.1 (distinctBy_subset hreferenced)).2

theorem bareNames_appended (q : Query) : (appended true q).bareNames
    = q.bareNames ++ (columnsToAppend q).map referenceName := by
  rw [appended_true, ← map_name_columns fun c => isSome_columnName?_of_mem]
  cases hs : q.select? with
  | none => simp [withColumns_of_none hs, columnsToAppend, hs]
  | some s =>
    rw [withColumns_of_select? hs, Query.bareNames_of_select? hs,
      Query.bareNames_of_select? (Query.select?_withBody _ _), Select.bareNames,
      Select.items_withItems, List.filterMap_append, List.map_append]
    rfl

theorem bareNames_limited (ceiling : Nat) (q : Query) :
    (limited ceiling q).bareNames = q.bareNames := by
  rw [Query.bareNames, select?_limited]
  rfl

/-- The words of an engine do not come into the columns that stand by themselves. -/
theorem bareNames_functionNames (hback : ∀ e ∈ engine, e.ReadsFormulasBack q.toTree) :
    (StandardStage.functionNames.transform engine q).bareNames = q.bareNames := by
  rcases functionNames_cases engine q with heq | ⟨e, he, hrewords⟩
  · rw [heq]
  · have hback := hback e he
    cases hs : q.select? with
    | none =>
      rw [Query.bareNames_of_none hs,
        Query.bareNames_of_none (select?_eq_none_of_rewords hback hrewords hs)]
    | some s =>
      obtain ⟨s', hs', hselect⟩ := (clausewise_rewords e).exists_select? hrewords hs
      -- an item that is a column is no call, and no item becomes a column
      have hcolumn : columnName? ∘ mapNodes e.wordNode = columnName? :=
        funext (columnName?_mapNodes_wordNode e)
      have hselectBack : e.ReadsFormulasBack s.toTree :=
        hback.node (mem_nodes_of_mem_part (Query.select_mem_clauses hs) (mem_nodes_self _))
      rw [Query.bareNames_of_select? hs, Query.bareNames_of_select? hs', Select.bareNames,
        SelectRewords.items_eq hselectBack hselect, List.filterMap_map, hcolumn]
      rfl

/-- Whether a query filters or sorts by an element under one of its names, while a column that
stands by itself in the list refers to the element by the other one. What counts for a name is the
first reference to it. -/
def RefersByOtherName (schema : Schema) (q : Query) : Prop :=
  ∃ s, q.select? = some s ∧ takesColumns s = true
    ∧ ∃ c, (references q s)[referencePlace q s (referenceName c)]? = some c
      ∧ hasName s.fields (referenceName c) = false ∧ internalColumn? (referenceName c) = none
      ∧ ∃ name ∈ q.bareNames, ∃ d,
        schema.Renames d name (referenceName c) ∨ schema.Renames d (referenceName c) name

theorem mem_columnsToAppend_iff : c ∈ columnsToAppend q
    ↔ ∃ s, q.select? = some s ∧ takesColumns s = true
      ∧ (references q s)[referencePlace q s (referenceName c)]? = some c
      ∧ hasName s.fields (referenceName c) = false ∧ internalColumn? (referenceName c) = none := by
  rw [mem_columnsToAppend]
  simp only [← mem_appendedColumns_iff, mem_appendedColumns]

/-- A column is appended for the want of its name, which no column of the list has. -/
theorem sameName_eq_false_of_mem {name : String} (hc : c ∈ columnsToAppend q)
    (hname : name ∈ q.bareNames) : sameName name (referenceName c) = false := by
  obtain ⟨s, hs, -, -, hmissing, -⟩ := mem_columnsToAppend_iff.1 hc
  have hlisted := Query.hasName_listedNames hname
  rw [Query.listedNames_of_select? hs] at hlisted
  rw [← Bool.not_eq_true]
  intro hsame
  rw [sameName, beq_iff_eq] at hsame
  rw [← hasName_congr hsame, hlisted] at hmissing
  cases hmissing

/-- A column is appended for an element that a column of the list stands for exactly if the query
refers to the element by its other name. -/
theorem exists_doubled_iff (schema : Schema) (q : Query) :
    (∃ c ∈ columnsToAppend q, ∃ name ∈ q.bareNames, ∃ d,
      schema.find? name = some d ∧ schema.find? (referenceName c) = some d)
      ↔ RefersByOtherName schema q := by
  constructor
  · rintro ⟨c, hc, name, hname, d, hfound⟩
    obtain ⟨s, hs, htakes, hfirst, hmissing, hordinary⟩ := mem_columnsToAppend_iff.1 hc
    have hrenames := (Schema.find?_eq_some_and_iff (sameName_eq_false_of_mem hc hname)).1 hfound
    exact ⟨s, hs, htakes, c, hfirst, hmissing, hordinary, name, hname, d, hrenames⟩
  · rintro ⟨s, hs, htakes, c, hfirst, hmissing, hordinary, name, hname, d, hrenames⟩
    have hc := mem_columnsToAppend_iff.2 ⟨s, hs, htakes, hfirst, hmissing, hordinary⟩
    have hfound := (Schema.find?_eq_some_and_iff (sameName_eq_false_of_mem hc hname)).2 hrenames
    exact ⟨c, hc, name, hname, d, hfound⟩

/-- The pipeline puts the columns that it appends behind those that there are. -/
theorem bareNames_corrected (hback : ∀ e ∈ engine, e.ReadsFormulasBack q.toTree) :
    (corrected engine ceiling true q).bareNames
      = q.bareNames ++ (columnsToAppend q).map referenceName := by
  rw [corrected, bareNames_functionNames fun e he => readsFormulasBack_edited (hback e he),
    bareNames_limited, bareNames_appended]

end Correction

/-! ## Answers -/

namespace Compilation

variable {c : Compiler} {databaseType : Option String} {schemas : List Schema} {r : Request}
  {out : Compiled} (k : Compilation c databaseType schemas r out)

/-- The planner writes each column that stands by itself under the name of what it stands for. -/
theorem bareNames_physical :
    k.physical.bareNames = k.corrected.bareNames.map k.scope.emittedName := by
  have hitems : k.physical.bareNames = k.renamed.bareNames := by
    have hnames := congrArg (Option.map fun items : List SyntaxTree =>
      (items.filterMap SyntaxTree.columnName?).map Ident.name)
      (Physical.items_of_attachSource k.attached)
    rw [Option.map_map, Option.map_map] at hnames
    exact congrArg (Option.getD · []) hnames
  rw [hitems, Query.bareNames_of_respells k.respells_renamed]

/-- The columns of the answer are those of the query that the pipeline begins with and behind them
those that it appends, all as the planner writes them. -/
theorem bareNames_physical_of_parse {ceiling : UInt64} {q : Query}
    (hpipeline : c.pipeline = .configured ceiling.toNat true)
    (hread : Query.parse (Compiler.engineText (c.engine? databaseType) r.sql) = .ok q)
    (hback : (c.draft databaseType r).ReadsBack)
    (hformulas : ∀ e ∈ c.engine? databaseType, e.ReadsFormulasBack q.toTree) :
    k.physical.bareNames = q.bareNames.map k.scope.emittedName
      ++ (columnsToAppend q).map (k.scope.emittedName ∘ referenceName) := by
  have hcorrected : k.corrected = Correction.corrected (c.engine? databaseType) ceiling true q :=
    Except.ok.inj (k.read.symm.trans (hback _ (Compiler.read_draft hpipeline hread)))
  rw [k.bareNames_physical, hcorrected, bareNames_corrected hformulas, List.map_append,
    List.map_map]

end Compilation

/-- Which columns of an answer are doubled. The columns that are appended have none of the names in
the list, so what they stand for does not stand there already, unless it does under its other name:
a column is appended for an element that a column of the list stands for exactly if one of them is
the element's name and the other its technical name, and that happens exactly if the query filters
or sorts by the element under the other name. If printed statements are read back, the answer lists
its own columns and behind them those appended, and writes one of each alike exactly if they stand
for elements of one technical name. -/
theorem doubled_columns_of_convert {c : Compiler} {ceiling : UInt64} {databaseType : Option String}
    {schemas : List Schema} {r : Request} {out : Compiled}
    (hpipeline : c.pipeline = .configured ceiling.toNat true)
    (h : c.convert databaseType schemas r = .ok out) (hnonempty : out.isEmpty = false) :
    ∃ (k : Compilation c databaseType schemas r out) (q : Query) (columns : List SyntaxTree),
      Query.parse (Compiler.engineText (c.engine? databaseType) r.sql) = .ok q
      ∧ appended true q = q.withColumns columns
      ∧ (∀ column ∈ columns, ∀ name ∈ q.bareNames, ∀ d,
        k.schema.find? name = some d ∧ k.schema.find? (referenceName column) = some d
          ↔ k.schema.Renames d name (referenceName column)
            ∨ k.schema.Renames d (referenceName column) name)
      ∧ ((∀ column ∈ columns, ∀ name ∈ q.bareNames, ∀ d, k.schema.find? name = some d →
          k.schema.find? (referenceName column) ≠ some d) ↔ ¬ RefersByOtherName k.schema q)
      ∧ ((c.draft databaseType r).ReadsBack →
        (∀ e ∈ c.engine? databaseType, e.ReadsFormulasBack q.toTree) →
        k.physical.bareNames = q.bareNames.map k.scope.emittedName
          ++ columns.map (k.scope.emittedName ∘ referenceName))
      ∧ ∀ column ∈ columns, ∀ name ∈ q.bareNames,
        k.scope.emittedName name = k.scope.emittedName (referenceName column)
          ↔ ∃ d d', k.schema.find? name = some d
            ∧ k.schema.find? (referenceName column) = some d'
            ∧ d.element.technicalName = d'.element.technicalName := by
  obtain ⟨k⟩ := Compiler.compilation_of_convert h hnonempty
  obtain ⟨q, hread⟩ := Compiler.exists_parse_engineText hpipeline k.read
  -- an appended column differs by name from all that are there, so that two names of one element
  -- are its two different names
  refine ⟨k, q, columnsToAppend q, hread, appended_true q, ?_, ?_,
    k.bareNames_physical_of_parse hpipeline hread, ?_⟩
  · intro column hcolumn name hname d
    exact Schema.find?_eq_some_and_iff (sameName_eq_false_of_mem hcolumn hname)
  · rw [← exists_doubled_iff]
    push Not
    rfl
  · intro column hcolumn name hname
    exact Scope.emittedName_eq_emittedName_iff (sameName_eq_false_of_mem hcolumn hname)

/-- A request that selects a dimension by its name and filters by its technical name. -/
def otherNameRequest : Request :=
  ⟨1, "select city from t where city_name = 1", []⟩

def otherNameAnswer : Compiled where
  sql := "SELECT city_name, city_name FROM (SELECT city_name, COUNT(1) AS t_internal_cnt FROM dw.t "
    ++ "GROUP BY city_name) AS t WHERE city_name = 1 LIMIT 1000"
  logicalTable := some ⟨"t", ["t_internal_cnt"], ["city"]⟩
  hasAggregation := false
  warnings := []

theorem evaluated_otherName :
    Compiler.standard.convert none [nestedReferenceSchema] otherNameRequest = .ok otherNameAnswer
      ∧ otherNameAnswer.isEmpty = false
      ∧ (Compiler.standard.draft none otherNameRequest).ReadsBack
      ∧ nestedReferenceSchema.find? "city" = some ⟨.dimension, 0, .named "city" "city_name"⟩
      ∧ nestedReferenceSchema.find? "city_name" = some ⟨.dimension, 0, .named "city" "city_name"⟩
      ∧ ((Query.parse otherNameRequest.sql).toOption.any fun q => q.bareNames = ["city"]
        ∧ (columnsToAppend q).map referenceName = ["city_name"]) = true := by
  decide +kernel

theorem doubled_columns_of_convert_otherName :
    (Compiler.standard.draft none otherNameRequest).ReadsBack
      ∧ ∃ (k : Compilation .standard none [nestedReferenceSchema] otherNameRequest otherNameAnswer)
        (q : Query) (columns : List SyntaxTree),
        Query.parse (Compiler.engineText (Compiler.standard.engine? none) otherNameRequest.sql)
          = .ok q
        ∧ appended true q = q.withColumns columns
        ∧ (∀ column ∈ columns, ∀ name ∈ q.bareNames, ∀ d,
          k.schema.find? name = some d ∧ k.schema.find? (referenceName column) = some d
            ↔ k.schema.Renames d name (referenceName column)
              ∨ k.schema.Renames d (referenceName column) name)
        ∧ ((∀ column ∈ columns, ∀ name ∈ q.bareNames, ∀ d, k.schema.find? name = some d →
            k.schema.find? (referenceName column) ≠ some d) ↔ ¬ RefersByOtherName k.schema q)
        ∧ ((Compiler.standard.draft none otherNameRequest).ReadsBack →
          (∀ e ∈ Compiler.standard.engine? none, e.ReadsFormulasBack q.toTree) →
          k.physical.bareNames = q.bareNames.map k.scope.emittedName
            ++ columns.map (k.scope.emittedName ∘ referenceName))
        ∧ ∀ column ∈ columns, ∀ name ∈ q.bareNames,
          k.scope.emittedName name = k.scope.emittedName (referenceName column)
            ↔ ∃ d d', k.schema.find? name = some d
              ∧ k.schema.find? (referenceName column) = some d'
              ∧ d.element.technicalName = d'.element.technicalName := by
  have hpipeline : Compiler.standard.pipeline = .configured (1000 : UInt64).toNat true := rfl
  obtain ⟨hconvert, hnonempty, hback, -⟩ := evaluated_otherName
  exact ⟨hback, doubled_columns_of_convert hpipeline hconvert hnonempty⟩

/-- The column that is appended stands for the dimension that is selected, and the answer has the
technical column twice. -/
theorem appended_column_doubles :
    Compiler.standard.convert none [nestedReferenceSchema] otherNameRequest = .ok otherNameAnswer
      ∧ nestedReferenceSchema.find? "city" = some ⟨.dimension, 0, .named "city" "city_name"⟩
      ∧ nestedReferenceSchema.find? "city_name" = some ⟨.dimension, 0, .named "city" "city_name"⟩
      ∧ ∃ q, Query.parse otherNameRequest.sql = .ok q ∧ q.bareNames = ["city"]
        ∧ (columnsToAppend q).map referenceName = ["city_name"]
        ∧ ∀ k : Compilation .standard none [nestedReferenceSchema] otherNameRequest
            otherNameAnswer, k.physical.bareNames = ["city_name", "city_name"] := by
  obtain ⟨hconvert, -, hback, hcity, htechnical, hnames⟩ := evaluated_otherName
  obtain ⟨q, hread, hnames⟩ := exists_ok_of_any hnames
  obtain ⟨hbare, happended⟩ := of_decide_eq_true hnames
  refine ⟨hconvert, hcity, htechnical, q, hread, hbare, happended, fun k => ?_⟩
  have hpipeline : Compiler.standard.pipeline = .configured (1000 : UInt64).toNat true := rfl
  have hschema : k.scope.schema = nestedReferenceSchema := (Option.some.inj k.chosen).symm
  rw [k.bareNames_physical_of_parse hpipeline hread hback nofun, ← List.map_map, hbare, happended]
  simp only [List.map_cons, List.map_nil, List.cons_append, List.nil_append]
  rw [Scope.emittedName_of_find? (hschema ▸ hcity),
    Scope.emittedName_of_find? (hschema ▸ htechnical)]
  rfl

end MetricQuery
