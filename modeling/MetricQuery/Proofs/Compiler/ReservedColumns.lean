import MetricQuery.Proofs.Compiler.SourceColumns
import MetricQuery.Proofs.Engine.Settled
import MetricQuery.Proofs.Sql.Sights
import MetricQuery.Proofs.Text.WholeWords

/-!
# Reserved columns — none that a query refers to is left out of the derived table

References are nodes of the syntax tree, while reserved columns are searched for in the text. If the
text shows each name as a word of its own, then the search misses no reference, at any depth and in
any spelling, so that the reserved column is read from the store unless a metric has its name.
-/

namespace MetricQuery.Sql

open MetricQuery.Text

variable {i : Ident} {t : SyntaxTree} {q : Query} {column text : String}

/-! ## Names in a text -/

/-- Whether the name stands in the text as it is printed, between its quote marks if it has any, and
next to no word character. -/
def Ident.StandsApart (i : Ident) (text : String) : Prop :=
  (∀ mark ∈ i.quote, isWordChar mark = false) ∧ Text.StandsApart i.render.toList text.toList

-- The instance is named since one that goes through all characters could be found first.
instance (i : Ident) (text : String) : Decidable (i.StandsApart text) :=
  haveI : Decidable (∀ mark ∈ i.quote, isWordChar mark = false) := Option.decidableForallMem i.quote
  inferInstanceAs (Decidable (_ ∧ _))

/-- Whether all columns of the query stand apart in the text. -/
def Query.ShownApart (q : Query) (text : String) : Prop :=
  ∀ t ∈ q.toTree.nodes, ∀ i ∈ t.columnName?, i.StandsApart text

instance (q : Query) (text : String) : Decidable (q.ShownApart text) :=
  inferInstanceAs (Decidable (∀ t ∈ _, _))

/-- Whether some part of the query, at any depth, refers to the reserved column. -/
def Query.RefersToReserved (q : Query) (column : String) : Prop :=
  ∃ t ∈ q.toTree.nodes, ∃ i, t.columnName? = some i ∧ internalColumn? i.name = some column

theorem isWordChar_of_mem_internalColumns (h : column ∈ internalColumns) :
    ∀ c ∈ column.toList, isWordChar c = true := by
  have hall : internalColumns.all (fun column => column.toList.all isWordChar) = true := by decide
  simp only [List.all_eq_true] at hall
  exact hall column h

theorem isWordChar_toLower {c : Char} (h : c.toNat < 0x80) :
    isWordChar c.toLower = isWordChar c :=
  ascii_forall (P := fun c => isWordChar c.toLower = isWordChar c) (by decide +kernel) h

theorem isAscii_of_internalColumn? {name : String} (h : internalColumn? name = some column) :
    IsAscii name := by
  obtain ⟨hmem, hname⟩ := internalColumn?_eq_some.1 h
  exact isAscii_of_asciiLower (hname ▸ isAscii_of_mem_internalColumns hmem)

theorem isWordChar_of_internalColumn? {name : String} (h : internalColumn? name = some column) :
    ∀ c ∈ name.toList, isWordChar c = true := by
  obtain ⟨hmem, rfl⟩ := internalColumn?_eq_some.1 h
  intro c hc
  rw [← isWordChar_toLower (isAscii_of_internalColumn? h c hc)]
  refine isWordChar_of_mem_internalColumns hmem _ ?_
  rw [asciiLower, String.toList_ofList]
  exact List.mem_map_of_mem hc

/-- The marks around a reserved column are in no way part of its name. -/
theorem Ident.StandsApart.name (h : i.StandsApart text)
    (hcolumn : internalColumn? i.name = some column) :
    Text.StandsApart i.name.toList text.toList := by
  obtain ⟨hmark, happart⟩ := h
  unfold render at happart
  cases hquote : i.quote with
  | none => rwa [hquote] at happart
  | some mark =>
    have hword := hmark mark (by rw [hquote]; rfl)
    -- a quote mark is no letter of a reserved column, so that nothing in the name is doubled
    have hmem : mark ∉ i.name.toList := by
      intro hmem
      rw [isWordChar_of_internalColumn? hcolumn mark hmem] at hword
      cases hword
    rw [hquote] at happart
    simp only [quoted, String.toList_ofList, escapeQuotes_of_not_mem hmem] at happart
    exact .of_marked hword happart

theorem mem_internalColumnsIn_of_standsApart (h : i.StandsApart text)
    (hcolumn : internalColumn? i.name = some column) : column ∈ internalColumnsIn text := by
  obtain ⟨hmem, hname⟩ := internalColumn?_eq_some.1 hcolumn
  have hne : column ≠ "" := by
    rintro rfl
    revert hmem
    decide
  have hfound : hasWord column text = true :=
    hasWord_of_standsApart hne (isAscii_of_internalColumn? hcolumn) hname (h.name hcolumn)
  exact List.mem_filter.2 ⟨hmem, hfound⟩

/-- The search of a text in which the columns stand apart finds each reserved one. -/
theorem Query.ShownApart.mem_internalColumnsIn (h : q.ShownApart text)
    (href : q.RefersToReserved column) : column ∈ internalColumnsIn text := by
  obtain ⟨t, ht, i, hname, hcolumn⟩ := href
  exact mem_internalColumnsIn_of_standsApart (h t ht i hname) hcolumn

end MetricQuery.Sql

namespace MetricQuery

open MetricQuery.Sql MetricQuery.Text

variable {c : Compiler} {databaseType : Option String} {schemas : List Schema} {r : Request}
  {out : Compiled} {column : String}

/-! ## The derived table -/

/-- Whether the columns of the corrected request stand apart in its text. -/
def Compiler.ShowsColumnsApart (c : Compiler) (databaseType : Option String) (r : Request) :
    Prop :=
  ∀ q, Query.parse (c.requestText databaseType r) = .ok q →
    q.ShownApart (c.requestText databaseType r)

instance (c : Compiler) (databaseType : Option String) (r : Request) :
    Decidable (c.ShowsColumnsApart databaseType r) :=
  inferInstanceAs (Decidable (∀ q, Query.parse (c.requestText databaseType r) = .ok q → _))

namespace Compilation

variable (k : Compilation c databaseType schemas r out)

/-- What the derived table reads for a reserved column: the column itself as a dimension, or a
metric in its place if one of this name has been classified. -/
structure ReadsReserved (column : String) : Prop where
  found : column ∈ internalColumnsIn (c.requestText databaseType r)
  listed : column ∈ k.table.dimensions ↔ column ∉ k.classification.metrics
  dimension : column ∉ k.classification.metrics →
    ⟨k.schema.internalColumnExpr column, column⟩ ∈ k.source.dimensions
      ∧ k.schema.internalColumnExpr column ∈ k.source.grouping
  metric : column ∈ k.classification.metrics → column ∈ k.table.metrics
    ∧ ∃ own ∈ k.source.metrics, MetricColumn k.schema column own

theorem internalColumn?_of_mem (h : column ∈ internalColumns) :
    internalColumn? column = some column :=
  internalColumn?_eq_some.2 ⟨h, asciiLower_of_mem_internalColumns h⟩

theorem exists_mem_source_dimensions {name : String} (h : name ∈ k.table.dimensions) :
    ∃ own ∈ k.source.dimensions, DimensionColumn k.schema name own := by
  obtain ⟨own, hown, hcolumn⟩ := k.exists_dimensionColumn h
  exact ⟨own, List.mem_filterMap.2 ⟨name, h, hown⟩, hcolumn⟩

theorem exists_mem_source_metrics {name : String} (h : name ∈ k.classification.metrics) :
    name ∈ k.table.metrics ∧ ∃ own ∈ k.source.metrics, MetricColumn k.schema name own := by
  have hsome : k.classification.metrics ≠ [] := List.ne_nil_of_mem h
  obtain ⟨hmade, htable, -⟩ := k.metric_columns hsome
  have hlisted : name ∈ k.table.metrics := by rwa [htable]
  obtain ⟨own, hown, hcolumn⟩ := k.exists_metricColumn hmade h
  exact ⟨hlisted, own, List.mem_filterMap.2 ⟨name, hlisted, hown⟩, hcolumn⟩

theorem readsReserved (hdeclares : k.schema.isEmpty = false)
    (hfound : column ∈ internalColumnsIn (c.requestText databaseType r)) :
    k.ReadsReserved column := by
  have hmetric : column ∈ k.classification.metrics ↔ k.Refers .metric column :=
    Classification.mem_metrics
  have hlisted : column ∈ k.table.dimensions ↔ column ∉ k.classification.metrics := by
    rw [k.mem_table_dimensions, hmetric]
    exact ⟨fun h => h.2.2, fun h => ⟨hdeclares, .inr hfound, h⟩⟩
  refine ⟨hfound, hlisted, fun hno => ?_, k.exists_mem_source_metrics⟩
  obtain ⟨own, hown, hcolumn⟩ := k.exists_mem_source_dimensions (hlisted.2 hno)
  -- what the search finds is one of the reserved columns, and it is its own dimension
  have hmem := Classification.mem_internalColumns_of_mem_internalColumnsIn hfound
  simp only [DimensionColumn, internalColumn?_of_mem hmem] at hcolumn
  subst hcolumn
  rw [k.grouping_source]
  exact ⟨hown, List.mem_map_of_mem hown⟩

end Compilation

/-- If the text of a request shows its columns apart, then the derived table reads every reserved
column that the corrected request refers to, at any depth and in any spelling. The same holds of the
search in the canonical text of any query. -/
theorem reserved_columns_of_convert {s : Schema}
    (h : c.convert databaseType schemas r = .ok out) (hnonempty : out.isEmpty = false)
    (hchosen : Compiler.chooseSchema? schemas r.modelId = some s) (hdeclares : s.isEmpty = false)
    (happart : c.ShowsColumnsApart databaseType r) :
    (∀ q : Query, q.ShownApart q.render →
      ∀ column, q.RefersToReserved column → column ∈ internalColumnsIn q.render)
    ∧ ∃ k : Compilation c databaseType schemas r out, k.schema = s
      ∧ out.logicalTable = some k.table
      ∧ Physical.attachSource k.table.name k.source.render k.renamed = .ok k.physical
      ∧ ∀ column, k.corrected.RefersToReserved column → k.ReadsReserved column := by
  refine ⟨fun q hshown column href => hshown.mem_internalColumnsIn href, ?_⟩
  obtain ⟨k⟩ := Compiler.compilation_of_convert h hnonempty
  obtain rfl : k.schema = s := Option.some.inj (k.chosen.symm.trans hchosen)
  refine ⟨k, rfl, k.answered, k.attached, fun column href => ?_⟩
  exact k.readsReserved hdeclares ((happart k.corrected k.read).mem_internalColumnsIn href)

/-- A model with a dimension that is not asked for. -/
def importSchema : Schema :=
  (Schema.ofNames 1 "t" "t" "dw.t").withDimension (.named "x" "a")

/-- A request that refers to a reserved column between quote marks and in capitals. -/
def importRequest : Request :=
  ⟨1, "select `SYS_IMP_DATE` from t", []⟩

def importAnswer : Compiled where
  sql := "SELECT `SYS_IMP_DATE` FROM (SELECT sys_imp_date, COUNT(1) AS t_internal_cnt"
    ++ " FROM dw.t GROUP BY sys_imp_date) AS t LIMIT 1000"
  logicalTable := some ⟨"t", ["t_internal_cnt"], ["sys_imp_date"]⟩
  hasAggregation := false
  warnings := []

theorem convert_import :
    Compiler.standard.convert none [importSchema] importRequest = .ok importAnswer
      ∧ Compiler.standard.ShowsColumnsApart none importRequest := by
  decide +kernel

theorem reserved_columns_of_convert_import :
    (∀ q : Query, q.ShownApart q.render →
      ∀ column, q.RefersToReserved column → column ∈ internalColumnsIn q.render)
    ∧ ∃ k : Compilation .standard none [importSchema] importRequest importAnswer,
      k.schema = importSchema
        ∧ importAnswer.logicalTable = some k.table
        ∧ Physical.attachSource k.table.name k.source.render k.renamed = .ok k.physical
        ∧ ∀ column, k.corrected.RefersToReserved column → k.ReadsReserved column :=
  reserved_columns_of_convert convert_import.1 (by decide +kernel) rfl rfl convert_import.2

end MetricQuery
