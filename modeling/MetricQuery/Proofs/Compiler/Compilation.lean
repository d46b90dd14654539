import MetricQuery.Compiler
import MetricQuery.Proofs.Planning.Attachment

/-!
# Compilations — what there has been between a request and its physical query

A request that is answered with a query has been through every step of the compiler. A compilation
names what each step has produced, so that a fact about an answer can be proved step by step.
-/

namespace MetricQuery

open MetricQuery.Sql MetricQuery.Correction MetricQuery.Text

/-- The text of a request that its fields are taken from: in the words of its engine, with all
corrections made. -/
def Compiler.requestText (c : Compiler) (databaseType : Option String) (r : Request) : String :=
  (c.correctedText (c.engineFor databaseType).1 r.sql).1

/-- The steps from a request to an answer. -/
structure Compilation (c : Compiler) (databaseType : Option String) (schemas : List Schema)
    (r : Request) (out : Compiled) where
  schema : Schema
  tableName : String
  /-- The query that the corrected text is read as. -/
  corrected : Query
  table : LogicalTable
  made : Option SynthesizedMetric
  /-- The query over the store, before its rows are limited. -/
  physical : Query
  chosen : Compiler.chooseSchema? schemas r.modelId = some schema
  read : Query.parse (c.requestText databaseType r) = .ok corrected
  classified : c.logicalTable schema tableName (corrected.fields ++ r.selectedFields)
    (c.requestText databaseType r) = (table, made)
  attached : Physical.attachSource table.name
    (SourceQuery.ofTable (Physical.scopeOf schema made corrected) made table).render
    (corrected.renameColumns
      (Physical.fieldNames (Physical.scopeOf schema made corrected) corrected.fields))
    = .ok physical
  text : out.sql = (c.limited physical.render).1
  answered : out.logicalTable = some table

namespace Compilation

variable {c : Compiler} {databaseType : Option String} {schemas : List Schema} {r : Request}
  {out : Compiled}

/-- The names that the request is read with. -/
def scope (k : Compilation c databaseType schemas r out) : Scope :=
  Physical.scopeOf k.schema k.made k.corrected

/-- The derived table that stands for the logical table. -/
def source (k : Compilation c databaseType schemas r out) : SourceQuery :=
  SourceQuery.ofTable k.scope k.made k.table

/-- The fields that are classified: the columns of the corrected query, and those that the request
selects besides. -/
def fields (k : Compilation c databaseType schemas r out) : List String :=
  k.corrected.fields ++ r.selectedFields

/-- The corrected query with its columns renamed. -/
def renamed (k : Compilation c databaseType schemas r out) : Query :=
  k.corrected.renameColumns (Physical.fieldNames k.scope k.corrected.fields)

/-- The classification that the logical table is made from. -/
def classification (k : Compilation c databaseType schemas r out) : Classification :=
  Classification.ofFields k.schema k.fields (c.requestText databaseType r)

end Compilation

variable {c : Compiler} {databaseType : Option String} {schemas : List Schema} {r : Request}
  {out : Compiled}

/-- A table that compiles has been compiled step by step. -/
theorem Compiler.compilation_of_compileTable {s : Schema} {tableName : String}
    (hchosen : chooseSchema? schemas r.modelId = some s)
    (h : c.compileTable databaseType s tableName r = .ok out) :
    ∃ k : Compilation c databaseType schemas r out, k.tableName = tableName := by
  unfold compileTable at h
  simp only at h
  split at h
  · cases h
  · next corrected hread =>
    split at h
    · cases h
    · next p hphysical =>
      obtain ⟨_, _, q, physical, warnings, htables, hread', hquery, rfl⟩ :=
        Physical.ofRequest_eq_ok hphysical
      obtain ⟨rfl, -⟩ := List.cons.inj htables
      obtain rfl : corrected = q := Except.ok.inj (hread.symm.trans hread')
      -- so that the limited text is not looked into
      generalize hlimited : c.limited physical.render = limited at h
      have hout := Except.ok.inj h
      have hsql : limited.1 = out.sql := congrArg Compiled.sql hout
      exact ⟨{
        schema := s, tableName, corrected, physical
        table := _, made := _
        chosen := hchosen
        read := hread
        classified := rfl
        attached := Physical.attachSource_of_ofQuery hquery
        text := by rw [hlimited, hsql]
        answered := (congrArg Compiled.logicalTable hout).symm }, rfl⟩

/-- Whatever is answered with a query has been compiled step by step. -/
theorem Compiler.exists_compilation_of_convert (h : c.convert databaseType schemas r = .ok out)
    (hnonempty : out.isEmpty = false) :
    ∃ (k : Compilation c databaseType schemas r out) (q : Query), Query.parse r.sql = .ok q
      ∧ q.tableName? = some k.tableName := by
  unfold convert at h
  split at h
  · cases h
  · next q hread =>
    split at h
    · next hchosen hname =>
      obtain ⟨k, rfl⟩ := compilation_of_compileTable hchosen h
      exact ⟨k, q, hread, hname⟩
    · cases h
      cases hnonempty

theorem Compiler.compilation_of_convert (h : c.convert databaseType schemas r = .ok out)
    (hnonempty : out.isEmpty = false) : Nonempty (Compilation c databaseType schemas r out) := by
  obtain ⟨k, -⟩ := exists_compilation_of_convert h hnonempty
  exact ⟨k⟩

end MetricQuery
