import MetricQuery.Proofs.Compiler.LogicalTables
import MetricQuery.Proofs.Compiler.Outcomes
import MetricQuery.Proofs.Compiler.PlannerWarnings
import MetricQuery.Proofs.Compiler.TableReferences
import MetricQuery.Proofs.Correction.KeptTables
import MetricQuery.Proofs.Planning.ForeignReferences

/-!
# Bound names — what the qualifiers of a request refer to in its answer

A request that reads a table by name has the derived table in place of that table, and of every
other relation of its `FROM` clause that bears the same name. The derived table is written with the
name that the relation was bound to. So the relations are bound to the same names as before, as long
as the text of the derived table is read as it is meant. What stood in front of the table's own name
is gone.
-/

namespace MetricQuery

open MetricQuery.Sql MetricQuery.Correction MetricQuery.Text

theorem Physical.readsTable_iff {name : String} {q : Query} :
    readsTable name q = true ↔ ∃ table ∈ q.relations, bearsName name table = true := by
  unfold readsTable Query.relations
  cases q.select? with
  | none => simp
  | some s => exact List.any_eq_true

theorem Physical.readsTable_of_tableName? {q : Query} {own name : String}
    (h : q.tableName? = some own) (hsame : sameName own name = true) : readsTable name q = true := by
  rw [Query.tableName?_eq_relations] at h
  obtain ⟨ident, hident, rfl⟩ := Option.map_eq_some_iff.1 h
  obtain ⟨table, htable, hname⟩ := Option.bind_eq_some_iff.1 hident
  refine readsTable_iff.2 ⟨table, List.mem_of_head? htable, ?_⟩
  rw [bearsName, hname]
  exact hsame

/-- Two lists have the same images exactly if their elements have, one by one. -/
theorem map_eq_map_iff_of_forall₂ {α β γ : Type} {R : α → β → Prop} {P : α → Prop} {f : α → γ}
    {g : β → γ} {xs : List α} {ys : List β} (h : List.Forall₂ R xs ys)
    (hP : ∀ x y, R x y → (g y = f x ↔ P x)) : ys.map g = xs.map f ↔ ∀ x ∈ xs, P x := by
  induction h with
  | nil => exact ⟨fun _ => nofun, fun _ => rfl⟩
  | cons hhead _ ih => rw [List.map_cons, List.map_cons, List.cons.injEq, List.forall_mem_cons,
      hP _ _ hhead, ih]

/-- Whether the text of the derived table, if it is read as a relation, is read as one of the name
that is written in it, under each name by which the corrected request refers to the logical table. -/
def Compiler.NamesDerived (c : Compiler) (databaseType : Option String) (s : Schema)
    (tableName : String) (r : Request) : Prop :=
  ∀ q, Query.parse (c.requestText databaseType r) = .ok q →
    let logical := c.logicalTable s tableName (q.fields ++ r.selectedFields)
      (c.requestText databaseType r)
    let inner := (SourceQuery.ofTable (Physical.scopeOf s logical.2 q) logical.2 logical.1).render
    ∀ table ∈ q.relations, Physical.bearsName logical.1.name table = true →
      ∀ derived, Physical.derivedTable inner ((table.boundName?.map Ident.render).getD "")
        = .ok derived → derived.relationName? = table.relationName?

instance (c : Compiler) (databaseType : Option String) (s : Schema) (tableName : String)
    (r : Request) : Decidable (c.NamesDerived databaseType s tableName r) :=
  inferInstanceAs (Decidable (∀ q, Query.parse (c.requestText databaseType r) = .ok q →
    ∀ table ∈ q.relations, _ = true → ∀ derived : SyntaxTree,
      (_ : Except PlanError SyntaxTree) = .ok derived → (_ : Option Ident) = _))

namespace Compilation

variable {c : Compiler} {ceiling : UInt64} {append : Bool} {databaseType : Option String}
  {schemas : List Schema} {r : Request} {out : Compiled} {q : Query}
  (k : Compilation c databaseType schemas r out) {table table' : SyntaxTree}

/-- What is read from the text of the derived table under the name that a table is bound to. -/
def derivedFor (table : SyntaxTree) : Except PlanError SyntaxTree :=
  Physical.derivedTable k.source.render ((table.boundName?.map Ident.render).getD "")

/-- What a relation of the request has become in the answer: the derived table if it bears the name
of the logical table, and otherwise the same but for the names of columns. -/
def Becomes (table table' : SyntaxTree) : Prop :=
  if Physical.bearsName k.table.name table = true then k.derivedFor table = .ok table'
  else table' = table.mapColumns k.scope.emittedName

/-- Whether the derived table for a relation, if there is one, is read under the relation's name. -/
def NamesDerivedFor (table : SyntaxTree) : Prop :=
  Physical.bearsName k.table.name table = true →
    ∀ derived, k.derivedFor table = .ok derived → derived.relationName? = table.relationName?

/-- How the relations of the answer are those of the request `q`. -/
structure KeepsRelations (q : Query) : Prop where
  replaced : ∃ path, k.Replaces path
  silent : ∀ name, ⟨Physical.stageName, "logical table `" ++ name ++ "` not found in FROM"⟩
    ∉ out.warnings
  relations : List.Forall₂ k.Becomes k.corrected.relations k.physical.relations
  /-- Outside the derived tables only columns have other names, also in the conditions of joins. -/
  elsewhere : ∀ path, (∀ p, k.Replaces p → ¬ p <+: path) →
    k.physical.formAt? path = (k.corrected.formAt? path).map (Form.mapColumn k.scope.emittedName)
  boundNames_corrected : k.corrected.boundNames = q.boundNames
  boundNames_eq_iff : k.physical.boundNames = q.boundNames
    ↔ c.NamesDerived databaseType k.schema k.tableName r
  binds_iff : c.NamesDerived databaseType k.schema k.tableName r →
    ∀ name, k.physical.Binds [name] ↔ q.Binds [name]
  binds_of_kept : ∀ table ∈ k.corrected.relations, Physical.bearsName k.table.name table = false →
    ∀ qualifier, table.AnswersTo qualifier → k.physical.Binds qualifier

theorem relationName?_eq_iff_of_becomes (h : k.Becomes table table') :
    table'.relationName? = table.relationName? ↔ k.NamesDerivedFor table := by
  unfold Becomes at h
  split at h
  · next hbears =>
    constructor
    · intro hname _ derived hderived
      rw [hderived] at h
      rw [Except.ok.inj h, hname]
    · exact fun hall => hall hbears table' h
  · next hno =>
    subst h
    have hname := (SyntaxTree.nodewise_respells _).relationName?_eq
      (table.respells_mapColumns k.scope.emittedName)
    exact ⟨fun _ hbears => absurd hbears hno, fun _ => hname⟩

/-- In the place of its `FROM` clause the renamed query has what the request has there. -/
theorem sources_renamed {s : Select} (hs : k.renamed.select? = some s) :
    s.sources = .absent ∨ ∃ tables, s.sources = .clause .from tables := by
  obtain ⟨own, hown, hrelated⟩ :=
    (SyntaxTree.clausewise_respells _).exists_select? k.respells_renamed.flip hs
  have hclause := SyntaxTree.clausewise_respells (flip (flip fun a b => b = k.scope.emittedName a))
  have hsources := hrelated.sources.flip
  rcases (selectRead_of_parse k.read hown).sources with habsent | ⟨tables, hfrom⟩
  · rw [habsent] at hsources
    obtain ⟨parts, hparts, hs⟩ := (hclause _ _ _).1 hsources
    obtain rfl := List.forall₂_nil_left_iff.1 hparts
    exact .inl hs
  · rw [hfrom] at hsources
    obtain ⟨tables', -, hs⟩ := (hclause _ _ _).1 hsources
    exact .inr ⟨tables', hs⟩

/-- The relations of a request change one by one. -/
theorem forall₂_becomes : List.Forall₂ k.Becomes k.corrected.relations k.physical.relations := by
  -- the columns are renamed first, then the derived table is attached
  have hattached : List.Forall₂ (fun table table' => Physical.attachTo k.table.name k.source.render
      table = .ok table') k.renamed.relations k.physical.relations :=
    Physical.relations_of_attachSource k.attached fun s => k.sources_renamed
  rw [Query.relations_of_respells k.respells_renamed, List.forall₂_map_left_iff] at hattached
  refine hattached.imp fun table table' hattach => ?_
  have hrespells := table.respells_mapColumns k.scope.emittedName
  rw [Physical.attachTo, Physical.bearsName_of_respells hrespells, hrespells.boundName?_eq]
    at hattach
  unfold Becomes derivedFor
  by_cases hbears : Physical.bearsName k.table.name table = true
  · rw [if_pos hbears] at hattach ⊢
    exact hattach
  · rw [if_neg hbears] at hattach ⊢
    exact (Except.ok.inj hattach).symm

theorem exists_becomes (htable : table ∈ k.corrected.relations) :
    ∃ table' ∈ k.physical.relations, k.Becomes table table' := by
  have hflip : List.Forall₂ (flip k.Becomes) k.physical.relations k.corrected.relations :=
    k.forall₂_becomes.flip
  exact SyntaxTree.exists_mem_of_forall₂ hflip htable

theorem namesDerived_iff : c.NamesDerived databaseType k.schema k.tableName r
    ↔ ∀ table ∈ k.corrected.relations, k.NamesDerivedFor table := by
  constructor
  · intro h
    have hcorrected := h k.corrected k.read
    simp only [k.classified] at hcorrected
    exact hcorrected
  · intro h q' hread'
    obtain rfl : k.corrected = q' := Except.ok.inj (k.read.symm.trans hread')
    simp only [k.classified]
    exact h

/-- The relations are bound to the same names if each derived table is read under its name. -/
theorem boundNames_corrected_iff : k.physical.boundNames = k.corrected.boundNames
    ↔ c.NamesDerived databaseType k.schema k.tableName r := by
  rw [k.namesDerived_iff]
  exact map_eq_map_iff_of_forall₂ k.forall₂_becomes fun _ _ => k.relationName?_eq_iff_of_becomes

/-- A relation that is not the logical table answers to the qualifiers it has answered to. -/
theorem binds_of_kept (htable : table ∈ k.corrected.relations)
    (hkept : Physical.bearsName k.table.name table = false) {qualifier : List Ident}
    (hanswers : table.AnswersTo qualifier) : k.physical.Binds qualifier := by
  obtain ⟨table', htable', hbecomes⟩ := k.exists_becomes htable
  have heq : table' = table.mapColumns k.scope.emittedName := by
    rwa [Becomes, hkept, if_neg Bool.false_ne_true] at hbecomes
  subst heq
  refine ⟨_, htable', ?_⟩
  exact ((SyntaxTree.nodewise_respells _).answersTo_iff
    (table.respells_mapColumns k.scope.emittedName)).2 hanswers

theorem readsTable_of_tableName? {q : Query} (hname : q.tableName? = some k.tableName) :
    Physical.readsTable k.table.name q = true := by
  refine Physical.readsTable_of_tableName? hname ?_
  rw [sameName, k.table_name, lower_lower]
  exact beq_self_eq_true _

/-- The derived table has been read wherever it was called for. -/
theorem readsDerived : c.ReadsDerived databaseType k.schema k.tableName r := by
  intro q' hread'
  obtain rfl : k.corrected = q' := Except.ok.inj (k.read.symm.trans hread')
  simp only [k.classified]
  intro select hselect table htable hbears
  have hmem : table ∈ k.corrected.relations := by
    rw [Query.relations_eq hselect]
    exact htable
  obtain ⟨table', -, hbecomes⟩ := k.exists_becomes hmem
  rw [Becomes, if_pos hbears] at hbecomes
  exact congrArg Except.isOk hbecomes

theorem exists_replaces (h : Physical.readsTable k.table.name k.corrected = true) :
    ∃ path, k.Replaces path := by
  obtain ⟨table, htable, hbears⟩ := Physical.readsTable_iff.1 h
  cases hs : k.corrected.select? with
  | none =>
    rw [Query.relations, hs] at htable
    cases htable
  | some s =>
    rw [Query.relations_eq hs] at htable
    rcases (selectRead_of_parse k.read hs).sources with habsent | ⟨tables, hfrom⟩
    · rw [Select.sourceTables, habsent] at htable
      cases htable
    · obtain ⟨path, hplace⟩ := (Query.exists_sourceAt_iff hs hfrom).2 htable
      exact ⟨path, table, hplace, hbears⟩

/-- On the way to the corrected request no relation gets another name. -/
theorem map_relationNames_corrected (hpipeline : c.pipeline = .configured ceiling.toNat append)
    (hback : c.PrintsBack databaseType r) (hread : Query.parse r.sql = .ok q)
    (hname : q.tableName? = some k.tableName) :
    k.corrected.relations.map SyntaxTree.relationNames
      = q.relations.map SyntaxTree.relationNames := by
  obtain ⟨select, -, -, hselect, -⟩ := Query.readsNamedTable_iff.2 ⟨_, hname⟩
  have hcorrected := Except.ok.inj (k.read.symm.trans
    (Compiler.parse_requestText hpipeline hback hread))
  rw [hcorrected]
  exact ((keepsTables_functionNames _ q).trans
    (keepsTables_corrected _ ceiling append _)).map_relationNames hread hselect

theorem keepsRelations (hpipeline : c.pipeline = .configured ceiling.toNat append)
    (hback : c.PrintsBack databaseType r) (hread : Query.parse r.sql = .ok q)
    (hname : q.tableName? = some k.tableName)
    (h : c.compileTable databaseType k.schema k.tableName r = .ok out) : k.KeepsRelations q := by
  have hnames := k.map_relationNames_corrected hpipeline hback hread hname
  have hbound := Query.boundNames_of_map_relationNames hnames
  have hfirst := (Query.tableName?_of_map_relationNames hnames).trans hname
  -- no stage warns in the name of the planner, so that its silence is that of the answer
  have hstages : Physical.stageName ∉ c.pipeline.stageNames := by
    rw [hpipeline]
    exact Pipeline.stageName_not_mem_configured _ _
  have hboundNames : k.physical.boundNames = q.boundNames
      ↔ c.NamesDerived databaseType k.schema k.tableName r := by
    rw [← hbound]
    exact k.boundNames_corrected_iff
  exact {
    replaced := k.exists_replaces (k.readsTable_of_tableName? hfirst)
    silent := k.not_mem_warnings_of_readsTable h hstages
      (k.readsTable_of_tableName? (k.respells_renamed.tableName?_eq.trans hfirst))
    relations := k.forall₂_becomes
    elsewhere := fun path hout => Physical.formAt?_of_ofQuery k.ofQuery_eq hout
    boundNames_corrected := hbound
    boundNames_eq_iff := hboundNames
    binds_iff := fun hderived name => by
      rw [Query.binds_singleton, Query.binds_singleton, hboundNames.2 hderived]
    binds_of_kept := fun table htable hkept qualifier => k.binds_of_kept htable hkept }

end Compilation

/-- What becomes of the relations of a request that gets past the check for an empty answer. There is
an answer exactly if the derived table can be read. -/
theorem bound_names_of_convert {c : Compiler} {ceiling : UInt64} {append : Bool}
    {databaseType : Option String} {schemas : List Schema} {r : Request} {q : Query} {s : Schema}
    {tableName : String} (hpipeline : c.pipeline = .configured ceiling.toNat append)
    (hback : c.PrintsBack databaseType r) (hread : Query.parse r.sql = .ok q)
    (hchosen : Compiler.chooseSchema? schemas r.modelId = some s)
    (hname : q.tableName? = some tableName) :
    ((∃ out, c.convert databaseType schemas r = .ok out)
        ↔ c.ReadsDerived databaseType s tableName r)
      ∧ ∀ out, c.convert databaseType schemas r = .ok out →
        ∃ k : Compilation c databaseType schemas r out,
          k.schema = s ∧ k.tableName = tableName ∧ k.KeepsRelations q := by
  have hconvert : c.convert databaseType schemas r = c.compileTable databaseType s tableName r := by
    rw [Compiler.convert, hread]
    simp only [hchosen, hname]
  rw [hconvert]
  refine ⟨⟨?_, fun hderived => ?_⟩, fun out hout => ?_⟩
  · rintro ⟨out, hout⟩
    obtain ⟨k, rfl⟩ := Compiler.compilation_of_compileTable hchosen hout
    obtain rfl : k.schema = s := Option.some.inj (k.chosen.symm.trans hchosen)
    exact k.readsDerived
  · obtain ⟨select, -, -, hselect, -⟩ := Query.readsNamedTable_iff.2 ⟨_, hname⟩
    obtain ⟨out, -, hout, -⟩ := Compiler.exists_compileTable hpipeline hback hread hselect hderived
    exact ⟨out, hout⟩
  · obtain ⟨k, rfl⟩ := Compiler.compilation_of_compileTable hchosen hout
    obtain rfl : k.schema = s := Option.some.inj (k.chosen.symm.trans hchosen)
    exact ⟨k, rfl, rfl, k.keepsRelations hpipeline hback hread hname hout⟩

/-- A request that joins the logical table with itself. -/
def selfJoinRequest : Request :=
  ⟨1, "select 1 from t, T x", []⟩

theorem selfJoinRequest_readable : (Query.parse selfJoinRequest.sql).isOk = true
    ∧ (∀ q, Query.parse selfJoinRequest.sql = .ok q → q.tableName? = some "t")
    ∧ Compiler.standard.PrintsBack none selfJoinRequest
    ∧ Compiler.standard.ReadsDerived none Compiler.bareSchema "t" selfJoinRequest
    ∧ Compiler.standard.NamesDerived none Compiler.bareSchema "t" selfJoinRequest := by
  decide +kernel

theorem bound_names_of_convert_selfJoin :
    Compiler.standard.NamesDerived none Compiler.bareSchema "t" selfJoinRequest
      ∧ ∃ (q : Query) (out : Compiled), Query.parse selfJoinRequest.sql = .ok q
        ∧ Compiler.standard.convert none [Compiler.bareSchema] selfJoinRequest = .ok out
        ∧ ∃ k : Compilation .standard none [Compiler.bareSchema] selfJoinRequest out,
          k.schema = Compiler.bareSchema ∧ k.tableName = "t" ∧ k.KeepsRelations q := by
  obtain ⟨hok, hname, hback, hderived, hnames⟩ := selfJoinRequest_readable
  obtain ⟨q, hread⟩ := exists_ok_of_isOk hok
  have hpipeline : Compiler.standard.pipeline = .configured (1000 : UInt64).toNat true := rfl
  have hchosen : Compiler.chooseSchema? [Compiler.bareSchema] selfJoinRequest.modelId
      = some Compiler.bareSchema := rfl
  obtain ⟨hanswered, hkeeps⟩ :=
    bound_names_of_convert hpipeline hback hread hchosen (hname q hread)
  obtain ⟨out, hout⟩ := hanswered.2 hderived
  exact ⟨hnames, q, out, hread, hout, hkeeps out hout⟩

/-- A model with one dimension. -/
def boundSchema : Schema :=
  (Schema.ofNames 1 "t" "t" "u").withDimension (.named "a" "b")

/-- A request that names the schema of its table. -/
def qualifiedRequest : Request :=
  ⟨1, "select d.t.a from d.t", []⟩

def qualifiedAnswer : Compiled where
  sql := "SELECT d.t.b FROM (SELECT b, COUNT(1) AS t_internal_cnt FROM u GROUP BY b) AS t LIMIT 1000"
  logicalTable := some ⟨"t", ["t_internal_cnt"], ["a"]⟩
  hasAggregation := false
  warnings := []

/-- A model whose source ends the derived table and begins another one. -/
def splitSourceSchema : Schema :=
  Schema.ofNames 1 "t" "t" "u) AS x, (SELECT 1"

def splitSourceAnswer : Compiled where
  sql := "SELECT 1 FROM (SELECT COUNT(1) AS t_internal_cnt FROM u) AS x LIMIT 1000"
  logicalTable := some ⟨"t", ["t_internal_cnt"], []⟩
  hasAggregation := false
  warnings := [⟨"schema", "model 1 declares no fields"⟩]

/-- A model whose source leaves the derived table without an end. -/
def openSourceSchema : Schema :=
  Schema.ofNames 1 "t" "t" "u --"

/-- Printed statements are read back, and yet: the only column of the first answer has a qualifier
that no relation answers to any more; the only relation of the second one is bound to another name
than that of the request; and the third request is refused. -/
theorem bound_names_not_kept :
    (Compiler.standard.PrintsBack none qualifiedRequest
      ∧ ((Query.parse qualifiedRequest.sql).toOption.map fun q =>
          (q.tableName?, q.formAt? [1, 2, 0], decide (q.Binds [.plain "d", .plain "t"])))
        = some (some "t", some (.column [.plain "d", .plain "t"] (.plain "a")), true)
      ∧ Compiler.standard.convert none [boundSchema] qualifiedRequest = .ok qualifiedAnswer
      ∧ ((Query.parse qualifiedAnswer.sql).toOption.map fun q =>
          (q.formAt? [1, 2, 0], decide (q.Binds [.plain "d", .plain "t"])))
        = some (some (.column [.plain "d", .plain "t"] (.plain "b")), false))
    ∧ (Compiler.standard.PrintsBack none Compiler.bareRequest
      ∧ ((Query.parse Compiler.bareRequest.sql).toOption.map fun q => (q.tableName?, q.boundNames))
        = some (some "t", [some (.plain "t")])
      ∧ Compiler.standard.convert none [splitSourceSchema] Compiler.bareRequest
        = .ok splitSourceAnswer
      ∧ ((Query.parse splitSourceAnswer.sql).toOption.map Query.boundNames)
        = some [some (.plain "x")])
    ∧ Compiler.standard.convert none [openSourceSchema] Compiler.bareRequest
      = .error ⟨"SELECT 1 FROM t LIMIT 1000", "SQL syntax error"⟩ := by
  refine ⟨?_, ?_, ?_⟩
  · decide +kernel
  · decide +kernel
  · decide +kernel

end MetricQuery
