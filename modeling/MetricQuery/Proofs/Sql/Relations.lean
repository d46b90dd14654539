import MetricQuery.Sql.Sources

/-!
# Relations — the names that a `FROM` clause binds

A relation of a `FROM` clause is bound to the name of its alias, or else, if it is a table, to its
own, without what stands in front of it. The columns of a relation are referred to with that name
for a qualifier. A table without an alias also answers to its name with as much of what stands in
front as is given.
-/

namespace MetricQuery.Sql

namespace SyntaxTree

variable {t : SyntaxTree} {name : Ident}

/-- The name that a relation is bound to. -/
def relationName? : SyntaxTree → Option Ident
  | .node (.expr _) _ => none
  | .node (.clause form) parts =>
    (boundName? (.clause form parts)).or (parts.findSome? aliasName?)

/-- The own name of a relation, if it is a table, and the name that it is bound to. -/
def relationNames (t : SyntaxTree) : Option Ident × Option Ident :=
  (t.tableName?, t.relationName?)

/-- The name of a table without an alias, with all that stands in front. -/
def fullName? : SyntaxTree → Option (List Ident)
  | .node (.clause (.table name _ _)) parts =>
    if (parts.head?.bind aliasName?).isNone then some name else none
  | _ => none

/-- Whether a qualifier refers to a relation: it is the name that the relation is bound to, or it
ends the name of a table without an alias. -/
def AnswersTo (t : SyntaxTree) (qualifier : List Ident) : Prop :=
  t.relationName?.map ([·]) = some qualifier
    ∨ qualifier ≠ [] ∧ ∃ name ∈ t.fullName?, qualifier <:+ name

instance (t : SyntaxTree) (qualifier : List Ident) : Decidable (t.AnswersTo qualifier) :=
  inferInstanceAs (Decidable (_ ∨ _ ∧ ∃ name ∈ t.fullName?, qualifier <:+ name))

/-- A table without an alias is bound to the last part of its name. -/
theorem relationName?_of_fullName? {path : List Ident} (h : t.fullName? = some path)
    (hlast : path.getLast? = some name) : t.relationName? = some name := by
  unfold fullName? at h
  split at h
  · split at h
    · next halias =>
      obtain rfl := Option.some.inj h
      rw [relationName?, boundName?, Option.isNone_iff_eq_none.1 halias, hlast]
      rfl
    · cases h
  · cases h

/-- A qualifier of one part refers to the relations that are bound to it. -/
theorem answersTo_singleton : t.AnswersTo [name] ↔ t.relationName? = some name := by
  constructor
  · rintro (hbound | ⟨-, path, hpath, front, rfl⟩)
    · obtain ⟨bound, hname, heq⟩ := Option.map_eq_some_iff.1 hbound
      rw [hname, List.singleton_inj.1 heq]
    · exact relationName?_of_fullName? hpath List.getLast?_concat
  · intro h
    exact .inl (by rw [h]; rfl)

end SyntaxTree

namespace Query

variable {q : Query} {name : Ident}

/-- The relations of the `FROM` clause, if the body of the query is a plain `SELECT`. -/
def relations (q : Query) : List SyntaxTree :=
  (q.select?.map Select.sourceTables).getD []

/-- The names that the relations are bound to. -/
def boundNames (q : Query) : List (Option Ident) :=
  q.relations.map SyntaxTree.relationName?

/-- Whether there is a relation that a qualifier refers to. -/
def Binds (q : Query) (qualifier : List Ident) : Prop :=
  ∃ t ∈ q.relations, t.AnswersTo qualifier

instance (q : Query) (qualifier : List Ident) : Decidable (q.Binds qualifier) :=
  inferInstanceAs (Decidable (∃ t ∈ q.relations, t.AnswersTo qualifier))

theorem relations_eq {s : Select} (h : q.select? = some s) : q.relations = s.sourceTables := by
  rw [relations, h]
  rfl

theorem tableName?_eq_relations (q : Query) :
    q.tableName? = (q.relations.head?.bind SyntaxTree.tableName?).map Ident.name := by
  unfold tableName? relations Select.tableName?
  cases q.select? <;> rfl

section

variable {q' : Query}
  (h : q'.relations.map SyntaxTree.relationNames = q.relations.map SyntaxTree.relationNames)

include h

/-- The table that is read first is the first relation. -/
theorem tableName?_of_map_relationNames : q'.tableName? = q.tableName? := by
  have hfirst : ∀ q : Query, q.relations.head?.bind SyntaxTree.tableName?
      = (q.relations.map SyntaxTree.relationNames).head?.bind Prod.fst := fun q => by
    rw [List.head?_map, Option.bind_map]
    rfl
  rw [tableName?_eq_relations, tableName?_eq_relations, hfirst, hfirst, h]

theorem boundNames_of_map_relationNames : q'.boundNames = q.boundNames := by
  have hsecond : ∀ q : Query, q.boundNames = (q.relations.map SyntaxTree.relationNames).map Prod.snd :=
    fun q => by
      rw [List.map_map]
      rfl
  rw [hsecond, hsecond, h]

end

/-- For qualifiers of one part it is the list of names that counts. -/
theorem binds_singleton : q.Binds [name] ↔ some name ∈ q.boundNames := by
  rw [boundNames, List.mem_map]
  exact exists_congr fun t => and_congr_right fun _ => SyntaxTree.answersTo_singleton

end Query

end MetricQuery.Sql
