import MetricQuery.Correction.AppendedColumns
import MetricQuery.Proofs.Sql.Sights

/-!
# Shown names — the names that the appending of columns compares

The columns that a query filters and sorts by are compared with the names that its `SELECT` list
has, letter case aside. Both are told by what the clauses show, whichever reference to a name is the
one that is kept.
-/

namespace MetricQuery.Correction

open MetricQuery.Text MetricQuery.Sql MetricQuery.Sql.SyntaxTree

variable {q : Query} {s : Select} {name : String}

/-- Whether a tree shows a column of the name, in any letter case. -/
def ShowsName (enters : Form → Bool) (name : String) (t : SyntaxTree) : Prop :=
  ∃ own : Ident, sameName name own.name = true ∧ Shows enters (.column own) t

theorem hasName_congr {names : List String} {a b : String} (h : lower a = lower b) :
    hasName names a = hasName names b := by
  have hsame : sameName a = sameName b := by
    funext name
    rw [sameName, sameName, h]
  rw [hasName, hasName, hsame]

/-- The first elements of each name have all the names. -/
theorem exists_mem_distinctBy_iff {α : Type} {f : α → String} {xs : List α} :
    (∃ x ∈ distinctBy f xs, sameName name (f x) = true) ↔ ∃ x ∈ xs, sameName name (f x) = true := by
  constructor
  · rintro ⟨x, hx, hname⟩
    exact ⟨x, distinctBy_subset hx, hname⟩
  · rintro ⟨x, hx, hname⟩
    obtain ⟨y, hy, hyx⟩ := exists_mem_distinctBy hx
    refine ⟨y, hy, ?_⟩
    simp only [sameName, beq_iff_eq] at hname hyx ⊢
    rw [hname, hyx]

theorem hasName_columnNames {t : SyntaxTree} :
    hasName (t.columnNames.map Ident.name) name = true ↔ ShowsName (fun _ => true) name t := by
  have hdistinct : hasName (t.columnNames.map Ident.name) name = true
      ↔ ∃ own ∈ t.nodes.filterMap columnName?, sameName name own.name = true := by
    rw [← exists_mem_distinctBy_iff]
    simp [hasName, columnNames]
  rw [hdistinct]
  constructor
  · rintro ⟨own, hown, hname⟩
    obtain ⟨n, hn, hcolumn⟩ := List.mem_filterMap.1 hown
    exact ⟨own, hname, exists_mem_nodes_iff.1 ⟨n, hn, columnName?_eq_some.1 hcolumn⟩⟩
  · rintro ⟨own, hname, hshows⟩
    obtain ⟨n, hn, hcolumn⟩ := exists_mem_nodes_iff.2 hshows
    exact ⟨own, List.mem_filterMap.2 ⟨n, hn, columnName?_eq_some.2 hcolumn⟩, hname⟩

theorem exists_mem_outerColumns_iff {t : SyntaxTree} :
    (∃ c ∈ t.outerColumns, sameName name (referenceName c) = true)
      ↔ ShowsName isNoQuery name t := by
  have hdistinct : (∃ c ∈ t.outerColumns, sameName name (referenceName c) = true)
      ↔ ∃ c ∈ t.outerNodes.filter fun c => c.columnName?.isSome,
        sameName name (referenceName c) = true :=
    exists_mem_distinctBy_iff
  -- leaving out repeated columns loses no name
  rw [hdistinct]
  constructor
  · rintro ⟨c, hc, hname⟩
    obtain ⟨hnode, hsome⟩ := List.mem_filter.1 hc
    obtain ⟨own, hown⟩ := Option.isSome_iff_exists.1 hsome
    rw [referenceName, hown] at hname
    exact ⟨own, hname, exists_mem_outerNodes_iff.1 ⟨c, hnode, columnName?_eq_some.1 hown⟩⟩
  · rintro ⟨own, hname, hshows⟩
    obtain ⟨c, hnode, hform⟩ := exists_mem_outerNodes_iff.2 hshows
    have hown : c.columnName? = some own := columnName?_eq_some.2 hform
    refine ⟨c, List.mem_filter.2 ⟨hnode, by rw [hown]; rfl⟩, ?_⟩
    rw [referenceName, hown]
    exact hname

/-- The names that a query filters and sorts by. -/
theorem exists_mem_referencedColumns_iff :
    (∃ c ∈ referencedColumns q s, sameName name (referenceName c) = true)
      ↔ ShowsName isNoQuery name s.condition ∨ ShowsName isNoQuery name q.orderBy := by
  rw [referencedColumns, exists_mem_distinctBy_iff, Select.conditionColumns, Query.orderColumns,
    ← exists_mem_outerColumns_iff, ← exists_mem_outerColumns_iff]
  simp only [List.mem_append, or_and_right, exists_or]

/-- Whether the `SELECT` list declares an output name, in any letter case. -/
def DeclaresName (name : String) (item : SyntaxTree) : Prop :=
  ∃ label : Ident, sameName name label.name = true ∧ item.form = .clause (.aliased label)

theorem showsName_projection : ShowsName (fun _ => true) name s.projection
    ↔ ∃ item ∈ s.items, ShowsName (fun _ => true) name item := by
  constructor
  · rintro ⟨own, hname, hshows⟩
    obtain ⟨-, h | ⟨item, hitem, hshows⟩⟩ := shows_node.1 hshows
    · cases h
    · exact ⟨item, hitem, own, hname, hshows⟩
  · rintro ⟨item, hitem, own, hname, hshows⟩
    exact ⟨own, hname, shows_node.2 ⟨rfl, .inr ⟨item, hitem, hshows⟩⟩⟩

/-- The names that a `SELECT` list has: what its items refer to and what they declare. -/
theorem hasName_fields : hasName s.fields name = true
    ↔ ∃ item ∈ s.items, ShowsName (fun _ => true) name item ∨ DeclaresName name item := by
  have haliases : s.aliases.any (sameName name) = true
      ↔ ∃ item ∈ s.items, DeclaresName name item := by
    simp only [Select.aliases, List.any_map, List.any_eq_true, List.mem_filterMap, DeclaresName,
      Select.itemAlias?_eq_some, Function.comp_apply]
    constructor
    · rintro ⟨label, ⟨item, hitem, hform⟩, hname⟩
      exact ⟨item, hitem, label, hname, hform⟩
    · rintro ⟨item, hitem, label, hname, hform⟩
      exact ⟨label, ⟨item, hitem, hform⟩, hname⟩
  have hcolumns : (s.projection.columnNames.map Ident.name).any (sameName name) = true
      ↔ ∃ item ∈ s.items, ShowsName (fun _ => true) name item :=
    hasName_columnNames.trans showsName_projection
  rw [Select.fields, hasName, List.any_append, Bool.or_eq_true, haliases, hcolumns]
  simp only [and_or_left, exists_or]

/-- A referred column shows its name. -/
theorem showsName_of_mem_referencedColumns {c : SyntaxTree} (hc : c ∈ referencedColumns q s) :
    ShowsName (fun _ => true) (referenceName c) c := by
  have hcolumn : c.columnName?.isSome = true := by
    rcases List.mem_append.1 (distinctBy_subset hc) with hc | hc
    · exact (List.mem_filter.1 (distinctBy_subset hc)).2
    · exact (List.mem_filter.1 (distinctBy_subset hc)).2
  obtain ⟨own, hown⟩ := Option.isSome_iff_exists.1 hcolumn
  refine ⟨own, by rw [referenceName, hown]; exact sameName_self _, ?_⟩
  obtain ⟨form, parts⟩ := c
  exact shows_node.2 ⟨rfl, .inl (columnName?_eq_some.1 hown)⟩

end MetricQuery.Correction
