import Mathlib.Data.List.Induction
import Mathlib.Data.List.Pairwise
import MetricQuery.Proofs.Sql.Paths
import MetricQuery.Proofs.Text.DistinctNames
import MetricQuery.Sql.FieldNames

/-!
# Renamed columns — what a table of field names does to a query

A query is renamed from its innermost nodes outwards, and its columns are listed from the outermost
ones inwards. Both come to the same nodes, so the columns of the renamed query are those of the
query, one by one under their new names, and two renamings in a row are a single one.
-/

namespace MetricQuery

open MetricQuery.Text

namespace Sql

/-! ## Tables of field names -/

namespace FieldNames

variable {m m' : FieldNames} {name target a b : String}

theorem get?_congr (m : FieldNames) (h : sameName a b = true) : m.get? a = m.get? b := by
  rw [sameName, beq_iff_eq] at h
  simp only [get?, sameName, h]

/-- There is one entry for a name only. -/
theorem find?_entries {e : String × String} (hmem : e ∈ m.entries)
    (hsame : sameName e.1 name = true) : m.entries.find? (fun e => sameName e.1 name) = some e := by
  cases hfind : m.entries.find? fun e => sameName e.1 name with
  | none =>
    have hno := List.find?_eq_none.1 hfind _ hmem
    exact absurd hsame hno
  | some own =>
    have hsame' : sameName own.1 name = true := by simpa using List.find?_some hfind
    have hsymm : Std.Symm fun x y : String × String => sameName x.1 y.1 = false :=
      ⟨fun x y h => by rw [sameName_comm]; exact h⟩
    -- no two keys are the same name, so that the first entry of a name is its only one
    have heq : own = e := by
      by_contra hne
      have hapart := m.keys_distinct.forall (List.mem_of_find?_eq_some hfind) hmem hne
      simp_all [sameName]
    rw [heq]

theorem get?_eq_some :
    m.get? name = some target ↔ ∃ key, (key, target) ∈ m.entries ∧ sameName key name = true := by
  rw [get?, Option.map_eq_some_iff]
  constructor
  · rintro ⟨⟨key, own⟩, hfind, rfl⟩
    exact ⟨key, List.mem_of_find?_eq_some hfind, by simpa using List.find?_some hfind⟩
  · rintro ⟨key, hmem, hsame⟩
    exact ⟨(key, target), find?_entries hmem hsame, rfl⟩

theorem get?_eq_none : m.get? name = none ↔ ∀ e ∈ m.entries, sameName e.1 name = false := by
  simp [get?, List.find?_eq_none]

theorem apply_of_mem {key : String} (hmem : (key, target) ∈ m.entries)
    (hsame : sameName key name = true) : m.apply name = target := by
  rw [apply, get?_eq_some.2 ⟨key, hmem, hsame⟩, Option.getD_some]

theorem apply_of_not_mem (h : ∀ e ∈ m.entries, sameName e.1 name = false) :
    m.apply name = name := by
  rw [apply, get?_eq_none.2 h, Option.getD_none]

theorem sameName_apply (m : FieldNames) (h : sameName a b = true) :
    sameName (m.apply a) (m.apply b) = true := by
  rw [apply, apply, m.get?_congr h]
  cases m.get? b with
  | none => exact h
  | some target => exact sameName_self target

theorem ofList_concat (entries : List (String × String)) (e : String × String) :
    ofList (entries ++ [e]) = (ofList entries).insert e.1 e.2 := by
  simp only [ofList, List.foldl_append, List.foldl_cons, List.foldl_nil]

/-- Of the entries for one name the last one counts. -/
theorem get?_ofList (entries : List (String × String)) (name : String) :
    (ofList entries).get? name
      = (entries.reverse.find? fun e => sameName e.1 name).map (·.2) := by
  -- from the end of the list, where the entry that counts stands
  induction entries using List.reverseRecOn with
  | nil => rfl
  | append_singleton entries e ih =>
    rw [ofList_concat, List.reverse_append, List.reverse_singleton, List.singleton_append]
    cases hsame : sameName e.1 name with
    | true => rw [get?_insert_same _ _ hsame, List.find?_cons_of_pos (by exact hsame)]; rfl
    | false => rw [get?_insert_other _ _ hsame, List.find?_cons_of_neg (by simp [hsame]), ih]

/-- The table that sends a name to what the second table makes of what the first one makes of it. -/
def andThen (m m' : FieldNames) : FieldNames where
  entries := m.entries.map (fun e => (e.1, m'.apply e.2))
    ++ m'.entries.filter fun e => !m.contains e.1
  keys_distinct := by
    refine List.pairwise_append.2 ⟨List.pairwise_map.2 m.keys_distinct, m'.keys_distinct.filter _, ?_⟩
    intro e he e' he'
    obtain ⟨own, hown, rfl⟩ := List.mem_map.1 he
    have hno := (List.mem_filter.1 he').2
    rw [contains, Bool.not_eq_true', List.any_eq_false] at hno
    exact eq_false_of_ne_true (hno own hown)

theorem get?_andThen (m m' : FieldNames) (name : String) :
    (m.andThen m').get? name = ((m.get? name).map m'.apply).or (m'.get? name) := by
  have hfirst : (m.entries.map fun e => (e.1, m'.apply e.2)).find? (fun e => sameName e.1 name)
      = (m.entries.find? fun e => sameName e.1 name).map fun e => (e.1, m'.apply e.2) := by
    rw [List.find?_map]
    rfl
  rw [get?, andThen, List.find?_append, hfirst, get?]
  cases hfind : m.entries.find? fun e => sameName e.1 name with
  | some e => rfl
  | none =>
    -- no key of the second table for this name is hidden by the first one
    have hsecond : (m'.entries.filter fun e => !m.contains e.1).find? (fun e => sameName e.1 name)
        = m'.entries.find? fun e => sameName e.1 name := by
      rw [List.find?_filter]
      congr 1
      funext e
      cases hsame : sameName e.1 name with
      | false => simp
      | true =>
        have hno : m.contains e.1 = false := by
          rw [contains, List.any_eq_false]
          intro own hown hkey
          have happart := List.find?_eq_none.1 hfind own hown
          simp_all [sameName]
        simp [hno]
    simp only [Option.map_none, Option.none_or, hsecond, get?]

theorem apply_andThen (m m' : FieldNames) (name : String) :
    (m.andThen m').apply name = m'.apply (m.apply name) := by
  rw [apply, get?_andThen, apply, apply]
  cases m.get? name with
  | none => rfl
  | some target => rfl

end FieldNames

/-! ## Columns under other names -/

section

variable {f g : String → String}

/-- The form with its name changed, if it is that of a column. -/
def Form.mapColumn (f : String → String) : Form → Form
  | .expr (.column qualifier name) => .expr (.column qualifier { name with name := f name.name })
  | form => form

theorem Form.mapColumn_of_not_column (f : String → String) {form : Form}
    (h : ∀ qualifier name, form ≠ .expr (.column qualifier name)) : form.mapColumn f = form := by
  cases form with
  | clause form => rfl
  | expr form =>
    cases form with
    | column qualifier name => exact absurd rfl (h qualifier name)
    | _ => rfl

theorem Form.mapColumn_mapColumn (f g : String → String) (form : Form) :
    (form.mapColumn f).mapColumn g = form.mapColumn (g ∘ f) := by
  cases form with
  | clause form => rfl
  | expr form => cases form <;> rfl

theorem Form.respells_mapColumn (f : String → String) (form : Form) :
    form.Respells (fun a b => b = f a) (form.mapColumn f) := by
  cases form with
  | clause form => rfl
  | expr form =>
    cases form with
    | column qualifier name => exact ⟨rfl, rfl, rfl⟩
    | _ => rfl

namespace SyntaxTree

variable {t t' : SyntaxTree}

/-- The node with its name changed, if it is a column. -/
def mapColumn (f : String → String) (t : SyntaxTree) : SyntaxTree :=
  .node (t.form.mapColumn f) t.parts

/-- The tree with the names of all columns changed. -/
def mapColumns (f : String → String) (t : SyntaxTree) : SyntaxTree :=
  t.mapNodes (mapColumn f)

theorem mapColumns_node (f : String → String) (form : Form) (parts : List SyntaxTree) :
    (node form parts).mapColumns f = .node (form.mapColumn f) (parts.map (mapColumns f)) :=
  mapNodes_node _ _ _

theorem renameColumn_eq_mapColumn (m : FieldNames) : renameColumn m = mapColumn m.apply := by
  funext t
  obtain ⟨form, parts⟩ := t
  cases form with
  | clause form => rfl
  | expr form => cases form <;> rfl

theorem respells_mapColumns (f : String → String) (t : SyntaxTree) :
    t.Respells (fun a b => b = f a) (t.mapColumns f) := by
  induction t using SyntaxTree.induction with
  | node form parts ih =>
    rw [mapColumns_node]
    refine .node (form.respells_mapColumn f) ?_
    rw [List.forall₂_map_right_iff, List.forall₂_same]
    exact ih

/-- Names that are told by what they respell leave one tree only. -/
theorem eq_mapColumns_of_respells (h : t.Respells (fun a b => b = f a) t') :
    t' = t.mapColumns f := by
  induction t using SyntaxTree.induction generalizing t' with
  | node form parts ih =>
    obtain ⟨form', parts', rfl, hform, hparts⟩ := respells_node.1 h
    have hmem := (List.forall₂_and_left parts parts').2 ⟨fun p (hp : p ∈ parts) => hp, hparts⟩
    have hmap : List.Forall₂ Eq (parts.map (mapColumns f)) parts' := by
      rw [List.forall₂_map_left_iff]
      exact hmem.imp fun p p' hp => (ih p hp.1 hp.2).symm
    rw [List.forall₂_eq_eq_eq] at hmap
    rw [mapColumns_node, hmap]
    rcases hform.cases with ⟨rfl, hno⟩ | ⟨qualifier, name, name', rfl, rfl, hquote, hname⟩
    · rw [Form.mapColumn_of_not_column f hno]
    · simp only [Form.mapColumn, ← hquote, ← hname]

theorem mapColumns_of_respells {P : String → String → Prop} (hP : ∀ a b, P a b → f b = f a)
    (h : t.Respells P t') : t'.mapColumns f = t.mapColumns f := by
  induction t using SyntaxTree.induction generalizing t' with
  | node form parts ih =>
    obtain ⟨form', parts', rfl, hform, hparts⟩ := respells_node.1 h
    have hmem := (List.forall₂_and_left parts parts').2 ⟨fun p (hp : p ∈ parts) => hp, hparts⟩
    have hmap : List.Forall₂ Eq (parts.map (mapColumns f)) (parts'.map (mapColumns f)) := by
      rw [List.forall₂_map_left_iff, List.forall₂_map_right_iff]
      exact hmem.imp fun p p' hp => (ih p hp.1 hp.2).symm
    rw [List.forall₂_eq_eq_eq] at hmap
    rw [mapColumns_node, mapColumns_node, hmap]
    -- the forms are the same, or they are columns whose names become the same
    rcases hform.cases with ⟨rfl, -⟩ | ⟨qualifier, name, name', rfl, rfl, hquote, hname⟩
    · rfl
    · simp only [Form.mapColumn, hP _ _ hname, hquote]

theorem mapColumns_mapColumns (f g : String → String) (t : SyntaxTree) :
    (t.mapColumns f).mapColumns g = t.mapColumns (g ∘ f) := by
  induction t using SyntaxTree.induction with
  | node form parts ih =>
    rw [mapColumns_node, mapColumns_node, mapColumns_node, Form.mapColumn_mapColumn, List.map_map]
    exact congrArg _ (List.map_congr_left ih)

theorem form_mapColumns (f : String → String) (t : SyntaxTree) :
    (t.mapColumns f).form = t.form.mapColumn f := by
  obtain ⟨form, parts⟩ := t
  rw [mapColumns_node]
  rfl

theorem at?_mapColumns (f : String → String) (t : SyntaxTree) (path : List Nat) :
    (t.mapColumns f).at? path = (t.at? path).map (mapColumns f) := by
  induction path generalizing t with
  | nil => rfl
  | cons i path ih =>
    obtain ⟨form, parts⟩ := t
    rw [mapColumns_node, at?_cons, at?_cons]
    show ((parts.map (mapColumns f))[i]?.bind fun p => p.at? path)
      = (parts[i]?.bind fun p => p.at? path).map _
    rw [List.getElem?_map]
    cases parts[i]? with
    | none => rfl
    | some p => exact ih p

theorem nodes_mapColumns (f : String → String) (t : SyntaxTree) :
    (t.mapColumns f).nodes = t.nodes.map (mapColumns f) := by
  induction t using SyntaxTree.induction with
  | node form parts ih =>
    have hparts : (parts.map (mapColumns f)).flatMap nodes
        = (parts.flatMap nodes).map (mapColumns f) := by
      rw [List.flatMap_map, List.map_flatMap]
      exact List.flatMap_congr ih
    rw [nodes_node, List.map_cons, mapColumns_node, nodes_node, hparts]

/-- The names of all columns of a tree, in reading order. -/
def names (t : SyntaxTree) : List String :=
  (t.nodes.filterMap columnName?).map Ident.name

theorem columnName?_mapColumns (f : String → String) (t : SyntaxTree) :
    ((t.mapColumns f).columnName?).map Ident.name = (t.columnName?.map Ident.name).map f := by
  obtain ⟨form, parts⟩ := t
  rw [mapColumns_node]
  cases form with
  | clause form => rfl
  | expr form => cases form <;> rfl

theorem names_mapColumns (f : String → String) (t : SyntaxTree) :
    (t.mapColumns f).names = t.names.map f := by
  rw [names, names, nodes_mapColumns, List.map_filterMap, List.filterMap_map, List.map_map,
    List.map_filterMap]
  refine List.filterMap_congr fun n _ => ?_
  rw [Function.comp_apply, columnName?_mapColumns, Option.map_map]

end SyntaxTree

end

/-! ## Queries -/

namespace Query

open SyntaxTree

/-- The relations of a respelled query are the same but for the names of columns. -/
theorem relations_of_respells {f : String → String} {q q' : Query}
    (h : q.Respells (fun a b => b = f a) q') : q'.relations = q.relations.map (mapColumns f) := by
  rcases h.select? with ⟨hs, hs'⟩ | ⟨s, s', hs, hs', hrelated⟩
  · rw [relations, relations, hs, hs']
    rfl
  · rw [relations_eq hs, relations_eq hs', eq_comm, ← List.forall₂_eq_eq_eq,
      List.forall₂_map_left_iff]
    exact hrelated.sourceTables.imp fun t t' ht => (eq_mapColumns_of_respells ht).symm

theorem toTree_renameColumns (m : FieldNames) (q : Query) :
    (q.renameColumns m).toTree = q.toTree.mapColumns m.apply := by
  rw [renameColumns, renameColumn_eq_mapColumn]
  rfl

theorem fields_eq_distinctNames (q : Query) : q.fields = distinctNames q.toTree.names :=
  map_distinctBy Ident.name _

theorem fields_renameColumns (m : FieldNames) (q : Query) :
    (q.renameColumns m).fields = distinctNames (q.toTree.names.map m.apply) := by
  rw [fields_eq_distinctNames, toTree_renameColumns, names_mapColumns]

theorem renameColumns_renameColumns (m m' : FieldNames) (q : Query) :
    (q.renameColumns m).renameColumns m' = q.renameColumns (m.andThen m') := by
  have happly : m'.apply ∘ m.apply = (m.andThen m').apply := by
    funext name
    exact (FieldNames.apply_andThen m m' name).symm
  apply toTree_injective
  rw [toTree_renameColumns, toTree_renameColumns, toTree_renameColumns, mapColumns_mapColumns, happly]

/-- Renaming acts on each column by itself. A name that is a key, letter case aside, becomes the name
that the table has for it, and any other name stays; at every path there is the form that has been
there, under its new name if it is a column. So the fields of the renamed query are the new names of
all its columns, the first of each name, and renaming by two tables is renaming by one. -/
theorem renameColumns_pointwise (q : Query) (m m' : FieldNames) :
    (∀ key target name, (key, target) ∈ m.entries → sameName key name = true →
        m.apply name = target)
      ∧ (∀ name, (∀ e ∈ m.entries, sameName e.1 name = false) → m.apply name = name)
      ∧ (∀ path, ((q.renameColumns m).toTree.at? path).map form
        = (q.toTree.at? path).map fun t => t.form.mapColumn m.apply)
      ∧ (q.renameColumns m).fields = distinctNames (q.toTree.names.map m.apply)
      ∧ (q.renameColumns m).fields = distinctNames (q.fields.map m.apply)
      ∧ (∀ name, (m.andThen m').apply name = m'.apply (m.apply name))
      ∧ (q.renameColumns m).renameColumns m' = q.renameColumns (m.andThen m') := by
  refine ⟨fun key target name => FieldNames.apply_of_mem, fun name => FieldNames.apply_of_not_mem,
    fun path => ?_, fields_renameColumns m q, ?_, FieldNames.apply_andThen m m',
    renameColumns_renameColumns m m' q⟩
  · rw [toTree_renameColumns, at?_mapColumns, Option.map_map]
    exact congrArg (Option.map · _) (funext fun t => form_mapColumns m.apply t)
  · rw [fields_renameColumns, fields_eq_distinctNames,
      distinctNames_map fun a b => m.sameName_apply]

end Query

end Sql

end MetricQuery
