import Mathlib.Data.List.Induction
import MetricQuery.Proofs.Sql.Renaming
import MetricQuery.Sql.Statement

/-!
# Renaming back — tables of field names the other way round

A table whose targets are different names can be turned round: each target is then sent to its key,
as the key was spelled when it was given. In which order the entries are taken does not matter. Who
renames a query by the table and then by the one turned round gets the query, with each key in that
spelling, unless the query has had columns of its own under the names of targets.
-/

namespace MetricQuery.Sql

open MetricQuery.Text

namespace FieldNames

variable {m : FieldNames} {entries order : List (String × String)} {key target name : String}

/-- Whether different keys are sent to different names. -/
def TargetsDistinct (m : FieldNames) : Prop :=
  m.entries.Pairwise fun a b => sameName a.2 b.2 = false

instance (m : FieldNames) : Decidable m.TargetsDistinct :=
  inferInstanceAs
    (Decidable (m.entries.Pairwise fun a b : String × String => sameName a.2 b.2 = false))

/-- The table that entries make the other way round, one behind the other. -/
def reversed (entries : List (String × String)) : FieldNames :=
  ofList (entries.map fun e => (e.2, e.1))

/-- The spelling in which a key was given; a name that is no key is spelled as it is. -/
def keySpelling (m : FieldNames) (name : String) : String :=
  ((m.entries.find? fun e => sameName e.1 name).map (·.1)).getD name

theorem inverse_eq_reversed (m : FieldNames) : m.inverse = reversed m.entries := rfl

theorem contains_iff : m.contains name = true ↔ ∃ e ∈ m.entries, sameName e.1 name = true := by
  rw [contains, List.any_eq_true]

theorem entries_insert (m : FieldNames) (name target : String) :
    (m.insert name target).entries
      = m.entries.filter (fun e => !sameName e.1 name) ++ [(name, target)] := rfl

/-- Entries with different keys are kept as they come. -/
theorem entries_ofList (h : entries.Pairwise fun a b => sameName a.1 b.1 = false) :
    (ofList entries).entries = entries := by
  induction entries using List.reverseRecOn with
  | nil => rfl
  | append_singleton entries e ih =>
    obtain ⟨hinit, -, hlast⟩ := List.pairwise_append.1 h
    -- the new key replaces none of those before it
    have hkept : entries.filter (fun own => !sameName own.1 e.1) = entries :=
      List.filter_eq_self.2 fun own hown => by rw [hlast own hown e (.head _)]; rfl
    rw [ofList_concat, entries_insert, ih hinit, hkept]

theorem entries_reversed (h : m.TargetsDistinct) (horder : order.Perm m.entries) :
    (reversed order).entries = order.map fun e => (e.2, e.1) := by
  refine entries_ofList (List.pairwise_map.2 ?_)
  refine (horder.pairwise_iff fun {a b} hne => ?_).2 h
  rwa [sameName_comm]

/-- Turning a table round twice brings back its entries, in whichever order they are taken. -/
theorem perm_reversed_reversed (h : m.TargetsDistinct) (horder : order.Perm m.entries)
    {order' : List (String × String)} (horder' : order'.Perm (reversed order).entries) :
    (reversed order').entries.Perm m.entries := by
  have hentries := entries_reversed h horder
  -- the targets of the table turned round are the keys
  have hkeys : (reversed order).TargetsDistinct := by
    rw [TargetsDistinct, hentries, List.pairwise_map]
    refine (horder.pairwise_iff fun {a b} hne => ?_).2 m.keys_distinct
    rwa [sameName_comm]
  have hback : (order.map fun e => (e.2, e.1)).map (fun e : String × String => (e.2, e.1))
      = order := by
    rw [List.map_map]
    exact List.map_id order
  rw [entries_reversed hkeys horder']
  refine (horder'.map _).trans ?_
  rw [hentries, hback]
  exact horder

theorem entries_inverse_inverse (h : m.TargetsDistinct) :
    m.inverse.inverse.entries = m.entries := by
  have hentries := entries_reversed h (List.Perm.refl m.entries)
  have hkeys : m.entries.Pairwise fun a b => sameName a.1 b.1 = false := m.keys_distinct
  rw [inverse_eq_reversed m.inverse, inverse_eq_reversed, reversed, hentries, List.map_map]
  rw [show ((fun e : String × String => (e.2, e.1)) ∘ fun e => (e.2, e.1)) = id from rfl,
    List.map_id]
  exact entries_ofList hkeys

theorem keySpelling_of_mem (hmem : (key, target) ∈ m.entries) (hsame : sameName key name = true) :
    m.keySpelling name = key := by
  rw [keySpelling, find?_entries hmem hsame]
  rfl

theorem keySpelling_of_not_contains (h : m.contains name = false) : m.keySpelling name = name := by
  have hnone : m.entries.find? (fun e => sameName e.1 name) = none := by
    rw [List.find?_eq_none]
    exact fun e he hsame => Bool.false_ne_true (h.symm.trans (contains_iff.2 ⟨e, he, hsame⟩))
  rw [keySpelling, hnone]
  rfl

/-- A key comes back in its spelling, also if it is a target at the same time, and a name that is
neither has never gone. -/
theorem apply_reversed_apply (h : m.TargetsDistinct) (horder : order.Perm m.entries)
    (hname : m.contains name = true ∨ ∀ e ∈ m.entries, sameName e.2 name = false) :
    (reversed order).apply (m.apply name) = m.keySpelling name := by
  have hmem : ∀ e, e ∈ (reversed order).entries ↔ ∃ own ∈ m.entries, (own.2, own.1) = e := by
    intro e
    rw [entries_reversed h horder, List.mem_map]
    simp only [horder.mem_iff]
  -- a key goes to its target and back to its own spelling; any other name is no target either
  by_cases hkey : m.contains name = true
  · obtain ⟨⟨key, target⟩, he, hsame⟩ := contains_iff.1 hkey
    have hback : (target, key) ∈ (reversed order).entries := (hmem _).2 ⟨_, he, rfl⟩
    rw [apply_of_mem he hsame, apply_of_mem hback (sameName_self _), keySpelling_of_mem he hsame]
  · have hno : ∀ e ∈ m.entries, sameName e.1 name = false := fun e he =>
      eq_false_of_ne_true fun hsame => hkey (contains_iff.2 ⟨e, he, hsame⟩)
    rw [apply_of_not_mem hno, keySpelling_of_not_contains (eq_false_of_ne_true hkey)]
    refine apply_of_not_mem fun e he => ?_
    obtain ⟨own, hown, rfl⟩ := (hmem e).1 he
    exact hname.resolve_left hkey own hown

end FieldNames

/-! ## Columns -/

namespace SyntaxTree

variable {t : SyntaxTree} {f g : String → String}

theorem mem_names_of_column {n : SyntaxTree} {qualifier : List Ident} {name : Ident}
    (hn : n ∈ t.nodes) (hform : n.form = .expr (.column qualifier name)) : name.name ∈ t.names := by
  refine List.mem_map.2 ⟨name, List.mem_filterMap.2 ⟨n, hn, ?_⟩, rfl⟩
  rw [columnName?_eq_some, hform]
  rfl

/-- Of a change of names only what it does to the names of the tree counts. -/
theorem mapColumns_congr (h : ∀ name ∈ t.names, f name = g name) :
    t.mapColumns f = t.mapColumns g := by
  refine mapNodes_congr fun n hn parts => ?_
  show node (n.form.mapColumn f) parts = node (n.form.mapColumn g) parts
  cases hform : n.form with
  | clause form => rfl
  | expr form =>
    cases form with
    | column qualifier name =>
      have hname := h name.name (mem_names_of_column hn hform)
      simp only [Form.mapColumn, hname]
    | _ => rfl

theorem mapColumns_id (t : SyntaxTree) : t.mapColumns id = t := by
  have hform : ∀ form : Form, form.mapColumn id = form := by
    rintro (form | form)
    · cases form <;> rfl
    · rfl
  induction t using SyntaxTree.induction with
  | node form parts ih => rw [mapColumns_node, hform, List.map_congr_left ih, List.map_id']

theorem mapColumns_eq_self_iff : t.mapColumns f = t ↔ ∀ name ∈ t.names, f name = name := by
  constructor
  · intro h
    have hnames : t.names.map f = t.names.map id := by
      rw [← names_mapColumns, h, List.map_id]
    exact List.map_inj_left.1 hnames
  · intro h
    rw [mapColumns_congr (g := id) h, mapColumns_id]

end SyntaxTree

/-! ## Queries -/

namespace Query

open SyntaxTree

/-- A table whose targets are different names can be turned round. Turned round twice it has its own
entries again, and a query that has been renamed by it and then by the table turned round has its own
columns again, each key in the spelling in which it was given. All of this is so in whichever order
entries are taken, and even if targets are keys, as long as each column of the query is a key or has
the name of no target. So the query is the same exactly if it has spelled its keys in this way. -/
theorem renameColumns_reversed {m : FieldNames} (hdistinct : m.TargetsDistinct)
    {order : List (String × String)} (horder : order.Perm m.entries) :
    m.inverse.inverse.entries = m.entries
      ∧ (∀ order' : List (String × String), order'.Perm (FieldNames.reversed order).entries →
        (FieldNames.reversed order').entries.Perm m.entries)
      ∧ (∀ key target name, (key, target) ∈ m.entries → sameName key name = true →
        m.keySpelling name = key)
      ∧ (∀ name, m.contains name = false → m.keySpelling name = name)
      ∧ ∀ q : Query, (∀ name ∈ q.toTree.names,
          m.contains name = true ∨ ∀ e ∈ m.entries, sameName e.2 name = false) →
        ((q.renameColumns m).renameColumns (.reversed order)).toTree
            = q.toTree.mapColumns m.keySpelling
          ∧ ((q.renameColumns m).renameColumns (.reversed order) = q
            ↔ ∀ name ∈ q.toTree.names, m.keySpelling name = name) := by
  refine ⟨FieldNames.entries_inverse_inverse hdistinct,
    fun order' => FieldNames.perm_reversed_reversed hdistinct horder,
    fun key target name => FieldNames.keySpelling_of_mem,
    fun name => FieldNames.keySpelling_of_not_contains, fun q hnames => ?_⟩
  -- the names are renamed one by one, so that the two maps may be composed first
  have htree : ((q.renameColumns m).renameColumns (.reversed order)).toTree
      = q.toTree.mapColumns m.keySpelling := by
    rw [toTree_renameColumns, toTree_renameColumns, mapColumns_mapColumns]
    exact mapColumns_congr fun name hname =>
      FieldNames.apply_reversed_apply hdistinct horder (hnames name hname)
  refine ⟨htree, ?_⟩
  rw [← mapColumns_eq_self_iff, ← htree]
  exact ⟨congrArg toTree, toTree_injective⟩

/-- A table that exchanges two names. -/
def exchange : FieldNames :=
  .ofList [("Amount", "total"), ("TOTAL", "amount"), ("day", "dt")]

def exchangeText : String :=
  "select t.AMOUNT, total from t where day in (select day from u)"

theorem exchangeText_evaluated : ((Query.parse exchangeText).toOption.any fun q =>
    (∀ name ∈ q.toTree.names, exchange.contains name = true
        ∨ ∀ e ∈ exchange.entries, sameName e.2 name = false)
      ∧ (q.renameColumns exchange).render
        = "SELECT t.total, amount FROM t WHERE dt IN (SELECT dt FROM u)"
      ∧ (q.toTree.mapColumns exchange.keySpelling).render
        = "SELECT t.Amount, TOTAL FROM t WHERE day IN (SELECT day FROM u)") = true := by
  decide +kernel

theorem renameColumns_reversed_exchange : exchange.TargetsDistinct
    ∧ exchange.inverse.inverse.entries = exchange.entries ∧ ∃ q, Query.parse exchangeText = .ok q
      ∧ (q.renameColumns exchange).render
        = "SELECT t.total, amount FROM t WHERE dt IN (SELECT dt FROM u)"
      ∧ ((q.renameColumns exchange).renameColumns exchange.inverse).render
        = "SELECT t.Amount, TOTAL FROM t WHERE day IN (SELECT day FROM u)" := by
  have hdistinct : exchange.TargetsDistinct := by decide +kernel
  obtain ⟨htwice, -, -, -, hquery⟩ :=
    renameColumns_reversed hdistinct (List.Perm.refl exchange.entries)
  obtain ⟨q, hread, heval⟩ := exists_ok_of_any exchangeText_evaluated
  obtain ⟨hnames, hthere, hback⟩ := of_decide_eq_true heval
  refine ⟨hdistinct, htwice, q, hread, hthere, ?_⟩
  rw [render, FieldNames.inverse_eq_reversed, (hquery q hnames).1, hback]

end Query

end MetricQuery.Sql
