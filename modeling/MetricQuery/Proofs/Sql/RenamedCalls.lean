import MetricQuery.Proofs.Sql.Paths
import MetricQuery.Sql.Calls
import MetricQuery.Sql.Statement

/-!
# Renamed calls — every call is asked for once, from the inside out

A renaming comes to the calls of a query one after the other, to each behind the calls in it, and is
asked by the name that the call has been written with. What it answers may depend on what it has
been asked before, that is, on the calls in front; besides the names of calls nothing changes.
Places are paths, and the order in which a change of every node comes to them is an order of paths.
-/

namespace MetricQuery.Sql

variable {σ : Type} {rename : σ → String → Option String × σ} {s : σ}

/-! ## Places in the order of a change -/

/-- Whether a change of every node comes to the first place before it comes to the second: what is
below a node comes before the node, and what is below a part before what is below a later part. -/
def precedes : List Nat → List Nat → Bool
  | [], _ => false
  | _ :: _, [] => true
  | i :: path, j :: path' => i < j || (i == j && precedes path path')

theorem precedes_cons_cons (i j : Nat) (path path' : List Nat) :
    precedes (i :: path) (j :: path') = (i < j || (i == j && precedes path path')) := rfl

/-- No place comes before itself. -/
theorem precedes_self (path : List Nat) : precedes path path = false := by
  induction path with
  | nil => rfl
  | cons i path ih => simp [precedes_cons_cons, ih]

/-- What is below a place comes before it. -/
theorem precedes_append (path : List Nat) (i : Nat) (below : List Nat) :
    precedes (path ++ i :: below) path = true := by
  induction path with
  | nil => rfl
  | cons j path ih => simp [precedes_cons_cons, ih]

/-! ## One call -/

/-- The form under the name that `rename` gives it, if it is that of a call and the name is another
one than it has. -/
def Form.renameCall (rename : String → Option String) : Form → Form
  | .expr (.call name nulls braces) =>
    match rename (renderPath name) with
    | some new =>
      if new = renderPath name then .expr (.call name nulls braces)
      else .expr (.call [.plain new] nulls braces)
    | none => .expr (.call name nulls braces)
  | form => form

/-- A name that has been given is not changed again, if it is answered with no name or with itself.
-/
theorem Form.renameCall_renameCall {rename : String → Option String}
    (h : ∀ name new, rename name = some new → rename new = none ∨ rename new = some new)
    (form : Form) : (form.renameCall rename).renameCall rename = form.renameCall rename := by
  cases form with
  | clause form => rfl
  | expr form =>
    cases form with
    | call name nulls braces =>
      cases hnew : rename (renderPath name) with
      | none => simp only [renameCall, hnew]
      | some new =>
        by_cases hsame : new = renderPath name
        · simp only [renameCall, hnew, if_pos hsame]
        · simp only [renameCall, hnew, if_neg hsame, renderPath_plain]
          -- the new name is not renamed again, or it is renamed to itself
          rcases h _ _ hnew with hnone | hself
          · simp only [hnone]
          · simp only [hself, if_true]
    | _ => rfl

namespace SyntaxTree

variable {form : Form} {parts ts : List SyntaxTree} {t : SyntaxTree} {path : List Nat}
  {name : String} {i : Nat}

theorem fst_renameCallWith (rename : σ → String → Option String × σ) (s : σ) (form : Form)
    (parts : List SyntaxTree) : (renameCallWith rename s (.node form parts)).1
      = .node (form.renameCall fun name => (rename s name).1) parts := by
  cases form with
  | clause form => rfl
  | expr form =>
    cases form with
    | call name nulls braces =>
      show ((expr (.call name nulls braces) parts).renameCall?
        fun _ => (rename s (renderPath name)).1).getD _ = _
      unfold renameCall? Form.renameCall
      simp only [callName?]
      cases (rename s (renderPath name)).1 with
      | none => rfl
      | some new =>
        dsimp only
        -- a call that would keep its name counts as not renamed
        by_cases hsame : new = renderPath name
        · rw [if_pos hsame, if_pos hsame]
          rfl
        · rw [if_neg hsame, if_neg hsame]
          rfl
    | _ => rfl

/-! ## The calls of a tree -/

mutual

/-- The calls of the tree, with their places and the names as they are written, each behind the
calls below it. -/
def calls : SyntaxTree → List (List Nat × String)
  | .node form parts =>
    partCalls 0 parts ++ (callName? (.node form parts)).toList.map fun name => ([], name)

/-- The calls of some parts of a node; the number is that of the first of them. -/
def partCalls (first : Nat) : List SyntaxTree → List (List Nat × String)
  | [] => []
  | t :: ts => (t.calls.map fun c => (first :: c.1, c.2)) ++ partCalls (first + 1) ts

end

theorem mem_partCalls : (path, name) ∈ partCalls i ts
    ↔ ∃ k below, path = (i + k) :: below ∧ ∃ t, ts[k]? = some t ∧ (below, name) ∈ t.calls := by
  induction ts generalizing i with
  | nil => simp [partCalls]
  | cons t ts ih =>
    rw [partCalls, List.mem_append, List.mem_map, ih]
    constructor
    · rintro (⟨⟨below, own⟩, hmem, heq⟩ | ⟨k, below, rfl, u, hu, hmem⟩)
      · cases heq
        exact ⟨0, below, rfl, t, rfl, hmem⟩
      · exact ⟨k + 1, below, by rw [Nat.add_assoc, Nat.add_comm 1], u, hu, hmem⟩
    · rintro ⟨k, below, rfl, u, hu, hmem⟩
      cases k with
      | zero =>
        obtain rfl : t = u := Option.some.inj hu
        exact .inl ⟨_, hmem, rfl⟩
      | succ k => exact .inr ⟨k, below, by rw [Nat.add_assoc, Nat.add_comm 1], u, hu, hmem⟩

/-- A change comes to the calls in the parts of a node before it comes to the node. -/
theorem precedes_nil_of_mem_partCalls {c : List Nat × String} (h : c ∈ partCalls i ts) :
    precedes c.1 [] = true := by
  obtain ⟨path, name⟩ := c
  obtain ⟨k, below, rfl, -⟩ := mem_partCalls.1 h
  rfl

/-- The calls that are listed are the calls that there are. -/
theorem mem_calls : (path, name) ∈ t.calls ↔ (t.at? path).bind callName? = some name := by
  induction t using SyntaxTree.induction generalizing path with
  | node form parts ih =>
    rw [calls, List.mem_append, mem_partCalls]
    cases path with
    | nil => simp [at?, eq_comm]
    | cons k below =>
      rw [at?_cons]
      show _ ↔ ((parts[k]?.bind fun p => p.at? below).bind callName?) = some name
      cases hk : parts[k]? with
      | none => simp [hk]
      | some p => simp [hk, ih p (List.mem_of_getElem? hk)]

theorem pairwise_partCalls (h : ∀ t ∈ ts, t.calls.Pairwise fun c d => precedes c.1 d.1 = true) :
    (partCalls i ts).Pairwise fun c d => precedes c.1 d.1 = true := by
  induction ts generalizing i with
  | nil => exact .nil
  | cons t ts ih =>
    rw [partCalls, List.pairwise_append, List.pairwise_map]
    refine ⟨(h t (.head _)).imp fun hpre => ?_, ih fun u hu => h u (.tail _ hu), ?_⟩
    · simp [precedes_cons_cons, hpre]
    · rintro c hc ⟨path, name⟩ hd
      obtain ⟨own, -, rfl⟩ := List.mem_map.1 hc
      obtain ⟨k, below, rfl, -⟩ := mem_partCalls.1 hd
      have hlt : i < i + 1 + k := by omega
      simp [precedes_cons_cons, hlt]

/-- The calls are listed in the order in which a change comes to them. -/
theorem pairwise_calls (t : SyntaxTree) :
    t.calls.Pairwise fun c d => precedes c.1 d.1 = true := by
  induction t using SyntaxTree.induction with
  | node form parts ih =>
    rw [calls, List.pairwise_append]
    refine ⟨pairwise_partCalls ih, ?_, ?_⟩
    · cases callName? (.node form parts) with
      | none => exact .nil
      | some name => exact List.pairwise_singleton _ _
    · intro c hc d hd
      obtain ⟨own, -, rfl⟩ := List.mem_map.1 hd
      exact precedes_nil_of_mem_partCalls hc

end SyntaxTree

/-! ## What a renaming is asked -/

/-- What a renaming keeps in mind after it has been asked for names, one after the other. -/
def stateAfter (rename : σ → String → Option String × σ) (s : σ) (names : List String) : σ :=
  names.foldl (fun s name => (rename s name).2) s

/-- What a renaming keeps in mind when it comes to a place: it has been asked for the calls that the
place is behind. -/
def stateAt (rename : σ → String → Option String × σ) (s : σ) (calls : List (List Nat × String))
    (path : List Nat) : σ :=
  stateAfter rename s ((calls.filter fun c => precedes c.1 path).map Prod.snd)

theorem stateAfter_append (names names' : List String) :
    stateAfter rename s (names ++ names') = stateAfter rename (stateAfter rename s names) names' :=
  List.foldl_append

section

variable {cs cs' : List (List Nat × String)} {path : List Nat}

theorem stateAt_append : stateAt rename s (cs ++ cs') path
    = stateAt rename (stateAt rename s cs path) cs' path := by
  rw [stateAt, List.filter_append, List.map_append, stateAfter_append]
  rfl

/-- A place in front of all calls is one where nothing has been asked. -/
theorem stateAt_of_first (h : ∀ c ∈ cs, precedes c.1 path = false) :
    stateAt rename s cs path = s := by
  have hnone : cs.filter (fun c => precedes c.1 path) = [] :=
    List.filter_eq_nil_iff.2 fun c hc => by simp [h c hc]
  rw [stateAt, hnone]
  rfl

/-- A place behind all calls is one where all have been asked for. -/
theorem stateAt_of_last (h : ∀ c ∈ cs, precedes c.1 path = true) :
    stateAt rename s cs path = stateAfter rename s (cs.map Prod.snd) := by
  rw [stateAt, List.filter_eq_self.2 h]

/-- What comes before a place in a part of a node comes before the place in that part. -/
theorem stateAt_below (i : Nat) : stateAt rename s (cs.map fun c => (i :: c.1, c.2)) (i :: path)
    = stateAt rename s cs path := by
  have hsame : ((fun c => precedes c.1 (i :: path)) ∘
      fun c : List Nat × String => (i :: c.1, c.2)) = fun c => precedes c.1 path := by
    funext c
    simp [precedes_cons_cons]
  rw [stateAt, List.filter_map, hsame, List.map_map]
  rfl

end

namespace SyntaxTree

variable {ts : List SyntaxTree}

theorem snd_renameCallWith (rename : σ → String → Option String × σ) (s : σ) (t : SyntaxTree) :
    (renameCallWith rename s t).2 = stateAfter rename s t.callName?.toList := by
  unfold renameCallWith
  cases t.callName? <;> rfl

theorem snd_mapNodesAllWith (h : ∀ t ∈ ts, ∀ s, (t.mapNodesWith (renameCallWith rename) s).2
      = stateAfter rename s (t.calls.map Prod.snd)) (i : Nat) :
    (mapNodesAllWith (renameCallWith rename) s ts).2
      = stateAfter rename s ((partCalls i ts).map Prod.snd) := by
  induction ts generalizing s i with
  | nil =>
    rw [mapNodesAllWith]
    rfl
  | cons t ts ih =>
    rw [mapNodesAllWith, partCalls, List.map_append, List.map_map, stateAfter_append]
    show (mapNodesAllWith _ (t.mapNodesWith _ s).2 ts).2 = _
    rw [h t (.head _), ih fun u hu => h u (.tail _ hu)]
    rfl

/-- The names that are asked for are those that the calls have been written with. -/
theorem snd_mapNodesWith (t : SyntaxTree) (s : σ) : (t.mapNodesWith (renameCallWith rename) s).2
    = stateAfter rename s (t.calls.map Prod.snd) := by
  induction t using SyntaxTree.induction generalizing s with
  | node form parts ih =>
    have hname : ∀ parts', callName? (.node form parts') = callName? (.node form parts) := by
      intro parts'
      cases form with
      | clause form => rfl
      | expr form => cases form <;> rfl
    rw [mapNodesWith, calls, List.map_append, List.map_map, stateAfter_append]
    show (renameCallWith _ _ (.node form _)).2 = _
    rw [snd_renameCallWith, hname, snd_mapNodesAllWith ih 0]
    congr 1
    exact (List.map_id _).symm

theorem form_mapNodesAllWith (h : ∀ t ∈ ts, ∀ (s : σ) path,
      ((t.mapNodesWith (renameCallWith rename) s).1.at? path).map SyntaxTree.form
        = (t.at? path).map fun n => n.form.renameCall fun name =>
          (rename (stateAt rename s t.calls path) name).1) (s : σ) (path : List Nat) (i k : Nat) :
    ((mapNodesAllWith (renameCallWith rename) s ts).1[k]?.bind fun p => p.at? path).map
        SyntaxTree.form
      = (ts[k]?.bind fun p => p.at? path).map fun n => n.form.renameCall fun name =>
        (rename (stateAt rename s (partCalls i ts) ((i + k) :: path)) name).1 := by
  induction ts generalizing s i k with
  | nil =>
    rw [mapNodesAllWith]
    rfl
  | cons t ts ih =>
    rw [mapNodesAllWith, partCalls, stateAt_append]
    cases k with
    | zero =>
      -- the calls of later parts come later
      have hlater : ∀ c ∈ partCalls (i + 1) ts, precedes c.1 (i :: path) = false := by
        rintro ⟨path', name⟩ hc
        obtain ⟨k, below, rfl, -⟩ := mem_partCalls.1 hc
        rw [precedes_cons_cons]
        simp
        omega
      show ((t.mapNodesWith _ s).1.at? path).map _ = (t.at? path).map _
      rw [Nat.add_zero, stateAt_of_first hlater, stateAt_below, h t (.head _)]
    | succ k =>
      have hearlier : ∀ c ∈ t.calls.map (fun c => (i :: c.1, c.2)),
          precedes c.1 ((i + (k + 1)) :: path) = true := by
        intro c hc
        obtain ⟨own, -, rfl⟩ := List.mem_map.1 hc
        rw [precedes_cons_cons]
        simp
      have hnext : i + (k + 1) = i + 1 + k := by omega
      show (((mapNodesAllWith _ (t.mapNodesWith _ s).2 ts).1[k]?).bind _).map _
        = (ts[k]?.bind _).map _
      rw [stateAt_of_last hearlier, List.map_map, hnext,
        ih (fun u hu => h u (.tail _ hu)) _ (i + 1) k, snd_mapNodesWith]
      rfl

/-- At every place there is the form that has been there, and a call there has the name that is
answered once the calls in front have been asked for. -/
theorem form_mapNodesWith (t : SyntaxTree) (s : σ) (path : List Nat) :
    ((t.mapNodesWith (renameCallWith rename) s).1.at? path).map SyntaxTree.form
      = (t.at? path).map fun n => n.form.renameCall fun name =>
        (rename (stateAt rename s t.calls path) name).1 := by
  induction t using SyntaxTree.induction generalizing s path with
  | node form parts ih =>
    -- the node itself comes last
    have hself : ∀ path, ∀ c ∈ (callName? (.node form parts)).toList.map fun name => ([], name),
        precedes c.1 path = false := by
      intro path c hc
      obtain ⟨own, -, rfl⟩ := List.mem_map.1 hc
      rfl
    rw [mapNodesWith, calls, stateAt_append, stateAt_of_first (hself path)]
    show ((renameCallWith _ (mapNodesAllWith _ s parts).2 (.node form _)).1.at? path).map _ = _
    rw [fst_renameCallWith]
    cases path with
    | nil =>
      rw [stateAt_of_last fun c hc => precedes_nil_of_mem_partCalls hc,
        ← snd_mapNodesAllWith fun u _ s => snd_mapNodesWith u s]
      rfl
    | cons k below =>
      have hpart := form_mapNodesAllWith ih s below 0 k
      rw [Nat.zero_add] at hpart
      exact hpart

end SyntaxTree

/-! ## Queries -/

namespace Query

open SyntaxTree

theorem toTree_renameCallsWith (rename : σ → String → Option String × σ) (s : σ) (q : Query) :
    q.toTree.mapNodesWith (renameCallWith rename) s
      = ((q.renameCallsWith rename s).1.toTree, (q.renameCallsWith rename s).2) :=
  toTree_mapNodesWith (fun _ _ => rfl) s

theorem form_renameCallsWith (rename : σ → String → Option String × σ) (s : σ) (q : Query)
    (path : List Nat) : ((q.renameCallsWith rename s).1.toTree.at? path).map SyntaxTree.form
      = (q.toTree.at? path).map fun n => n.form.renameCall fun name =>
        (rename (stateAt rename s q.toTree.calls path) name).1 := by
  have hpath : ((q.toTree.mapNodesWith (renameCallWith rename) s).1.at? path).map SyntaxTree.form
      = _ := form_mapNodesWith q.toTree s path
  rwa [toTree_renameCallsWith] at hpath

theorem snd_renameCallsWith (rename : σ → String → Option String × σ) (s : σ) (q : Query) :
    (q.renameCallsWith rename s).2 = stateAfter rename s (q.toTree.calls.map Prod.snd) := by
  have hstate : (q.toTree.mapNodesWith (renameCallWith rename) s).2 = _ :=
    snd_mapNodesWith q.toTree s
  rwa [toTree_renameCallsWith] at hstate

theorem stateAfter_recorded (rename : String → Option String) (asked names : List String) :
    stateAfter (recorded rename) asked names = asked ++ names := by
  induction names generalizing asked with
  | nil => exact (List.append_nil asked).symm
  | cons name names ih => rw [List.append_cons, ← ih]; rfl

theorem renameCalls_renameCalls {rename : String → Option String}
    (h : ∀ name new, rename name = some new → rename new = none ∨ rename new = some new)
    (q : Query) : ((q.renameCalls rename).1.renameCalls rename).1 = (q.renameCalls rename).1 := by
  have hform : ∀ (q : Query) path, ((q.renameCalls rename).1.toTree.at? path).map SyntaxTree.form
      = ((q.toTree.at? path).map SyntaxTree.form).map (Form.renameCall rename) := by
    intro q path
    rw [Option.map_map]
    exact form_renameCallsWith (recorded rename) [] q path
  apply toTree_injective
  -- a tree is known by the forms at its places
  apply ext_at?
  intro path
  rw [hform, hform, Option.map_map]
  congr 1
  funext form
  exact Form.renameCall_renameCall h form

/-- A renaming is asked once for each call, for a call in another one before it is asked for that
one, and always by the name that has been written. At every place there is the form that has been
there; if it is that of a call it has the name that is answered, where that is another one. A
renaming that answers its own answers with themselves or with nothing has nothing to do a second
time. -/
theorem renameCallsWith_pointwise (rename : σ → String → Option String × σ) (s : σ)
    (fixed : String → Option String) (q : Query) :
    (∀ path name, (path, name) ∈ q.toTree.calls
        ↔ (q.toTree.at? path).bind callName? = some name)
      ∧ (q.toTree.calls.map Prod.fst).Nodup
      ∧ (q.toTree.calls.Pairwise fun c d => precedes c.1 d.1 = true)
      ∧ (∀ path i below, precedes (path ++ i :: below) path = true)
      ∧ (q.renameCallsWith rename s).2 = stateAfter rename s (q.toTree.calls.map Prod.snd)
      ∧ (∀ path, ((q.renameCallsWith rename s).1.toTree.at? path).map SyntaxTree.form
        = (q.toTree.at? path).map fun n => n.form.renameCall fun name =>
          (rename (stateAt rename s q.toTree.calls path) name).1)
      ∧ (q.renameCalls fixed).2 = q.toTree.calls.map Prod.snd
      ∧ ((∀ name new, fixed name = some new → fixed new = none ∨ fixed new = some new) →
        ((q.renameCalls fixed).1.renameCalls fixed).1 = (q.renameCalls fixed).1) := by
  have horder := q.toTree.pairwise_calls
  refine ⟨fun path name => mem_calls, ?_, horder, precedes_append, snd_renameCallsWith rename s q,
    form_renameCallsWith rename s q, ?_, fun h => renameCalls_renameCalls h q⟩
  · -- no place precedes itself
    refine List.pairwise_map.2 (horder.imp fun {c d} hpre heq => ?_)
    rw [heq, precedes_self] at hpre
    cases hpre
  · exact (snd_renameCallsWith (recorded fixed) [] q).trans (stateAfter_recorded fixed [] _)

/-- A table of new names for functions, with one name in it. -/
def lengthened (name : String) : Option String :=
  if name = "day" then some "dayOfMonth" else none

def nestedCallsText : String :=
  "select day(day(d)), sum(a) over (order by f(c)) from t"

theorem nestedCallsText_evaluated : ((parse nestedCallsText).toOption.any fun q =>
    (q.renameCalls lengthened).2 = ["day", "day", "f", "sum"]
      ∧ (q.renameCalls lengthened).1.render
        = "SELECT dayOfMonth(dayOfMonth(d)), sum(a) OVER (ORDER BY f(c)) FROM t") = true := by
  decide +kernel

theorem renameCallsWith_pointwise_nested : ∃ q, parse nestedCallsText = .ok q
    ∧ q.toTree.calls.map Prod.snd = ["day", "day", "f", "sum"]
    ∧ ((q.renameCalls lengthened).1.renameCalls lengthened).1.render
      = "SELECT dayOfMonth(dayOfMonth(d)), sum(a) OVER (ORDER BY f(c)) FROM t" := by
  have hfixed : ∀ name new, lengthened name = some new →
      lengthened new = none ∨ lengthened new = some new := by
    intro name new hnew
    unfold lengthened at hnew
    split at hnew <;> cases hnew
    exact .inl (by decide)
  obtain ⟨q, hread, heval⟩ := exists_ok_of_any nestedCallsText_evaluated
  obtain ⟨hnames, htext⟩ := of_decide_eq_true heval
  obtain ⟨-, -, -, -, -, -, hasked, hagain⟩ :=
    renameCallsWith_pointwise (recorded lengthened) [] lengthened q
  exact ⟨q, hread, hasked.symm.trans hnames, by rw [hagain hfixed, htext]⟩

end Query

end MetricQuery.Sql
