import MetricQuery.Proofs.Semantics.Resolution
import MetricQuery.Semantics.Classification

/-!
# Classification — which names are listed

The names that are listed are those of the elements that the fields find, in lower case, and those
of the reserved columns that stand in the text. No name is listed twice, in whichever of the two
lists.
-/

namespace MetricQuery

open MetricQuery.Text

namespace Classification

variable {s : Schema} {fields : List String} {text name a : String} {names acc : List String}

/-! ## Pushing names -/

theorem mem_pushNew : name ∈ pushNew acc a ↔ name ∈ acc ∨ name = a := by
  unfold pushNew
  split
  · next h =>
    rw [List.contains_iff_mem] at h
    exact ⟨.inl, fun hn => hn.elim id fun heq => heq ▸ h⟩
  · rw [List.mem_append, List.mem_singleton]

theorem nodup_pushNew (h : acc.Nodup) : (pushNew acc a).Nodup := by
  unfold pushNew
  split
  · exact h
  · next hnew =>
    rw [List.contains_iff_mem] at hnew
    exact List.nodup_append.2 ⟨h, List.pairwise_singleton _ _, fun x hx y hy heq => by
      rw [List.mem_singleton] at hy
      exact hnew (hy ▸ heq ▸ hx)⟩

theorem mem_foldl_pushNew : name ∈ names.foldl pushNew acc ↔ name ∈ acc ∨ name ∈ names := by
  induction names generalizing acc with
  | nil => simp
  | cons a rest ih => rw [List.foldl_cons, ih, mem_pushNew, List.mem_cons, or_assoc]

theorem nodup_foldl_pushNew (h : acc.Nodup) : (names.foldl pushNew acc).Nodup := by
  induction names generalizing acc with
  | nil => exact h
  | cons a rest ih => exact ih (nodup_pushNew h)

/-! ## The names that are listed -/

/-- Whether some field is found as an element of the kind whose name is the given one in lower
case. -/
def Refers (s : Schema) (fields : List String) (kind : ElementKind) (name : String) : Prop :=
  ∃ field ∈ fields, ∃ d, s.find? field = some d ∧ d.kind = kind ∧ lower d.element.name = name

instance (s : Schema) (fields : List String) (kind : ElementKind) (name : String) :
    Decidable (Refers s fields kind name) :=
  inferInstanceAs (Decidable (∃ field ∈ fields, ∃ d ∈ s.find? field,
    d.kind = kind ∧ lower d.element.name = name))

theorem mem_namesOfKind {kind : ElementKind} :
    name ∈ namesOfKind s kind fields ↔ Refers s fields kind name := by
  simp only [namesOfKind, Refers, List.mem_map, List.mem_filter, List.mem_filterMap,
    decide_eq_true_eq]
  constructor
  · rintro ⟨d, ⟨⟨field, hfield, hfind⟩, hkind⟩, hname⟩
    exact ⟨field, hfield, d, hfind, hkind, hname⟩
  · rintro ⟨field, hfield, d, hfind, hkind, hname⟩
    exact ⟨d, ⟨⟨field, hfield, hfind⟩, hkind⟩, hname⟩

theorem Refers.isEmpty_eq_false {kind : ElementKind} (h : Refers s fields kind name) :
    s.isEmpty = false := by
  obtain ⟨field, -, d, hfind, -⟩ := h
  exact Schema.isEmpty_eq_false (Schema.mem_elements_of_find? hfind)

theorem Refers.lower_eq {kind : ElementKind} (h : Refers s fields kind name) :
    lower name = name := by
  obtain ⟨field, -, d, -, -, rfl⟩ := h
  exact lower_lower _

/-- The name of an element that is referred to finds an element, which bears the name. -/
theorem Refers.exists_findByName? {kind : ElementKind} (h : Refers s fields kind name) :
    ∃ d, s.findByName? name = some d ∧ lower d.element.name = name := by
  obtain ⟨field, -, d, hfind, -, hname⟩ := h
  have hd := Schema.mem_elements_of_find? hfind
  have hlower : lower d.element.name = lower name := by rw [← hname, lower_lower]
  obtain ⟨d', hfind', hname'⟩ := Schema.exists_findByName? hd hlower
  exact ⟨d', hfind', by rw [hname', ← hname, lower_lower]⟩

theorem mem_metrics :
    name ∈ (ofFields s fields text).metrics ↔ Refers s fields .metric name := by
  unfold ofFields
  split
  · next hempty =>
    refine ⟨fun h => (nomatch h), fun h => ?_⟩
    rw [h.isEmpty_eq_false] at hempty
    cases hempty
  · rw [mem_foldl_pushNew, mem_namesOfKind]
    simp

theorem mem_dimensions :
    name ∈ (ofFields s fields text).dimensions
      ↔ s.isEmpty = false ∧ (Refers s fields .dimension name ∨ name ∈ internalColumnsIn text)
        ∧ ¬ Refers s fields .metric name := by
  have hmetrics : name ∈ (ofFields s fields text).metrics ↔ Refers s fields .metric name :=
    mem_metrics
  unfold ofFields at hmetrics ⊢
  split at hmetrics
  · next hempty =>
    rw [if_pos hempty, hempty]
    exact ⟨fun h => (nomatch h), fun h => (nomatch h.1)⟩
  · next hempty =>
    rw [if_neg hempty]
    simp only [List.mem_filter, Bool.not_eq_true', mem_foldl_pushNew, List.mem_append,
      mem_namesOfKind, List.not_mem_nil, false_or]
    rw [← hmetrics, ← Bool.not_eq_true, List.contains_iff_mem]
    exact ⟨fun h => ⟨by simpa using hempty, h.1, h.2⟩, fun h => ⟨h.2.1, h.2.2⟩⟩

theorem nodup_metrics : (ofFields s fields text).metrics.Nodup := by
  unfold ofFields
  split
  · exact List.nodup_nil
  · exact nodup_foldl_pushNew List.nodup_nil

theorem nodup_dimensions : (ofFields s fields text).dimensions.Nodup := by
  unfold ofFields
  split
  · exact List.nodup_nil
  · exact (nodup_foldl_pushNew List.nodup_nil).filter _

/-! ## Fields that are found as the same elements -/

/-- The name under which a field is listed among the elements of a kind. -/
def listedName? (s : Schema) (kind : ElementKind) (field : String) : Option String :=
  ((s.find? field).filter (·.kind = kind)).map fun d => lower d.element.name

theorem namesOfKind_eq_filterMap (s : Schema) (kind : ElementKind) (fields : List String) :
    namesOfKind s kind fields = fields.filterMap (listedName? s kind) := by
  rw [namesOfKind, List.filter_filterMap, List.map_filterMap]
  rfl

/-- Names that are there already need not be pushed. -/
theorem foldl_pushNew_filter {α : Type} {p : α → Bool} {f : α → Option String} {xs : List α}
    (h : ∀ x ∈ xs, p x = false → ∀ name, f x = some name → name ∈ acc) :
    ((xs.filter p).filterMap f).foldl pushNew acc = (xs.filterMap f).foldl pushNew acc := by
  induction xs generalizing acc with
  | nil => rfl
  | cons x xs ih =>
    have hrest : ∀ y ∈ xs, p y = false → ∀ name, f y = some name → name ∈ acc :=
      fun y hy => h y (.tail _ hy)
    rw [List.filterMap_cons]
    cases hx : f x with
    | none =>
      by_cases hp : p x = true
      · rw [List.filter_cons_of_pos hp, List.filterMap_cons, hx]
        exact ih hrest
      · rw [List.filter_cons_of_neg hp]
        exact ih hrest
    | some name =>
      rw [List.foldl_cons]
      by_cases hp : p x = true
      · rw [List.filter_cons_of_pos hp, List.filterMap_cons, hx, List.foldl_cons]
        exact ih fun y hy hpy name' hname' => mem_pushNew.2 (.inl (hrest y hy hpy name' hname'))
      · -- the name is among the ones that are there
        have hmem : name ∈ acc := h x (.head _) (by simpa using hp) name hx
        have hsame : pushNew acc name = acc := if_pos (List.contains_iff_mem.2 hmem)
        rw [List.filter_cons_of_neg hp, hsame]
        exact ih hrest

/-- Of several names that are listed under one the first is enough. -/
theorem foldl_pushNew_distinctBy {α : Type} {key : α → String} {f : α → Option String}
    (hf : ∀ x y, sameName (key x) (key y) = true → f y = f x) (xs : List α) (acc : List String) :
    ((distinctBy key xs).filterMap f).foldl pushNew acc = (xs.filterMap f).foldl pushNew acc := by
  induction xs generalizing acc with
  | nil => rfl
  | cons x xs ih =>
    -- the fields that are left out give names that are in the accumulator already
    have hskip : ∀ acc, (∀ name, f x = some name → name ∈ acc) →
        (((distinctBy key xs).filter fun y => !sameName (key x) (key y)).filterMap f).foldl pushNew
          acc = (xs.filterMap f).foldl pushNew acc := by
      intro acc hacc
      rw [foldl_pushNew_filter, ih]
      intro y _ hy name hname
      rw [Bool.not_eq_false'] at hy
      exact hacc name ((hf x y hy).symm.trans hname)
    rw [distinctBy, List.filterMap_cons, List.filterMap_cons]
    cases hx : f x with
    | none => exact hskip acc fun name hname => by rw [hx] at hname; cases hname
    | some own =>
      rw [List.foldl_cons, List.foldl_cons]
      refine hskip _ fun name hname => mem_pushNew.2 (.inr ?_)
      rw [hx] at hname
      exact (Option.some.inj hname).symm

theorem listedName?_congr {kind : ElementKind} {b : String} (h : s.find? a = s.find? b) :
    listedName? s kind a = listedName? s kind b := by
  rw [listedName?, listedName?, h]

/-- A classification does not change when fields give way to fields of the same elements, or when
a name is left out that an earlier field has too. -/
theorem ofFields_congr {fields fields' : List String}
    (h : ∀ kind acc, (fields'.filterMap (listedName? s kind)).foldl pushNew acc
      = (fields.filterMap (listedName? s kind)).foldl pushNew acc) :
    ofFields s fields' text = ofFields s fields text := by
  unfold ofFields
  simp only [namesOfKind_eq_filterMap, List.foldl_append, h]

/-! ## Reserved columns in the text -/

/-- Pushing different names is to append those that are new. -/
theorem foldl_pushNew_of_nodup (h : names.Nodup) :
    names.foldl pushNew acc = acc ++ names.filter fun name => !acc.contains name := by
  induction names generalizing acc with
  | nil => simp
  | cons a rest ih =>
    obtain ⟨ha, hrest⟩ := List.nodup_cons.1 h
    rw [List.foldl_cons, ih hrest]
    by_cases hmem : acc.contains a = true
    · have hsame : pushNew acc a = acc := if_pos hmem
      rw [hsame, List.filter_cons_of_neg (by simpa using hmem)]
    · have hnew : pushNew acc a = acc ++ [a] := if_neg hmem
      -- no later name is `a`, so that it may as well be in the accumulator
      have hfilter : (rest.filter fun name => !(acc ++ [a]).contains name)
          = rest.filter fun name => !acc.contains name := by
        refine List.filter_congr fun name hname => ?_
        have hne : name ≠ a := fun heq => ha (heq ▸ hname)
        simp [hne]
      rw [hnew, hfilter, List.filter_cons_of_pos (by simpa using hmem), List.append_assoc,
        List.singleton_append]

theorem nodup_internalColumns : internalColumns.Nodup := by
  decide

/-- Whether two texts mention the same reserved columns, beside those that fields refer to. -/
def MentionsAlike (s : Schema) (fields : List String) (text text' : String) : Prop :=
  s.isEmpty = false → ∀ column ∈ internalColumns, ¬ Refers s fields .dimension column →
    ¬ Refers s fields .metric column → hasWord column text' = hasWord column text

instance (s : Schema) (fields : List String) (text text' : String) :
    Decidable (MentionsAlike s fields text text') :=
  inferInstanceAs (Decidable (s.isEmpty = false → ∀ column ∈ internalColumns,
    ¬ Refers s fields .dimension column → ¬ Refers s fields .metric column →
      hasWord column text' = hasWord column text))

/-- Of a text only the reserved columns count that no field refers to. -/
theorem ofFields_dimensions_text_eq_iff {text' : String} :
    (ofFields s fields text').dimensions = (ofFields s fields text).dimensions
      ↔ MentionsAlike s fields text text' := by
  constructor
  · intro h hempty column hcolumn hdimension hmetric
    have hlisted : ∀ text, column ∈ (ofFields s fields text).dimensions
        ↔ hasWord column text = true := by
      intro text
      rw [mem_dimensions, internalColumnsIn, List.mem_filter]
      simp [hempty, hcolumn, hdimension, hmetric]
    rw [Bool.eq_iff_iff, ← hlisted, ← hlisted, h]
  · intro h
    unfold ofFields
    split
    · rfl
    · next hempty =>
      dsimp only
      -- behind the names of the dimensions stand the columns that are not among them
      have hdimensions : ∀ text, (namesOfKind s .dimension fields
          ++ internalColumnsIn text).foldl pushNew []
            = (namesOfKind s .dimension fields).foldl pushNew []
              ++ (internalColumnsIn text).filter fun name =>
                !((namesOfKind s .dimension fields).foldl pushNew []).contains name := fun text => by
        rw [List.foldl_append]
        exact foldl_pushNew_of_nodup (nodup_internalColumns.filter _)
      rw [hdimensions, hdimensions, List.filter_append, List.filter_append]
      congr 1
      rw [internalColumnsIn, internalColumnsIn, List.filter_filter, List.filter_filter,
        List.filter_filter, List.filter_filter]
      refine List.filter_congr fun column hcolumn => ?_
      by_cases hdimension : Refers s fields .dimension column
      · simp [mem_foldl_pushNew, mem_namesOfKind, hdimension]
      · by_cases hmetric : Refers s fields .metric column
        · simp [mem_foldl_pushNew, mem_namesOfKind, hmetric]
        · rw [h (by simpa using hempty) column hcolumn hdimension hmetric]

theorem ofFields_text_eq_of_mentionsAlike {text' : String}
    (h : MentionsAlike s fields text text') : ofFields s fields text' = ofFields s fields text := by
  have hdimensions := ofFields_dimensions_text_eq_iff.2 h
  have hmetrics : (ofFields s fields text').metrics = (ofFields s fields text).metrics := by
    unfold ofFields
    split <;> rfl
  generalize ofFields s fields text = own, ofFields s fields text' = own' at hdimensions hmetrics ⊢
  obtain ⟨_, _⟩ := own
  obtain ⟨_, _⟩ := own'
  rw [Classification.mk.injEq]
  exact ⟨hmetrics, hdimensions⟩

/-- A text mentions reserved columns only. -/
theorem mem_internalColumns_of_mem_internalColumnsIn (h : name ∈ internalColumnsIn text) :
    name ∈ internalColumns :=
  (List.mem_filter.1 h).1

end Classification

end MetricQuery
