import Mathlib.Data.List.Induction
import Mathlib.Data.List.Sort
import MetricQuery.Proofs.Semantics.Classification

/-!
# Listed names — what a classification is, apart from how it is made

A field matches the element that is found by it: by the users' name before the technical one, and a
metric before a dimension. A classification lists the names of the matched elements, each kind by
itself and each name where a field has matched it first; reserved columns come last. This says which
classification it is: there is one only, and the made one is it.
-/

namespace MetricQuery

open MetricQuery.Text

/-! ## What a field matches -/

namespace Schema

variable {s : Schema} {field : String} {kind : ElementKind} {e : Element}

/-- The first of the elements that users call by a name. -/
def firstNamed? (elements : List Element) (name : String) : Option Element :=
  elements.find? fun e => sameName e.name name

/-- The first of the elements with a technical name. -/
def firstTechnical? (elements : List Element) (name : String) : Option Element :=
  elements.find? fun e => sameName e.technicalName name

/-- The elements that a field matches, as those of a kind. -/
inductive Matches (s : Schema) (field : String) : ElementKind → Element → Prop
  | metricName {e : Element} (hmetric : firstNamed? s.metrics field = some e) :
    Matches s field .metric e
  | dimensionName {e : Element} (hmetric : firstNamed? s.metrics field = none)
      (hdimension : firstNamed? s.dimensions field = some e) : Matches s field .dimension e
  | metricTechnical {e : Element} (hmetric : firstNamed? s.metrics field = none)
      (hdimension : firstNamed? s.dimensions field = none)
      (htechnical : firstTechnical? s.metrics field = some e) : Matches s field .metric e
  | dimensionTechnical {e : Element} (hmetric : firstNamed? s.metrics field = none)
      (hdimension : firstNamed? s.dimensions field = none)
      (hno : firstTechnical? s.metrics field = none)
      (htechnical : firstTechnical? s.dimensions field = some e) : Matches s field .dimension e

/-- An element that is declared, without its place. -/
def Declared.kindAndElement (d : Declared) : ElementKind × Element :=
  (d.kind, d.element)

theorem map_kindAndElement_mapIdx (kind : ElementKind) (elements : List Element) :
    (elements.mapIdx (⟨kind, ·, ·⟩)).map Declared.kindAndElement = elements.map (kind, ·) := by
  apply List.ext_getElem?
  intro i
  rw [List.getElem?_map, List.getElem?_mapIdx, Option.map_map, List.getElem?_map]
  rfl

theorem find?_elements (s : Schema) (p : Element → Bool) :
    (s.elements.find? fun d => p d.element).map Declared.kindAndElement
      = ((s.metrics.find? p).map (ElementKind.metric, ·)).or
        ((s.dimensions.find? p).map (ElementKind.dimension, ·)) := by
  calc (s.elements.find? fun d => p d.element).map Declared.kindAndElement
      = (s.elements.map Declared.kindAndElement).find? fun own => p own.2 := by
        rw [List.find?_map]
        rfl
    _ = (s.metrics.map (ElementKind.metric, ·)
          ++ s.dimensions.map (ElementKind.dimension, ·)).find? fun own => p own.2 := by
        rw [elements, List.map_append, map_kindAndElement_mapIdx, map_kindAndElement_mapIdx]
    _ = _ := by
        rw [List.find?_append, List.find?_map, List.find?_map]
        rfl

theorem find?_eq_some_iff_matches :
    (∃ d, s.find? field = some d ∧ d.kind = kind ∧ d.element = e) ↔ s.Matches field kind e := by
  have hfound : (s.find? field).map Declared.kindAndElement
      = (((firstNamed? s.metrics field).map (ElementKind.metric, ·)).or
          ((firstNamed? s.dimensions field).map (ElementKind.dimension, ·))).or
        (((firstTechnical? s.metrics field).map (ElementKind.metric, ·)).or
          ((firstTechnical? s.dimensions field).map (ElementKind.dimension, ·))) := by
    rw [find?, Option.map_or]
    exact congrArg₂ Option.or (find?_elements s fun e => sameName e.name field)
      (find?_elements s fun e => sameName e.technicalName field)
  have hpair : (∃ d, s.find? field = some d ∧ d.kind = kind ∧ d.element = e)
      ↔ (s.find? field).map Declared.kindAndElement = some (kind, e) := by
    simp only [Option.map_eq_some_iff, Declared.kindAndElement, Prod.mk.injEq]
  rw [hpair, hfound]
  constructor
  · intro h
    -- the four lookups, in the order in which they are made
    cases hmetric : firstNamed? s.metrics field with
    | some own =>
      rw [hmetric] at h
      cases h
      exact .metricName hmetric
    | none =>
      cases hdimension : firstNamed? s.dimensions field with
      | some own =>
        rw [hmetric, hdimension] at h
        cases h
        exact .dimensionName hmetric hdimension
      | none =>
        cases htechnical : firstTechnical? s.metrics field with
        | some own =>
          rw [hmetric, hdimension, htechnical] at h
          cases h
          exact .metricTechnical hmetric hdimension htechnical
        | none =>
          rw [hmetric, hdimension, htechnical] at h
          obtain ⟨own, hown, heq⟩ := Option.map_eq_some_iff.1 h
          cases heq
          exact .dimensionTechnical hmetric hdimension htechnical hown
  · rintro (hmetric | ⟨hmetric, hdimension⟩ | ⟨hmetric, hdimension, htechnical⟩
      | ⟨hmetric, hdimension, hno, htechnical⟩)
    · rw [hmetric]
      rfl
    · rw [hmetric, hdimension]
      rfl
    · rw [hmetric, hdimension, htechnical]
      rfl
    · rw [hmetric, hdimension, hno, htechnical]
      rfl

end Schema

namespace Classification

variable {s : Schema} {fields fields' : List String} {text name a b : String}
  {kind : ElementKind} {c : Classification}

/-! ## First matches -/

/-- Whether some field matches an element of the kind whose name is the given one in lower case. -/
def Matched (s : Schema) (fields : List String) (kind : ElementKind) (name : String) : Prop :=
  ∃ field ∈ fields, ∃ e, s.Matches field kind e ∧ lower e.name = name

/-- Whether some of the fields at the beginning match the first name and none of them the second. -/
def MatchedBefore (s : Schema) (fields : List String) (kind : ElementKind) (a b : String) : Prop :=
  ∃ n, Matched s (fields.take n) kind a ∧ ¬ Matched s (fields.take n) kind b

theorem matched_iff_refers : Matched s fields kind name ↔ Refers s fields kind name := by
  simp only [Matched, Refers, ← Schema.find?_eq_some_iff_matches]
  constructor
  · rintro ⟨field, hfield, -, ⟨d, hfind, hkind, rfl⟩, hname⟩
    exact ⟨field, hfield, d, hfind, hkind, hname⟩
  · rintro ⟨field, hfield, d, hfind, hkind, hname⟩
    exact ⟨field, hfield, d.element, ⟨d, hfind, hkind, rfl⟩, hname⟩

theorem mem_filterMap_listedName? :
    name ∈ fields.filterMap (listedName? s kind) ↔ Matched s fields kind name := by
  rw [← namesOfKind_eq_filterMap, mem_namesOfKind, matched_iff_refers]

theorem MatchedBefore.asymm (h : MatchedBefore s fields kind a b) :
    ¬ MatchedBefore s fields kind b a := by
  rintro ⟨m, hb, ha⟩
  obtain ⟨n, ha', hb'⟩ := h
  have hmono : ∀ {i j name}, i ≤ j → Matched s (fields.take i) kind name →
      Matched s (fields.take j) kind name := by
    rintro i j name hij ⟨field, hfield, hmatch⟩
    exact ⟨field, (List.take_sublist_take_left hij).subset hfield, hmatch⟩
  rcases Nat.le_total n m with hle | hle
  · exact ha (hmono hle ha')
  · exact hb' (hmono hle hb)

/-- Names are pushed in the order in which they come first. -/
theorem pairwise_foldl_pushNew (f : String → Option String) (fields : List String) :
    ((fields.filterMap f).foldl pushNew []).Pairwise fun a b => ∃ n ≤ fields.length,
      a ∈ (fields.take n).filterMap f ∧ b ∉ (fields.take n).filterMap f := by
  induction fields using List.reverseRecOn with
  | nil => exact .nil
  | append_singleton fields field ih =>
    have hmem : ∀ {name}, name ∈ (fields.filterMap f).foldl pushNew [] ↔
        name ∈ fields.filterMap f := by
      intro name
      rw [mem_foldl_pushNew]
      simp
    -- what has been told apart by the earlier fields still is
    have hkept : ((fields.filterMap f).foldl pushNew []).Pairwise fun a b =>
        ∃ n ≤ (fields ++ [field]).length, a ∈ ((fields ++ [field]).take n).filterMap f
          ∧ b ∉ ((fields ++ [field]).take n).filterMap f := by
      refine ih.imp ?_
      rintro a b ⟨n, hn, hab⟩
      refine ⟨n, ?_, ?_⟩
      · rw [List.length_append]
        exact Nat.le_add_right_of_le hn
      · rwa [List.take_append_of_le_length hn]
    rw [List.filterMap_append, List.foldl_append]
    cases hfield : f field with
    | none =>
      rw [List.filterMap_cons_none hfield]
      exact hkept
    | some name =>
      rw [List.filterMap_cons_some hfield, List.filterMap_nil, List.foldl_cons, List.foldl_nil,
        pushNew]
      split
      · exact hkept
      · next hnew =>
        rw [List.contains_iff_mem, hmem] at hnew
        refine List.pairwise_append.2 ⟨hkept, List.pairwise_singleton _ _, ?_⟩
        intro a ha b hb
        rw [List.mem_singleton] at hb
        subst hb
        refine ⟨fields.length, ?_, ?_⟩
        · rw [List.length_append]
          exact Nat.le_add_right _ _
        · rw [List.take_append_of_le_length (Nat.le_refl _), List.take_length]
          exact ⟨hmem.1 ha, hnew⟩

theorem pairwise_matchedBefore (s : Schema) (kind : ElementKind) (fields : List String) :
    ((namesOfKind s kind fields).foldl pushNew []).Pairwise (MatchedBefore s fields kind) := by
  rw [namesOfKind_eq_filterMap]
  refine (pairwise_foldl_pushNew (listedName? s kind) fields).imp ?_
  rintro a b ⟨n, -, ha, hb⟩
  exact ⟨n, mem_filterMap_listedName?.1 ha, fun h => hb (mem_filterMap_listedName?.2 h)⟩

/-! ## The one classification -/

/-- What a classification says about fields and a text in a model. -/
structure Lists (s : Schema) (fields : List String) (text : String) (c : Classification) :
    Prop where
  nodup_metrics : c.metrics.Nodup
  nodup_dimensions : c.dimensions.Nodup
  disjoint : c.metrics.Disjoint c.dimensions
  lower_eq : ∀ name ∈ c.metrics ++ c.dimensions, lower name = name
  mem_metrics : ∀ name, name ∈ c.metrics ↔ Matched s fields .metric name
  mem_dimensions : ∀ name, name ∈ c.dimensions ↔ s.isEmpty = false
    ∧ (Matched s fields .dimension name ∨ name ∈ internalColumnsIn text)
    ∧ ¬ Matched s fields .metric name
  metrics_order : c.metrics.Pairwise (MatchedBefore s fields .metric)
  /-- The reserved columns stand behind the dimensions that fields match. -/
  dimensions_order : s.isEmpty = false → ∃ matched : List String,
    (∀ name, name ∈ matched ↔ Matched s fields .dimension name ∧ ¬ Matched s fields .metric name)
      ∧ matched.Pairwise (MatchedBefore s fields .dimension)
      ∧ c.dimensions = matched ++ (internalColumnsIn text).filter fun column =>
          !matched.contains column && !c.metrics.contains column

theorem ofFields_of_isEmpty (h : s.isEmpty = true) : ofFields s fields text = ⟨[], []⟩ :=
  if_pos h

theorem disjoint_ofFields :
    (ofFields s fields text).metrics.Disjoint (ofFields s fields text).dimensions := by
  intro name hmetric hdimension
  exact (Classification.mem_dimensions.1 hdimension).2.2 (Classification.mem_metrics.1 hmetric)

theorem lower_of_mem_ofFields
    (h : name ∈ (ofFields s fields text).metrics ++ (ofFields s fields text).dimensions) :
    lower name = name := by
  rcases List.mem_append.1 h with hmetric | hdimension
  · exact (Classification.mem_metrics.1 hmetric).lower_eq
  · obtain ⟨-, hmatched | hcolumn, -⟩ := Classification.mem_dimensions.1 hdimension
    · exact hmatched.lower_eq
    · exact lower_of_mem_internalColumns (mem_internalColumns_of_mem_internalColumnsIn hcolumn)

/-- The metrics and the dimensions of a model that declares something. -/
theorem ofFields_of_not_isEmpty (h : s.isEmpty = false) :
    (ofFields s fields text).metrics = (namesOfKind s .metric fields).foldl pushNew []
      ∧ (ofFields s fields text).dimensions
        = (((namesOfKind s .dimension fields).foldl pushNew []).filter fun name =>
            !(ofFields s fields text).metrics.contains name)
          ++ (internalColumnsIn text).filter fun column =>
            !((namesOfKind s .dimension fields).foldl pushNew []).contains column
              && !(ofFields s fields text).metrics.contains column := by
  have hmade : ofFields s fields text = ⟨(namesOfKind s .metric fields).foldl pushNew [],
      ((namesOfKind s .dimension fields ++ internalColumnsIn text).foldl pushNew []).filter
        fun name => !((namesOfKind s .metric fields).foldl pushNew []).contains name⟩ :=
    if_neg (by rw [h]; exact Bool.false_ne_true)
  have hcolumns : (internalColumnsIn text).Nodup := nodup_internalColumns.filter _
  rw [hmade]
  refine ⟨rfl, ?_⟩
  dsimp only
  -- the reserved columns come last and are not repeated, so that they are appended at once
  rw [List.foldl_append, foldl_pushNew_of_nodup hcolumns, List.filter_append, List.filter_filter]
  simp only [Bool.and_comm]

theorem lists_ofFields (s : Schema) (fields : List String) (text : String) :
    Lists s fields text (ofFields s fields text) where
  nodup_metrics := Classification.nodup_metrics
  nodup_dimensions := Classification.nodup_dimensions
  disjoint := disjoint_ofFields
  lower_eq := fun _ => lower_of_mem_ofFields
  mem_metrics := fun name => by rw [Classification.mem_metrics, matched_iff_refers]
  mem_dimensions := fun name => by
    rw [Classification.mem_dimensions, matched_iff_refers, matched_iff_refers]
  metrics_order := by
    cases hempty : s.isEmpty with
    | true =>
      rw [ofFields_of_isEmpty hempty]
      exact .nil
    | false =>
      rw [(ofFields_of_not_isEmpty hempty).1]
      exact pairwise_matchedBefore s .metric fields
  dimensions_order := fun hempty => by
    obtain ⟨-, hdimensions⟩ := @ofFields_of_not_isEmpty s fields text hempty
    refine ⟨_, fun name => ?_, (pairwise_matchedBefore s .dimension fields).filter _,
      hdimensions.trans (congrArg _ (List.filter_congr fun column _ => ?_))⟩
    · have hmetric : name ∈ (ofFields s fields text).metrics ↔ Matched s fields .metric name := by
        rw [Classification.mem_metrics, matched_iff_refers]
      rw [List.mem_filter, mem_foldl_pushNew, mem_namesOfKind, ← matched_iff_refers, ← hmetric]
      simp
    · -- a column that is no metric is among the kept names if it is among all
      by_cases hmetric : column ∈ (ofFields s fields text).metrics <;> simp [hmetric]

/-- Names that are matched in the same order are the same if they are the same as a set. -/
theorem eq_of_pairwise_matchedBefore {names names' : List String}
    (h : names.Pairwise (MatchedBefore s fields kind))
    (h' : names'.Pairwise (MatchedBefore s fields kind))
    (hmem : ∀ name, name ∈ names ↔ name ∈ names') : names = names' := by
  have hasymm : Std.Asymm (MatchedBefore s fields kind) := ⟨fun a b => MatchedBefore.asymm⟩
  exact h.eq_of_mem_iff h' hmem

theorem Lists.eq_ofFields (h : Lists s fields text c) : c = ofFields s fields text := by
  have hown := lists_ofFields s fields text
  have hmetrics : c.metrics = (ofFields s fields text).metrics :=
    eq_of_pairwise_matchedBefore h.metrics_order hown.metrics_order fun name => by
      rw [h.mem_metrics, hown.mem_metrics]
  -- the dimensions that fields match are fixed by their order, the reserved columns by these
  have hdimensions : c.dimensions = (ofFields s fields text).dimensions := by
    cases hempty : s.isEmpty with
    | true =>
      have hnone : ∀ name, name ∉ c.dimensions := fun name hname => by
        rw [h.mem_dimensions, hempty] at hname
        cases hname.1
      rw [ofFields_of_isEmpty hempty, List.eq_nil_iff_forall_not_mem]
      exact hnone
    | false =>
      obtain ⟨matched, hmatched, horder, heq⟩ := h.dimensions_order hempty
      obtain ⟨matched', hmatched', horder', heq'⟩ := hown.dimensions_order hempty
      have hsame : matched = matched' := eq_of_pairwise_matchedBefore horder horder' fun name => by
        rw [hmatched, hmatched']
      rw [heq, heq', hmetrics, hsame]
  obtain ⟨_, _⟩ := c
  exact congrArg₂ Classification.mk hmetrics hdimensions

/-! ## Fields in another order -/

theorem Refers.mono (hfields : ∀ a, a ∈ fields.map lower → a ∈ fields'.map lower)
    (h : Refers s fields kind name) : Refers s fields' kind name := by
  obtain ⟨field, hfield, d, hfind, hkind, hname⟩ := h
  obtain ⟨field', hfield', hsame⟩ := List.mem_map.1 (hfields _ (List.mem_map_of_mem hfield))
  exact ⟨field', hfield', d, (s.find?_congr hsame).trans hfind, hkind, hname⟩

theorem refers_congr (hfields : ∀ a, a ∈ fields'.map lower ↔ a ∈ fields.map lower) :
    Refers s fields' kind name ↔ Refers s fields kind name :=
  ⟨.mono fun a => (hfields a).1, .mono fun a => (hfields a).2⟩

/-- Of all classifications the made one is the one that lists what the fields match and the text
mentions. The same names are listed for fields that are the same as a set of names in lower case,
and none in a model that declares nothing. -/
theorem lists_iff_eq_ofFields (s : Schema) (fields : List String) (text : String) :
    (∀ c, Lists s fields text c ↔ c = ofFields s fields text)
      ∧ (∀ fields', (∀ a, a ∈ fields'.map lower ↔ a ∈ fields.map lower) → ∀ name,
        (name ∈ (ofFields s fields' text).metrics ↔ name ∈ (ofFields s fields text).metrics)
          ∧ (name ∈ (ofFields s fields' text).dimensions
            ↔ name ∈ (ofFields s fields text).dimensions))
      ∧ (s.isEmpty = true → ofFields s fields text = ⟨[], []⟩) := by
  refine ⟨fun c => ⟨Lists.eq_ofFields, ?_⟩, fun fields' hfields name => ⟨?_, ?_⟩,
    ofFields_of_isEmpty⟩
  · rintro rfl
    exact lists_ofFields s fields text
  · rw [Classification.mem_metrics, Classification.mem_metrics, refers_congr hfields]
  · rw [Classification.mem_dimensions, Classification.mem_dimensions, refers_congr hfields,
      refers_congr hfields]

/-- A model whose names overlap: `visits` is a metric, a dimension and a technical name. -/
def overlapSchema : Schema :=
  { Schema.ofNames 1 "t" "t" "dw.t" with
    metrics := [.named "Visits" "pv", .named "Users" "visits"]
    dimensions := [.named "City" "users", .named "VISITS" "day"] }

theorem lists_overlapSchema :
    Lists overlapSchema ["day", "PV", "city", "users", "CITY"] "where sys_imp_date = 1"
      ⟨["visits", "users"], ["city", "sys_imp_date"]⟩ := by
  obtain ⟨hlists, -, -⟩ := lists_iff_eq_ofFields overlapSchema
    ["day", "PV", "city", "users", "CITY"] "where sys_imp_date = 1"
  refine (hlists _).2 ?_
  decide +kernel

end Classification

end MetricQuery
