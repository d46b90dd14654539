import MetricQuery.Proofs.Semantics.ListedNames

/-!
# Ambiguity — which element a name stands for, and when it is told to be in doubt

A name stands for the first element that it matches, and is told to be ambiguous if the first
element of the name and the first one of the technical name are two. A name in doubt is not told
to be so if both are one element, which then stands in front of all others that bear the name.
-/

namespace MetricQuery

open MetricQuery.Text

variable {scope : Scope} {s : Schema} {name : String} {d d' : Schema.Declared}

/-! ## Elements that bear a name -/

namespace Schema

/-- Whether users call the element by a name. -/
def Declared.IsNamed (d : Declared) (name : String) : Prop :=
  sameName d.element.name name = true

/-- Whether the element has a technical name. -/
def Declared.IsTechnical (d : Declared) (name : String) : Prop :=
  sameName d.element.technicalName name = true

instance (d : Declared) (name : String) : Decidable (d.IsNamed name) :=
  inferInstanceAs (Decidable (_ = _))

instance (d : Declared) (name : String) : Decidable (d.IsTechnical name) :=
  inferInstanceAs (Decidable (_ = _))

/-- Whether a name is the users' name of one element and the technical name of another. -/
def Doubtful (s : Schema) (name : String) : Prop :=
  ∃ d ∈ s.elements, ∃ d' ∈ s.elements, d ≠ d' ∧ d.IsNamed name ∧ d'.IsTechnical name

instance (s : Schema) (name : String) : Decidable (s.Doubtful name) :=
  inferInstanceAs (Decidable (∃ d ∈ s.elements, _))

/-- Whether the first element of a name is the first one of the technical name too, and there is
another one that bears the name. -/
def HidesAnother (s : Schema) (name : String) : Prop :=
  ∃ d, s.findByName? name = some d ∧ s.findByTechnicalName? name = some d
    ∧ ∃ d' ∈ s.elements, d' ≠ d ∧ (d'.IsNamed name ∨ d'.IsTechnical name)

theorem findByName?_spec (h : s.findByName? name = some d) :
    d ∈ s.elements ∧ d.IsNamed name := by
  have hnamed := List.find?_some h
  exact ⟨List.mem_of_find?_eq_some h, hnamed⟩

theorem findByTechnicalName?_spec (h : s.findByTechnicalName? name = some d) :
    d ∈ s.elements ∧ d.IsTechnical name := by
  have htechnical := List.find?_some h
  exact ⟨List.mem_of_find?_eq_some h, htechnical⟩

theorem exists_findByName?_iff :
    (∃ d, s.findByName? name = some d) ↔ ∃ d ∈ s.elements, d.IsNamed name := by
  rw [← Option.isSome_iff_exists, findByName?, List.find?_isSome]
  rfl

theorem exists_findByTechnicalName?_iff :
    (∃ d, s.findByTechnicalName? name = some d) ↔ ∃ d ∈ s.elements, d.IsTechnical name := by
  rw [← Option.isSome_iff_exists, findByTechnicalName?, List.find?_isSome]
  rfl

/-- Something is found under a name that some element bears, in either sense. -/
theorem exists_find?_iff :
    (∃ d, s.find? name = some d) ↔ ∃ d ∈ s.elements, d.IsNamed name ∨ d.IsTechnical name := by
  have hfound : (∃ d, s.find? name = some d)
      ↔ (∃ d, s.findByName? name = some d) ∨ ∃ d, s.findByTechnicalName? name = some d := by
    simp only [← Option.isSome_iff_exists, find?, Option.isSome_or, Bool.or_eq_true]
  rw [hfound, exists_findByName?_iff, exists_findByTechnicalName?_iff]
  simp only [and_or_left, exists_or]

/-- A name in doubt is found in both senses. -/
theorem Doubtful.exists_find? (h : s.Doubtful name) :
    ∃ d d', s.findByName? name = some d ∧ s.findByTechnicalName? name = some d' := by
  obtain ⟨d, hd, d', hd', -, hnamed, htechnical⟩ := h
  obtain ⟨e, he⟩ := exists_findByName?_iff.2 ⟨d, hd, hnamed⟩
  obtain ⟨e', he'⟩ := exists_findByTechnicalName?_iff.2 ⟨d', hd', htechnical⟩
  exact ⟨e, e', he, he'⟩

theorem HidesAnother.doubtful (h : s.HidesAnother name) : s.Doubtful name := by
  obtain ⟨d, hname, htechnical, d', hd', hne, hother⟩ := h
  have hfirst := findByName?_spec hname
  have hfirst' := findByTechnicalName?_spec htechnical
  rcases hother with hnamed | hother
  · exact ⟨d', hd', d, hfirst.1, hne, hnamed, hfirst'.2⟩
  · exact ⟨d, hfirst.1, d', hd', hne.symm, hfirst.2, hother⟩

/-- Of two elements at least one is another than the one in front. -/
theorem Doubtful.hidesAnother (h : s.Doubtful name) (hname : s.findByName? name = some d)
    (htechnical : s.findByTechnicalName? name = some d) : s.HidesAnother name := by
  obtain ⟨e, he, e', he', hne, hnamed, hother⟩ := h
  by_cases hsame : e = d
  · subst hsame
    exact ⟨e, hname, htechnical, e', he', hne.symm, .inr hother⟩
  · exact ⟨d, hname, htechnical, e, he, hsame, .inl hnamed⟩

end Schema

/-! ## What a name stands for -/

namespace Scope

theorem targetOf_inj :
    targetOf d = targetOf d' ↔ d.kind = d'.kind ∧ d.element = d'.element := by
  obtain ⟨kind, place, e⟩ := d
  obtain ⟨kind', place', e'⟩ := d'
  cases kind <;> cases kind' <;> simp [targetOf]

theorem resolveUndeclared_ne_targetOf : scope.resolveUndeclared name ≠ targetOf d := by
  intro h
  have helement := scope.element?_resolveUndeclared name
  rw [h, element?_targetOf] at helement
  cases helement

theorem target_resolve_eq_targetOf_iff : (scope.resolve name).target = targetOf d
    ↔ ∃ d', scope.schema.find? name = some d' ∧ d'.kind = d.kind ∧ d'.element = d.element := by
  rw [target_resolve]
  cases scope.schema.find? name with
  | some d' =>
    show targetOf d' = targetOf d ↔ _
    rw [targetOf_inj]
    simp only [Option.some.injEq, exists_eq_left']
  | none =>
    simp only [reduceCtorEq, false_and, exists_false, iff_false]
    exact resolveUndeclared_ne_targetOf

theorem ambiguous_resolve : (scope.resolve name).ambiguous = true
    ↔ ∃ d d', scope.schema.findByName? name = some d
      ∧ scope.schema.findByTechnicalName? name = some d' ∧ d ≠ d' := by
  unfold resolve
  cases scope.schema.findByName? name <;> cases scope.schema.findByTechnicalName? name <;> simp

theorem doubtful_of_ambiguous (h : (scope.resolve name).ambiguous = true) :
    scope.schema.Doubtful name := by
  obtain ⟨d, d', hname, htechnical, hne⟩ := ambiguous_resolve.1 h
  have hfirst := Schema.findByName?_spec hname
  have hfirst' := Schema.findByTechnicalName?_spec htechnical
  exact ⟨d, hfirst.1, d', hfirst'.1, hne, hfirst.2, hfirst'.2⟩

theorem ambiguous_iff_of_not_hidesAnother (h : ¬ scope.schema.HidesAnother name) :
    (scope.resolve name).ambiguous = true ↔ scope.schema.Doubtful name := by
  refine ⟨doubtful_of_ambiguous, fun hdoubtful => ?_⟩
  obtain ⟨d, d', hname, htechnical⟩ := hdoubtful.exists_find?
  refine ambiguous_resolve.2 ⟨d, d', hname, htechnical, ?_⟩
  rintro rfl
  exact h (hdoubtful.hidesAnother hname htechnical)

theorem not_ambiguous_of_hidesAnother (h : scope.schema.HidesAnother name) :
    ¬ (scope.resolve name).ambiguous = true := by
  obtain ⟨d, hname, htechnical, -⟩ := h
  rw [ambiguous_resolve]
  rintro ⟨e, e', he, he', hne⟩
  rw [hname] at he
  rw [htechnical] at he'
  cases he
  cases he'
  exact hne rfl

/-- A name stands for a declared element if some element bears it, and then for the one that it
matches, which is the one that is found under it. A name told to be ambiguous is in doubt, and each
name in doubt is told to be so except for those whose first element hides another. -/
theorem resolve_eq_first_match (scope : Scope) (name : String) :
    ((∃ d ∈ scope.schema.elements, (scope.resolve name).target = targetOf d)
      ↔ ∃ d ∈ scope.schema.elements, d.IsNamed name ∨ d.IsTechnical name)
    ∧ (∀ d, (scope.resolve name).target = targetOf d
      ↔ scope.schema.Matches name d.kind d.element)
    ∧ (∀ d, scope.schema.find? name = some d → (scope.resolve name).target = targetOf d)
    ∧ (scope.schema.find? name = none →
      (scope.resolve name).target = scope.resolveUndeclared name)
    ∧ ((scope.resolve name).ambiguous = true → scope.schema.Doubtful name)
    ∧ (((scope.resolve name).ambiguous = true ↔ scope.schema.Doubtful name)
      ↔ ¬ scope.schema.HidesAnother name) := by
  refine ⟨?_, fun d => ?_, fun d => resolve_target_of_find?, fun hnone => ?_,
    doubtful_of_ambiguous, ?_⟩
  · rw [← Schema.exists_find?_iff]
    constructor
    · rintro ⟨d, -, htarget⟩
      obtain ⟨d', hfind, -⟩ := target_resolve_eq_targetOf_iff.1 htarget
      exact ⟨d', hfind⟩
    · rintro ⟨d, hfind⟩
      exact ⟨d, Schema.mem_elements_of_find? hfind, resolve_target_of_find? hfind⟩
  · rw [target_resolve_eq_targetOf_iff, Schema.find?_eq_some_iff_matches]
  · rw [target_resolve, hnone]
    rfl
  · refine ⟨fun hiff hhides => ?_, ambiguous_iff_of_not_hidesAnother⟩
    exact not_ambiguous_of_hidesAnother hhides (hiff.2 hhides.doubtful)

/-- A model in which the technical name of `town` is the name, and the technical name, of the
element in front of it. -/
def townSchema : Schema :=
  { Schema.ofNames 1 "t" "t" "dw.t" with
    dimensions := [.named "city" "city", .named "town" "city"] }

theorem resolve_not_ambiguous :
    townSchema.Doubtful "city"
      ∧ (ofSchema townSchema).resolve "city" = ⟨.dimension (.named "city" "city"), false⟩ := by
  decide +kernel

end Scope

end MetricQuery
