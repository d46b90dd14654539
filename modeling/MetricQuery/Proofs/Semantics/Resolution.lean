import MetricQuery.Proofs.Text.LowerCase
import MetricQuery.Semantics.Resolution

/-!
# Resolution — looking names up in a model

A lookup depends on the lower-case form of the name alone. What is found under the name of a
declared element bears that name too, but it may be another element: the first one of the name.
-/

namespace MetricQuery

open MetricQuery.Text

/-! ## Reserved columns -/

theorem asciiLower_of_mem_internalColumns {column : String} (h : column ∈ internalColumns) :
    asciiLower column = column := by
  revert column
  decide

theorem lower_of_mem_internalColumns {column : String} (h : column ∈ internalColumns) :
    lower column = column := by
  revert column
  decide +kernel

theorem isAscii_of_mem_internalColumns {column : String} (h : column ∈ internalColumns) :
    IsAscii column := by
  have hall : internalColumns.all (fun column => column.toList.all fun c => c.toNat < 0x80)
      = true := by decide
  simp only [List.all_eq_true, decide_eq_true_eq] at hall
  exact hall column h

theorem internalColumn?_eq_some {name column : String} :
    internalColumn? name = some column ↔ column ∈ internalColumns ∧ asciiLower name = column := by
  constructor
  · intro h
    have hmem := mem_internalColumns_of_internalColumn? h
    have hsame : sameIgnoringAsciiCase column name = true := by simpa using List.find?_some h
    rw [sameIgnoringAsciiCase, beq_iff_eq, asciiLower_of_mem_internalColumns hmem] at hsame
    exact ⟨hmem, hsame.symm⟩
  · rintro ⟨hmem, hname⟩
    have hfind : ∀ column ∈ internalColumns,
        internalColumns.find? (fun c => asciiLower c == column) = some column := by decide
    show internalColumns.find? (fun c => asciiLower c == asciiLower name) = some column
    rw [hname]
    exact hfind column hmem

/-- A name that is recognised as a reserved column is one in lower case as well. -/
theorem lower_of_internalColumn? {name column : String} (h : internalColumn? name = some column) :
    lower name = column := by
  obtain ⟨hmem, hname⟩ := internalColumn?_eq_some.1 h
  have hascii : IsAscii name := isAscii_of_asciiLower (hname ▸ isAscii_of_mem_internalColumns hmem)
  rw [lower_of_isAscii hascii, hname]

/-! ## Declared elements -/

namespace Schema

variable {s : Schema} {a b name : String} {d d' : Declared}

theorem findByName?_congr (s : Schema) (h : lower a = lower b) :
    s.findByName? a = s.findByName? b := by
  simp only [findByName?, sameName, h]

theorem find?_congr (s : Schema) (h : lower a = lower b) : s.find? a = s.find? b := by
  simp only [find?, findByName?, findByTechnicalName?, sameName, h]

theorem lower_name_of_findByName? (h : s.findByName? name = some d) :
    lower d.element.name = lower name := by
  have hsame : sameName d.element.name name = true := by simpa using List.find?_some h
  simpa [sameName] using hsame

theorem mem_elements_of_find? (h : s.find? name = some d) : d ∈ s.elements := by
  rw [find?, Option.or_eq_some_iff] at h
  rcases h with h | ⟨-, h⟩
  · exact List.mem_of_find?_eq_some h
  · exact List.mem_of_find?_eq_some h

/-- Under the name of a declared element something is found, and it bears the name. -/
theorem exists_findByName? (hd : d ∈ s.elements) (hname : lower d.element.name = lower name) :
    ∃ d', s.findByName? name = some d' ∧ lower d'.element.name = lower name := by
  cases hfind : s.findByName? name with
  | some d' => exact ⟨d', rfl, lower_name_of_findByName? hfind⟩
  | none =>
    have hno := List.find?_eq_none.1 hfind d hd
    simp [sameName, hname] at hno

theorem find?_eq_findByName? (h : s.findByName? name = some d) : s.find? name = some d := by
  rw [find?, h, Option.some_or]

theorem isEmpty_eq_false (hd : d ∈ s.elements) : s.isEmpty = false := by
  rw [isEmpty, Bool.and_eq_false_iff]
  rcases List.mem_append.1 hd with h | h
  · right
    rw [List.isEmpty_eq_false_iff]
    rintro hnil
    simp [hnil] at h
  · left
    rw [List.isEmpty_eq_false_iff]
    rintro hnil
    simp [hnil] at h

end Schema

/-- The element that a name stands for, if it stands for one. -/
def Target.element? : Target → Option Element
  | dimension e | metric e => some e
  | _ => none

theorem Scope.element?_targetOf (d : Schema.Declared) : (targetOf d).element? = some d.element := by
  unfold targetOf
  cases d.kind <;> rfl

theorem Scope.element?_resolveUndeclared (scope : Scope) (name : String) :
    (scope.resolveUndeclared name).element? = none := by
  unfold resolveUndeclared
  cases internalColumn? name with
  | some _ => rfl
  | none =>
    by_cases hmade : scope.defaultMetric.any (sameIgnoringAsciiCase · name) = true
    · simp only [hmade, if_true]
      rfl
    · by_cases halias : hasName scope.aliases name = true <;> simp only [hmade, halias] <;> rfl

/-- A name stands for what is found under it. -/
theorem Scope.target_resolve (scope : Scope) (name : String) : (scope.resolve name).target
    = ((scope.schema.find? name).map targetOf).getD (scope.resolveUndeclared name) := by
  unfold resolve
  rw [Schema.find?]
  cases scope.schema.findByName? name <;> cases scope.schema.findByTechnicalName? name <;> rfl

theorem Scope.resolve_target_of_find? {scope : Scope} {name : String} {d : Schema.Declared}
    (h : scope.schema.find? name = some d) : (scope.resolve name).target = targetOf d := by
  rw [target_resolve, h]
  rfl

/-- A name stands for the element that is found under it. -/
theorem Scope.element?_resolve (scope : Scope) (name : String) :
    (scope.resolve name).target.element? = (scope.schema.find? name).map (·.element) := by
  rw [target_resolve]
  cases scope.schema.find? name with
  | some d => exact element?_targetOf d
  | none => exact element?_resolveUndeclared scope name

end MetricQuery
