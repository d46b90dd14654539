import Mathlib.Data.List.Forall2
import Mathlib.Data.List.Nodup
import MetricQuery.Model.Record
import MetricQuery.Proofs.Data.JsonText
import MetricQuery.Proofs.Data.SortedMap

/-!
# Records — what is written is read

A record is written with all its fields. In a file a field may be left out if its value is the
default of the field, at every level of a schema on its own. Whatever is left out, the value is read
as what it was written from.
-/

namespace MetricQuery

open MetricQuery.Text

/-! ## Fields that are left out -/

/-- Some of the fields of a record, in their order. Those that are left out have their defaults. -/
structure Fields.Abridges (given defaults full : Fields) : Prop where
  sublist : given.Sublist full
  omitted : ∀ f ∈ full, f ∈ given ∨ f ∈ defaults

namespace Fields

variable {α : Type} {defaults moreDefaults full more given givenMore fields : Fields}
  {known : List String} {name : String} {v w : Value} {a default : α} {read : Value → Option α}
  {longer : Bool}

theorem get?_eq_some (h : (fields.map Prod.fst).Nodup) :
    fields.get? name = some v ↔ (name, v) ∈ fields :=
  SortedMap.find?_key_eq_some h

/-- All fields of an object are used if the record knows them and none is there twice. -/
theorem ofValue?_object (hknown : ∀ f ∈ fields, f.1 ∈ known)
    (hnodup : (fields.map Prod.fst).Nodup) :
    ofValue? known longer (.object fields) = some fields := by
  have hused : fields.partition (fun f => known.contains f.1) = (fields, []) := by
    rw [List.partition_eq_filter_filter, List.filter_eq_self.2, List.filter_eq_nil_iff.2]
    · intro f hf
      simp [hknown f hf]
    · intro f hf
      simpa using hknown f hf
  simp only [ofValue?, hused, List.all_nil, Bool.and_true]
  exact if_pos (decide_eq_true hnodup)

theorem Abridges.refl (defaults full : Fields) : full.Abridges defaults full :=
  ⟨.refl _, fun _ => .inl⟩

/-- A field in front is given. -/
theorem Abridges.keep {f : String × Value} (h : given.Abridges defaults full) :
    Fields.Abridges (f :: given) defaults (f :: full) where
  sublist := h.sublist.cons_cons f
  omitted := by
    refine List.forall_mem_cons.2 ⟨.inl (.head _), fun g hg => ?_⟩
    exact (h.omitted g hg).imp_left (.tail _)

/-- A field in front is left out, since it has its default. -/
theorem Abridges.leave {f : String × Value} (hf : f ∈ defaults) (h : given.Abridges defaults full) :
    given.Abridges defaults (f :: full) where
  sublist := h.sublist.cons f
  omitted := List.forall_mem_cons.2 ⟨.inr hf, h.omitted⟩

theorem Abridges.append (h : given.Abridges defaults full)
    (hmore : givenMore.Abridges moreDefaults more) :
    Fields.Abridges (given ++ givenMore) (defaults ++ moreDefaults) (full ++ more) where
  sublist := h.sublist.append hmore.sublist
  omitted := by
    refine List.forall_mem_append.2 ⟨fun f hf => ?_, fun f hf => ?_⟩
    · exact (h.omitted f hf).imp (List.mem_append_left _) (List.mem_append_left _)
    · exact (hmore.omitted f hf).imp (List.mem_append_right _) (List.mem_append_right _)

theorem Abridges.nodup (h : given.Abridges defaults full) (hnodup : (full.map Prod.fst).Nodup) :
    (given.map Prod.fst).Nodup :=
  (h.sublist.map _).nodup hnodup

/-- What is left of the fields of a record is read as it is. -/
theorem Abridges.ofValue?_object (h : given.Abridges defaults full)
    (hnodup : (full.map Prod.fst).Nodup) (hknown : full.map Prod.fst ⊆ known) :
    ofValue? known longer (.object given) = some given :=
  Fields.ofValue?_object
    (fun _ hf => hknown (List.mem_map_of_mem (h.sublist.subset hf))) (h.nodup hnodup)

/-- Whether a field is given with the value, or left out where the value is its default. -/
def Gives (given defaults : Fields) (name : String) (v : Value) : Prop :=
  given.get? name = some v ∨ given.get? name = none ∧ (name, v) ∈ defaults

theorem Abridges.gives (h : given.Abridges defaults full) (hnodup : (full.map Prod.fst).Nodup)
    (hmem : (name, v) ∈ full) : given.Gives defaults name v := by
  cases hget : given.get? name with
  | some w =>
    have hw := h.sublist.subset ((get?_eq_some (h.nodup hnodup)).1 hget)
    have hvw : (name, w) = (name, v) := List.inj_on_of_nodup_map hnodup hw hmem rfl
    exact .inl (hget.trans (congrArg some (congrArg Prod.snd hvw)))
  | none =>
    refine .inr ⟨hget, (h.omitted _ hmem).resolve_left fun hgiven => ?_⟩
    rw [(get?_eq_some (h.nodup hnodup)).2 hgiven] at hget
    cases hget

/-- A field without a default is there. -/
theorem Gives.required (h : given.Gives defaults name v) (hno : name ∉ defaults.map Prod.fst)
    (hread : read v = some a) : given.required name read = some a := by
  rcases h with hget | ⟨-, hdefault⟩
  · rw [Fields.required, hget]
    exact hread
  · exact absurd (List.mem_map_of_mem hdefault) hno

/-- A field with a default is there, or what it would be is what is put in its place. -/
theorem Gives.withDefault (h : given.Gives defaults name v)
    (hdefault : ∀ w, (name, w) ∈ defaults → read w = some default) (hread : read v = some a) :
    given.withDefault name default read = some a := by
  rcases h with hget | ⟨hget, hmem⟩
  · rw [Fields.withDefault, hget]
    exact hread
  · rw [Fields.withDefault, hget]
    exact (hdefault v hmem).symm.trans hread

end Fields

/-! ## Scalars and lists -/

theorem Value.nullable?_ofText? (s : Option String) : nullable? text? (ofText? s) = some s := by
  cases s <;> rfl

/-- A text without a default is there. -/
theorem Fields.Gives.requiredText {given defaults : Fields} {name s : String}
    (h : given.Gives defaults name (.text s)) (hno : name ∉ defaults.map Prod.fst) :
    given.required name Value.text? = some s :=
  h.required hno rfl

/-- A text that may be nothing is there, or left out and nothing. -/
theorem Fields.Gives.nullableText {given defaults : Fields} {name : String} {s : Option String}
    (h : given.Gives defaults name (.ofText? s))
    (hdefault : ∀ w, (name, w) ∈ defaults → Value.nullable? Value.text? w = some none) :
    given.withDefault name none (Value.nullable? Value.text?) = some s :=
  h.withDefault hdefault (Value.nullable?_ofText? s)

theorem DataType.ofValue?_toValue (kept : Bool) (t : DataType) :
    ofValue? kept t.toValue = some t := by
  cases t <;> rfl

theorem Aggregation.ofValue?_toValue (kept : Bool) (a : Aggregation) :
    ofValue? kept a.toValue = some a := by
  cases a <;> rfl

theorem Value.nullable?_aggregation (kept : Bool) (a : Option Aggregation) :
    nullable? (Aggregation.ofValue? kept) ((a.map Aggregation.toValue).getD .null) = some a := by
  cases a with
  | none => rfl
  | some a =>
    show (Aggregation.ofValue? kept a.toValue).map some = _
    rw [Aggregation.ofValue?_toValue]
    rfl

section Itemwise

variable {α β : Type} {R : α → β → Prop} {xs : List α} {ys : List β}

theorem forall_mem_of_forall₂ {p : β → Prop} (h : List.Forall₂ R xs ys)
    (hp : ∀ x ∈ xs, ∀ y, R x y → p y) : ∀ y ∈ ys, p y := by
  induction h with
  | nil => exact fun _ hy => nomatch hy
  | cons hxy _ ih =>
    exact List.forall_mem_cons.2 ⟨hp _ (.head _) _ hxy, ih fun x hx => hp x (.tail _ hx)⟩

theorem mapM_eq_some_of_forall₂ {read : β → Option α} (h : List.Forall₂ R xs ys)
    (hread : ∀ x ∈ xs, ∀ y, R x y → read y = some x) : ys.mapM read = some xs := by
  induction h with
  | nil => rfl
  | cons hxy _ ih =>
    simp [List.mapM_cons, hread _ (.head _) _ hxy, ih fun x hx => hread x (.tail _ hx)]

theorem forall₂_map_same {f : α → β} (h : ∀ x, R x (f x)) : List.Forall₂ R xs (xs.map f) :=
  List.forall₂_map_right_iff.2 (List.forall₂_same.2 fun x _ => h x)

end Itemwise

theorem Value.entries?_texts (entries : List (String × String)) :
    entries? text? (.object (entries.map fun e => (e.1, .text e.2))) = some entries :=
  mapM_eq_some_of_forall₂ (R := fun e f => f = (e.1, .text e.2)) (forall₂_map_same fun _ => rfl)
    fun _ _ _ heq => heq ▸ rfl

/-! ## Values that are written -/

/-- Whether the value is plain and lists and objects lie at most `levels` deep in it. -/
def Value.PlainWithin (levels : Nat) (v : Value) : Prop :=
  v.isPlain = true ∧ v.depth ≤ levels

namespace Value.PlainWithin

variable {levels levels' : Nat} {v : Value} {items : List Value} {given defaults full : Fields}

theorem mono (h : v.PlainWithin levels) (hle : levels ≤ levels') : v.PlainWithin levels' :=
  ⟨h.1, h.2.trans hle⟩

theorem text (levels : Nat) (s : String) : (Value.text s).PlainWithin levels :=
  ⟨rfl, Nat.zero_le _⟩

theorem ofText? (levels : Nat) (s : Option String) : (Value.ofText? s).PlainWithin levels := by
  cases s <;> exact ⟨rfl, Nat.zero_le _⟩

theorem list (h : ∀ v ∈ items, v.PlainWithin levels) :
    (Value.list items).PlainWithin (levels + 1) :=
  ⟨isPlain_list.2 fun v hv => (h v hv).1,
    Nat.succ_le_succ (depthOfItems_le.2 fun v hv => (h v hv).2)⟩

theorem object (h : ∀ f ∈ full, f.2.PlainWithin levels) :
    (Value.object full).PlainWithin (levels + 1) :=
  ⟨isPlain_object.2 fun f hf => (h f hf).1,
    Nat.succ_le_succ (depthOfFields_le.2 fun f hf => (h f hf).2)⟩

end Value.PlainWithin

theorem Fields.Abridges.plainWithin {given defaults full : Fields} {levels : Nat}
    (h : given.Abridges defaults full) (hfull : ∀ f ∈ full, f.2.PlainWithin levels) :
    (Value.object given).PlainWithin (levels + 1) :=
  .object fun f hf => hfull f (h.sublist.subset hf)

/-! ## Elements and rules -/

namespace Element

/-- The fields of an element with their values. -/
def toFields (e : Element) : Fields :=
  [("name", .text e.name), ("technical_name", .text e.technicalName),
    ("data_type", e.dataType.toValue), ("expr", .ofText? e.expr),
    ("aggregation", (e.aggregation.map Aggregation.toValue).getD .null)]

/-- The fields of an element that may be left out, with their values then. -/
def defaults : Fields :=
  [("data_type", DataType.string.toValue), ("expr", .null), ("aggregation", .null)]

/-- Whether the value is that of the element, but for fields with default values that are left
out. -/
def WrittenAs (e : Element) (v : Value) : Prop :=
  ∃ given : Fields, v = .object given ∧ given.Abridges defaults e.toFields

variable {e : Element} {v : Value}

theorem writtenAs_toValue (e : Element) : e.WrittenAs e.toValue :=
  ⟨_, rfl, .refl _ _⟩

/-- Of an element of which only the names are given, only these have to be written. -/
theorem writtenAs_named (name technicalName : String) : (named name technicalName).WrittenAs
    (.object [("name", .text name), ("technical_name", .text technicalName)]) := by
  refine ⟨_, rfl, .keep (.keep (.leave ?_ (.leave ?_ (.leave ?_ (.refl _ _)))))⟩ <;>
    simp [named, defaults, Value.ofText?]

theorem ofValue?_of_writtenAs (kept : Bool) (h : e.WrittenAs v) : ofValue? kept v = some e := by
  obtain ⟨given, rfl, h⟩ := h
  have hnodup : (e.toFields.map Prod.fst).Nodup := (by decide : fieldNames.Nodup)
  have hname : given.required "name" Value.text? = some e.name :=
    (h.gives hnodup (by simp [toFields])).requiredText (by decide)
  have htechnical : given.required "technical_name" Value.text? = some e.technicalName :=
    (h.gives hnodup (by simp [toFields])).requiredText (by decide)
  have htype : given.withDefault "data_type" .string (DataType.ofValue? kept) = some e.dataType :=
    (h.gives hnodup (v := e.dataType.toValue) (by simp [toFields])).withDefault
      (by simp [defaults, DataType.ofValue?_toValue]) (DataType.ofValue?_toValue kept _)
  have hexpr : given.withDefault "expr" none (Value.nullable? Value.text?) = some e.expr :=
    (h.gives hnodup (by simp [toFields])).nullableText (by simp [defaults, Value.nullable?])
  have haggregation : given.withDefault "aggregation" none
      (Value.nullable? (Aggregation.ofValue? kept)) = some e.aggregation :=
    (h.gives hnodup (by simp [toFields])).withDefault (by simp [defaults, Value.nullable?])
      (Value.nullable?_aggregation kept _)
  have hfields : Fields.ofValue? fieldNames false (.object given) = some given :=
    h.ofValue?_object hnodup (.refl _)
  simp only [ofValue?, hfields, hname, htechnical, htype, hexpr, haggregation, bind, pure,
    Option.bind_some]

theorem WrittenAs.plainWithin (h : e.WrittenAs v) : v.PlainWithin 1 := by
  obtain ⟨given, rfl, h⟩ := h
  refine h.plainWithin ?_
  simp only [toFields, List.forall_mem_cons]
  refine ⟨.text _ _, .text _ _, .text _ _, .ofText? _ _, ?_, by simp⟩
  cases e.aggregation with
  | none => exact .ofText? 0 none
  | some a => exact .text _ _

end Element

namespace DefaultMetricRule

/-- The fields of a rule with their values. -/
def toFields (r : DefaultMetricRule) : Fields :=
  [("name", .ofText? r.name), ("aggregation", r.aggregation.toValue),
    ("column", .ofText? r.column)]

/-- The fields of a rule, all of which may be left out, with their values then. -/
def defaults : Fields :=
  [("name", .null), ("aggregation", Aggregation.sum.toValue), ("column", .null)]

/-- Whether the value is that of the rule, but for fields with default values that are left out. -/
def WrittenAs (r : DefaultMetricRule) (v : Value) : Prop :=
  ∃ given : Fields, v = .object given ∧ given.Abridges defaults r.toFields

variable {r : DefaultMetricRule} {v : Value}

theorem writtenAs_toValue (r : DefaultMetricRule) : r.WrittenAs r.toValue :=
  ⟨_, rfl, .refl _ _⟩

theorem ofValue?_of_writtenAs (kept : Bool) (h : r.WrittenAs v) : ofValue? kept v = some r := by
  obtain ⟨given, rfl, h⟩ := h
  have hnodup : (r.toFields.map Prod.fst).Nodup := (by decide : fieldNames.Nodup)
  have hfields : Fields.ofValue? fieldNames false (.object given) = some given :=
    h.ofValue?_object hnodup (.refl _)
  have hname : given.withDefault "name" none (Value.nullable? Value.text?) = some r.name :=
    (h.gives hnodup (by simp [toFields])).nullableText (by simp [defaults, Value.nullable?])
  have haggregation : given.withDefault "aggregation" .sum (Aggregation.ofValue? kept)
      = some r.aggregation :=
    (h.gives hnodup (v := r.aggregation.toValue) (by simp [toFields])).withDefault
      (by simp [defaults, Aggregation.ofValue?_toValue]) (Aggregation.ofValue?_toValue kept _)
  have hcolumn : given.withDefault "column" none (Value.nullable? Value.text?) = some r.column :=
    (h.gives hnodup (by simp [toFields])).nullableText (by simp [defaults, Value.nullable?])
  simp only [ofValue?, hfields, hname, haggregation, hcolumn, bind, pure, Option.bind_some]

theorem WrittenAs.plainWithin (h : r.WrittenAs v) : v.PlainWithin 1 := by
  obtain ⟨given, rfl, h⟩ := h
  refine h.plainWithin ?_
  simp only [toFields, List.forall_mem_cons]
  exact ⟨.ofText? _ _, .text _ _, .ofText? _ _, by simp⟩

end DefaultMetricRule

/-! ## Schemas -/

namespace Schema

/-- The fields of the schema with these values for what it is made of. -/
def fieldsWith (s : Schema) (dimensions metrics : List Value) (rule : Value) : Fields :=
  [("id", .integer s.id),
   ("name", .text s.name),
   ("biz_name", .text s.bizName),
   ("source_table", .text s.sourceTable),
   ("full_path", .ofText? s.fullPath),
   ("dimensions", .list dimensions),
   ("metrics", .list metrics),
   ("default_metric", rule),
   ("internal_columns", .object (s.internalColumns.entries.map fun e => (e.1, .text e.2)))]

/-- The fields of a schema that may be left out, with their values then. -/
def defaults : Fields :=
  [("full_path", .null), ("dimensions", .list []), ("metrics", .list []), ("default_metric", .null),
    ("internal_columns", .object [])]

/-- Whether the value is that of the rule of a schema, or of no rule. -/
def RuleWrittenAs (rule : Option DefaultMetricRule) (v : Value) : Prop :=
  match rule with
  | none => v = .null
  | some r => r.WrittenAs v

theorem RuleWrittenAs.plainWithin {rule : Option DefaultMetricRule} {v : Value}
    (h : RuleWrittenAs rule v) : v.PlainWithin 1 := by
  cases rule with
  | none =>
    obtain rfl : v = .null := h
    exact .ofText? 1 none
  | some r => exact DefaultMetricRule.WrittenAs.plainWithin h

/-- Whether the fields are those of the schema, with further ones that have defaults, but for fields
with default values that are left out of it and of what it is made of. -/
def FieldsWrittenAs (s : Schema) (more moreDefaults given : Fields) : Prop :=
  ∃ dimensions metrics rule, List.Forall₂ Element.WrittenAs s.dimensions dimensions
    ∧ List.Forall₂ Element.WrittenAs s.metrics metrics ∧ RuleWrittenAs s.defaultMetric rule
    ∧ given.Abridges (defaults ++ moreDefaults) (s.fieldsWith dimensions metrics rule ++ more)

/-- Whether the value is that of the schema, but for fields with default values that are left out of
it and of what it is made of. -/
def WrittenAs (s : Schema) (v : Value) : Prop :=
  ∃ given : Fields, v = .object given ∧ s.FieldsWrittenAs [] [] given

variable {s : Schema} {rule : Option DefaultMetricRule} {more moreDefaults given : Fields}
  {v : Value} {items : List Value}

theorem ruleOfValue?_of_writtenAs (kept : Bool) (h : RuleWrittenAs rule v) :
    Value.nullable? (DefaultMetricRule.ofValue? kept) v = some rule := by
  cases rule with
  | none =>
    obtain rfl : v = .null := h
    rfl
  | some r =>
    have hread : DefaultMetricRule.ofValue? kept v = some r := r.ofValue?_of_writtenAs kept h
    obtain ⟨given, rfl, -⟩ := h
    rw [Value.nullable?, hread, Option.map_some]
    rintro ⟨⟩

theorem elementsOfValue?_of_writtenAs (kept : Bool) {elements : List Element}
    (h : List.Forall₂ Element.WrittenAs elements items) :
    Value.list? (Element.ofValue? kept) (.list items) = some elements :=
  mapM_eq_some_of_forall₂ h fun _ _ _ => Element.ofValue?_of_writtenAs kept

/-- The fields of a schema are read as the schema, whatever other fields stand behind them. -/
theorem ofFields?_of_writtenAs (kept : Bool) (hword : s.id ≤ maxWord)
    (hmore : (fieldNames ++ more.map Prod.fst).Nodup)
    (hdefaults : ∀ f ∈ moreDefaults, f.1 ∉ fieldNames)
    (h : s.FieldsWrittenAs more moreDefaults given) : ofFields? kept given = some s := by
  obtain ⟨dimensions, metrics, rule, hdimensions, hmetrics, hrule, h⟩ := h
  have hnodup : ((s.fieldsWith dimensions metrics rule ++ more).map Prod.fst).Nodup := by
    rw [List.map_append]
    exact hmore
  -- each field of the schema stands among those given, or has the default that is left out
  have hgives : ∀ {name v}, (name, v) ∈ s.fieldsWith dimensions metrics rule →
      given.Gives defaults name v := by
    intro name v hmem
    have hname : name ∈ fieldNames := List.mem_map_of_mem (f := Prod.fst) hmem
    refine (h.gives hnodup (List.mem_append_left _ hmem)).imp_right fun ⟨hget, hdefault⟩ => ?_
    exact ⟨hget, (List.mem_append.1 hdefault).resolve_right fun hw => hdefaults _ hw hname⟩
  have hid : given.required "id" Value.word? = some s.id := by
    refine (hgives (v := .integer s.id) (by simp [fieldsWith])).required (by decide) ?_
    simp [Value.word?, hword]
  have hname : given.required "name" Value.text? = some s.name :=
    (hgives (by simp [fieldsWith])).requiredText (by decide)
  have hbizName : given.required "biz_name" Value.text? = some s.bizName :=
    (hgives (by simp [fieldsWith])).requiredText (by decide)
  have htable : given.required "source_table" Value.text? = some s.sourceTable :=
    (hgives (by simp [fieldsWith])).requiredText (by decide)
  have hpath : given.withDefault "full_path" none (Value.nullable? Value.text?)
      = some s.fullPath :=
    (hgives (by simp [fieldsWith])).nullableText (by simp [defaults, Value.nullable?])
  have hdims : given.withDefault "dimensions" [] (Value.list? (Element.ofValue? kept))
      = some s.dimensions :=
    (hgives (v := .list dimensions) (by simp [fieldsWith])).withDefault
      (by simp [defaults, Value.list?]) (elementsOfValue?_of_writtenAs kept hdimensions)
  have hmets : given.withDefault "metrics" [] (Value.list? (Element.ofValue? kept))
      = some s.metrics :=
    (hgives (v := .list metrics) (by simp [fieldsWith])).withDefault
      (by simp [defaults, Value.list?]) (elementsOfValue?_of_writtenAs kept hmetrics)
  have hmetric : given.withDefault "default_metric" none
      (Value.nullable? (DefaultMetricRule.ofValue? kept)) = some s.defaultMetric :=
    (hgives (v := rule) (by simp [fieldsWith])).withDefault
      (by simp [defaults, Value.nullable?]) (ruleOfValue?_of_writtenAs kept hrule)
  have hcolumns : given.withDefault "internal_columns" [] (Value.entries? Value.text?)
      = some s.internalColumns.entries :=
    (hgives (by simp [fieldsWith])).withDefault (by simp [defaults, Value.entries?])
      (Value.entries?_texts _)
  simp only [ofFields?, hid, hname, hbizName, htable, hpath, hdims, hmets, hmetric, hcolumns, bind,
    pure, Option.bind_some, SortedMap.ofList_entries]

/-- A schema is read from what is written of it. -/
theorem ofValue?_of_writtenAs (hword : s.id ≤ maxWord) (h : s.WrittenAs v) :
    ofValue? v = some s := by
  obtain ⟨given, rfl, h⟩ := h
  have hfields : Fields.ofValue? fieldNames false (.object given) = some given := by
    obtain ⟨dimensions, metrics, rule, -, -, -, h⟩ := h
    rw [List.append_nil] at h
    exact h.ofValue?_object (by decide : fieldNames.Nodup) (.refl _)
  rw [ofValue?, hfields]
  exact ofFields?_of_writtenAs false hword (by decide) (by simp) h

theorem FieldsWrittenAs.plainWithin (hword : s.id ≤ maxWord)
    (hmore : ∀ f ∈ more, f.2.PlainWithin 2) (h : s.FieldsWrittenAs more moreDefaults given) :
    (Value.object given).PlainWithin 3 := by
  obtain ⟨dimensions, metrics, rule, hdimensions, hmetrics, hrule, h⟩ := h
  have hid : (Value.integer s.id).PlainWithin 2 := by
    refine ⟨?_, Nat.zero_le _⟩
    simp [Value.isPlain, Value.all, Value.word?, hword]
  refine h.plainWithin (List.forall_mem_append.2 ⟨?_, hmore⟩)
  simp only [fieldsWith, List.forall_mem_cons]
  refine ⟨hid, .text _ _, .text _ _, .text _ _, .ofText? _ _, .list ?_, .list ?_, ?_, ?_, by simp⟩
  · exact forall_mem_of_forall₂ hdimensions fun _ _ _ h => h.plainWithin
  · exact forall_mem_of_forall₂ hmetrics fun _ _ _ h => h.plainWithin
  · exact hrule.plainWithin.mono (by decide)
  · refine .object (List.forall_mem_map.2 fun e _ => .text _ _)

theorem fieldsWrittenAs_toFields (s : Schema) : s.FieldsWrittenAs [] [] s.toFields := by
  refine ⟨_, _, _, ?_, ?_, ?_, .refl _ _⟩
  · exact forall₂_map_same Element.writtenAs_toValue
  · exact forall₂_map_same Element.writtenAs_toValue
  · cases h : s.defaultMetric with
    | none => rfl
    | some r => exact r.writtenAs_toValue

theorem WrittenAs.plainWithin (hword : s.id ≤ maxWord) (h : s.WrittenAs v) : v.PlainWithin 3 := by
  obtain ⟨given, rfl, h⟩ := h
  exact h.plainWithin hword (by simp)

theorem writtenAs_toValue (s : Schema) : s.WrittenAs s.toValue :=
  ⟨_, rfl, s.fieldsWrittenAs_toFields⟩

/-- Of a model that declares nothing yet, only the names have to be written. -/
theorem fieldsWrittenAs_ofNames (id : Nat) (name bizName sourceTable : String) :
    (ofNames id name bizName sourceTable).FieldsWrittenAs [] []
      [("id", .integer id), ("name", .text name), ("biz_name", .text bizName),
        ("source_table", .text sourceTable)] := by
  refine ⟨_, _, _, .nil, .nil, rfl, .keep (.keep (.keep (.keep ?_)))⟩
  -- everything else has its default
  exact ⟨List.nil_sublist _, fun f hf => .inr hf⟩

/-- Further fields may stand behind those of a schema. -/
theorem FieldsWrittenAs.append {givenMore : Fields} (h : s.FieldsWrittenAs [] [] given)
    (hmore : givenMore.Abridges moreDefaults more) :
    s.FieldsWrittenAs more moreDefaults (given ++ givenMore) := by
  obtain ⟨dimensions, metrics, rule, hdimensions, hmetrics, hrule, h⟩ := h
  rw [List.append_nil, List.append_nil] at h
  exact ⟨dimensions, metrics, rule, hdimensions, hmetrics, hrule, h.append hmore⟩

end Schema

/-! ## Models -/

namespace CatalogModel

/-- Whether the value is that of the model, but for fields with default values that are left out of
it and of what it is made of. -/
def WrittenAs (m : CatalogModel) (v : Value) : Prop :=
  ∃ given : Fields, v = .object given ∧ m.schema.FieldsWrittenAs
    [(databaseTypeField, .ofText? m.databaseType)] [(databaseTypeField, .null)] given

variable {m : CatalogModel} {v : Value}

theorem writtenAs_toValue (m : CatalogModel) : m.WrittenAs m.toValue :=
  ⟨_, rfl, m.schema.fieldsWrittenAs_toFields.append (.refl _ _)⟩

theorem WrittenAs.plainWithin (hword : m.schema.id ≤ maxWord) (h : m.WrittenAs v) :
    v.PlainWithin 3 := by
  obtain ⟨given, rfl, h⟩ := h
  refine h.plainWithin hword (List.forall_mem_singleton.2 ?_)
  exact .ofText? 2 m.databaseType

/-- A model is read from what is written of it. -/
theorem ofValue?_of_writtenAs (hword : m.schema.id ≤ maxWord) (h : m.WrittenAs v) :
    ofValue? v = some m := by
  have hwell := Value.isWellFormed_of_isPlain (h.plainWithin hword).1
  obtain ⟨given, rfl, h⟩ := h
  have hnames : (Schema.fieldNames ++ [databaseTypeField]).Nodup := by decide
  have hschema : Schema.ofFields? true given = some m.schema := by
    refine Schema.ofFields?_of_writtenAs true hword ?_ (by decide) h
    exact hnames
  obtain ⟨dimensions, metrics, rule, -, -, -, h⟩ := h
  have hfields : Fields.ofValue? (databaseTypeField :: Schema.fieldNames) false (.object given)
      = some given := by
    refine h.ofValue?_object hnames ?_
    exact (List.perm_append_singleton databaseTypeField Schema.fieldNames).subset
  have htype : given.withDefault databaseTypeField none (Value.nullable? Value.text?)
      = some m.databaseType :=
    (h.gives hnames (List.mem_append_right _ (.head _))).nullableText
      (by simp [Schema.defaults, databaseTypeField, Value.nullable?])
  simp only [ofValue?, if_pos hwell, hfields, hschema, htype, bind, pure, Option.bind_some]

end CatalogModel

/-! ## Catalogs -/

namespace Catalog

variable {models : List CatalogModel} {v : Value} {levels : Option Nat}

/-- Whether the value is that of a catalog file of the models, but for fields with default values
that are left out anywhere. -/
def WrittenAs (models : List CatalogModel) (v : Value) : Prop :=
  ∃ (items : List Value) (given : Fields), v = .object given
    ∧ List.Forall₂ CatalogModel.WrittenAs models items
    ∧ given.Abridges [("models", .list [])] [("models", .list items)]

theorem writtenAs_valueOfModels (models : List CatalogModel) :
    WrittenAs models (valueOfModels models) :=
  ⟨_, _, rfl, forall₂_map_same CatalogModel.writtenAs_toValue, .refl _ _⟩

theorem WrittenAs.isPlain (hword : ∀ m ∈ models, m.schema.id ≤ maxWord) (h : WrittenAs models v) :
    v.isPlain = true := by
  obtain ⟨items, given, rfl, hitems, h⟩ := h
  have hplain : ∀ w ∈ items, w.PlainWithin 3 :=
    forall_mem_of_forall₂ hitems fun m hm _ h => h.plainWithin (hword m hm)
  exact (h.plainWithin (List.forall_mem_singleton.2 (.list hplain))).1

/-- The models of a catalog file are read from what is written of them, if lists and objects may lie
three levels deep in a model. -/
theorem modelsOfValue?_of_writtenAs (hword : ∀ m ∈ models, m.schema.id ≤ maxWord)
    (hlevels : ∀ n ∈ levels, 3 ≤ n) (h : WrittenAs models v) :
    modelsOfValue? levels v = some models := by
  obtain ⟨items, given, rfl, hitems, h⟩ := h
  have hnodup : ([("models", Value.list items)].map Prod.fst).Nodup := List.nodup_singleton _
  have hfields : Fields.ofValue? ["models"] false (.object given) = some given :=
    h.ofValue?_object hnodup (.refl _)
  rw [modelsOfValue?, hfields]
  refine (h.gives hnodup (.head _)).withDefault (by simp [Value.list?]) ?_
  refine mapM_eq_some_of_forall₂ hitems fun m hm v hv => ?_
  have hdepth : levels.all (v.depth ≤ ·) = true := by
    rw [Option.all_eq_true]
    exact fun n hn => decide_eq_true ((hv.plainWithin (hword m hm)).2.trans (hlevels n hn))
  rw [if_pos hdepth, CatalogModel.ofValue?_of_writtenAs (hword m hm) hv]

end Catalog

end MetricQuery
