import MetricQuery.Config.File
import MetricQuery.Proofs.Model.Record

/-!
# Catalog texts — models are read from their texts as they were

The text of a schema is read as the schema, and the text of a catalog of models with different ids
as a catalog that holds each of them under its id. In either text fields with default values may be
left out, at every level on its own.
-/

namespace MetricQuery

open MetricQuery.Text

namespace Catalog

variable {c : Catalog} {models : List CatalogModel} {v : Value} {text : String}

theorem get?_register (c : Catalog) (m : CatalogModel) (id : Nat) :
    (c.register m.schema m.databaseType).models.get? id
      = if m.schema.id = id then some m else c.models.get? id :=
  SortedMap.get?_insert _ _ _ _

/-- Models with different new ids are all registered. -/
theorem registerNew_of_nodup (hids : (models.map fun m => m.schema.id).Nodup)
    (hnew : ∀ m ∈ models, c.models.get? m.schema.id = none) :
    ∃ c', c.registerNew models = .ok c'
      ∧ (∀ m ∈ models, c'.models.get? m.schema.id = some m)
      ∧ ∀ id, (∀ m ∈ models, m.schema.id ≠ id) → c'.models.get? id = c.models.get? id := by
  induction models generalizing c with
  | nil => exact ⟨c, rfl, by simp, fun _ _ => rfl⟩
  | cons m models ih =>
    obtain ⟨hother, hids⟩ := List.nodup_cons.1 hids
    have hne : ∀ n ∈ models, m.schema.id ≠ n.schema.id :=
      fun n hn heq => hother (List.mem_map.2 ⟨n, hn, heq.symm⟩)
    have hfree : c.contains m.schema.id = false := by
      rw [contains, SortedMap.contains_eq_isSome_get?, hnew m (.head _)]
      rfl
    -- the rest is registered in the catalog that has the first model already
    obtain ⟨c', hregister, hmodels, hrest⟩ :=
      ih (c := c.register m.schema m.databaseType) hids fun n hn => by
        rw [get?_register, if_neg (hne n hn)]
        exact hnew n (.tail _ hn)
    refine ⟨c', ?_, List.forall_mem_cons.2 ⟨?_, hmodels⟩, fun id hid => ?_⟩
    · rw [registerNew, hfree]
      exact hregister
    · rw [hrest _ fun n hn heq => hne n hn heq.symm, get?_register, if_pos rfl]
    · rw [hrest id fun n hn => hid n (.tail _ hn), get?_register, if_neg (hid m (.head _))]

/-- A text that is read as what is written of models is the text of a catalog of them. -/
theorem parseJson_of_writtenAs (hword : ∀ m ∈ models, m.schema.id ≤ maxWord)
    (hids : (models.map fun m => m.schema.id).Nodup) (htext : Json.parse? text = some v)
    (h : WrittenAs models v) :
    ∃ c, parseJson text = .ok c
      ∧ (∀ m ∈ models, c.schema? m.schema.id = some m.schema
        ∧ c.databaseType? m.schema.id = m.databaseType)
      ∧ ∀ id, (∀ m ∈ models, m.schema.id ≠ id) → c.schema? id = none := by
  have hread : modelsOfValue? (some jsonLevels) v = some models :=
    modelsOfValue?_of_writtenAs hword (by decide) h
  obtain ⟨c, hregister, hmodels, hrest⟩ :=
    registerNew_of_nodup (c := empty) hids fun m _ => SortedMap.get?_empty m.schema.id
  refine ⟨c, ?_, fun m hm => ?_, fun id hid => ?_⟩
  · rw [parseJson, htext, Option.bind_some, hread, ofList, ofModels, hregister]
  · rw [schema?, databaseType?, hmodels m hm]
    exact ⟨rfl, rfl⟩
  · rw [schema?, hrest id hid]
    rfl

/-- A schema is read from its text as it was, and so are the models of a catalog, with the types of
their databases: from the text that is written of them, and from every other text that says the same
but for fields with default values. -/
theorem read_written {s : Schema} (hs : s.id ≤ maxWord)
    (hword : ∀ m ∈ models, m.schema.id ≤ maxWord)
    (hids : (models.map fun m => m.schema.id).Nodup) :
    s.WrittenAs s.toValue
      ∧ (∀ v, s.WrittenAs v → Json.parse? (Json.render v) = some v
        ∧ ∀ text, Json.parse? text = some v → (Json.parse? text).bind Schema.ofValue? = some s)
      ∧ WrittenAs models (valueOfModels models)
      ∧ ∀ v, WrittenAs models v → Json.parse? (Json.render v) = some v
        ∧ ∀ text, Json.parse? text = some v → ∃ c, parseJson text = .ok c
          ∧ (∀ m ∈ models, c.schema? m.schema.id = some m.schema
            ∧ c.databaseType? m.schema.id = m.databaseType)
          ∧ ∀ id, (∀ m ∈ models, m.schema.id ≠ id) → c.schema? id = none := by
  refine ⟨s.writtenAs_toValue, fun v h => ⟨Json.parse?_render (h.plainWithin hs).1, ?_⟩,
    writtenAs_valueOfModels models, fun v h => ⟨Json.parse?_render (h.isPlain hword), ?_⟩⟩
  · intro text htext
    rw [htext]
    exact Schema.ofValue?_of_writtenAs hs h
  · exact fun text htext => parseJson_of_writtenAs hword hids htext h

/-- A model that declares something of each kind, under the largest id. -/
def salesModel : CatalogModel where
  schema :=
    Schema.ofNames 18446744073709551615 "sales" "s" "dw.s"
      |>.withDimension (.named "City" "city")
      |>.withDimension ⟨"Day", "dt", .date, some "DATE(ts)", none⟩
      |>.withMetric ⟨"Buyers", "buyer_id", .string, none, some .countDistinct⟩
      |>.withDefaultMetric ⟨none, .sum, some "amount"⟩
      |>.withInternalColumn "sys_imp_date" "dt"
      |>.withInternalColumn "sys_imp_week" "wk"
  databaseType := some "mysql"

/-- What is written of the schema of the sales model without any field that has its default. -/
def salesFields : Fields :=
  [("id", .integer 18446744073709551615), ("name", .text "sales"), ("biz_name", .text "s"),
    ("source_table", .text "dw.s"),
    ("dimensions", .list [
      .object [("name", .text "City"), ("technical_name", .text "city")],
      .object [("name", .text "Day"), ("technical_name", .text "dt"), ("data_type", .text "date"),
        ("expr", .text "DATE(ts)")]]),
    ("metrics", .list [
      .object [("name", .text "Buyers"), ("technical_name", .text "buyer_id"),
        ("aggregation", .text "count_distinct")]]),
    ("default_metric", .object [("column", .text "amount")]),
    ("internal_columns", .object [("sys_imp_date", .text "dt"), ("sys_imp_week", .text "wk")])]

theorem fieldsWrittenAs_salesFields : salesModel.schema.FieldsWrittenAs [] [] salesFields := by
  have hcity := Element.writtenAs_named "City" "city"
  have hday : Element.WrittenAs ⟨"Day", "dt", .date, some "DATE(ts)", none⟩
      (.object [("name", .text "Day"), ("technical_name", .text "dt"), ("data_type", .text "date"),
        ("expr", .text "DATE(ts)")]) := by
    refine ⟨_, rfl, .keep (.keep (.keep (.keep (.leave ?_ (.refl _ _)))))⟩
    simp [Element.defaults]
  have hbuyers : Element.WrittenAs ⟨"Buyers", "buyer_id", .string, none, some .countDistinct⟩
      (.object [("name", .text "Buyers"), ("technical_name", .text "buyer_id"),
        ("aggregation", .text "count_distinct")]) := by
    refine ⟨_, rfl, .keep (.keep (.leave ?_ (.leave ?_ (.keep (.refl _ _)))))⟩ <;>
      simp [Element.defaults, Value.ofText?]
  have hrule : Schema.RuleWrittenAs (some ⟨none, .sum, some "amount"⟩)
      (.object [("column", .text "amount")]) := by
    refine ⟨_, rfl, .leave ?_ (.leave ?_ (.keep (.refl _ _)))⟩ <;>
      simp [DefaultMetricRule.defaults, Value.ofText?]
  refine ⟨_, _, _, .cons hcity (.cons hday .nil), .cons hbuyers .nil, hrule, ?_⟩
  -- of its own fields the schema leaves out the path
  exact .keep (.keep (.keep (.keep (.leave (.head _) (.refl _ _)))))

theorem read_written_salesFields :
    let sales : Value := .object (salesFields ++ [("database_type", .text "mysql")])
    let visits : Value :=
      .object [("id", .integer 7), ("name", .text "visits"), ("biz_name", .text "v"),
        ("source_table", .text "dw.v")]
    (Json.parse? (Json.render (.object salesFields))).bind Schema.ofValue? = some salesModel.schema
      ∧ ∃ c, parseJson (Json.render (.object [("models", .list [sales, visits])])) = .ok c
        ∧ c.schema? 18446744073709551615 = some salesModel.schema
        ∧ c.databaseType? 18446744073709551615 = some "mysql"
        ∧ c.schema? 7 = some (.ofNames 7 "visits" "v" "dw.v") ∧ c.databaseType? 7 = none
        ∧ c.schema? 8 = none := by
  intro sales visits
  let models : List CatalogModel := [salesModel, ⟨.ofNames 7 "visits" "v" "dw.v", none⟩]
  have hword : ∀ m ∈ models, m.schema.id ≤ maxWord := by decide
  have hwritten : WrittenAs models (.object [("models", .list [sales, visits])]) := by
    have hsales : CatalogModel.WrittenAs salesModel sales :=
      ⟨_, rfl, fieldsWrittenAs_salesFields.append (.refl _ _)⟩
    have hvisits : CatalogModel.WrittenAs ⟨.ofNames 7 "visits" "v" "dw.v", none⟩ visits := by
      refine ⟨_, rfl, (Schema.fieldsWrittenAs_ofNames 7 "visits" "v" "dw.v").append ?_⟩
      exact .leave (.head _) (.refl _ _)
    exact ⟨_, _, rfl, .cons hsales (.cons hvisits .nil), .refl _ _⟩
  obtain ⟨-, hschema, -, hmodels⟩ :=
    read_written (s := salesModel.schema) (by decide) hword (by decide)
  obtain ⟨htext, hread⟩ := hschema _ ⟨_, rfl, fieldsWrittenAs_salesFields⟩
  refine ⟨hread _ htext, ?_⟩
  obtain ⟨htext, hread⟩ := hmodels _ hwritten
  obtain ⟨c, hc, hmodels, hnone⟩ := hread _ htext
  obtain ⟨hsales, hmysql⟩ := hmodels _ (.head _)
  obtain ⟨hvisits, huntyped⟩ := hmodels _ (.tail _ (.head _))
  exact ⟨c, hc, hsales, hmysql, hvisits, huntyped, hnone 8 (by decide)⟩

end Catalog

end MetricQuery
