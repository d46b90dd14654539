import MetricQuery.Model.Schema

/-!
# Default metrics — the metric of a query that asks for none

A query without a metric still sums something up. What it is, a policy decides from the model and
the dimensions that the query refers to; the policy of the catalog follows the model's rule, or
counts rows if the model has none.
-/

namespace MetricQuery

open MetricQuery.Text

/-- A metric made up for a query: its output name, and the text of what is summed up. -/
structure SynthesizedMetric where
  name : String
  expr : String
  deriving DecidableEq, Repr

/-- Makes up a metric for a model at the given dimensions. -/
abbrev DefaultMetricPolicy :=
  Schema → List String → SynthesizedMetric

/-- What a rule sums up: a declared element as it is stored, anything else as it is written, and
rows if the rule names nothing. -/
def DefaultMetricRule.operand (rule : DefaultMetricRule) (s : Schema) : String :=
  match rule.column with
  | none => "1"
  | some column => ((s.find? column).map (·.element.physicalExpr)).getD column

/-- The output name of a rule's metric, in lower case. -/
def DefaultMetricRule.outputName (rule : DefaultMetricRule) (s : Schema) : String :=
  lower (rule.name.getD (s.bizName ++ "_internal_cnt"))

/-- The metric that the model's rule asks for. -/
def catalogDefaultMetric : DefaultMetricPolicy := fun s _ =>
  let rule := s.defaultMetric.getD .rowCount
  ⟨rule.outputName s, rule.aggregation.apply (rule.operand s)⟩

end MetricQuery
