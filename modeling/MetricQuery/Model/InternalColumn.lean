import MetricQuery.Text.LetterCase
import MetricQuery.Text.WholeWord

/-!
# Internal columns — the reserved columns that every model has

They tell when a row was imported. A reference to one is recognised by its name in any case of the
ASCII letters, and a text is searched for them as whole words.
-/

namespace MetricQuery

open MetricQuery.Text

/-- The reserved columns. -/
def internalColumns : List String :=
  ["sys_imp_date", "sys_imp_week", "sys_imp_month"]

/-- The reserved column of a name. -/
def internalColumn? (name : String) : Option String :=
  internalColumns.find? fun column => sameIgnoringAsciiCase column name

/-- The reserved columns whose names stand in a text. -/
def internalColumnsIn (text : String) : List String :=
  internalColumns.filter fun column => hasWord column text

theorem mem_internalColumns_of_internalColumn? {name column : String}
    (h : internalColumn? name = some column) : column ∈ internalColumns :=
  List.mem_of_find?_eq_some h

end MetricQuery
