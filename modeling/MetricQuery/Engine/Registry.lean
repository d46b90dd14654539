import MetricQuery.Engine.Basic

/-!
# Registry — which engine a database type stands for

Database types are compared by their lower-case form without the blanks around them. A registration
replaces an earlier one of the same type.
-/

namespace MetricQuery.Engine

open MetricQuery.Text

/-- The form in which a database type is looked up. -/
def typeKey (databaseType : String) : String :=
  lower (trim databaseType)

/-- Engines by database type; the first entry of a key counts. -/
structure Registry where
  entries : List (String × Engine)

namespace Registry

/-- The registry in which a database type stands for an engine. -/
def register (r : Registry) (databaseType : String) (e : Engine) : Registry :=
  ⟨(typeKey databaseType, e) :: r.entries⟩

/-- The engine that a database type stands for. -/
def lookup? (r : Registry) (databaseType : String) : Option Engine :=
  (r.entries.find? fun entry => entry.1 == typeKey databaseType).map (·.2)

/-- Each engine under its own name, and the databases that speak its language. -/
def standard : Registry :=
  let own := all.foldl (fun r e => r.register e.name e) ⟨[]⟩
  ["mariadb", "doris", "starrocks", "tidb"].foldl (fun r name => r.register name mysql) own

/-- The registry with further names, each for the engine that a text names; one that names no
engine is left out. -/
def withAliases (r : Registry) (aliases : List (String × String)) : Registry :=
  aliases.foldl (fun r entry =>
    match Engine.parse entry.2 with
    | .ok e => r.register entry.1 e
    | .error _ => r) r

theorem lookup?_register (r : Registry) (a b : String) (e : Engine) :
    (r.register a e).lookup? b = if typeKey a = typeKey b then some e else r.lookup? b := by
  by_cases h : typeKey a = typeKey b <;> simp [register, lookup?, h]

end Registry

end MetricQuery.Engine
