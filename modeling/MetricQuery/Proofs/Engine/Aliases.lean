import Mathlib.Data.List.Perm.Basic
import MetricQuery.Engine.Registry

/-!
# Aliases — further names for engines

An alias stands for the engine that its target names. A table of aliases whose names are different
in the form in which they are looked up gives one registry, whatever the order in which its entries
are registered. A name of the table hides an engine that the registry has had under it; an alias for
what is no engine hides nothing.
-/

namespace MetricQuery.Engine

open MetricQuery.Text

/-- Engines are told apart by their names. -/
theorem eq_of_asciiLower_name {e e' : Engine} (h : asciiLower e.name = asciiLower e'.name) :
    e = e' := by
  cases e <;> cases e' <;> first | rfl | exact absurd h (by decide)

/-- A text is read as the engine that it names. -/
theorem parse_eq_ok {text : String} {e : Engine} :
    parse text = .ok e ↔ sameIgnoringAsciiCase e.name (trim text) = true := by
  unfold parse
  constructor
  · intro h
    split at h
    · next own hfind =>
      obtain rfl : own = e := Except.ok.inj h
      have hown := List.find?_some hfind
      exact hown
    · cases h
  · intro h
    split
    · next own hfind =>
      have hown := List.find?_some hfind
      -- two engines whose names differ in case only are the same
      rw [sameIgnoringAsciiCase, beq_iff_eq] at h hown
      exact congrArg Except.ok (eq_of_asciiLower_name (hown.trans h.symm))
    · next hfind => exact absurd h (List.find?_eq_none.1 hfind e (mem_all e))

namespace Registry

variable {r : Registry} {aliases aliases' : List (String × String)} {text : String}

theorem withAliases_cons_of_ok {entry : String × String} {e : Engine} (h : parse entry.2 = .ok e) :
    r.withAliases (entry :: aliases) = (r.register entry.1 e).withAliases aliases := by
  rw [withAliases, List.foldl_cons, h]
  rfl

theorem withAliases_cons_of_error {entry : String × String} {err : Unsupported}
    (h : parse entry.2 = .error err) :
    r.withAliases (entry :: aliases) = r.withAliases aliases := by
  rw [withAliases, List.foldl_cons, h]
  rfl

/-- A name that stands for an engine in no entry is looked up as it has been. -/
theorem lookup?_withAliases_of_unnamed (h : ∀ entry ∈ aliases, typeKey entry.1 = typeKey text →
      ∀ e : Engine, sameIgnoringAsciiCase e.name (trim entry.2) = false) :
    (r.withAliases aliases).lookup? text = r.lookup? text := by
  induction aliases generalizing r with
  | nil => rfl
  | cons entry aliases ih =>
    have hrest : ∀ r : Registry, (r.withAliases aliases).lookup? text = r.lookup? text :=
      fun r => ih fun other hother => h other (.tail _ hother)
    cases hparse : parse entry.2 with
    | error err => rw [withAliases_cons_of_error hparse, hrest]
    | ok e =>
      -- an entry that names an engine stands under another text
      have hother : typeKey entry.1 ≠ typeKey text := by
        intro hkey
        have hname := parse_eq_ok.1 hparse
        rw [h entry (.head _) hkey e] at hname
        cases hname
      rw [withAliases_cons_of_ok hparse, hrest, lookup?_register, if_neg hother]

/-- A name that stands for an engine in one entry is looked up as that engine. -/
theorem lookup?_withAliases_of_named
    (hnames : (aliases.map fun entry => typeKey entry.1).Nodup) {entry : String × String}
    (hentry : entry ∈ aliases) (hkey : typeKey entry.1 = typeKey text) {e : Engine}
    (hname : sameIgnoringAsciiCase e.name (trim entry.2) = true) :
    (r.withAliases aliases).lookup? text = some e := by
  induction aliases generalizing r with
  | nil => cases hentry
  | cons first aliases ih =>
    rw [List.map_cons, List.nodup_cons] at hnames
    obtain ⟨hother, hnames⟩ := hnames
    rcases List.mem_cons.1 hentry with rfl | hentry
    · -- no later entry has this name
      have hlater : ∀ later ∈ aliases, typeKey later.1 = typeKey text →
          ∀ e : Engine, sameIgnoringAsciiCase e.name (trim later.2) = false :=
        fun later hlater hsame =>
          (hother (List.mem_map.2 ⟨later, hlater, hsame.trans hkey.symm⟩)).elim
      rw [withAliases_cons_of_ok (parse_eq_ok.2 hname), lookup?_withAliases_of_unnamed hlater,
        lookup?_register, if_pos hkey]
    · cases hparse : parse first.2 with
      | error err =>
        rw [withAliases_cons_of_error hparse]
        exact ih hnames hentry
      | ok own =>
        rw [withAliases_cons_of_ok hparse]
        exact ih hnames hentry

/-- Whatever the order in which the aliases of a table are registered, a name is looked up as the
engine that the table has for it, and if the table has none as it is without the table. -/
theorem lookup?_standard_withAliases
    (hnames : (aliases.map fun entry => typeKey entry.1).Nodup) (horder : aliases'.Perm aliases)
    (text : String) :
    (standard.withAliases aliases').lookup? text = (standard.withAliases aliases).lookup? text
      ∧ (∀ entry ∈ aliases, typeKey entry.1 = typeKey text → ∀ e : Engine,
        sameIgnoringAsciiCase e.name (trim entry.2) = true →
          (standard.withAliases aliases').lookup? text = some e)
      ∧ ((∀ entry ∈ aliases, typeKey entry.1 = typeKey text → ∀ e : Engine,
          sameIgnoringAsciiCase e.name (trim entry.2) = false) →
        (standard.withAliases aliases').lookup? text = standard.lookup? text) := by
  have hnames' : (aliases'.map fun entry => typeKey entry.1).Nodup :=
    (horder.map _).nodup_iff.2 hnames
  have hnamed : ∀ entry ∈ aliases, typeKey entry.1 = typeKey text → ∀ e : Engine,
      sameIgnoringAsciiCase e.name (trim entry.2) = true →
        (standard.withAliases aliases').lookup? text = some e :=
    fun entry hentry hkey e hname =>
      lookup?_withAliases_of_named hnames' (horder.mem_iff.2 hentry) hkey hname
  have hunnamed : (∀ entry ∈ aliases, typeKey entry.1 = typeKey text → ∀ e : Engine,
        sameIgnoringAsciiCase e.name (trim entry.2) = false) →
      (standard.withAliases aliases').lookup? text = standard.lookup? text :=
    fun h => lookup?_withAliases_of_unnamed fun entry hentry => h entry (horder.mem_iff.1 hentry)
  refine ⟨?_, hnamed, hunnamed⟩
  -- either an entry decides in both orders, or neither order adds anything under this text
  by_cases hsome : ∃ entry ∈ aliases, typeKey entry.1 = typeKey text
      ∧ ∃ e : Engine, sameIgnoringAsciiCase e.name (trim entry.2) = true
  · obtain ⟨entry, hentry, hkey, e, hname⟩ := hsome
    rw [hnamed entry hentry hkey e hname, lookup?_withAliases_of_named hnames hentry hkey hname]
  · have hnone : ∀ entry ∈ aliases, typeKey entry.1 = typeKey text → ∀ e : Engine,
        sameIgnoringAsciiCase e.name (trim entry.2) = false := by
      intro entry hentry hkey e
      exact Bool.eq_false_iff.2 fun hname => hsome ⟨entry, hentry, hkey, e, hname⟩
    have hlookup : (standard.withAliases aliases).lookup? text = standard.lookup? text :=
      lookup?_withAliases_of_unnamed hnone
    rw [hunnamed hnone, hlookup]

/-- An alias hides a database that the registry knows, and one for what is no engine stands for
nothing. -/
theorem lookup?_standard_withAliases_mariadb :
    let aliases := [(" MariaDB", "ClickHouse "), ("Ŝales", "H2"), ("tidb", "oracle")]
    (standard.withAliases aliases.reverse).lookup? "mariadb" = some clickhouse
      ∧ (standard.withAliases aliases.reverse).lookup? "ŝALES" = some h2
      ∧ (standard.withAliases aliases.reverse).lookup? "TiDB" = some mysql := by
  intro aliases
  have hkeys : (aliases.map fun entry => typeKey entry.1) = ["mariadb", "ŝales", "tidb"] := by
    decide +kernel
  have hnames : (aliases.map fun entry => typeKey entry.1).Nodup := by
    rw [hkeys]
    decide
  have hlookup := lookup?_standard_withAliases hnames aliases.reverse_perm
  obtain ⟨-, hmariadb, -⟩ := hlookup "mariadb"
  obtain ⟨-, hsales, -⟩ := hlookup "ŝALES"
  obtain ⟨-, -, htidb⟩ := hlookup "TiDB"
  have hunnamed : ∀ entry ∈ aliases, typeKey entry.1 = typeKey "TiDB" → ∀ e ∈ all,
      sameIgnoringAsciiCase e.name (trim entry.2) = false := by decide +kernel
  refine ⟨hmariadb (" MariaDB", "ClickHouse ") (.head _) (by decide +kernel) clickhouse
      (by decide +kernel),
    hsales ("Ŝales", "H2") (.tail _ (.head _)) (by decide +kernel) h2 (by decide +kernel), ?_⟩
  rw [htidb fun entry hentry hkey e => hunnamed entry hentry hkey e (mem_all e)]
  decide +kernel

end Registry

end MetricQuery.Engine
