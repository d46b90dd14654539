import MetricQuery.Text.Natural

/-!
# Arguments — what the words of a command line ask for

A command is a word, followed by one query (or none) and by options in any order. An option has a
long and a short name and takes a value: the next word, or the rest of its own word, behind an
equals sign if there is one. No option may be given twice. Behind `--` every word is a query.
-/

namespace MetricQuery.CommandLine

open MetricQuery.Text

/-- The form in which a compiled query is printed. -/
inductive OutputFormat where
  | sql | json
  deriving DecidableEq, Repr

/-- A command. -/
inductive Command where
  | compile (sql : String) (catalog : Option String) (model : Nat) (output : OutputFormat)
  | correct (sql : String) (engine : Option String) (limit : Option Nat)
  | models (catalog : Option String)
  deriving DecidableEq, Repr

/-- An option by its long name, with its short one. -/
structure OptionName where
  long : String
  short : Char
  deriving DecidableEq, Repr

/-- What the words of a command give: values by the long names of options, and the other words. -/
structure Given where
  values : List (String × String)
  words : List String
  deriving DecidableEq, Repr

namespace Given

/-- The value of an option. -/
def value? (g : Given) (long : String) : Option String :=
  (g.values.find? fun v => v.1 = long).map (·.2)

/-- The option with a value, unless it has one already. -/
def set? (g : Given) (long value : String) : Option Given :=
  if g.values.any fun v => v.1 = long then none
  else some { g with values := g.values ++ [(long, value)] }

end Given

/-- Whether a word can be a value or a query: it does not look like an option. -/
def isPlainWord (word : String) : Bool :=
  match word.toList with
  | '-' :: _ :: _ => false
  | _ => true

/-- An option that a word writes, and the value in the same word. -/
def option? (options : List OptionName) (word : String) :
    Option (OptionName × Option String) :=
  match word.toList with
  | '-' :: '-' :: rest =>
    let (name, value) := rest.span (· ≠ '=')
    (options.find? fun o => o.long = String.ofList name).map fun o =>
      (o, if value.isEmpty then none else some (String.ofList (value.drop 1)))
  | '-' :: short :: rest =>
    (options.find? fun o => o.short = short).map fun o =>
      (o, match rest with
        | [] => none
        | '=' :: value => some (String.ofList value)
        | value => some (String.ofList value))
  | _ => none

/-- What the words behind a command give; none if one of them has no place. -/
def gather? (options : List OptionName) : List String → Given → Option Given
  | [], g => some g
  | "--" :: rest, g => some { g with words := g.words ++ rest }
  | word :: rest, g =>
    if isPlainWord word then gather? options rest { g with words := g.words ++ [word] }
    else
      match option? options word with
      | none => none
      | some (o, some value) => (g.set? o.long value).bind (gather? options rest)
      | some (o, none) =>
        match rest with
        | value :: rest =>
          if isPlainWord value then (g.set? o.long value).bind (gather? options rest) else none
        | [] => none

/-- The value of an option that is a number. -/
def number? (g : Given) (long : String) : Option (Option Nat) :=
  match g.value? long with
  | none => some none
  | some value => (readWord? value).map some

/-- The value of an option that is a path. -/
def path? (g : Given) (long : String) : Option (Option String) :=
  match g.value? long with
  | none => some none
  | some value => if value.isEmpty then none else some (some value)

/-- The output format that a word names. -/
def outputFormat? : Option String → Option OutputFormat
  | none | some "sql" => some .sql
  | some "json" => some .json
  | some _ => none

def compileOptions : List OptionName :=
  [⟨"catalog", 'c'⟩, ⟨"model", 'm'⟩, ⟨"output", 'o'⟩]

def correctOptions : List OptionName :=
  [⟨"engine", 'e'⟩, ⟨"limit", 'l'⟩]

def modelsOptions : List OptionName :=
  [⟨"catalog", 'c'⟩]

/-- Whether words ask for the version of the program, whatever stands behind. -/
def asksForVersion : List String → Bool
  | word :: _ => word == "--version" || word.startsWith "-V"
  | [] => false

/-- The command that words ask for; none if they ask for nothing that there is. -/
def Command.ofWords? : List String → Option Command
  | "compile" :: rest => do
    let g ← gather? compileOptions rest ⟨[], []⟩
    let [sql] := g.words | none
    let some model ← number? g "model" | none
    return .compile sql (← path? g "catalog") model (← outputFormat? (g.value? "output"))
  | "correct" :: rest => do
    let g ← gather? correctOptions rest ⟨[], []⟩
    let [sql] := g.words | none
    return .correct sql (g.value? "engine") (← number? g "limit")
  | "models" :: rest => do
    let g ← gather? modelsOptions rest ⟨[], []⟩
    let [] := g.words | none
    return .models (← path? g "catalog")
  | _ => none

end MetricQuery.CommandLine
