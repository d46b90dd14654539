/-!
# Quoted text — writing a text between two quote marks

Inside the marks a quote is written twice, so that it does not end the text. Two quotes in a row
are taken as already doubled, and a quote behind a backslash as already escaped; both are written
as they stand.
-/

namespace MetricQuery.Text

/-- The characters between the marks. `escaped` tells that the last character other than an escaped
quote was a backslash. -/
def escapeQuotes (mark : Char) (escaped : Bool) : List Char → List Char
  | [] => []
  | [c] =>
    if c = mark then (if escaped then [c] else [c, c]) else [c]
  | c :: d :: rest =>
    if c = mark then
      if escaped then c :: escapeQuotes mark true (d :: rest)
      else if d = mark then c :: c :: escapeQuotes mark false rest
      else c :: c :: escapeQuotes mark false (d :: rest)
    else c :: escapeQuotes mark (c == '\\') (d :: rest)

/-- The text between two quote marks. -/
def quoted (mark : Char) (s : String) : String :=
  String.ofList (mark :: escapeQuotes mark false s.toList ++ [mark])

example : quoted '\'' "it's" = "'it''s'" := by decide

end MetricQuery.Text
