import MetricQuery.Sql.Statement

/-!
# Drafts — the text of a query while it is being corrected

A draft is a text and, once a stage has asked for it, the query that was read from it. A stage that
edits the query has it written out again by `commit`; one that edits the text makes the draft
forget the query.
-/

namespace MetricQuery.Correction

open MetricQuery.Sql

/-- A text under correction, and the query that stands for it, if it has been read. -/
structure Draft where
  text : String
  query : Option Query

namespace Draft

/-- A draft of which nothing has been read. -/
def ofText (text : String) : Draft :=
  ⟨text, none⟩

/-- The query of the draft, which is read from the text if need be. -/
def read (d : Draft) : Except ParseError Query :=
  match d.query with
  | some q => .ok q
  | none => Query.parse d.text

/-- The draft with a query that is not written out yet. -/
def withQuery (d : Draft) (q : Query) : Draft :=
  { d with query := some q }

/-- The draft with its query written out. -/
def commit (d : Draft) : Draft :=
  match d.query with
  | some q => { d with text := q.render }
  | none => d

/-- Whether writing the query out changes the text. -/
def isDirty (d : Draft) : Bool :=
  d.commit.text != d.text

end Draft

end MetricQuery.Correction
