import MetricQuery.Proofs.Engine.Settled

/-!
# Normal form — a query in the words of an engine has nothing left to reword

What has become of a query is in the words of the engine at every depth, in the arguments of the
calls that formulas are made of as well as in nested queries. So the query is reworded once and
for all, and so is its text, provided that texts are read back as what they were printed from.
-/

namespace MetricQuery.Engine

open MetricQuery.Sql

variable {e : Engine} {text : String} {q q' : Query}

theorem rewordText_of_ok (hread : Query.parse text = .ok q) (hreword : e.reword q = .ok q') :
    e.rewordText text = q'.render := by
  simp only [rewordText, hread, hreword]

/-- A text that is not reworded stays, and one that is becomes the text of the reworded query. -/
theorem rewordText_cases (e : Engine) (text : String) :
    e.rewordText text = text
      ∨ ∃ q q', Query.parse text = .ok q ∧ e.reword q = .ok q' ∧ e.rewordText text = q'.render := by
  cases hread : Query.parse text with
  | error err => exact .inl (by simp only [rewordText, hread])
  | ok q =>
    cases hreword : e.reword q with
    | error err => exact .inl (by simp only [rewordText, hread, hreword])
    | ok q' => exact .inr ⟨q, q', rfl, hreword, rewordText_of_ok hread hreword⟩

theorem worded_of_reword (hback : e.ReadsFormulasBack q.toTree) (h : e.reword q = .ok q') :
    e.Worded q'.toTree :=
  worded_of_rewords hback (reword_eq_ok.1 h)

theorem reword_of_worded (h : e.Worded q.toTree) : e.reword q = .ok q :=
  reword_eq_ok.2 h.settled

/-- The printed form of a query in the words of the engine stays as it is, if nothing else is read
from it than the query. -/
theorem rewordText_render (hworded : e.Worded q.toTree)
    (hprinted : ∀ again, Query.parse q.render = .ok again → again = q) :
    e.rewordText q.render = q.render := by
  rcases rewordText_cases e q.render with hsame | ⟨again, q', hread, hreword, htext⟩
  · exact hsame
  · obtain rfl := hprinted again hread
    rw [reword_of_worded hworded] at hreword
    rw [htext, ← Except.ok.inj hreword]

/-- A query that has been reworded has no date difference that the engine has a formula for, and no
call that the engine has another name for, in whatever it has become. So rewording it again changes
nothing, and rewording a text twice is rewording it once. -/
theorem rewordText_rewordText
    (hformulas : ∀ q, Query.parse text = .ok q → e.ReadsFormulasBack q.toTree)
    (hprinted : ∀ q q', Query.parse text = .ok q → e.reword q = .ok q' →
      ∀ again, Query.parse q'.render = .ok again → again = q') :
    (∀ q q', Query.parse text = .ok q → e.reword q = .ok q' →
        (∀ n ∈ q'.toTree.nodes, e.InWords n) ∧ e.reword q' = .ok q')
      ∧ e.rewordText (e.rewordText text) = e.rewordText text := by
  have hworded : ∀ q q', Query.parse text = .ok q → e.reword q = .ok q' → e.Worded q'.toTree :=
    fun q q' hread => worded_of_reword (hformulas q hread)
  refine ⟨fun q q' hread hreword => ?_, ?_⟩
  · have hq' := hworded q q' hread hreword
    exact ⟨hq', reword_of_worded hq'⟩
  · -- a text that is not reworded stays; the other one is printed from words that need no change
    rcases rewordText_cases e text with hsame | ⟨q, q', hread, hreword, htext⟩
    · rw [hsame, hsame]
    · rw [htext]
      exact rewordText_render (hworded q q' hread hreword) (hprinted q q' hread hreword)

/-- A date difference within a date difference, beside a name that the engine writes in capitals. -/
def nestedDatesText : String :=
  "select datediff('week', day(a), datediff('days', b, c)) from t"

theorem nestedDatesText_evaluated : ((Query.parse nestedDatesText).toOption.any fun q =>
    (mysql.reword q).toOption.any fun q' : Query => mysql.ReadsFormulasBack q.toTree
      ∧ (∀ again, Query.parse q'.render = .ok again → again.toTree = q'.toTree)
      ∧ q'.render = "SELECT FLOOR(DATEDIFF(DATEDIFF(c, b), DAY(a)) / 7) FROM t") = true := by
  decide +kernel

theorem rewordText_nestedDatesText : ∃ q q', Query.parse nestedDatesText = .ok q
    ∧ mysql.reword q = .ok q'
    ∧ q'.render = "SELECT FLOOR(DATEDIFF(DATEDIFF(c, b), DAY(a)) / 7) FROM t"
    ∧ (∀ n ∈ q'.toTree.nodes, mysql.InWords n) ∧ mysql.rewordText q'.render = q'.render := by
  obtain ⟨q, hread, heval⟩ := exists_ok_of_any nestedDatesText_evaluated
  obtain ⟨q', hreword, heval⟩ := exists_ok_of_any heval
  obtain ⟨hback, hprinted, hrender⟩ := of_decide_eq_true heval
  have hformulas : ∀ own, Query.parse nestedDatesText = .ok own →
      mysql.ReadsFormulasBack own.toTree := by
    intro own hown
    obtain rfl := Except.ok.inj (hread.symm.trans hown)
    exact hback
  obtain ⟨hnormal, htwice⟩ := rewordText_rewordText hformulas fun own own' hown hown' again
      hagain => by
    obtain rfl := Except.ok.inj (hread.symm.trans hown)
    obtain rfl := Except.ok.inj (hreword.symm.trans hown')
    exact Query.toTree_injective (hprinted again hagain)
  rw [rewordText_of_ok hread hreword] at htwice
  exact ⟨q, q', hread, hreword, hrender, (hnormal q q' hread hreword).1, htwice⟩

end MetricQuery.Engine
