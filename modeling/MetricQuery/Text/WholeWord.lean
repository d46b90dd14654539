import MetricQuery.Text.CharClass

/-!
# Whole words — finding a name in running text

A name occurs in a text when its characters stand there in any letter case and neither neighbour
continues the word. Letter case is folded one character at a time; among the letters of an ASCII
name only `k` and `s` have partners outside ASCII, the Kelvin sign and the long s.
-/

namespace MetricQuery.Text

/-- The representative of a character among those that differ from it in letter case, for the
characters that an ASCII name can meet. -/
def foldChar (c : Char) : Char :=
  if c = '\u212a' then 'k' else if c = '\u017f' then 's' else c.toLower

/-- What follows the name at the front of the text, if it stands there in some letter case. -/
def afterName? : List Char → List Char → Option (List Char)
  | [], rest => some rest
  | _ :: _, [] => none
  | n :: name, c :: rest => if foldChar n == foldChar c then afterName? name rest else none

/-- Whether a word may end here: the text is over or goes on with no word character. -/
def endsWord : List Char → Bool
  | [] => true
  | c :: _ => !isWordChar c

/-- Whether the name stands as a whole word somewhere in the text. `inWord` tells whether the
character just passed is a word character. -/
def hasWordFrom (name : List Char) (inWord : Bool) : List Char → Bool
  | [] => false
  | c :: rest =>
    (!inWord && ((afterName? name (c :: rest)).map endsWord).getD false)
      || hasWordFrom name (isWordChar c) rest

/-- Whether a name that begins and ends with a word character stands as a whole word in the
text, in any letter case. -/
def hasWord (name text : String) : Bool :=
  hasWordFrom name.toList false text.toList

example : hasWord "week" "Group BY `WEEK`" = true := by decide
example : hasWord "week" "weekly" = false := by decide
example : hasWord "sys_week" "\u017fYS_wee\u212a = 1" = true := by decide

end MetricQuery.Text
