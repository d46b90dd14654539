import MetricQuery.Text.Hexadecimal
import MetricQuery.Text.Quoted

/-!
# Text styles — the ways to write a text in a query

A style fixes the marks around a text and how the characters between the marks are written. In most
styles they are written as they are; a text between single or double quotes doubles the quotes in
it, and the styles of `E'…'` and `U&'…'` have escapes of their own.
-/

namespace MetricQuery.Sql

open MetricQuery.Text

/-- A way to write a text. -/
inductive TextStyle where
  /-- Between single quotes. -/
  | single
  /-- Between double quotes, where only a value can stand. -/
  | double
  /-- In the national character set: `N'…'`. -/
  | national
  /-- Hexadecimal digits: `X'…'` or `0x…`. -/
  | hex
  /-- Bytes: `B'…'`, between single or double quotes. -/
  | bytes (mark : Char)
  /-- Without escapes: `R'…'`, between one mark or three. -/
  | raw (mark : Char) (triple : Bool)
  /-- With escapes behind backslashes: `E'…'`. -/
  | escaped
  /-- With code points behind backslashes: `U&'…'`. -/
  | unicode
  /-- Between two dollar signs and a tag in each: `$tag$…$tag$`. -/
  | dollar (tag : String)
  deriving DecidableEq

namespace TextStyle

/-- What stands in front of the text and what stands behind it. -/
def marks : TextStyle → String × String
  | single => ("'", "'")
  | double => ("\"", "\"")
  | national => ("N'", "'")
  | hex => ("X'", "'")
  | bytes mark => ("B" ++ mark.toString, mark.toString)
  | raw mark triple =>
    let around := String.ofList (List.replicate (if triple then 3 else 1) mark)
    ("R" ++ around, around)
  | escaped => ("E'", "'")
  | unicode => ("U&'", "'")
  | dollar tag => ("$" ++ tag ++ "$", "$" ++ tag ++ "$")

/-- The text between the marks of the style, as it stands. -/
def enclose (style : TextStyle) (s : String) : String :=
  style.marks.1 ++ s ++ style.marks.2

end TextStyle

/-- A character behind a backslash if it has to be, as in `E'…'`. -/
def backslashed (c : Char) : List Char :=
  match c with
  | '\'' => ['\\', '\'']
  | '\\' => ['\\', '\\']
  | '\n' => ['\\', 'n']
  | '\t' => ['\\', 't']
  | '\r' => ['\\', 'r']
  | c => [c]

/-- A character by its code point if it is not in ASCII, as in `U&'…'`. -/
def codePointed (c : Char) : List Char :=
  let digits (count : Nat) := (hexDigits count c.toNat).map Char.toUpper
  if c = '\'' || c = '\\' then [c, c]
  else if c.toNat < 0x80 then [c]
  else if c.toNat ≤ 0xFFFF then '\\' :: digits 4
  else '\\' :: '+' :: digits 6

namespace TextStyle

/-- The text as it is written in the style. -/
def write (style : TextStyle) (s : String) : String :=
  match style with
  | single => quoted '\'' s
  | double => quoted '"' s
  | escaped => escaped.enclose (String.ofList (s.toList.flatMap backslashed))
  | unicode => unicode.enclose (String.ofList (s.toList.flatMap codePointed))
  | style => style.enclose s

end TextStyle

example : TextStyle.write .escaped "it's" = "E'it\\'s'" := by decide
example : TextStyle.write (.raw '"' true) "x" = "R\"\"\"x\"\"\"" := by decide
example : TextStyle.write .unicode "aé" = "U&'a\\00E9'" := by decide

end MetricQuery.Sql
