import MetricQuery.Sql.TextStyle
import MetricQuery.Text.LetterCase

/-!
# Tokens — the words, literals and symbols of a query text

A word keeps its spelling, its quote mark if it has one, and the keyword that it spells. Any word
may be a name: which keywords end a construct is decided where the construct is read.
-/

namespace MetricQuery.Sql

/-- An operator or a punctuation mark. -/
inductive Symbol where
  | comma | period | semicolon | colon | doubleColon | assign | backslash
  | leftParen | rightParen | leftBracket | rightBracket | leftBrace | rightBrace
  | equal | doubleEqual | notEqual | less | lessEqual | greater | greaterEqual | nullSafeEqual
  | plus | minus | star | slash | doubleSlash | percent | concat
  | pipe | ampersand | doubleAmpersand | caret | caretAt | shiftLeft | shiftRight
  | tilde | tildeStar | notTilde | notTildeStar
  | doubleTilde | doubleTildeStar | notDoubleTilde | notDoubleTildeStar
  | bang | doubleBang | squareRoot | cubeRoot
  | arrow | longArrow | fatArrow | containedBy
  | sharp | sharpMinus | sharpArrow | longSharpArrow
  | atSign | doubleAtSign | atArrow | atQuestion
  deriving DecidableEq

/-- A name as it may stand in a query: bare, or between quote marks. -/
structure Word where
  /-- The characters of the name, with doubled quote marks undone. -/
  text : String
  /-- The mark around a quoted name. -/
  quote : Option Char
  /-- The upper-case form of a bare word, by which keywords are recognised; empty when quoted. -/
  keyword : String
  deriving DecidableEq

/-- A bare word. -/
def Word.bare (text : String) : Word :=
  ⟨text, none, Text.upper text⟩

/-- A quoted name, which spells no keyword. -/
def Word.quoted (mark : Char) (text : String) : Word :=
  ⟨text, some mark, ""⟩

/-- A token of a query text. -/
inductive Token where
  | word (w : Word)
  /-- A number as it is spelled; `long` tells of a suffix `L`. -/
  | number (text : String) (long : Bool)
  /-- A text in any of the styles, with its escapes undone. -/
  | text (style : TextStyle) (s : String)
  /-- A placeholder for a value to come, such as `?1` or `$1`. -/
  | placeholder (s : String)
  | symbol (s : Symbol)
  /-- A character that no construct begins or goes on with. -/
  | stray (c : Char)
  deriving DecidableEq

/-- How the symbols are spelled, longer spellings before the ones they begin with. -/
def symbolSpellings : List (String × Symbol) :=
  [("!~~*", .notDoubleTildeStar),
   ("!~~", .notDoubleTilde), ("!~*", .notTildeStar), ("~~*", .doubleTildeStar),
   ("<=>", .nullSafeEqual), ("->>", .longArrow), ("||/", .cubeRoot), ("#>>", .longSharpArrow),
   ("!~", .notTilde), ("~~", .doubleTilde), ("~*", .tildeStar), ("!!", .doubleBang),
   ("<=", .lessEqual), (">=", .greaterEqual), ("<>", .notEqual), ("!=", .notEqual),
   ("==", .doubleEqual), ("=>", .fatArrow), ("->", .arrow), ("<@", .containedBy),
   ("<<", .shiftLeft), (">>", .shiftRight), ("||", .concat), ("|/", .squareRoot),
   ("//", .doubleSlash), ("::", .doubleColon), (":=", .assign), ("&&", .doubleAmpersand),
   ("^@", .caretAt), ("#-", .sharpMinus), ("#>", .sharpArrow), ("@>", .atArrow),
   ("@?", .atQuestion), ("@@", .doubleAtSign),
   (",", .comma), (".", .period), (";", .semicolon), (":", .colon), ("\\", .backslash),
   ("(", .leftParen), (")", .rightParen), ("[", .leftBracket), ("]", .rightBracket),
   ("\x7b", .leftBrace), ("\x7d", .rightBrace),
   ("=", .equal), ("<", .less), (">", .greater), ("~", .tilde), ("!", .bang),
   ("+", .plus), ("-", .minus), ("*", .star), ("/", .slash), ("%", .percent),
   ("|", .pipe), ("&", .ampersand), ("^", .caret), ("#", .sharp), ("@", .atSign)]

/-- The spelling of a symbol. -/
def Symbol.spelling (s : Symbol) : String :=
  ((symbolSpellings.find? (·.2 == s)).map (·.1)).getD ""

/-- A word as it stands in the text, with single quote marks around a quoted one. -/
def Word.spelling (w : Word) : String :=
  match w.quote with
  | none => w.text
  | some mark => mark.toString ++ w.text ++ mark.toString

/-- A token by itself. A text stands between its marks with its escapes undone. -/
def Token.spelling : Token → String
  | .word w => w.spelling
  | .number digits long => digits ++ (if long then "L" else "")
  | .text style s => style.enclose s
  | .placeholder s => s
  | .symbol s => s.spelling
  | .stray c => c.toString

end MetricQuery.Sql
