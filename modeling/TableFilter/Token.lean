import TableFilter.Text.Case

/-!
# Tokens

The smallest parts of a filter text.

## Main definitions

* `Keyword`, `Symbol`: words and signs with a fixed spelling
* `Token`: a token, with its text where the text is not fixed
* `Keyword.ofName?`: the keyword a word stands for, in any case
* `Token.text`: the form in which a token is shown
-/

namespace TableFilter

open TableFilter.Text

/-- Words with a meaning of their own. -/
inductive Keyword where
  | filter | top | where_ | order | by_ | asc | desc | binary
  | and | or | not | in_ | is | null | like | true_ | false_ | xor
deriving DecidableEq, Repr

namespace Keyword

/-- All keywords. -/
def all : List Keyword :=
  [.filter, .top, .where_, .order, .by_, .asc, .desc, .binary, .and, .or, .not, .in_, .is, .null,
   .like, .true_, .false_, .xor]

/-- The spelling of a keyword, in upper case. -/
def text : Keyword → String
  | .filter => "FILTER"
  | .top => "TOP"
  | .where_ => "WHERE"
  | .order => "ORDER"
  | .by_ => "BY"
  | .asc => "ASC"
  | .desc => "DESC"
  | .binary => "BINARY"
  | .and => "AND"
  | .or => "OR"
  | .not => "NOT"
  | .in_ => "IN"
  | .is => "IS"
  | .null => "NULL"
  | .like => "LIKE"
  | .true_ => "TRUE"
  | .false_ => "FALSE"
  | .xor => "XOR"

/-- The keyword whose spelling is the upper form of a word. -/
def ofName? (word : List Char) : Option Keyword :=
  let word := upper word
  all.find? fun k => k.text.toList == word

end Keyword

/-- Signs for operators and for grouping. -/
inductive Symbol where
  | plus | minus | star | slash | percent
  | shiftLeft | shiftRight | ampersand | pipe | caret | tilde | bang
  | less | lessEqual | greater | greaterEqual | equal | exactEqual | notEqual | exactNotEqual
  | andAnd | orOr | leftParen | rightParen | comma | semicolon
deriving DecidableEq, Repr

/-- The form in which a sign is shown. -/
def Symbol.text : Symbol → String
  | .plus => "+"
  | .minus => "-"
  | .star => "*"
  | .slash => "/"
  | .percent => "%"
  | .shiftLeft => "<<"
  | .shiftRight => ">>"
  | .ampersand => "&"
  | .pipe => "|"
  | .caret => "^"
  | .tilde => "~"
  | .bang => "!"
  | .less => "<"
  | .lessEqual => "<="
  | .greater => ">"
  | .greaterEqual => ">="
  | .equal => "="
  | .exactEqual => "==="
  | .notEqual => "<>"
  | .exactNotEqual => "!=="
  | .andAnd => "&&"
  | .orOr => "||"
  | .leftParen => "("
  | .rightParen => ")"
  | .comma => ","
  | .semicolon => ";"

/-- A token. Where the text is not fixed it is kept, without delimiters. -/
inductive Token where
  | identifier (name : String)
  | integer (digits : String)
  | hex (digits : String)
  | real (text : String)
  | string (text : String)
  | dateTime (text : String)
  | guid (text : String)
  /-- A name and a number with a colon between them. -/
  | measurementKey (text : String)
  /-- A text between double quotes. -/
  | pointTag (text : String)
  | keyword (k : Keyword)
  | symbol (s : Symbol)
  /-- The end of the text. -/
  | eof
deriving DecidableEq, Repr

namespace Token

/-- Whether a token ends a statement. -/
def endsStatement : Token → Bool
  | .symbol .semicolon | .eof => true
  | _ => false

/-- The form in which a token is shown. -/
def text : Token → String
  | .identifier s | .integer s | .hex s | .real s | .measurementKey s => s
  | .string s => "'" ++ s ++ "'"
  | .dateTime s => "#" ++ s ++ "#"
  | .guid s => "\x7b" ++ s ++ "\x7d"
  | .pointTag s => "\"" ++ s ++ "\""
  | .keyword k => k.text
  | .symbol s => s.text
  | .eof => "end of input"

end Token

end TableFilter
