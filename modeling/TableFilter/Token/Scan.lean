import TableFilter.Error
import TableFilter.Guid
import TableFilter.Text.CharClass

/-!
# From text to tokens

Blanks and comments separate tokens. A comment starts with two hyphens and ends with its line. The
token at a place is the longest sign, number, name or delimited text there.

## Main definitions

* `skipIgnored`: a text from its first character that is no blank and in no comment
* `scanSymbol?`, `scanNumber`, `scanWord`, `scanDelimited`, `scanString`: tokens by their first
  character
* `Scanner`, `Scanner.next`: one token after the other, errors included
* `Token.listOfText`: all tokens of a text
-/

namespace TableFilter

open TableFilter.Text

/-! ### Between tokens -/

/-- A text from its first character that is no blank and in no comment. -/
def skipIgnored (inComment : Bool) : List Char → List Char
  | [] => []
  | c :: cs =>
    if inComment then skipIgnored (c != '\n') cs
    else if isBlank c then skipIgnored false cs
    else if c == '-' && cs.head? == some '-' then skipIgnored true cs
    else c :: cs

/-! ### Signs -/

/-- The longest sign at the start of a text. -/
def scanSymbol? : List Char → Option (Symbol × List Char)
  | '=' :: '=' :: '=' :: cs => some (.exactEqual, cs)
  | '=' :: '=' :: cs => some (.equal, cs)
  | '=' :: cs => some (.equal, cs)
  | '!' :: '=' :: '=' :: cs => some (.exactNotEqual, cs)
  | '!' :: '=' :: cs => some (.notEqual, cs)
  | '!' :: cs => some (.bang, cs)
  | '<' :: '=' :: cs => some (.lessEqual, cs)
  | '<' :: '>' :: cs => some (.notEqual, cs)
  | '<' :: '<' :: cs => some (.shiftLeft, cs)
  | '<' :: cs => some (.less, cs)
  | '>' :: '=' :: cs => some (.greaterEqual, cs)
  | '>' :: '>' :: cs => some (.shiftRight, cs)
  | '>' :: cs => some (.greater, cs)
  | '&' :: '&' :: cs => some (.andAnd, cs)
  | '&' :: cs => some (.ampersand, cs)
  | '|' :: '|' :: cs => some (.orOr, cs)
  | '|' :: cs => some (.pipe, cs)
  | '+' :: cs => some (.plus, cs)
  | '-' :: cs => some (.minus, cs)
  | '*' :: cs => some (.star, cs)
  | '/' :: cs => some (.slash, cs)
  | '%' :: cs => some (.percent, cs)
  | '^' :: cs => some (.caret, cs)
  | '~' :: cs => some (.tilde, cs)
  | '(' :: cs => some (.leftParen, cs)
  | ')' :: cs => some (.rightParen, cs)
  | ',' :: cs => some (.comma, cs)
  | ';' :: cs => some (.semicolon, cs)
  | _ => none

/-! ### Names, keywords and measurement keys -/

/-- Whether a character can stand in a name. -/
def isWordChar (c : Char) : Bool := isLetterOrNumeral c || c == '_'

/-- Whether a name can start with a character. -/
def startsWord (c : Char) : Bool := isLetter c || c == '_'

/-- A name, a keyword, or a name and a number with a colon between them. -/
def scanWord (cs : List Char) : Token × List Char :=
  let word := cs.takeWhile isWordChar
  let rest := cs.dropWhile isWordChar
  match rest with
  | ':' :: more =>
    let digits := more.takeWhile isDigit
    if digits.isEmpty then
      (match Keyword.ofName? word with
        | some k => .keyword k
        | none => .identifier (String.ofList word), rest)
    else (.measurementKey (String.ofList (word ++ ':' :: digits)), more.dropWhile isDigit)
  | _ =>
    (match Keyword.ofName? word with
      | some k => .keyword k
      | none => .identifier (String.ofList word), rest)

/-! ### Numbers -/

/-- A fraction at the start of a text: a point and at least one digit. -/
def scanFraction (cs : List Char) : List Char × List Char :=
  match cs with
  | '.' :: more =>
    let digits := more.takeWhile isDigit
    if digits.isEmpty then ([], cs) else ('.' :: digits, more.dropWhile isDigit)
  | _ => ([], cs)

/-- An exponent at the start of a text: its mark, an optional sign and at least one digit. The mark
is given in lower case. -/
def scanExponent (cs : List Char) : List Char × List Char :=
  match cs with
  | mark :: more =>
    if mark == 'e' || mark == 'E' then
      let sign := match more with
        | '+' :: _ => ['+']
        | '-' :: _ => ['-']
        | _ => []
      let unsigned := more.drop sign.length
      let digits := unsigned.takeWhile isDigit
      if digits.isEmpty then ([], cs)
      else ('e' :: (sign ++ digits), unsigned.dropWhile isDigit)
    else ([], cs)
  | [] => ([], cs)

/-- The digits of a number of base sixteen after its mark. -/
def scanHex? : List Char → Option (List Char × List Char)
  | '0' :: mark :: more =>
    let digits := more.takeWhile isHexDigit
    if (mark == 'x' || mark == 'X') && !digits.isEmpty then
      some (digits, more.dropWhile isHexDigit)
    else none
  | _ => none

/-- A number: of base sixteen, integral, or with a fraction or an exponent. -/
def scanNumber (cs : List Char) : Token × List Char :=
  match scanHex? cs with
  | some (digits, rest) => (.hex (String.ofList digits), rest)
  | none =>
    let whole := cs.takeWhile isDigit
    let (fraction, rest) := scanFraction (cs.dropWhile isDigit)
    let (exponent, rest) := scanExponent rest
    if fraction.isEmpty && exponent.isEmpty then (.integer (String.ofList whole), rest)
    else (.real (String.ofList (whole ++ fraction ++ exponent)), rest)

/-! ### Delimited text -/

/-- The text up to a delimiter, and what comes after it. -/
def takeUntil? (delimiter : Char) : List Char → Option (List Char × List Char)
  | [] => none
  | c :: cs =>
    if c == delimiter then some ([], cs)
    else (takeUntil? delimiter cs).map fun (text, rest) => (c :: text, rest)

/-- The text up to a single quote, and what comes after it. Two quotes stand for one that belongs to
the text. -/
def takeQuoted? : List Char → Option (List Char × List Char)
  | [] => none
  | '\'' :: '\'' :: cs => (takeQuoted? cs).map fun (text, rest) => ('\'' :: text, rest)
  | c :: cs =>
    if c == '\'' then some ([], cs)
    else (takeQuoted? cs).map fun (text, rest) => (c :: text, rest)

/-- The token for a text in single quotes. A text that stands for an identifier is one. -/
def stringToken (text : List Char) : Token :=
  if (Guid.ofText? text).isSome then .guid (String.ofList text) else .string (String.ofList text)

/-- Whether an identifier without braces stands at the start of a text. -/
def startsWithGuid (cs : List Char) : Bool :=
  Guid.isHyphenated (cs.take Guid.textLength) && !(cs.drop Guid.textLength).head?.any isWordChar

/-! ### One token -/

/-- A delimited text as a token. Without its delimiter all of the text is used up. -/
def scanDelimited (part : Delimited) (position : Nat)
    (taken : Option (List Char × List Char)) (token : List Char → Token) :
    Result Token × List Char :=
  match taken with
  | some (text, rest) => (.ok (token text), rest)
  | none => (.error (.malformed (.unterminated part position)), [])

/-- The token that starts with the character `c` at a position, and the text after it. A character
that starts no token is not passed over. -/
def scanToken (position : Nat) (c : Char) (cs : List Char) : Result Token × List Char :=
  if isHexDigit c && startsWithGuid (c :: cs) then
    (.ok (.guid (String.ofList ((c :: cs).take Guid.textLength))),
      (c :: cs).drop Guid.textLength)
  else
    match scanSymbol? (c :: cs) with
    | some (s, rest) => (.ok (.symbol s), rest)
    | none =>
      if c == '\'' then scanDelimited .string position (takeQuoted? cs) stringToken
      else if c == '"' then
        scanDelimited .pointTag position (takeUntil? '"' cs) fun t => .pointTag (String.ofList t)
      else if c == '#' then
        scanDelimited .dateTime position (takeUntil? '#' cs) fun t => .dateTime (String.ofList t)
      else if c == '{' then
        scanDelimited .guid position (takeUntil? '}' cs) fun t => .guid (String.ofList t)
      else if isDigit c || (c == '.' && cs.head?.any isDigit) then
        let (token, rest) := scanNumber (c :: cs)
        (.ok token, rest)
      else if startsWord c then
        let (token, rest) := scanWord (c :: cs)
        (.ok token, rest)
      else (.error (.malformed (.unexpectedCharacter c position)), c :: cs)

/-! ### All tokens -/

/-- A place in a text: how long the text is, and what is left of it. -/
structure Scanner where
  length : Nat
  rest : List Char

namespace Scanner

/-- The start of a text. -/
def ofText (text : String) : Scanner := ⟨text.toList.length, text.toList⟩

/-- The next token and the place after it. -/
def next (s : Scanner) : Result Token × Scanner :=
  match skipIgnored false s.rest with
  | [] => (.ok .eof, { s with rest := [] })
  | c :: cs =>
    let (token, rest) := scanToken (s.length - (cs.length + 1)) c cs
    (token, { s with rest })

/-- The tokens from a place on, the end included, or the first error. -/
def tokens (fuel : Nat) (s : Scanner) : Result (List Token) :=
  match fuel with
  | 0 => .ok [.eof]
  | fuel + 1 =>
    match s.next with
    | (.error e, _) => .error e
    | (.ok .eof, _) => .ok [.eof]
    | (.ok token, s) => do .ok (token :: (← tokens fuel s))

end Scanner

/-- All tokens of a text, the end included. -/
def Token.listOfText (text : String) : Result (List Token) :=
  (Scanner.ofText text).tokens (text.toList.length + 1)

end TableFilter
