import TableFilter.Number.Power
import TableFilter.Pattern.Regex

/-!
# Reading regular expressions

A pattern is read from left to right in one pass. Options switched on inside a group hold up to the
end of the group.

## Main definitions

* `Options`: what can be switched inside a pattern
* `readClass?`: sets in brackets
* `readEscape?`: what stands for a backslash and what follows it
* `Regex.ofText?`: the expression that a pattern stands for
* `Engine`: the texts that are too large to be looked for up to case
-/

namespace TableFilter.Pattern

open TableFilter.Number TableFilter.Text

/-- What can be switched on and off inside a pattern. -/
structure Options where
  ignoreCase : Bool := false
  multiLine : Bool := false
  dotMatchesNewline : Bool := false
  /-- Repetitions are greedy only with a question mark. -/
  swapGreed : Bool := false
  unicode : Bool := true
  /-- Blanks and comments do not count. -/
  verbose : Bool := false
  crlf : Bool := false
deriving DecidableEq, Repr

namespace Options

/-- Switches the option with a letter. -/
def set? (o : Options) (letter : Char) (value : Bool) : Option Options :=
  match letter with
  | 'i' => some { o with ignoreCase := value }
  | 'm' => some { o with multiLine := value }
  | 's' => some { o with dotMatchesNewline := value }
  | 'U' => some { o with swapGreed := value }
  | 'u' => some { o with unicode := value }
  | 'x' => some { o with verbose := value }
  | 'R' => some { o with crlf := value }
  | _ => none

/-- The kind of words that boundaries look for. -/
def wordKind (o : Options) : WordKind := if o.unicode then .unicode else .ascii

/-- A set with the characters that are equal up to case, if case is ignored. -/
def fold (o : Options) (s : CharSet) : CharSet :=
  if !o.ignoreCase then s else if o.unicode then .folded s else .asciiFolded s

/-- A set as an expression. Where characters beyond ASCII have no meaning it may not hold any. -/
def regexOfSet? (o : Options) (s : CharSet) : Option Regex :=
  if !o.unicode && s.leavesAscii then none else some (.set s)

/-- The class of a letter, `none` for other letters. -/
def letterClass? (o : Options) (letter : Char) : Option CharSet :=
  match letter with
  | 'd' => some (if o.unicode then .digit else .asciiDigit)
  | 's' => some (if o.unicode then .space else .asciiSpace)
  | 'w' => some (if o.unicode then .word else .asciiWord)
  | 'D' => some (.compl (if o.unicode then .digit else .asciiDigit))
  | 'S' => some (.compl (if o.unicode then .space else .asciiSpace))
  | 'W' => some (.compl (if o.unicode then .word else .asciiWord))
  | _ => none

end Options

/-! ### Blanks and comments -/

/-- A text without the blanks and comments at its start. -/
def dropIgnored (inComment : Bool) : List Char → List Char
  | [] => []
  | c :: cs =>
    if inComment then dropIgnored (c != '\n') cs
    else if isBlank c then dropIgnored false cs
    else if c == '#' then dropIgnored true cs
    else c :: cs

/-- A text without what does not count at its start. -/
def Options.skip (o : Options) (cs : List Char) : List Char :=
  if o.verbose then dropIgnored false cs else cs

/-! ### Escapes -/

/-- What an escape stands for: a character, written out or as a byte, a set, or a condition. -/
inductive Escape where
  | char (c : Char)
  | byte (c : Char)
  | set (s : CharSet)
  | look (l : Look)

/-- Whether a character may follow a backslash and then stands for itself. -/
def isEscapable (c : Char) : Bool :=
  c.toNat < 128 && !isDigit c && !isAsciiLetter c && c != '<' && c != '>'

/-- The character with a code given in base sixteen. -/
def charOfHex? (digits : List Char) : Option Char :=
  let n := natOfHex digits
  if digits.isEmpty || !digits.all isHexDigit then none
  else if h : n.isValidChar then some (Char.ofNatAux n h)
  else none

/-- As many digits as are wanted, with what does not count between them left out. -/
def takeHex? (o : Options) (wanted : Nat) (taken : List Char) (cs : List Char) :
    Option (List Char × List Char) :=
  match wanted with
  | 0 => some (taken.reverse, cs)
  | wanted + 1 =>
    match cs with
    | c :: rest =>
      if isHexDigit c then takeHex? o wanted (c :: taken) (o.skip rest) else none
    | [] => none

/-- Characters up to a closing brace, with what does not count left out. -/
def takeBraced? (o : Options) (fuel : Nat) (taken : List Char) (cs : List Char) :
    Option (List Char × List Char) :=
  match fuel with
  | 0 => none
  | fuel + 1 =>
    match o.skip cs with
    | '}' :: rest => some (taken.reverse, rest)
    | c :: rest => takeBraced? o fuel (c :: taken) rest
    | [] => none

/-- The character of a code after `x`, `u` or `U`, which take two, four and eight digits, or any
number of them in braces. -/
def readHex? (o : Options) (letter : Char) (cs : List Char) : Option (Escape × List Char) :=
  match o.skip cs with
  | '{' :: rest => do
    let (digits, rest) ← takeBraced? o (rest.length + 1) [] rest
    let c ← charOfHex? digits
    some (.char c, rest)
  | cs => do
    let wanted := if letter == 'x' then 2 else if letter == 'u' then 4 else 8
    let (digits, rest) ← takeHex? o wanted [] cs
    let c ← charOfHex? digits
    some (if letter == 'x' then .byte c else .char c, rest)

/-- The parts of a text before and after the first occurrence of a mark. -/
def cutAt? (mark : List Char) : List Char → Option (List Char × List Char)
  | [] => none
  | c :: cs =>
    if mark.isPrefixOf (c :: cs) then some ([], (c :: cs).drop mark.length)
    else (cutAt? mark cs).map fun p => (c :: p.1, p.2)

/-- The set of a property, by name or by name and value, and whether it is taken the other way
round. -/
def propertySet? (name : List Char) : Option (Bool × CharSet) :=
  match cutAt? ['!', '='] name with
  | some (property, value) => (CharSet.ofPropertyValue? property value).map (true, ·)
  | none =>
    match cutAt? [':'] name <|> cutAt? ['='] name with
    | some (property, value) => (CharSet.ofPropertyValue? property value).map (false, ·)
    | none => (CharSet.ofPropertyName? name).map (false, ·)

/-- The set of a property after `p`, or its complement after `P`. -/
def readProperty? (o : Options) (negated : Bool) (cs : List Char) :
    Option (Escape × List Char) := do
  let (name, rest) ←
    match o.skip cs with
    | '{' :: rest => takeBraced? o (rest.length + 1) [] rest
    | '\\' :: _ | [] => none
    | c :: rest => some ([c], o.skip rest)
  let (opposite, s) ← propertySet? name
  if o.unicode then some (.set (.complementIf (negated != opposite) (o.fold s)), rest) else none

/-- The special boundary named in braces after `b`. `none` leaves the brace to a repetition. -/
def specialBoundary? (o : Options) (cs : List Char) : Option (Option (Look × List Char)) :=
  let isNameChar (c : Char) : Bool := isAsciiLetter c || c == '-'
  match cs with
  | '{' :: rest =>
    match o.skip rest with
    | [] => none
    | c :: _ =>
      if !isNameChar c then some none
      else do
        let (name, rest) ← takeBraced? o (rest.length + 1) [] rest
        let look ←
          match String.ofList name with
          | "start" => some (Look.wordStart o.wordKind)
          | "end" => some (Look.wordEnd o.wordKind)
          | "start-half" => some (Look.wordStartHalf o.wordKind)
          | "end-half" => some (Look.wordEndHalf o.wordKind)
          | _ => none
        some (some (look, rest))
  | _ => some none

/-- What a backslash and the characters after it stand for. -/
def readEscape? (o : Options) (cs : List Char) : Option (Escape × List Char) :=
  match cs with
  | [] => none
  | c :: rest =>
    if c == 'x' || c == 'u' || c == 'U' then readHex? o c rest
    else if c == 'p' || c == 'P' then readProperty? o (c == 'P') rest
    else
      match o.letterClass? c with
      | some s => some (.set s, rest)
      | none =>
        if isEscapable c then some (.char c, rest)
        else
          match c with
          | 'a' => some (.char (Char.ofNat 7), rest)
          | 'f' => some (.char (Char.ofNat 12), rest)
          | 't' => some (.char '\t', rest)
          | 'n' => some (.char '\n', rest)
          | 'r' => some (.char '\r', rest)
          | 'v' => some (.char (Char.ofNat 11), rest)
          | 'A' => some (.look .textStart, rest)
          | 'z' => some (.look .textEnd, rest)
          | 'b' =>
            match specialBoundary? o rest with
            | some (some (look, rest)) => some (.look look, rest)
            | some none => some (.look (.wordBoundary false o.wordKind), rest)
            | none => none
          | 'B' => some (.look (.wordBoundary true o.wordKind), rest)
          | '<' => some (.look (.wordStart o.wordKind), rest)
          | '>' => some (.look (.wordEnd o.wordKind), rest)
          | _ => none

/-! ### Sets in brackets -/

/-- A member of a set in brackets. -/
inductive ClassItem where
  | char (c : Char)
  | set (s : CharSet)

/-- A member at the start of a text, not yet looking for a range. -/
def readClassItem? (o : Options) (cs : List Char) : Option (ClassItem × List Char) :=
  match cs with
  | '\\' :: rest => do
    match ← readEscape? o rest with
    | (.char c, rest) => if o.unicode || c.toNat < 128 then some (.char c, rest) else none
    | (.byte c, rest) => some (.char c, rest)
    | (.set s, rest) => some (.set s, rest)
    | (.look _, _) => none
  | c :: rest => if o.unicode || c.toNat < 128 then some (.char c, rest) else none
  | [] => none

/-- The set of one member. -/
def ClassItem.toSet : ClassItem → CharSet
  | .char c => .single c
  | .set s => s

/-- A member or a range of characters. A hyphen before a closing bracket or before another hyphen
makes no range. -/
def readClassRange? (o : Options) (cs : List Char) : Option (CharSet × List Char) := do
  let (item, rest) ← readClassItem? o cs
  match o.skip rest with
  | [] => none
  | '-' :: more =>
    match o.skip more with
    | ']' :: _ | '-' :: _ => some (item.toSet, '-' :: more)
    | [] => none
    | more => do
      let (last, rest) ← readClassItem? o more
      match item, last with
      | .char a, .char b =>
        if a.toNat ≤ b.toNat then some (.ranges [(a.toNat, b.toNat)], rest) else none
      | _, _ => none
  | rest => some (item.toSet, rest)

/-- A named ASCII class such as `[:alpha:]`, given what follows the bracket. -/
def asciiClass? (cs : List Char) : Option ((Bool × CharSet) × List Char) :=
  match cs with
  | ':' :: rest =>
    let (negated, rest) := match rest with
      | '^' :: more => (true, more)
      | more => (false, more)
    match cutAt? [':', ']'] rest with
    | some (name, rest) =>
      (CharSet.asciiClasses.lookup (String.ofList name)).map fun rs =>
        ((negated, .ranges rs), rest)
    | none => none
  | _ => none

/-- Operations between sets in brackets. -/
inductive SetOperator where
  | inter
  | diff
  | symmDiff

/-- A set in brackets that is being read: its sign, what stands left of the last operator, and the
members since then. -/
structure OpenClass where
  negated : Bool
  left : Option (CharSet × SetOperator)
  members : CharSet

/-- What stands between the brackets up to now as one set. Operands of an operator take in what is
equal up to case first. -/
def OpenClass.total (o : Options) (c : OpenClass) : CharSet :=
  match c.left with
  | none => c.members
  | some (left, op) =>
    match op with
    | .inter => .inter (o.fold left) (o.fold c.members)
    | .diff => .diff (o.fold left) (o.fold c.members)
    | .symmDiff => .symmDiff (o.fold left) (o.fold c.members)

/-- A set that ends here. -/
def OpenClass.close (o : Options) (c : OpenClass) : CharSet :=
  .complementIf c.negated (o.fold (c.total o))

/-- An open set with one member more. -/
def OpenClass.add (c : OpenClass) (s : CharSet) : OpenClass :=
  { c with members := .union c.members s }

/-- An open set after an operator. -/
def OpenClass.operator (o : Options) (c : OpenClass) (op : SetOperator) : OpenClass :=
  { c with left := some (c.total o, op), members := .none }

/-- Leading hyphens of a set stand for themselves. -/
def leadingHyphens (o : Options) (fuel : Nat) (c : OpenClass) (any : Bool) (cs : List Char) :
    OpenClass × Bool × List Char :=
  match fuel, cs with
  | fuel + 1, '-' :: rest => leadingHyphens o fuel (c.add (.single '-')) true (o.skip rest)
  | _, _ => (c, any, cs)

/-- Opens a set, given what follows its bracket. A bracket that comes first stands for itself. -/
def openClass (o : Options) (cs : List Char) : OpenClass × List Char :=
  let (negated, cs) := match o.skip cs with
    | '^' :: rest => (true, o.skip rest)
    | cs => (false, cs)
  let (c, any, cs) := leadingHyphens o cs.length ⟨negated, none, .none⟩ false cs
  match any, cs with
  | false, ']' :: rest => (c.add (.single ']'), o.skip rest)
  | _, cs => (c, cs)

/-- Reads up to the bracket that closes the outermost of the open sets. -/
def readClassBody? (o : Options) (fuel : Nat) (c : OpenClass) (outer : List OpenClass)
    (cs : List Char) : Option (CharSet × List Char) :=
  match fuel with
  | 0 => none
  | fuel + 1 =>
    match o.skip cs with
    | [] => none
    | '[' :: rest =>
      match asciiClass? rest with
      | some ((negated, s), rest) =>
        readClassBody? o fuel (c.add (.complementIf negated (o.fold s))) outer rest
      | none =>
        let (inner, rest) := openClass o rest
        readClassBody? o fuel inner (c :: outer) rest
    | ']' :: rest =>
      match outer with
      | [] => some (c.close o, rest)
      | next :: outer => readClassBody? o fuel (next.add (c.close o)) outer rest
    | '&' :: '&' :: rest => readClassBody? o fuel (c.operator o .inter) outer rest
    | '-' :: '-' :: rest => readClassBody? o fuel (c.operator o .diff) outer rest
    | '~' :: '~' :: rest => readClassBody? o fuel (c.operator o .symmDiff) outer rest
    | cs => do
      let (s, rest) ← readClassRange? o cs
      readClassBody? o fuel (c.add s) outer rest

/-- A set in brackets, given what follows the first bracket. -/
def readClass? (o : Options) (cs : List Char) : Option (Regex × List Char) := do
  let (c, rest) := openClass o cs
  let (s, rest) ← readClassBody? o (cs.length + 1) c [] rest
  let r ← o.regexOfSet? s
  some (r, rest)

/-! ### Single characters and conditions -/

/-- A character as an expression. -/
def Options.regexOfChar (o : Options) (c : Char) : Regex := .set (o.fold (.single c))

/-- The expression that an escape stands for. -/
def Escape.toRegex? (o : Options) : Escape → Option Regex
  | .char c => some (o.regexOfChar c)
  | .byte c => if o.unicode || c.toNat < 128 then some (o.regexOfChar c) else none
  | .set s => o.regexOfSet? s
  | .look l => some (.look l)

/-- What a point stands for. -/
def Options.dot? (o : Options) : Option Regex :=
  o.regexOfSet?
    (if o.dotMatchesNewline then .all
     else if o.crlf then .compl (.ranges [(10, 10), (13, 13)])
     else .compl (.ranges [(10, 10)]))

/-- The expression at the start of a text that is no group, bracket, choice or repetition. -/
def readSimple? (o : Options) (c : Char) (rest : List Char) : Option (Regex × List Char) :=
  match c with
  | '\\' => do
    let (escape, rest) ← readEscape? o rest
    let r ← escape.toRegex? o
    some (r, rest)
  | '.' => o.dot?.map fun r => (r, rest)
  | '^' => some (.look (if o.multiLine then .lineStart o.crlf else .textStart), rest)
  | '$' => some (.look (if o.multiLine then .lineEnd o.crlf else .textEnd), rest)
  | c => some (o.regexOfChar c, rest)

/-! ### Repetitions -/

/-- A number of turns, with blanks around it. -/
def readTurns? (cs : List Char) : Option (Nat × List Char) :=
  let cs := trimLeft cs
  let digits := cs.takeWhile isDigit
  let n := natOfDigits digits
  if digits.isEmpty || word32 ≤ n then none
  else some (n, trimLeft (cs.drop digits.length))

/-- Whether a repetition is greedy, by the question mark that may follow it. -/
def readGreed (o : Options) (cs : List Char) : Bool × List Char :=
  match cs with
  | '?' :: rest => (o.swapGreed, rest)
  | cs => (!o.swapGreed, cs)

/-- The bounds of a repetition, given what follows the brace. -/
def readBounds? (o : Options) (cs : List Char) :
    Option ((Nat × Option Nat) × List Char) := do
  let (least, rest) ← readTurns? (o.skip cs)
  match rest with
  | '}' :: rest => some ((least, some least), rest)
  | ',' :: rest =>
    match o.skip rest with
    | '}' :: rest => some ((least, none), rest)
    | rest => do
      let (most, rest) ← readTurns? rest
      match rest with
      | '}' :: rest => if least ≤ most then some ((least, some most), rest) else none
      | _ => none
  | _ => none

/-! ### Groups -/

/-- Options in a group header, up to the colon or the parenthesis that ends them. -/
def readOptions? (o : Options) (seen : List Char) (value dangling : Bool) :
    List Char → Option (Options × Bool × List Char × List Char)
  | [] => none
  | c :: rest =>
    if c == ':' || c == ')' then
      if dangling then none else some (o, c == ':', seen, rest)
    else if c == '-' then
      if value then readOptions? o seen false true rest else none
    else if seen.contains c then none
    else do
      let o ← o.set? c value
      readOptions? o (c :: seen) value false rest

/-- The name of a group, up to its closing bracket. -/
def readGroupName? (cs : List Char) : Option (List Char × List Char) :=
  let name := cs.takeWhile fun c => c != '>'
  let isNameChar (c : Char) : Bool :=
    c == '_' || c == '.' || c == '[' || c == ']' || isLetterOrNumeral c
  match name, cs.drop name.length with
  | first :: others, _ :: rest =>
    if (first == '_' || isLetter first) && others.all isNameChar then some (name, rest) else none
  | _, _ => none

/-- The header of a group. -/
inductive GroupHeader where
  /-- A group whose body is read under some options. -/
  | body (o : Options) (name : Option (List Char)) (rest : List Char)
  /-- Options that hold up to the end of the group around. -/
  | options (o : Options) (rest : List Char)

/-- The header of a group, given what follows its parenthesis. -/
def readGroupHeader? (o : Options) (cs : List Char) : Option GroupHeader :=
  match o.skip cs with
  | '?' :: 'P' :: '<' :: rest =>
    (readGroupName? rest).map fun (name, rest) => .body o (some name) rest
  | '?' :: '<' :: rest =>
    match rest with
    | '=' :: _ | '!' :: _ => none
    | _ => (readGroupName? rest).map fun (name, rest) => .body o (some name) rest
  | '?' :: rest => do
    let (inner, opens, seen, after) ← readOptions? o [] true false rest
    if opens then some (.body inner none after)
    else if seen.isEmpty then none
    else some (.options inner after)
  | cs => some (.body o none cs)

/-! ### Whole patterns -/

/-- A group that is being read: the choices before the last bar, and the parts since then, last
first. The last part is `none` where nothing can be repeated. -/
structure OpenGroup where
  options : Options
  choices : List Regex
  parts : List (Option Regex)

/-- The parts since the last bar as one expression. -/
def OpenGroup.branch (g : OpenGroup) : Regex :=
  .ofList (g.parts.reverse.filterMap id)

/-- The group as one expression. -/
def OpenGroup.close (g : OpenGroup) : Regex :=
  match g.choices.reverse ++ [g.branch] with
  | [] => .empty
  | r :: rs => rs.foldl .choice r

/-- A group with one part more. -/
def OpenGroup.add (g : OpenGroup) (r : Regex) : OpenGroup :=
  { g with parts := some r :: g.parts }

/-- A group whose last part is repeated. -/
def OpenGroup.repeatLast? (g : OpenGroup) (greedy : Bool) (least : Nat) (most : Option Nat) :
    Option OpenGroup :=
  match g.parts with
  | some r :: parts => some { g with parts := some (.repetition r greedy least most) :: parts }
  | _ => none

/-- Reads up to the end of a pattern. `outer` holds the groups around the innermost open one. -/
def readPattern? (fuel : Nat) (names : List (List Char)) (g : OpenGroup)
    (outer : List OpenGroup) (cs : List Char) : Option Regex :=
  match fuel with
  | 0 => none
  | fuel + 1 =>
    let o := g.options
    match o.skip cs with
    | [] => if outer.isEmpty then some g.close else none
    | '(' :: rest => do
      match ← readGroupHeader? o rest with
      | .options o rest =>
        readPattern? fuel names { g with options := o, parts := none :: g.parts } outer rest
      | .body inner none rest => readPattern? fuel names ⟨inner, [], []⟩ (g :: outer) rest
      | .body inner (some name) rest =>
        if names.contains name then none
        else readPattern? fuel (name :: names) ⟨inner, [], []⟩ (g :: outer) rest
    | ')' :: rest =>
      match outer with
      | [] => none
      | next :: outer => readPattern? fuel names (next.add g.close) outer rest
    | '|' :: rest =>
      readPattern? fuel names { g with choices := g.branch :: g.choices, parts := [] } outer rest
    | '[' :: rest => do
      let (r, rest) ← readClass? o rest
      readPattern? fuel names (g.add r) outer rest
    | '?' :: rest => do
      let (greedy, rest) := readGreed o rest
      readPattern? fuel names (← g.repeatLast? greedy 0 (some 1)) outer rest
    | '*' :: rest => do
      let (greedy, rest) := readGreed o rest
      readPattern? fuel names (← g.repeatLast? greedy 0 none) outer rest
    | '+' :: rest => do
      let (greedy, rest) := readGreed o rest
      readPattern? fuel names (← g.repeatLast? greedy 1 none) outer rest
    | '{' :: rest => do
      let ((least, most), rest) ← readBounds? o rest
      let (greedy, rest) := readGreed o (o.skip rest)
      readPattern? fuel names (← g.repeatLast? greedy least most) outer rest
    | c :: rest => do
      let (r, rest) ← readSimple? o c rest
      readPattern? fuel names (g.add r) outer rest

/-- The most steps that a program for a pattern may have. -/
def sizeLimit : Nat := 250000

/-- The expression that a pattern stands for, unless it is malformed or too large. -/
def Regex.ofText? (cs : List Char) : Option Regex := do
  let r ← readPattern? (cs.length + 1) [] ⟨{}, [], []⟩ [] cs
  if r.size ≤ sizeLimit then some r else none

/-- What compiles the texts that are looked for up to case. A text whose program is too large is
refused. -/
structure Engine where
  refuses : List Char → Bool

/-- The engine that allows a program as many steps as a pattern. A text takes one for each of its
characters. -/
def Engine.standard : Engine := ⟨fun t => sizeLimit < t.length⟩

end TableFilter.Pattern
