/-!
# Searching text

Occurrences of a pattern in a text, under any equality of characters. A search reports offsets in
bytes of the text in UTF-8. What is reported always is the first byte of a character or the end of
the text.

## Main definitions

* `byteLength`, `fromByte`, `charsBefore`: texts by bytes
* `startsWith`, `endsWith`, `contains`: tests for a pattern at the start, at the end, anywhere
* `scan`: starts of the occurrences met from left to right without overlap
* `lastOccurrence?`: start of the last occurrence, overlaps included
* `lastOfRestarts?`: the same by searching forward again and again
* `split`, `replace`: the parts between the occurrences of `scan`, and a text with them replaced
-/

namespace TableFilter.Text

/-! ### Texts by bytes -/

/-- How many bytes a text has. -/
def byteLength : List Char → Nat
  | [] => 0
  | c :: cs => c.utf8Size + byteLength cs

/-- A text from a byte on, which has to be the first one of a character, or the end. -/
def fromByte : Nat → List Char → List Char
  | 0, text => text
  | _ + 1, [] => []
  | n + 1, c :: cs => fromByte (n + 1 - c.utf8Size) cs

/-- How many characters a text has before a byte, which has to be as for `fromByte`. -/
def charsBefore : Nat → List Char → Nat
  | 0, _ => 0
  | _ + 1, [] => 0
  | n + 1, c :: cs => charsBefore (n + 1 - c.utf8Size) cs + 1

/-! ### Tests -/

/-- Whether a text starts with a pattern. -/
def startsWith (same : Char → Char → Bool) : List Char → List Char → Bool
  | [], _ => true
  | _ :: _, [] => false
  | p :: ps, c :: cs => same p c && startsWith same ps cs

/-- Whether a text ends with a pattern. -/
def endsWith (same : Char → Char → Bool) (pattern text : List Char) : Bool :=
  startsWith same pattern.reverse text.reverse

/-- Whether a pattern occurs in a text. -/
def contains (same : Char → Char → Bool) (pattern : List Char) : List Char → Bool
  | [] => pattern.isEmpty
  | c :: cs => startsWith same pattern (c :: cs) || contains same pattern cs

/-! ### Places -/

/-- Starts of occurrences from `offset` on, after leaving out `skip` characters. -/
def scanFrom (same : Char → Char → Bool) (pattern : List Char) (offset skip : Nat) :
    List Char → List Nat
  | [] => if skip == 0 && pattern.isEmpty then [offset] else []
  | c :: cs =>
    if skip > 0 then scanFrom same pattern (offset + c.utf8Size) (skip - 1) cs
    else if startsWith same pattern (c :: cs) then
      offset :: scanFrom same pattern (offset + c.utf8Size) (pattern.length - 1) cs
    else scanFrom same pattern (offset + c.utf8Size) 0 cs

/-- Starts of the occurrences of a pattern, from left to right, each after the end of the one
before it. The empty pattern occurs at every offset, the end included. -/
def scan (same : Char → Char → Bool) (pattern text : List Char) : List Nat :=
  scanFrom same pattern 0 0 text

/-- Start of the last occurrence of a pattern, overlapping ones included. -/
def lastOccurrence? (same : Char → Char → Bool) (pattern : List Char) : List Char → Option Nat
  | [] => if pattern.isEmpty then some 0 else none
  | c :: cs =>
    match lastOccurrence? same pattern cs with
    | some k => some (k + c.utf8Size)
    | none => if startsWith same pattern (c :: cs) then some 0 else none

/-- Start of the first occurrence of a pattern in a text that itself starts at `offset`. -/
def firstOccurrence? (same : Char → Char → Bool) (pattern : List Char) (offset : Nat) :
    List Char → Option Nat
  | [] => if pattern.isEmpty then some offset else none
  | c :: cs =>
    if startsWith same pattern (c :: cs) then some offset
    else firstOccurrence? same pattern (offset + c.utf8Size) cs

/-- Start of the first occurrence of a pattern that starts at a byte or after it. -/
def findAt? (same : Char → Char → Bool) (pattern text : List Char) (start : Nat) : Option Nat :=
  firstOccurrence? same pattern start (fromByte start text)

theorem le_of_firstOccurrence? {same : Char → Char → Bool} {pattern text : List Char}
    {offset k : Nat} (h : firstOccurrence? same pattern offset text = some k) : offset ≤ k := by
  induction text generalizing offset with
  | nil =>
    rw [firstOccurrence?] at h
    split at h
    · exact Nat.le_of_eq (Option.some.inj h)
    · cases h
  | cons c cs ih =>
    rw [firstOccurrence?] at h
    split at h
    · exact Nat.le_of_eq (Option.some.inj h)
    · exact Nat.le_trans (Nat.le_add_right _ _) (ih h)

theorem lt_byteLength_of_fromByte {c : Char} {n : Nat} {text rest : List Char}
    (h : fromByte n text = c :: rest) : n < byteLength text := by
  induction text generalizing n with
  | nil => cases n <;> cases h
  | cons d text ih =>
    have hsize := d.utf8Size_pos
    rw [byteLength]
    cases n with
    | zero => exact Nat.lt_of_lt_of_le hsize (Nat.le_add_right _ _)
    | succ n =>
      have hrest := ih h
      omega

/-- Start of the last occurrence of a pattern, found by searching again one character after each
start, until nothing is found or a start is at the end of the text. `last` was found before. -/
def lastOfRestarts? (same : Char → Char → Bool) (pattern text : List Char) (start : Nat)
    (last : Option Nat) : Option Nat :=
  match found : findAt? same pattern text start with
  | none => last
  | some k =>
    match rest : fromByte k text with
    | [] => some k
    | c :: _ =>
      have := le_of_firstOccurrence? found
      have := lt_byteLength_of_fromByte rest
      lastOfRestarts? same pattern text (k + c.utf8Size) (some k)
termination_by byteLength text - start
decreasing_by
  have hsize := c.utf8Size_pos
  omega

/-! ### Parts -/

/-- The parts of a text between occurrences of a pattern. `part` holds the current part in
reverse, and `skip` counts the characters of an occurrence still to be left out. -/
def splitFrom (same : Char → Char → Bool) (pattern : List Char) (part : List Char) (skip : Nat) :
    List Char → List (List Char)
  | [] => [part.reverse]
  | c :: cs =>
    if skip > 0 then splitFrom same pattern part (skip - 1) cs
    else if startsWith same pattern (c :: cs) then
      part.reverse :: splitFrom same pattern [] (pattern.length - 1) cs
    else splitFrom same pattern (c :: part) 0 cs

/-- The parts of a text between the occurrences of a nonempty pattern. -/
def split (same : Char → Char → Bool) (pattern text : List Char) : List (List Char) :=
  splitFrom same pattern [] 0 text

/-- What is left of a text with each occurrence of a pattern replaced. `skip` counts the characters
of an occurrence still to be left out. -/
def replaceFrom (same : Char → Char → Bool) (pattern replacement : List Char) (skip : Nat) :
    List Char → List Char
  | [] => []
  | c :: cs =>
    if skip > 0 then replaceFrom same pattern replacement (skip - 1) cs
    else if startsWith same pattern (c :: cs) then
      replacement ++ replaceFrom same pattern replacement (pattern.length - 1) cs
    else c :: replaceFrom same pattern replacement 0 cs

/-- A text with each occurrence of a nonempty pattern replaced. -/
def replace (same : Char → Char → Bool) (pattern replacement text : List Char) : List Char :=
  replaceFrom same pattern replacement 0 text

end TableFilter.Text
