import TableFilter.Text.CaseTables
import TableFilter.Text.CharRanges

/-!
# Upper case, lower case and equality up to case

Two notions of ignoring case meet here. *Upper text* replaces each character by its upper form,
which may be several characters (`ß` becomes `SS`). *Folding* compares character by character and
never changes a length (`ß` stays apart from `SS`, the Kelvin sign equals `k`).

## Main definitions

* `upperChar`, `upper`: upper form of a character and of a text
* `lower`: lower form of a text, with the final form of sigma at the end of a word
* `fold`, `sameFolded`: equality of characters up to case
* `foldOrbit`: all characters equal to one up to case
* `asciiLower`, `sameAsciiCase`: case of ASCII letters only
-/

namespace TableFilter.Text

open TableFilter.CaseTables TableFilter.CharRanges

/-- The image of a character under the first run that covers it. -/
def alongRuns (runs : List CaseRun) (c : Char) : Char :=
  match runs.find? (·.covers c.toNat) with
  | some r => Char.ofNat (r.image c.toNat)
  | none => c

/-! ### Upper text -/

/-- The upper form of a character: one character, or the several it expands to. -/
def upperChar (c : Char) : List Char :=
  if c.toNat < 128 then
    if 97 ≤ c.toNat && c.toNat ≤ 122 then [Char.ofNat (c.toNat - 32)] else [c]
  else
    match upperExpansions.find? (·.1 == c.toNat) with
    | some e => e.2.map Char.ofNat
    | none => [alongRuns upperRuns c]

/-- A text with each character in upper form. -/
def upper (cs : List Char) : List Char := cs.flatMap upperChar

/-! ### Lower text -/

/-- Capital sigma, whose lower form depends on where it stands. -/
def capitalSigma : Char := Char.ofNat 0x3A3

/-- Capital I with a dot, whose lower form is `i` and a combining dot. -/
def dottedCapitalI : Char := Char.ofNat 0x130

/-- The lower form of a character other than capital sigma. -/
def lowerChar (c : Char) : List Char :=
  if c.toNat < 128 then
    if 65 ≤ c.toNat && c.toNat ≤ 90 then [Char.ofNat (c.toNat + 32)] else [c]
  else if c == dottedCapitalI then ['i', Char.ofNat 0x307]
  else [alongRuns lowerRuns c]

/-- Whether the nearest character that is not skipped has a case. -/
def nextIsCased (cs : List Char) : Bool :=
  match cs.find? fun c => !inRanges caseIgnorableRanges c.toNat with
  | some c => inRanges casedRanges c.toNat
  | none => false

/-- Lower text after `before`, which is kept in reverse. A sigma that ends a word, with a cased
character before it and none after it, takes its final form. -/
def lowerAfter (before : List Char) : List Char → List Char
  | [] => []
  | c :: rest =>
    let here :=
      if c == capitalSigma then
        if nextIsCased before && !nextIsCased rest then [Char.ofNat 0x3C2] else [Char.ofNat 0x3C3]
      else lowerChar c
    here ++ lowerAfter (c :: before) rest

/-- A text with each character in lower form. -/
def lower (cs : List Char) : List Char := lowerAfter [] cs

/-! ### Folding -/

/-- The least character that equals a given one up to case. -/
def fold (c : Char) : Char :=
  if c.toNat < 128 then
    if 97 ≤ c.toNat && c.toNat ≤ 122 then Char.ofNat (c.toNat - 32) else c
  else alongRuns foldRuns c

/-- Equality of characters up to case. -/
def sameFolded (a b : Char) : Bool := fold a == fold b

/-- All characters equal to a given one up to case. -/
def foldOrbit (c : Char) : List Char :=
  let least := fold c
  least :: foldRuns.filterMap fun r => (r.preimage? least.toNat).map Char.ofNat

/-! ### ASCII letters only -/

/-- The lower form of an ASCII letter; other characters stay. -/
def asciiLowerChar (c : Char) : Char :=
  if 65 ≤ c.toNat && c.toNat ≤ 90 then Char.ofNat (c.toNat + 32) else c

/-- A text with its ASCII letters in lower form. -/
def asciiLower (cs : List Char) : List Char := cs.map asciiLowerChar

/-- Equality of names up to the case of ASCII letters. -/
def sameAsciiCase (a b : String) : Bool := asciiLower a.toList == asciiLower b.toList

end TableFilter.Text
