import TableFilter.Pattern.Properties
import TableFilter.Text.Case
import TableFilter.Text.CharClass

/-!
# Sets of characters

The sets that a pattern can name, as expressions over ranges and properties.

## Main definitions

* `CharSet`: ranges, properties, and what set operations make of them
* `CharSet.contains`: membership
* `CharSet.ofPropertyName?`: sets by the names of properties
* `CharSet.word`, `digit`, `space`: the classes with a letter of their own
-/

namespace TableFilter.Pattern

open TableFilter.CharRanges TableFilter.Text

/-- A set of characters. -/
inductive CharSet where
  | ranges (rs : List (Nat × Nat))
  | categories (ks : List Category)
  | union (a b : CharSet)
  | inter (a b : CharSet)
  | diff (a b : CharSet)
  /-- What is in one of two sets but not in both. -/
  | symmDiff (a b : CharSet)
  | compl (a : CharSet)
  /-- All characters equal up to case to one of a set. -/
  | folded (a : CharSet)
  /-- All characters equal up to the case of ASCII letters to one of a set. -/
  | asciiFolded (a : CharSet)
deriving Repr

namespace CharSet

/-- The other case of an ASCII letter; other characters stay. -/
def swapAsciiCase (c : Char) : Char :=
  if 97 ≤ c.toNat && c.toNat ≤ 122 then Char.ofNat (c.toNat - 32) else asciiLowerChar c

/-- Whether a character is in a set. -/
def contains : CharSet → Char → Bool
  | .ranges rs, c => inRanges rs c.toNat
  | .categories ks, c => ks.any fun k => k.holds c.toNat
  | .union a b, c => a.contains c || b.contains c
  | .inter a b, c => a.contains c && b.contains c
  | .diff a b, c => a.contains c && !b.contains c
  | .symmDiff a b, c => a.contains c != b.contains c
  | .compl a, c => !a.contains c
  | .folded a, c => (foldOrbit c).any a.contains
  | .asciiFolded a, c => a.contains c || a.contains (swapAsciiCase c)

/-- The set without characters. -/
def none : CharSet := .ranges []

/-- All characters. -/
def all : CharSet := .ranges [(0, 0x10FFFF)]

/-- The set of one character. -/
def single (c : Char) : CharSet := .ranges [(c.toNat, c.toNat)]

/-- The ASCII characters. -/
def ascii : CharSet := .ranges [(0, 127)]

/-- A set or its complement. -/
def complementIf (negated : Bool) (s : CharSet) : CharSet := if negated then .compl s else s

/-- Whether a set has a member among the code points from 128 to 255. -/
def leavesAscii (s : CharSet) : Bool :=
  (List.range 128).any fun k => s.contains (Char.ofNat (128 + k))

/-! ### Classes with a letter of their own -/

/-- Decimal digits of all scripts. -/
def digit : CharSet := .categories [.decimalNumber]

/-- White space. -/
def space : CharSet :=
  .ranges [(9, 13), (32, 32), (0x85, 0x85), (0xA0, 0xA0), (0x1680, 0x1680), (0x2000, 0x200A),
    (0x2028, 0x2029), (0x202F, 0x202F), (0x205F, 0x205F), (0x3000, 0x3000)]

/-- What words are made of: letters, marks, decimal digits, connectors and joiners. -/
def word : CharSet :=
  .union (.ranges letterRanges)
    (.union
      (.categories [.nonspacingMark, .spacingMark, .enclosingMark, .decimalNumber,
        .connectorPunctuation])
      (.ranges [(0x200C, 0x200D)]))

/-- ASCII digits. -/
def asciiDigit : CharSet := .ranges [(48, 57)]

/-- ASCII white space. -/
def asciiSpace : CharSet := .ranges [(9, 13), (32, 32)]

/-- What words of ASCII are made of. -/
def asciiWord : CharSet := .ranges [(48, 57), (65, 90), (95, 95), (97, 122)]

/-- The ASCII classes by name. -/
def asciiClasses : List (String × List (Nat × Nat)) :=
  [("alnum", [(48, 57), (65, 90), (97, 122)]), ("alpha", [(65, 90), (97, 122)]),
   ("ascii", [(0, 127)]), ("blank", [(9, 9), (32, 32)]), ("cntrl", [(0, 31), (127, 127)]),
   ("digit", [(48, 57)]), ("graph", [(33, 126)]), ("lower", [(97, 122)]),
   ("print", [(32, 126)]), ("punct", [(33, 47), (58, 64), (91, 96), (123, 126)]),
   ("space", [(9, 13), (32, 32)]), ("upper", [(65, 90)]),
   ("word", [(48, 57), (65, 90), (95, 95), (97, 122)]),
   ("xdigit", [(48, 57), (65, 70), (97, 102)])]

/-! ### Properties by name -/

/-- Names of groups of categories, in lower case. -/
def categoryGroups : List (List String × List Category) :=
  [(["l", "letter"],
    [.uppercaseLetter, .lowercaseLetter, .titlecaseLetter, .modifierLetter, .otherLetter]),
   (["lc", "casedletter"], [.uppercaseLetter, .lowercaseLetter, .titlecaseLetter]),
   (["m", "mark", "combiningmark"], [.nonspacingMark, .spacingMark, .enclosingMark]),
   (["n", "number"], [.decimalNumber, .letterNumber, .otherNumber]),
   (["p", "punctuation", "punct"],
    [.connectorPunctuation, .dashPunctuation, .openPunctuation, .closePunctuation,
     .initialPunctuation, .finalPunctuation, .otherPunctuation]),
   (["s", "symbol"], [.mathSymbol, .currencySymbol, .modifierSymbol, .otherSymbol]),
   (["z", "separator"], [.spaceSeparator, .lineSeparator, .paragraphSeparator]),
   (["c", "other"], [.control, .format, .privateUse, .unassigned]),
   (["digit"], [.decimalNumber]),
   (["cntrl"], [.control])]

/-- The set of a general category or a group of them. -/
def ofCategoryName? (name : String) : Option CharSet :=
  if name == "any" then some all
  else if name == "ascii" then some ascii
  else if name == "assigned" then some (.compl (.categories [.unassigned]))
  else
    match categoryGroups.find? fun g => g.1.contains name with
    | some g => some (.categories g.2)
    | Option.none =>
      (categoryNames.find? fun k => k.2.1 == name || k.2.2 == name).map fun k =>
        .categories [k.1]

/-- The set of a script. -/
def ofScriptName? (name : String) : Option CharSet :=
  (scripts.find? fun s => s.1 == name || s.2.1 == name).map fun s => .ranges s.2.2

/-- The set of a property that holds or does not hold of each character. -/
def ofBinaryName? (name : String) : Option CharSet :=
  if ["alphabetic", "alpha"].contains name then some (.ranges letterRanges)
  else if ["lowercase", "lower"].contains name then
    some (.union (.categories [.lowercaseLetter]) (.ranges otherLowercaseRanges))
  else if ["uppercase", "upper"].contains name then
    some (.union (.categories [.uppercaseLetter]) (.ranges otherUppercaseRanges))
  else if ["whitespace", "wspace", "space"].contains name then some space
  else if name == "cased" then some (.ranges casedRanges)
  else if ["caseignorable", "ci"].contains name then some (.ranges caseIgnorableRanges)
  else if ["asciihexdigit", "ahex"].contains name then
    some (.ranges [(48, 57), (65, 70), (97, 102)])
  else if ["hexdigit", "hex"].contains name then
    some (.ranges [(48, 57), (65, 70), (97, 102), (0xFF10, 0xFF19), (0xFF21, 0xFF26),
      (0xFF41, 0xFF46)])
  else if ["joincontrol", "joinc"].contains name then some (.ranges [(0x200C, 0x200D)])
  else Option.none

/-- A name of a property without what does not count: case, blanks, hyphens, low lines, and `is` at
the start. -/
def looseName (name : List Char) : String :=
  let lower := asciiLower name
  let stem := match lower with
    | 'i' :: 's' :: rest => rest
    | cs => cs
  let kept (cs : List Char) : List Char :=
    cs.filter fun c => c.toNat < 128 && c != ' ' && c != '_' && c != '-'
  if stem != lower && kept stem == ['c'] then "isc" else String.ofList (kept stem)

/-- The set of a property given by a name alone. A property that holds or not goes before a
category, and that before a script. -/
def ofPropertyName? (name : List Char) : Option CharSet :=
  let name := looseName name
  let binary := if ["cf", "sc", "lc"].contains name then Option.none else ofBinaryName? name
  binary <|> ofCategoryName? name <|> ofScriptName? name

/-- The set of the characters for which a property has a value. -/
def ofPropertyValue? (name value : List Char) : Option CharSet :=
  let property := looseName name
  if ["generalcategory", "gc"].contains property then ofCategoryName? (looseName value)
  else if ["script", "sc", "scriptextensions", "scx"].contains property then
    ofScriptName? (looseName value)
  else Option.none

end CharSet

end TableFilter.Pattern
