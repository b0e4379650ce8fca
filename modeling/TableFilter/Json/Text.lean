import TableFilter.Json

/-!
# Writing JSON data

Data are written without blanks.

## Main definitions

* `Json.quotedText`: a text in quotes, with escapes
* `Datum.text`: the written form of a datum
-/

namespace TableFilter

namespace Json

/-- A character of a text as it is written in quotes. -/
def escaped (c : Char) : List Char :=
  match c with
  | '"' => "\\\"".toList
  | '\\' => "\\\\".toList
  | '\x08' => "\\b".toList
  | '\x0c' => "\\f".toList
  | '\n' => "\\n".toList
  | '\r' => "\\r".toList
  | '\t' => "\\t".toList
  | _ =>
    if c.toNat < 32 then
      "\\u00".toList ++ [Nat.digitChar (c.toNat / 16), Nat.digitChar (c.toNat % 16)]
    else [c]

/-- A text in quotes. -/
def quotedText (s : String) : List Char := '"' :: s.toList.flatMap escaped ++ ['"']

end Json

namespace Datum

mutual

/-- The written form of a datum. -/
def text : Datum → List Char
  | .null => "null".toList
  | .boolean b => (if b then "true" else "false").toList
  | .number n => n.text
  | .string s => Json.quotedText s
  | .array items => '[' :: itemsText items ++ [']']
  | .object members => '{' :: membersText members ++ ['}']

/-- The written forms of items with commas between them. -/
def itemsText : List Datum → List Char
  | [] => []
  | d :: ds => d.text ++ (if ds.isEmpty then [] else ',' :: itemsText ds)

/-- The written forms of members with commas between them. -/
def membersText : List (String × Datum) → List Char
  | [] => []
  | (name, d) :: rest =>
    Json.quotedText name ++ ':' :: d.text ++ (if rest.isEmpty then [] else ',' :: membersText rest)

end

end Datum

end TableFilter
