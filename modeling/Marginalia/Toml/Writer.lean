import Marginalia.Value.Basic

/-!
# Writing TOML

Tables of texts, lists of texts and truth values, one line for each key.  Texts are written as basic
strings, in which a backslash and a double quote have a backslash before them.
-/

namespace Marginalia.Toml

/-- A character of a basic string. -/
def writeChar (c : Char) : List Char := if c = '\\' || c = '"' then ['\\', c] else [c]

/-- A text as a basic string. -/
def writeText (s : String) : String := "\"" ++ String.ofList (s.toList.flatMap writeChar) ++ "\""

mutual

/-- A value in one line. -/
def writeValue : Value → String
  | .str s => writeText s
  | .bool b => if b then "true" else "false"
  | .list items => "[" ++ writeItems items ++ "]"
  | v => v.literal

/-- Values with commas between them. -/
def writeItems : List Value → String
  | [] => ""
  | [v] => writeValue v
  | v :: vs => writeValue v ++ ", " ++ writeItems vs

end

/-- A key and its value. -/
def writeEntry (e : String × Value) : String := e.1 ++ " = " ++ writeValue e.2 ++ "\n"

/-- A table of an array of tables. -/
def writeTable (key : String) (entries : List (String × Value)) : String :=
  "[[" ++ key ++ "]]\n" ++ String.join (entries.map writeEntry)

end Marginalia.Toml
