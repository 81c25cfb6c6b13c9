import Marginalia.Number.Shortest
import Marginalia.Text.Integer
import Marginalia.Text.Quoted
import Marginalia.Value.Time

/-!
# Configuration data

A configuration is a table of values.  Most of it has a fixed shape that later modules check; the
rest, such as the style of an annotation kind, is carried along as it is.  Tables keep the order of
their keys.
-/

namespace Marginalia

/-- A value of a configuration. -/
inductive Value
  | null
  | bool (b : Bool)
  | int (n : Int)
  | float (x : Number.Double)
  | str (s : String)
  | list (items : List Value)
  | table (entries : List (String × Value))
  | date (d : Date)
  | time (t : TimeOfDay)
  | dateTime (t : DateTime)
deriving Repr

namespace Value

instance : Inhabited Value := ⟨.null⟩

/-- The name of the kind of a value, as diagnostics give it. -/
def kindName : Value → String
  | .null => "NoneType"
  | .bool _ => "bool"
  | .int _ => "int"
  | .float _ => "float"
  | .str _ => "str"
  | .list _ => "list"
  | .table _ => "dict"
  | .date _ => "date"
  | .time _ => "time"
  | .dateTime _ => "datetime"

/-- The elements of a value that can be walked through: the items of a list, the keys of a table,
the characters of a text. -/
def elements? : Value → Option (List Value)
  | .list items => some items
  | .table entries => some (entries.map fun e => .str e.1)
  | .str s => some (s.toList.map fun c => .str (String.singleton c))
  | _ => none

/-- What is said of a value of a kind that cannot be walked through. -/
def notIterableText (kind : String) : String := "'" ++ kind ++ "' object is not iterable"

mutual

/-- A value as diagnostics show it. -/
def literal : Value → String
  | .null => "None"
  | .bool b => if b then "True" else "False"
  | .int n => toString n
  | .float x => x.text
  | .str s => Text.quoted s
  | .list items => "[" ++ literalItems items ++ "]"
  | .table entries => "\x7b" ++ literalEntries entries ++ "\x7d"
  | .date d => d.expression
  | .time t => t.expression
  | .dateTime t => t.expression

/-- Values with commas between them. -/
def literalItems : List Value → String
  | [] => ""
  | [v] => v.literal
  | v :: vs => v.literal ++ ", " ++ literalItems vs

/-- Keys and values with commas between them. -/
def literalEntries : List (String × Value) → String
  | [] => ""
  | [(k, v)] => Text.quoted k ++ ": " ++ v.literal
  | (k, v) :: es => Text.quoted k ++ ": " ++ v.literal ++ ", " ++ literalEntries es

end

mutual

/-- Is there a number in the value that has too many digits to be written? -/
def isTooLong : Value → Bool
  | .int n => Text.isTooLongToWrite n
  | .list items => anyTooLong items
  | .table entries => anyEntryTooLong entries
  | _ => false

/-- Is there such a number in one of the values? -/
def anyTooLong : List Value → Bool
  | [] => false
  | v :: vs => v.isTooLong || anyTooLong vs

/-- Is there such a number in the value of one of the entries? -/
def anyEntryTooLong : List (String × Value) → Bool
  | [] => false
  | (_, v) :: es => v.isTooLong || anyEntryTooLong es

end

/-- A value as running text: a text is itself, dates are in the standard's notation with a space,
and anything else is shown as in diagnostics. -/
def text : Value → String
  | .str s => s
  | .date d => d.standard
  | .time t => t.standard
  | .dateTime t => t.written " "
  | v => v.literal

end Value

/-- A list of texts as diagnostics show it. -/
def literalTexts (xs : List String) : String := (Value.list (xs.map Value.str)).literal

end Marginalia
