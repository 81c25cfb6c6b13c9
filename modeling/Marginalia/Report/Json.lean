import Marginalia.Text.Hex
import Marginalia.Value.Basic

/-!
# Values as JSON

Values are written with two spaces for each level.  Everything beyond ASCII is escaped.  Dates and
times have no form in JSON, and a number can have too many digits.
-/

namespace Marginalia.Report

/-- Why a value cannot be written as JSON. -/
inductive JsonError
  /-- A value of the named kind has no form in JSON. -/
  | noForm (kind : String)
  | tooLongToWrite
deriving DecidableEq, Repr

/-- The wording of the error. -/
def JsonError.message : JsonError → String
  | .noForm kind => "Object of type " ++ kind ++ " is not JSON serializable"
  | .tooLongToWrite => Text.tooLongToWrite

/-- A unit of sixteen bits as an escape. -/
def escapeUnit (n : Nat) : List Char := '\\' :: 'u' :: Text.hex 4 n

/-- A character of a JSON string; characters beyond sixteen bits are two units. -/
def jsonChar (c : Char) : List Char :=
  if c = '"' then ['\\', '"']
  else if c = '\\' then ['\\', '\\']
  else if c = '\n' then ['\\', 'n']
  else if c = '\r' then ['\\', 'r']
  else if c = '\t' then ['\\', 't']
  else if c.toNat = 0x08 then ['\\', 'b']
  else if c.toNat = 0x0c then ['\\', 'f']
  else if 0x20 ≤ c.toNat && c.toNat ≤ 0x7e then [c]
  else if c.toNat < 0x10000 then escapeUnit c.toNat
  else
    let n := c.toNat - 0x10000
    escapeUnit (0xd800 + n / 0x400) ++ escapeUnit (0xdc00 + n % 0x400)

/-- A text as a JSON string. -/
def jsonText (s : String) : String := "\"" ++ String.ofList (s.toList.flatMap jsonChar) ++ "\""

/-- A number as JSON shows it. -/
def jsonNumber (x : Number.Double) : String :=
  match x with
  | .nan => "NaN"
  | .infinite negative => if negative then "-Infinity" else "Infinity"
  | x => x.text

/-- A new line at a level. -/
def newLine (level : Nat) : String := "\n" ++ String.ofList (List.replicate (2 * level) ' ')

mutual

/-- A value at a level. -/
def json (level : Nat) : Value → Except JsonError String
  | .null => .ok "null"
  | .bool b => .ok (if b then "true" else "false")
  | .int n => if Text.isTooLongToWrite n then .error .tooLongToWrite else .ok (toString n)
  | .float x => .ok (jsonNumber x)
  | .str s => .ok (jsonText s)
  | .list [] => .ok "[]"
  | .list (v :: vs) => do
    return "[" ++ (← jsonItems (level + 1) (v :: vs)) ++ newLine level ++ "]"
  | .table [] => .ok "\x7b\x7d"
  | .table (e :: es) => do
    return "\x7b" ++ (← jsonEntries (level + 1) (e :: es)) ++ newLine level ++ "\x7d"
  | .date _ => .error (.noForm "date")
  | .time _ => .error (.noForm "time")
  | .dateTime _ => .error (.noForm "datetime")

/-- Items at a level, each on its own line. -/
def jsonItems (level : Nat) : List Value → Except JsonError String
  | [] => .ok ""
  | [v] => do return newLine level ++ (← json level v)
  | v :: vs => do return newLine level ++ (← json level v) ++ "," ++ (← jsonItems level vs)

/-- Keys and values at a level, each on its own line. -/
def jsonEntries (level : Nat) : List (String × Value) → Except JsonError String
  | [] => .ok ""
  | [(k, v)] => do return newLine level ++ jsonText k ++ ": " ++ (← json level v)
  | (k, v) :: es => do
    return newLine level ++ jsonText k ++ ": " ++ (← json level v) ++ "," ++
      (← jsonEntries level es)

end

end Marginalia.Report
