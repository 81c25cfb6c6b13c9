import Marginalia.Toml.Number
import Marginalia.Toml.Text

/-!
# Reading TOML documents

A document is read statement by statement.  Which tables may still be opened or extended is kept
beside the data, as lists of keys:

* `declared`: tables that were opened by a header or are arrays of tables, so that no header opens
  them again and no dotted key extends them;
* `pending`: tables that dotted keys of the current section made; they count as declared from the
  next header on;
* `frozen`: inline tables and arrays, to which nothing may be added at any depth.
-/

namespace Marginalia.Toml

/-- The entries of a table. -/
abbrev Table := List (String × Value)

/-! ## Tables in tables -/

/-- Replaces the value of a key, or adds it at the end. -/
def setEntry (k : String) (v : Value) : Table → Table
  | [] => [(k, v)]
  | (k', v') :: t => if k' = k then (k, v) :: t else (k', v') :: setEntry k v t

/-- Replaces the last element of a list. -/
def replaceLast (vs : List Value) (v : Value) : List Value := vs.dropLast ++ [v]

/-- Changes the table under a key, making the tables on the way.  An array of tables on the way
stands for its last table, if `throughArrays` says so.  Nothing else may be on the way. -/
def changeTable (throughArrays : Bool) (f : Table → Option Table) : Key → Table → Option Table
  | [], t => f t
  | k :: ks, t =>
    match t.lookup k with
    | none => do return setEntry k (.table (← changeTable throughArrays f ks [])) t
    | some (.table inner) => do
      return setEntry k (.table (← changeTable throughArrays f ks inner)) t
    | some (.list vs) =>
      match throughArrays, vs.getLast? with
      | true, some (.table inner) => do
        let changed ← changeTable throughArrays f ks inner
        return setEntry k (.list (replaceLast vs (.table changed))) t
      | _, _ => none
    | some _ => none

/-- Adds a table to the array of tables under a key of a table. -/
def appendTable (k : String) (t : Table) : Option Table :=
  match t.lookup k with
  | none => some (setEntry k (.list [.table []]) t)
  | some (.list vs) => some (setEntry k (.list (vs ++ [.table []])) t)
  | some _ => none

/-- Adds a new entry to a table. -/
def addEntry (k : String) (v : Value) (t : Table) : Option Table :=
  if (t.lookup k).isSome then none else some (t ++ [(k, v)])

/-- Is the key, or a table around it, one of the keys? -/
def covers (keys : List Key) (key : Key) : Bool := keys.any fun k => k.isPrefixOf key && !k.isEmpty

/-- The key without its last part. -/
def parent (key : Key) : Key := key.dropLast

/-- The last part of a key. -/
def stem (key : Key) : String := key.getLast?.getD ""

/-- Is the value a table or an array? -/
def isContainer : Value → Bool
  | .table _ => true
  | .list _ => true
  | _ => false

/-! ## Values -/

/-- The equals sign after a key, and the white space around the value. -/
def equals (cs : List Char) : Except Error (List Char) :=
  match cs with
  | '=' :: rest => .ok (skipSpace rest)
  | _ => .error (problemAt cs .missingEquals)

/-- A value that has no values inside it. -/
def scalar (cs : List Char) : Except Error (Value × List Char) :=
  match string? cs with
  | some r => r.map fun (part, rest) => (.str (String.ofList part), rest)
  | none =>
    if startsWith "true".toList cs then .ok (.bool true, cs.drop 4)
    else if startsWith "false".toList cs then .ok (.bool false, cs.drop 5)
    else match dateTime? cs with
      | some r => r
      | none =>
        match time? cs with
        | some (t, rest) => .ok (.time t, rest)
        | none =>
          match (number? cs).or ((special? cs).map .ok) with
          | some r => r
          | none => .error (problemAt cs .invalidValue)

/-- Adds an entry of an inline table under its key.  `frozen` are the containers given before. -/
def addInline (frozen : List Key) (k : Key) (v : Value) (t : Table) (rest : List Char) :
    Except Error Table := do
  if covers frozen k then throw (problemAt rest (.immutable k))
  match changeTable false some (parent k) t with
  | none => throw (problemAt rest .overwrites)
  | some _ =>
    match changeTable false (addEntry (stem k) v) (parent k) t with
    | none => throw (problemAt rest (.duplicateInlineKey (stem k)))
    | some t => return t

mutual

/-- A value. -/
def value : Nat → List Char → Except Error (Value × List Char)
  | 0, cs => .error (problemAt cs .invalidValue)
  | calls + 1, cs =>
    match cs with
    | '[' :: rest => do
      let rest ← skipBlank rest
      match rest with
      | ']' :: rest => return (.list [], rest)
      | rest =>
        let (vs, rest) ← arrayItems calls [] rest
        return (.list vs, rest)
    | '\x7b' :: rest =>
      match skipSpace rest with
      | '\x7d' :: rest => .ok (.table [], rest)
      | rest => do
        let (t, rest) ← inlineEntries calls [] [] rest
        return (.table t, rest)
    | cs => scalar cs

/-- The items of an array from one item on, up to its closing bracket.  `done` are the items before,
the latest first. -/
def arrayItems : Nat → List Value → List Char → Except Error (List Value × List Char)
  | 0, _, cs => .error (problemAt cs .unclosedArray)
  | calls + 1, done, cs => do
    let (v, rest) ← value calls cs
    let done := v :: done
    let rest ← skipBlank rest
    match rest with
    | ']' :: rest => return (done.reverse, rest)
    | ',' :: rest =>
      let rest ← skipBlank rest
      match rest with
      | ']' :: rest => return (done.reverse, rest)
      | rest => arrayItems calls done rest
    | rest => throw (problemAt rest .unclosedArray)

/-- The entries of an inline table from one entry on, up to its closing brace. -/
def inlineEntries : Nat → List Key → Table → List Char → Except Error (Table × List Char)
  | 0, _, _, cs => .error (problemAt cs .unclosedTable)
  | calls + 1, frozen, done, cs => do
    let (k, rest) ← key calls cs
    let (v, rest) ← value calls (← equals rest)
    let done ← addInline frozen k v done rest
    let rest := skipSpace rest
    match rest with
    | '\x7d' :: rest => return (done, rest)
    | ',' :: rest =>
      inlineEntries calls (if isContainer v then frozen ++ [k] else frozen) done (skipSpace rest)
    | rest => throw (problemAt rest .unclosedTable)

end

/-! ## Statements -/

/-- What has been read of a document; `calls` is more than the number of its characters. -/
structure State where
  calls : Nat
  data : Table := []
  header : Key := []
  declared : List Key := []
  pending : List Key := []
  frozen : List Key := []
deriving Repr

/-- The containers on the way of a dotted key in the current section. -/
def containersOf (header k : Key) : List Key :=
  ((List.range k.length).drop 1).map fun i => header ++ k.take i

/-- Checks the containers of a dotted key and makes them pending. -/
def State.openContainers (s : State) (rest : List Char) : List Key → Except Error State
  | [] => .ok s
  | c :: cs =>
    if s.declared.contains c then .error (problemAt rest (.redefines c))
    else State.openContainers { s with pending := s.pending ++ [c] } rest cs

/-- A key and its value, after both have been read. -/
def State.addPair (s : State) (k : Key) (v : Value) (rest : List Char) : Except Error State := do
  let s ← s.openContainers rest (containersOf s.header k)
  let nest := s.header ++ parent k
  if covers s.frozen nest then throw (problemAt rest (.immutable nest))
  match changeTable true (addEntry (stem k) v) nest s.data with
  | none => throw (problemAt rest .overwrites)
  | some data =>
    return { s with
      data, frozen := if isContainer v then s.frozen ++ [s.header ++ k] else s.frozen }

/-- A statement with a key and a value. -/
def State.pair (s : State) (cs : List Char) : Except Error (State × List Char) := do
  let (k, rest) ← key s.calls cs
  let (v, rest) ← value s.calls (← equals rest)
  return (← s.addPair k v rest, rest)

/-- The pending containers count as declared. -/
def State.settle (s : State) : State :=
  { s with declared := s.declared ++ s.pending, pending := [] }

/-- The header of a table, after its bracket. -/
def State.tableHeader (s : State) (cs : List Char) : Except Error (State × List Char) := do
  let (k, rest) ← key s.calls (skipSpace cs)
  if s.declared.contains k || covers s.frozen k then throw (problemAt rest (.declaredTwice k))
  match changeTable true some k s.data with
  | none => throw (problemAt rest .overwrites)
  | some data =>
    match rest with
    | ']' :: after => return ({ s with data, header := k, declared := s.declared ++ [k] }, after)
    | _ => throw (problemAt rest .tableEnd)

/-- The header of an array of tables, after its brackets.  Its last table is new, so what was
declared or frozen below the array is forgotten. -/
def State.arrayHeader (s : State) (cs : List Char) : Except Error (State × List Char) := do
  let (k, rest) ← key s.calls (skipSpace cs)
  if covers s.frozen k then throw (problemAt rest (.immutable k))
  let free (keys : List Key) := keys.filter fun d => !k.isPrefixOf d
  match changeTable true (appendTable (stem k)) (parent k) s.data with
  | none => throw (problemAt rest .overwrites)
  | some data =>
    match rest with
    | ']' :: ']' :: after =>
      return ({ s with
          data, header := k, declared := free s.declared ++ [k], frozen := free s.frozen },
        after)
    | _ => throw (problemAt rest .arrayEnd)

/-- Can a key start with this character? -/
def startsKey (c : Char) : Bool := isBare c || c == '"' || c == '\''

/-- One statement, if the text starts with one. -/
def State.statement (s : State) (cs : List Char) : Except Error (State × List Char) := do
  match cs with
  | [] => return (s, cs)
  | c :: rest =>
    if startsKey c then
      let (s, rest) ← s.pair cs
      return (s, skipSpace rest)
    else if c = '[' then
      let s := s.settle
      let (s, rest) ← match rest with
        | '[' :: rest => s.arrayHeader rest
        | rest => s.tableHeader rest
      return (s, skipSpace rest)
    else if c = '#' then return (s, cs)
    else throw (problemAt cs .invalidStatement)

/-- The statements of the text, line by line. -/
def statements : Nat → State → List Char → Except Error State
  | 0, s, _ => .ok s
  | calls + 1, s, cs =>
    match skipSpace cs with
    | [] => .ok s
    | '\n' :: rest => statements calls s rest
    | cs => do
      let (s, rest) ← s.statement cs
      let rest ← skipComment rest
      match rest with
      | [] => return s
      | '\n' :: rest => statements calls s rest
      | rest => throw (problemAt rest .statementEnd)

/-- Turns every carriage return with a line feed into a line feed. -/
def joinLineEnds : List Char → List Char
  | '\r' :: '\n' :: cs => '\n' :: joinLineEnds cs
  | c :: cs => c :: joinLineEnds cs
  | [] => []

/-- Reads a document; the text has its line ends joined. -/
def read (cs : List Char) : Except Error Table :=
  let calls := cs.length + 1
  (statements calls { calls } cs).map State.data

end Marginalia.Toml
