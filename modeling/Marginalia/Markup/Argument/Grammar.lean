import Marginalia.Markup.Argument.Token

/-!
# Expressions as arguments

`check` says whether a text is an expression, and if not, what is wrong with it.  Only the form of
an expression is checked: names, texts, numbers, operators, calls, tuples, sets and dictionaries.

The tokens are read twice.  The first reading only decides whether they form an expression; it ends
with a fault if it comes to a token that is one.  The second reading is done for the sake of the
message: it also looks for common mistakes, such as a missing comma.  If it finds none, the
expression is just invalid.  A fault of a later token is more telling than any of this, unless it is
only that the text ends too early.
-/

namespace Marginalia.Markup.Argument

/-- What an expression is. -/
inductive Kind
  | name (text : String)
  | constant (text : String)
  | literal
  | attribute
  | call
  | operation
  | comparison
  | boolean
  | conditional
  | tuple
  | dictionary
  | set
  | named
deriving DecidableEq, Repr

/-- What an expression is called in diagnostics. -/
def Kind.text : Kind → String
  | .name _ => "name"
  | .constant t => t
  | .literal => "literal"
  | .attribute => "attribute"
  | .call => "function call"
  | .operation => "expression"
  | .comparison => "comparison"
  | .boolean => "expression"
  | .conditional => "conditional expression"
  | .tuple => "tuple"
  | .dictionary => "dict literal"
  | .set => "set display"
  | .named => "named expression"

/-- Is the expression free of comparisons and of what binds less than they do? -/
def Kind.bindsTightly : Kind → Bool
  | .comparison => false
  | .boolean => false
  | .conditional => false
  | .named => false
  | _ => true

/-- The words that are not names. -/
def keywords : List String :=
  ["False", "None", "True", "and", "as", "assert", "async", "await", "break", "class", "continue",
   "def", "del", "elif", "else", "except", "finally", "for", "from", "global", "if", "import", "in",
   "is", "lambda", "nonlocal", "not", "or", "pass", "raise", "return", "try", "while", "with",
   "yield"]

/-- The words that are names only in some places. -/
def softKeywords : List String := ["_", "case", "match"]

/-- The names that were statements once. -/
def formerStatements : List String := ["print", "exec"]

/-- An expression and the position after it. -/
structure Parsed where
  kind : Kind
  next : Nat
deriving DecidableEq, Repr

/-- The attempt to read an expression: a fault, nothing, or the expression. -/
abbrev Attempt := Except Fault (Option Parsed)

/-- The tokens, and whether mistakes are looked for. -/
structure Source where
  tokens : Array Lexeme
  checks : Bool

namespace Source

/-- The token at a position; coming to a fault is one. -/
def peek (s : Source) (i : Nat) : Except Fault Token :=
  match s.tokens[i]? with
  | none => .ok .stop
  | some l =>
    match l.token with
    | .fault f => .error f
    | t => .ok t

/-- Is the token this symbol? -/
def isSymbol (s : Source) (i : Nat) (text : String) : Except Fault Bool :=
  return (← s.peek i) == .symbol text

/-- Is the token this word? -/
def isWord (s : Source) (i : Nat) (text : String) : Except Fault Bool :=
  return (← s.peek i) == .name text

/-- The name at a position. -/
def name? (s : Source) (i : Nat) : Except Fault (Option String) := do
  match ← s.peek i with
  | .name n => return if keywords.contains n then none else some n
  | _ => return none

/-- The number of brackets open after the token before a position. -/
def depthBefore (s : Source) (i : Nat) : Nat := ((s.tokens[i - 1]?).map (·.depth)).getD 0

/-- The source without a look for mistakes. -/
def unchecked (s : Source) : Source := { s with checks := false }

/-- The operators of each level, from those that bind least on. -/
def operators (level : Nat) : List String :=
  match level with
  | 4 => ["|"]
  | 5 => ["^"]
  | 6 => ["&"]
  | 7 => ["<<", ">>"]
  | 8 => ["+", "-"]
  | 9 => ["*", "/", "//", "%", "@"]
  | _ => []

/-- The position after an operator of the level, and what it makes of its operands. -/
def operator? (s : Source) (level i : Nat) : Except Fault (Option (Nat × Kind)) := do
  match ← s.peek i with
  | .name "or" => return if level = 0 then some (i + 1, .boolean) else none
  | .name "and" => return if level = 1 then some (i + 1, .boolean) else none
  | .name "in" => return if level = 3 then some (i + 1, .comparison) else none
  | .name "not" =>
    if level = 3 then return if ← s.isWord (i + 1) "in" then some (i + 2, .comparison) else none
    else return none
  | .name "is" =>
    if level = 3 then
      return some (if ← s.isWord (i + 1) "not" then i + 2 else i + 1, .comparison)
    else return none
  | .symbol t =>
    if level = 3 && ["==", "!=", "<=", "<", ">=", ">"].contains t then
      return some (i + 1, .comparison)
    else return if (operators level).contains t then some (i + 1, .operation) else none
  | _ => return none

/-- Refuses an assignment where an expression is meant: one with the sign of equality after the
expression `e`, which starts at `i`. -/
def refuseAssignment (s : Source) (operand : Nat → Attempt) (i : Nat) (e : Parsed) :
    Except Fault Unit := do
  if !s.checks || !(← s.isSymbol e.next "=") || !e.kind.bindsTightly then return ()
  let excluded := match e.kind with
    | .tuple => true
    | .constant t => t != "ellipsis"
    | _ => false
  match ← operand (e.next + 1) with
  | none => return ()
  | some v =>
    if (← s.isSymbol v.next "=") || (← s.isSymbol v.next ":=") then return ()
    if (← s.name? i).isSome && e.next == i + 1 then throw .assignment
    if !excluded then throw (.assignmentTo e.kind.text)

mutual

/-- An expression. -/
def expression : Nat → Source → Nat → Attempt
  | 0, _, _ => .ok none
  | fuel + 1, s, i => do
    let d ← binary fuel s 0 i
    if s.checks then
      match d with
      | some a =>
        missingComma fuel s i a
        missingElse fuel s a
      | none => pure ()
      formerStatement fuel s i
    match d with
    | none => return none
    | some a =>
      if ← s.isWord a.next "if" then
        match ← binary fuel s 0 (a.next + 1) with
        | some b =>
          if ← s.isWord b.next "else" then
            match ← expression fuel s (b.next + 1) with
            | some c => return some ⟨.conditional, c.next⟩
            | none => return some a
          else return some a
        | none => return some a
      else return some a

/-- Two expressions in a row inside brackets lack a comma. -/
def missingComma : Nat → Source → Nat → Parsed → Except Fault Unit
  | 0, _, _, _ => .ok ()
  | fuel + 1, s, i, a => do
    match ← s.peek i with
    | .name n =>
      if softKeywords.contains n then return ()
      if !keywords.contains n && (← s.peek (i + 1)) == .text then return ()
    | _ => pure ()
    match ← expression fuel s.unchecked a.next with
    | none => return ()
    | some b =>
      let former := match a.kind with
        | .name n => formerStatements.contains n
        | _ => false
      if !former && s.depthBefore b.next != 0 then throw .missingComma

/-- A condition needs an alternative. -/
def missingElse : Nat → Source → Parsed → Except Fault Unit
  | 0, _, _ => .ok ()
  | fuel + 1, s, a => do
    if ← s.isWord a.next "if" then
      match ← binary fuel s 0 (a.next + 1) with
      | some b =>
        if !(← s.isWord b.next "else") && !(← s.isSymbol b.next ":") then throw .missingElse
      | none => return ()

/-- What was a statement once is called like a function. -/
def formerStatement : Nat → Source → Nat → Except Fault Unit
  | 0, _, _ => .ok ()
  | fuel + 1, s, i => do
    match ← s.name? i with
    | some n =>
      if formerStatements.contains n && !(← s.isSymbol (i + 1) "(") then
        let start := if ← s.isSymbol (i + 1) "*" then i + 2 else i + 1
        if (← expression fuel s start).isSome then throw (.missingParentheses n)
    | none => return ()

/-- Operands and operators from a level on. -/
def binary : Nat → Source → Nat → Nat → Attempt
  | 0, _, _, _ => .ok none
  | fuel + 1, s, level, i => do
    if level = 2 then
      if ← s.isWord i "not" then
        return (← binary fuel s 2 (i + 1)).map fun e => ⟨.boolean, e.next⟩
      else binary fuel s 3 i
    else if level = 10 then
      match ← s.peek i with
      | .symbol t =>
        if t = "+" ∨ t = "-" ∨ t = "~" then
          return (← binary fuel s 10 (i + 1)).map fun e => ⟨.operation, e.next⟩
        else binary fuel s 11 i
      | _ => binary fuel s 11 i
    else if 11 ≤ level then
      match ← atom fuel s i with
      | none => return none
      | some a =>
        let p ← suffixes fuel s a
        if ← s.isSymbol p.next "**" then
          match ← binary fuel s 10 (p.next + 1) with
          | some e => return some ⟨.operation, e.next⟩
          | none => return some p
        else return some p
    else
      match ← binary fuel s (level + 1) i with
      | none => return none
      | some left => return some (← operations fuel s level left)

/-- Further operands of a level. -/
def operations : Nat → Source → Nat → Parsed → Except Fault Parsed
  | 0, _, _, left => .ok left
  | fuel + 1, s, level, left => do
    match ← s.operator? level left.next with
    | none => return left
    | some (next, kind) =>
      match ← binary fuel s (level + 1) next with
      | none => return left
      | some right => operations fuel s level ⟨kind, right.next⟩

/-- Attributes and calls after an expression. -/
def suffixes : Nat → Source → Parsed → Except Fault Parsed
  | 0, _, p => .ok p
  | fuel + 1, s, p => do
    if ← s.isSymbol p.next "." then
      if (← s.name? (p.next + 1)).isSome then suffixes fuel s ⟨.attribute, p.next + 2⟩
      else return p
    else if ← s.isSymbol p.next "(" then
      match ← arguments fuel s (p.next + 1) with
      | some next => suffixes fuel s ⟨.call, next⟩
      | none => return p
    else return p

/-- The arguments of a call up to its closing parenthesis: the position after it. -/
def arguments : Nat → Source → Nat → Except Fault (Option Nat)
  | 0, _, _ => .ok none
  | fuel + 1, s, i => do
    if ← s.isSymbol i ")" then return some (i + 1)
    let starred := (← s.isSymbol i "*") || (← s.isSymbol i "**")
    let keyed := (← s.name? i).isSome && (← s.isSymbol (i + 1) "=")
    let start := if starred then i + 1 else if keyed then i + 2 else i
    match ← expression fuel s start with
    | none => return none
    | some e =>
      if ← s.isSymbol e.next "," then arguments fuel s (e.next + 1)
      else if ← s.isSymbol e.next ")" then return some (e.next + 1)
      else return none

/-- An expression that may be given a name. -/
def namedExpression : Nat → Source → Nat → Attempt
  | 0, _, _ => .ok none
  | fuel + 1, s, i => do
    if (← s.name? i).isSome && (← s.isSymbol (i + 1) ":=") then
      return (← expression fuel s (i + 2)).map fun e => ⟨.named, e.next⟩
    match ← expression fuel s i with
    | none => return none
    | some e =>
      if ← s.isSymbol e.next ":=" then
        if s.checks && (← expression fuel s (e.next + 1)).isSome then
          throw (.namedExpression e.kind.text)
        return none
      s.refuseAssignment (binary fuel s 4) i e
      return some e

/-- An element of a tuple or set; it may have a star. -/
def element : Nat → Source → Nat → Attempt
  | 0, _, _ => .ok none
  | fuel + 1, s, i => do
    if ← s.isSymbol i "*" then binary fuel s 4 (i + 1) else namedExpression fuel s i

/-- Elements up to a closing bracket: the position after it. -/
def elements : Nat → Source → String → Nat → Except Fault (Option Nat)
  | 0, _, _, _ => .ok none
  | fuel + 1, s, close, i => do
    if ← s.isSymbol i close then return some (i + 1)
    match ← element fuel s i with
    | none => return none
    | some e =>
      if ← s.isSymbol e.next "," then elements fuel s close (e.next + 1)
      else if ← s.isSymbol e.next close then return some (e.next + 1)
      else return none

/-- What stands in parentheses, after the opening one. -/
def parenthesised : Nat → Source → Nat → Attempt
  | 0, _, _ => .ok none
  | fuel + 1, s, i => do
    if ← s.isSymbol i ")" then return some ⟨.tuple, i + 1⟩
    if ← s.isSymbol i "**" then
      if s.checks then
        match ← expression fuel s (i + 1) with
        | some e => if ← s.isSymbol e.next ")" then throw .doubleStarred
        | none => pure ()
      return none
    let starred ← s.isSymbol i "*"
    match ← element fuel s i with
    | none => return none
    | some e =>
      if ← s.isSymbol e.next "," then
        return (← elements fuel s ")" (e.next + 1)).map fun next => ⟨.tuple, next⟩
      else if ← s.isSymbol e.next ")" then
        if starred then
          if s.checks then throw .starred
          return none
        return some ⟨e.kind, e.next + 1⟩
      else return none

/-- An entry of a dictionary: the position after it. -/
def entry : Nat → Source → Nat → Except Fault (Option Nat)
  | 0, _, _ => .ok none
  | fuel + 1, s, i => do
    if ← s.isSymbol i "**" then return (← binary fuel s 4 (i + 1)).map (·.next)
    match ← expression fuel s i with
    | none => return none
    | some k =>
      if ← s.isSymbol k.next ":" then return (← expression fuel s (k.next + 1)).map (·.next)
      else return none

/-- Looks for a mistake in an entry of a dictionary; `later` says that others stand before it. -/
def badEntry : Nat → Source → Bool → Nat → Except Fault Unit
  | 0, _, _, _ => .ok ()
  | fuel + 1, s, later, i => do
    match ← expression fuel s i with
    | none => return ()
    | some k =>
      if !(← s.isSymbol k.next ":") then
        if later then throw .missingColon
        return ()
      if ← s.isSymbol (k.next + 1) "*" then
        if (← binary fuel s 4 (k.next + 2)).isSome then throw .starredValue
      if (← s.isSymbol (k.next + 1) "\x7d") || (← s.isSymbol (k.next + 1) ",") then
        throw .missingValue

/-- The entries of a dictionary up to its closing brace: the position after it. -/
def entries : Nat → Source → Bool → Nat → Except Fault (Option Nat)
  | 0, _, _, _ => .ok none
  | fuel + 1, s, later, i => do
    if ← s.isSymbol i "\x7d" then return some (i + 1)
    match ← entry fuel s i with
    | none =>
      if s.checks then badEntry fuel s later i
      return none
    | some next =>
      if ← s.isSymbol next "," then entries fuel s true (next + 1)
      else if ← s.isSymbol next "\x7d" then return some (next + 1)
      else return none

/-- An expression without operators. -/
def atom : Nat → Source → Nat → Attempt
  | 0, _, _ => .ok none
  | fuel + 1, s, i => do
    match ← s.peek i with
    | .name n =>
      if ["True", "False", "None"].contains n then return some ⟨.constant n, i + 1⟩
      else if keywords.contains n then return none
      else return some ⟨.name n, i + 1⟩
    | .number => return some ⟨.literal, i + 1⟩
    | .text => texts fuel s (i + 1)
    | .symbol "..." => return some ⟨.constant "ellipsis", i + 1⟩
    | .symbol "(" => parenthesised fuel s (i + 1)
    | .symbol "\x7b" =>
      match ← entries fuel s false (i + 1) with
      | some next => return some ⟨.dictionary, next⟩
      | none => return (← elements fuel s "\x7d" (i + 1)).map fun next => ⟨.set, next⟩
    | _ => return none

/-- Further quoted texts, which belong together. -/
def texts : Nat → Source → Nat → Attempt
  | 0, _, _ => .ok none
  | fuel + 1, s, i => do
    if (← s.peek i) == .text then texts fuel s (i + 1) else return some ⟨.literal, i⟩

/-- Expressions with commas between them, up to the end: is it reached? -/
def whole : Nat → Source → Nat → Except Fault Bool
  | 0, _, _ => .ok false
  | fuel + 1, s, i => do
    match ← expression fuel s i with
    | none => return false
    | some e =>
      if ← s.isSymbol e.next "," then
        if (← s.peek (e.next + 1)) == .newline then return true
        whole fuel s (e.next + 1)
      else return (← s.peek e.next) == .newline && (← s.peek (e.next + 1)) == .stop

end

end Source

/-- The fault in which the tokens end, if it says more than that the text ends too early. -/
def hardFault? (ls : List Lexeme) : Option Fault :=
  match ls.getLast?.map Lexeme.token with
  | some (.fault (.neverClosed _)) => none
  | some (.fault .unexpectedEnd) => none
  | some (.fault .strayBackslash) => none
  | some (.fault f) => some f
  | _ => none

/-- The bound on the calls that reading so many tokens takes. -/
def callLimit (tokens : Nat) : Nat := 40 * (tokens + 2)

/-- Checks that a text is an expression. -/
def check (cs : List Char) : Except Fault Unit :=
  let ls := lexemes cs
  let limit := callLimit ls.length
  match Source.whole limit ⟨ls.toArray, false⟩ 0 with
  | .error f => .error f
  | .ok true => .ok ()
  | .ok false =>
    match Source.whole limit ⟨ls.toArray, true⟩ 0 with
    | .error f => .error ((hardFault? ls).getD f)
    | .ok _ => .error ((hardFault? ls).getD .invalid)

end Marginalia.Markup.Argument
