import Marginalia.Fragment

/-!
# Languages

A language entry says how comments look in one or more languages: fragments for comments up to the
end of a line, for comments between delimiters, and for blocks that are stepped over because what
looks like a comment in them is none (string literals).  The order of the fragments matters: at one
position the first that matches wins.
-/

namespace Marginalia

/-- The comment grammar of the languages with the given identifiers.  The identifiers are a set,
kept in increasing order. -/
structure Language where
  ids : List String
  lineComments : List Fragment := []
  blockComments : List Fragment := []
  skippedBlocks : List Fragment := []
deriving Repr

/-- Why a language entry cannot be used. -/
inductive GrammarError
  | notTable (kind : String)
  | notList (key : String)
  | notText (key : String) (item : Value)
  | noIds
deriving Repr

/-- The wording of a grammar error. -/
def GrammarError.message : GrammarError → String
  | .notTable kind => "language entry must be a table, got " ++ kind
  | .notList key => key ++ " must be a list of strings"
  | .notText key item => key ++ " must be a list of strings, got " ++ item.literal
  | .noIds => "language entry has no languageIds"

namespace Language

/-- How diagnostics call a language that stands where it should not. -/
def typeName : String := "LanguageDescriptor"

/-! ## Sets of identifiers -/

/-- Puts an identifier into an increasing list, unless it is there. -/
def insertId (x : String) : List String → List String
  | [] => [x]
  | y :: ys => if x = y then y :: ys else if x < y then x :: y :: ys else y :: insertId x ys

/-- The identifiers in increasing order, each once. -/
def idSet (ids : List String) : List String := ids.foldr insertId []

/-- Does the language go by this tag? -/
def hasTag (l : Language) (tag : String) : Bool := l.ids.contains tag

/-! ## Entries of a configuration -/

/-- The value under one of two spellings of a key; the later one in the table counts. -/
def field? (entries : List (String × Value)) (key other : String) : Value :=
  match entries.reverse.find? fun e => e.1 == key || e.1 == other with
  | some (_, v) => v
  | none => .null

/-- Checks that all items are texts. -/
def textItems (key : String) : List Value → Except GrammarError (List String)
  | [] => .ok []
  | .str s :: vs => do return s :: (← textItems key vs)
  | v :: _ => .error (.notText key v)

/-- A list of texts; a missing one is empty, and a text is not taken apart. -/
def texts (key : String) (v : Value) : Except GrammarError (List String) :=
  match v with
  | .null => .ok []
  | .str _ => .error (.notList key)
  | v =>
    match v.elements? with
    | some items => textItems key items
    | none => .error (.notList key)

theorem texts_list (key : String) (xs : List String) : texts key (.list (xs.map .str)) = .ok xs := by
  have hitems : textItems key (xs.map .str) = .ok xs := by
    induction xs with
    | nil => rfl
    | cons x xs ih =>
      rw [List.map_cons, textItems, ih]
      rfl
  exact hitems

/-- The language of a configuration entry.  Keys may be written in camel case or with underscores.
-/
def ofConfig (v : Value) : Except GrammarError Language :=
  match v with
  | .table entries => do
    let ids ← texts "languageIds" (field? entries "languageIds" "language_ids")
    if ids.isEmpty then throw .noIds
    let line ← texts "lineComments" (field? entries "lineComments" "line_comments")
    let block ← texts "blockComments" (field? entries "blockComments" "block_comments")
    let skipped ← texts "skippedBlocks" (field? entries "skippedBlocks" "skipped_blocks")
    return { ids := idSet ids, lineComments := line.map .text, blockComments := block.map .text,
             skippedBlocks := skipped.map .text }
  | v => .error (.notTable v.kindName)

/-- The fragments as configuration data. -/
def fragmentList (fs : List Fragment) : Value := .list (fs.map Fragment.toValue)

/-- The language as a configuration entry. -/
def toConfig (l : Language) : List (String × Value) :=
  [("languageIds", .list (l.ids.map .str)), ("lineComments", fragmentList l.lineComments),
   ("blockComments", fragmentList l.blockComments), ("skippedBlocks", fragmentList l.skippedBlocks)]

end Language

end Marginalia
