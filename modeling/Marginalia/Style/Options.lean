import Marginalia.Value.Key

/-!
# Options of a style

The options of a style are keys with values, in order.  They come from a table, or from a list of
pairs, in which a later value of a key takes the place of an earlier one.
-/

namespace Marginalia.Style

/-- Keys and values of a style. -/
abbrev Options := List (Value × Value)

/-- Why a value gives no options. -/
inductive OptionsError
  | notIterable (kind : String)
  | notSequence (index : Nat)
  | wrongLength (index length : Nat)
  | unusableKey (kind : String)
deriving DecidableEq, Repr

/-- The wording of the error. -/
def OptionsError.message : OptionsError → String
  | .notIterable kind => Value.notIterableText kind
  | .notSequence i =>
    "cannot convert dictionary update sequence element #" ++ toString i ++ " to a sequence"
  | .wrongLength i n =>
    "dictionary update sequence element #" ++ toString i ++ " has length " ++ toString n ++
      "; 2 is required"
  | .unusableKey kind => Value.unusableKeyText kind

namespace Options

/-- The options of a table. -/
def ofTable (entries : List (String × Value)) : Options := entries.map fun (k, v) => (.str k, v)

/-- The options as a table; a key that is no text is written as one. -/
def toTable (options : Options) : List (String × Value) := options.map fun (k, v) => (k.text, v)

/-- The value of an option. -/
def get? (options : Options) (key : String) : Option Value :=
  (options.find? fun e => e.1.sameKey (.str key)).map Prod.snd

/-- Sets an option in its place, or at the end. -/
def put (key value : Value) : Options → Options
  | [] => [(key, value)]
  | (k, v) :: options =>
    if k.sameKey key then (k, value) :: options else (k, v) :: put key value options

/-- The options of a list of pairs, the first of which has the given index, after those in `done`.
-/
def ofPairs (index : Nat) (done : Options) : List Value → Except OptionsError Options
  | [] => .ok done
  | item :: items =>
    match item.elements? with
    | none => .error (.notSequence index)
    | some [key, value] =>
      match key.unusableKey? with
      | some kind => .error (.unusableKey kind)
      | none => ofPairs (index + 1) (put key value done) items
    | some parts => .error (.wrongLength index parts.length)

/-- The options that a value gives. -/
def ofValue : Value → Except OptionsError Options
  | .table entries => .ok (ofTable entries)
  | v =>
    match v.elements? with
    | some items => ofPairs 0 [] items
    | none => .error (.notIterable v.kindName)

end Options

end Marginalia.Style
