/-!
# Arguments

Arguments are options and operands, in any order.  A long option starts with two hyphens and takes
its value after an equals sign or as the next argument; a short option is one hyphen and a letter
and takes its value from the rest of its argument or as the next argument.  Two hyphens alone end
the options, and one hyphen alone is an operand.
-/

namespace Marginalia.Command

/-- An option: its key, how it is written, whether it takes a value, and whether that is a path. -/
structure OptionSpec where
  key : String
  long : String
  short : Option Char := none
  takesValue : Bool := false
  isPath : Bool := false
deriving DecidableEq, Repr

/-- The options and operands of a command line, in order. -/
structure Arguments where
  options : List (String × String) := []
  operands : List String := []
deriving DecidableEq, Repr

namespace Arguments

/-- Puts an option in front. -/
def withOption (key value : String) (a : Arguments) : Arguments :=
  { a with options := (key, value) :: a.options }

/-- Puts an operand in front. -/
def withOperand (operand : String) (a : Arguments) : Arguments :=
  { a with operands := operand :: a.operands }

/-- Is an option there? -/
def has (a : Arguments) (key : String) : Bool := a.options.any (·.1 == key)

/-- All values of an option. -/
def values (a : Arguments) (key : String) : List String :=
  (a.options.filter (·.1 == key)).map Prod.snd

/-- The last value of an option. -/
def value? (a : Arguments) (key : String) : Option String := (a.values key).getLast?

end Arguments

/-- What one argument is. -/
inductive Argument
  | operand
  | endOfOptions
  | flag (key : String)
  /-- An option with its value in the same argument. -/
  | complete (key value : String)
  /-- An option whose value is the next argument. -/
  | open (key : String)
  | unknown
deriving DecidableEq, Repr

/-- The text before the first equals sign, and the text after it if there is one. -/
def splitEquals (cs : List Char) : List Char × Option (List Char) :=
  let name := cs.takeWhile (· != '=')
  match cs.drop name.length with
  | '=' :: value => (name, some value)
  | _ => (name, none)

/-- A long option. -/
def longOption (specs : List OptionSpec) (cs : List Char) : Argument :=
  let (name, value) := splitEquals cs
  match specs.find? (·.long == String.ofList name) with
  | none => .unknown
  | some s =>
    match s.takesValue, value with
    | true, some v => .complete s.key (String.ofList v)
    | true, none => .open s.key
    | false, none => .flag s.key
    | false, some _ => .unknown

/-- A short option: its letter and the rest of its argument. -/
def shortOption (specs : List OptionSpec) (letter : Char) (rest : List Char) : Argument :=
  match specs.find? (·.short == some letter) with
  | none => .unknown
  | some s => if rest.isEmpty then .open s.key else .complete s.key (String.ofList rest)

/-- What an argument is. -/
def classify (specs : List OptionSpec) (arg : String) : Argument :=
  match arg.toList with
  | ['-', '-'] => .endOfOptions
  | '-' :: '-' :: cs => longOption specs ('-' :: '-' :: cs)
  | '-' :: letter :: rest => shortOption specs letter rest
  | _ => .operand

/-- Reads arguments; `none` if they cannot be used. -/
def Arguments.read (specs : List OptionSpec) : List String → Option Arguments
  | [] => some {}
  | arg :: args =>
    match classify specs arg with
    | .operand => (Arguments.read specs args).map (·.withOperand arg)
    | .endOfOptions => some { operands := args }
    | .flag key => (Arguments.read specs args).map (·.withOption key "")
    | .complete key value => (Arguments.read specs args).map (·.withOption key value)
    | .open key =>
      match args with
      | [] => none
      | value :: args => (Arguments.read specs args).map (·.withOption key value)
    | .unknown => none

end Marginalia.Command
