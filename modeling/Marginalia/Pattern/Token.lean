/-!
# The text of a pattern as tokens

A pattern is read token by token: a token is one character, or a backslash together with the
character after it.  A backslash at the very end has nothing to escape; it is no token, and whoever
steps onto it reports it.
-/

namespace Marginalia.Pattern

/-- One character of a pattern, with the backslash before it if there is one, and where it stands.
-/
structure Token where
  char : Char
  escaped : Bool
  position : Nat
deriving DecidableEq, Repr

namespace Token

/-- Is the token this character, without a backslash? -/
def is (t : Token) (c : Char) : Bool := !t.escaped && t.char == c

/-- The characters of the token. -/
def text (t : Token) : List Char := if t.escaped then ['\\', t.char] else [t.char]

end Token

/-- The tokens of a text that starts at the given position. -/
def tokens : Nat → List Char → List Token
  | _, [] => []
  | _, ['\\'] => []
  | p, '\\' :: c :: cs => ⟨c, true, p⟩ :: tokens (p + 2) cs
  | p, c :: cs => ⟨c, false, p⟩ :: tokens (p + 1) cs

/-- Does the text end in a backslash that escapes nothing? -/
def endsDangling : List Char → Bool
  | [] => false
  | ['\\'] => true
  | '\\' :: _ :: cs => endsDangling cs
  | _ :: cs => endsDangling cs

end Marginalia.Pattern
