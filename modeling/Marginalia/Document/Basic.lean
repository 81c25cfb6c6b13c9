import Marginalia.Document.Position
import Marginalia.Text.Quoted
import Marginalia.Text.Slice

/-!
# Documents

A document has a text, a language tag and an address.  Its text can be missing, and it can be
unreadable although it is there.  Documents are told apart by identity: a `DocRef` is the place of a
document among all documents of its host, and the reference to no document is `none`.
-/

namespace Marginalia

/-- A document of the host. -/
structure Document where
  text : Option String
  language : String := "plaintext"
  uri : String := ""
  readable : Bool := true
deriving DecidableEq, Repr

/-- A reference to a document, or to none. -/
abbrev DocRef := Option Nat

/-- What cannot be done with a document that has no text. -/
inductive DocumentError
  | noLines
  | noLength
deriving DecidableEq, Repr

/-- The wording of a document error. -/
def DocumentError.message : DocumentError → String
  | .noLines => "'NoneType' object is not iterable"
  | .noLength => "object of type 'NoneType' has no len()"

namespace Document

/-- The characters of the text. -/
def chars (d : Document) : List Char := (d.text.getD "").toList

/-- The starts of the lines; a document without text has one line. -/
def starts (d : Document) : List Nat := lineStarts d.chars

/-- The number of lines. -/
def lineCount (d : Document) : Nat := d.starts.length

/-- Replaces the text.  A missing text replaces it too, but cannot be divided into lines. -/
def setText (d : Document) (text : Option String) : Document × Except DocumentError Unit :=
  ({ d with text }, if text.isSome then .ok () else .error .noLines)

/-- The position of an offset, which is first moved into the text. -/
def position (d : Document) (offset : Int) : Except DocumentError Position :=
  match d.text with
  | none => .error .noLength
  | some t => .ok (positionIn d.starts (min offset.toNat t.length))

/-- The offset of a position. -/
def offset (d : Document) (p : Position) : Except DocumentError Nat :=
  match d.text with
  | some t => .ok (offsetIn d.starts t.length p)
  | none => if p.line < 0 then .ok 0 else .error .noLength

/-- The document as diagnostics show it. -/
def literal (d : Document) : String :=
  "TextDocument(uri=" ++ Text.quoted d.uri ++ ", language=" ++ Text.quoted d.language ++ ")"

end Document

end Marginalia
