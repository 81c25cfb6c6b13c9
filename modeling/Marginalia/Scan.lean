import Marginalia.Registry.Basic

/-!
# Scanning and painting a document

A scan runs every language that the document goes by, one after the other, and groups the
decorations of all hits by kind.  Every kind of the registry has a group, in the order of the
registry, also without hits.  Painting hands each group to the sink under the style of its kind.
-/

namespace Marginalia

/-- The hits of all descriptors, in order. -/
def hitsOfAll (text : Array Char) : List Descriptor → Except ScanError (List Hit)
  | [] => .ok []
  | d :: ds =>
    match d.annotations text with
    | .error e => .error e
    | .ok hs =>
      match hitsOfAll text ds with
      | .error e => .error e
      | .ok rest => .ok (hs ++ rest)

/-- The groups of a registry without any decorations. -/
def Registry.emptyGroups (r : Registry) : Decorations := r.kinds.map fun k => (k.spec.name, [])

/-- The decorations of hits, grouped by kind. -/
def Registry.group (r : Registry) (starts : List Nat) (size : Nat) (hits : List Hit) :
    Decorations :=
  r.kinds.map fun k =>
    (k.spec.name,
      (hits.filter (·.kind == k.spec.name)).map (·.decorate starts size k.spec.markdown))

/-- The text of a document, if it can be read. -/
def Document.readText (d : Document) : Except ScanError (List Char) :=
  if !d.readable then .error .unreadable
  else match d.text with
    | some t => .ok t.toList
    | none => .error .noText

/-- Scans a document with a registry.  The text is read only if some language applies. -/
def scan (doc : Document) (r : Registry) : Except ScanError Decorations :=
  let descriptors := r.languagesFor doc.language
  if descriptors.isEmpty then .ok r.emptyGroups
  else do
    let text ← doc.readText
    let hits ← hitsOfAll text.toArray descriptors
    match hits.find? fun h => (r.kind? h.kind).isNone with
    | some h => throw (.unknownKind h.kind)
    | none => return r.group (lineStarts text) text.length hits

/-- Why a document was not painted. -/
inductive PaintError
  | scan (error : ScanError)
  | disposed (error : DisposedStyle)
deriving Repr

/-- The wording of a paint error. -/
def PaintError.message : PaintError → String
  | .scan e => e.message
  | .disposed e => e.message

/-- Paints groups under the styles of their kinds, in order, up to the first that fails. -/
def paintGroups (document : DocRef) :
    List (Option Nat × List Decoration) → Sink → Except DisposedStyle Unit × Sink
  | [], s => (.ok (), s)
  | (handle, ds) :: rest, s =>
    match s.paint handle document ds with
    | .ok s => paintGroups document rest s
    | .error e => (.error e, s)

/-- Scans a document and paints every group, empty ones included. -/
def paintDocument (doc : Document) (document : DocRef) (r : Registry) (s : Sink) :
    Except PaintError Decorations × Sink :=
  match scan doc r with
  | .error e => (.error (.scan e), s)
  | .ok groups =>
    match paintGroups document ((r.kinds.map (·.handle)).zip (groups.map Prod.snd)) s with
    | (.error e, s) => (.error (.disposed e), s)
    | (.ok _, s) => (.ok groups, s)

end Marginalia
