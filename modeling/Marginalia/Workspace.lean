import Marginalia.Document.Basic

/-!
# Open documents

A workspace is the list of open documents, in the order in which they were opened, and the active
one among them.  A document can be open more than once.
-/

namespace Marginalia

/-- The open documents and the active one. -/
structure Workspace where
  documents : List DocRef
  active : DocRef
deriving DecidableEq, Repr

/-- Why a workspace refuses a document. -/
inductive WorkspaceError
  | notListed
  | notOpen (document : String)
deriving DecidableEq, Repr

/-- The wording of a workspace error. -/
def WorkspaceError.message : WorkspaceError → String
  | .notListed => "list.remove(x): x not in list"
  | .notOpen document => document ++ " is not open"

namespace Workspace

/-- The first of a list of documents. -/
def first (ds : List DocRef) : DocRef := ds.head?.getD none

/-- The workspace with these documents open; the first is active. -/
def ofDocuments (ds : List DocRef) : Workspace := ⟨ds, first ds⟩

/-- Opens a document.  It becomes active if no other is. -/
def openDoc (w : Workspace) (d : DocRef) : Workspace :=
  ⟨w.documents ++ [d], if w.active.isNone then d else w.active⟩

/-- Closes a document once.  If it was the active one, the first open document becomes active. -/
def closeDoc (w : Workspace) (d : DocRef) : Except WorkspaceError Workspace :=
  if w.documents.contains d then
    let rest := w.documents.erase d
    .ok ⟨rest, if w.active = d then first rest else w.active⟩
  else .error .notListed

/-- Makes an open document active; `shown` is how diagnostics show it. -/
def setActive (w : Workspace) (d : DocRef) (shown : String) : Except WorkspaceError Workspace :=
  if w.documents.contains d then .ok { w with active := d } else .error (.notOpen shown)

end Workspace

end Marginalia
