import Marginalia.Proofs.Extraction.Coverage
import Marginalia.Proofs.Registry.Accepted
import Marginalia.Scan

/-!
# Texts on which extraction ends

A pass makes no more rounds than the text has positions, while the loop that it stands for stops only
where nothing more is found.  On a text on which the loop ends, the pass consumes what the loop
consumes (`Descriptor.Ends.exhausts`); on any other text it is cut off, and what it returns says
nothing about the loop.  So what is said of the scan of a document is said of documents with which the
loops end (`Registry.EndsOn`).

The loop over annotations always ends.  The loop over comments ends as well, unless a pattern has a
possessive repeat of more than one character (`Registry.Compiled.endsOn`).
-/

namespace Marginalia

/-! ## One descriptor -/

section

variable {d : Descriptor} {text : Array Char}

/-- One of the two patterns of the descriptor has a possessive repeat of more than one character. -/
def Descriptor.MayGoBack (d : Descriptor) : Prop :=
  (∃ c, d.commentMatcher = some c ∧ c.pattern.root.keepsPlace = false) ∨
    ∃ m, d.annotationMatcher = some m ∧ m.pattern.root.keepsPlace = false

/-- The loops over the comments of the text and over annotations end. -/
structure Descriptor.Ends (d : Descriptor) (text : Array Char) : Prop where
  comments : ∀ c, d.commentMatcher = some c → ∃ hits broken, (c.scanner text).Runs 0 hits broken
  annotations : ∀ m, d.annotationMatcher = some m → ∀ body, ∃ hits broken,
    (m.scanner body).Runs 0 hits broken

/-- What the passes over the comments of the text and over annotations return is what the loops
consume until they end. -/
structure Descriptor.Exhausts (d : Descriptor) (text : Array Char) : Prop where
  comments : ∀ c, d.commentMatcher = some c →
    (c.scanner text).Runs 0 (c.pass text).1 (c.pass text).2
  annotations : ∀ m, d.annotationMatcher = some m → ∀ (body : Array Char) (offset : Int),
    ∃ hits broken, (m.scanner body).Runs 0 hits broken ∧
      annotationsIn (some m) body offset = outcome (reportedHits offset hits, broken)

/-- Where the loops end, the passes are not cut off. -/
theorem Descriptor.Ends.exhausts (h : d.Ends text) : d.Exhausts text where
  comments c hc := by
    obtain ⟨hits, broken, hruns⟩ := h.comments c hc
    rw [(CommentMatcher.comments_of_runs hruns).1]
    exact hruns
  annotations m hm body offset := by
    obtain ⟨hits, broken, hruns⟩ := h.annotations m hm body
    exact ⟨hits, broken, hruns, AnnotationMatcher.annotationsIn_of_runs hruns offset⟩

/-- With patterns that keep their places the loops end on every text. -/
theorem Descriptor.IsFor.ends {names : List String} (hd : d.IsFor names) (hback : ¬d.MayGoBack)
    (text : Array Char) : d.Ends text := by
  obtain ⟨kinds, m, c, hm, hc, hd, -⟩ := hd
  rw [hd] at hback ⊢
  refine ⟨?_, ?_⟩
  · rintro _ ⟨⟩
    have hplace : c.pattern.root.keepsPlace = true := by
      by_contra hplace
      exact hback (.inl ⟨c, rfl, Bool.eq_false_iff.mpr hplace⟩)
    exact ⟨_, _, CommentMatcher.runs_pass hc fun x hx =>
      CommentMatcher.forward_of_mem_pass hc hplace hx⟩
  · rintro _ ⟨⟩ body
    exact AnnotationMatcher.exists_runs hm body

end

/-! ## The descriptors of a registry -/

namespace Registry

variable {r : Registry}

/-- The loops of the descriptors for the document's language end on its text, if it can be read. -/
def EndsOn (r : Registry) (doc : Document) : Prop :=
  ∀ text, doc.readText = .ok text → ∀ d ∈ r.languagesFor doc.language, d.Ends text.toArray

/-- The passes of these descriptors return what the loops consume. -/
def Exhausts (r : Registry) (doc : Document) : Prop :=
  ∀ text, doc.readText = .ok text → ∀ d ∈ r.languagesFor doc.language, d.Exhausts text.toArray

theorem EndsOn.exhausts {doc : Document} (h : r.EndsOn doc) : r.Exhausts doc :=
  fun text htext d hd => (h text htext d hd).exhausts

/-- Do the patterns of all descriptors keep their places? -/
def keepsPlace (r : Registry) : Bool :=
  r.languages.all fun d => d.commentMatcher.all (·.pattern.root.keepsPlace) &&
    d.annotationMatcher.all (·.pattern.root.keepsPlace)

theorem not_mayGoBack (h : r.keepsPlace = true) {d : Descriptor} (hd : d ∈ r.languages) :
    ¬d.MayGoBack := by
  obtain ⟨hcomments, hannotations⟩ := Bool.and_eq_true_iff.mp (List.all_eq_true.mp h d hd)
  rintro (⟨c, hc, hplace⟩ | ⟨m, hm, hplace⟩)
  · rw [hc, Option.all_some, hplace] at hcomments
    cases hcomments
  · rw [hm, Option.all_some, hplace] at hannotations
    cases hannotations

/-- Extraction with a compiled descriptor ends, or it has a pattern that may go back. -/
theorem Compiled.mayGoBack_or_ends (hr : r.Compiled) {d : Descriptor} (hd : d ∈ r.languages) :
    d.MayGoBack ∨ ∀ text, d.Ends text := by
  obtain ⟨names, hfor⟩ := hr
  by_cases hback : d.MayGoBack
  · exact .inl hback
  · exact .inr ((hfor d hd).ends hback)

/-- With patterns that keep their places extraction ends on every document. -/
theorem Compiled.endsOn (hr : r.Compiled) (h : r.keepsPlace = true) (doc : Document) :
    r.EndsOn doc := by
  intro text _ d hd
  have hmem : d ∈ r.languages := (List.mem_filter.mp hd).1
  exact (hr.mayGoBack_or_ends hmem).resolve_left (not_mayGoBack h hmem) text.toArray

end Registry

end Marginalia
