import Marginalia.Proofs.Highlight.Marking
import Marginalia.Proofs.Registry.Checks

/-!
# Where a scan puts its decorations

With a registry that was built from tables, the scan of a document with a text breaks off where groups
cross, which takes a possessive repeat of more than one character, and for no other reason.  Otherwise
it returns the annotations of all descriptors for the document's language, one group for each kind,
in the order of the configuration, and the positions of each decoration lead back to its offsets
(`scan_inPlace`).

Offsets are moved into the text before their positions are taken, and positions into their lines.
Neither has an effect here, because an annotation is a part of the text (`Decoration.Shows.inPlace`).
-/

namespace Marginalia

/-! ## Decorations of annotations -/

/-- The decoration shows an annotation of the document: it has the offsets of the annotation and
their positions, and a hover with the value if the kind has hovers. -/
structure Decoration.Shows (doc : Document) (markdown : Bool) (x : Hit) (d : Decoration) : Prop where
  start : doc.position x.start = .ok d.span.start
  stop : doc.position x.stop = .ok d.span.stop
  startOffset : d.startOffset = x.start
  stopOffset : d.stopOffset = x.stop
  hover : d.hover = if markdown then some { value := x.value } else none

/-- The decoration is a part of the text that is not empty, and its positions are in order and lead
back to its offsets. -/
structure Decoration.InPlace (doc : Document) (d : Decoration) : Prop where
  isPart : d.IsPartOf doc.chars
  before : d.span.start.before d.span.stop = true
  start : (doc.offset d.span.start).map Int.ofNat = .ok d.startOffset
  stop : (doc.offset d.span.stop).map Int.ofNat = .ok d.stopOffset

/-- The groups show the annotations kind by kind. -/
def Registry.Shows (r : Registry) (doc : Document) (xs : List Hit) (groups : Decorations) : Prop :=
  List.Forall₂ (fun k g => g.1 = k.spec.name ∧
    List.Forall₂ (Decoration.Shows doc k.spec.markdown) (xs.filter (·.kind == k.spec.name)) g.2)
    r.kinds groups

section

variable {doc : Document} {text : String}

/-- A decoration shows its hit. -/
theorem Hit.shows_decorate (htext : doc.text = some text) (markdown : Bool) (x : Hit) :
    (x.decorate (lineStarts text.toList) text.toList.length markdown).Shows doc markdown x :=
  ⟨doc.position_eq htext x.start, doc.position_eq htext x.stop, rfl, rfl, rfl⟩

/-- Groups show all hits. -/
theorem Registry.shows_group (r : Registry) (htext : doc.text = some text) (xs : List Hit) :
    r.Shows doc xs (r.group (lineStarts text.toList) text.toList.length xs) := by
  refine List.forall₂_map_right_iff.mpr (List.forall₂_same.mpr fun k _ => ⟨rfl, ?_⟩)
  exact List.forall₂_map_right_iff.mpr
    (List.forall₂_same.mpr fun x _ => x.shows_decorate htext k.spec.markdown)

/-- There is a group for each kind. -/
theorem Registry.Shows.keys {r : Registry} {xs : List Hit} {groups : Decorations}
    (h : r.Shows doc xs groups) : groups.map Prod.fst = r.kindNames := by
  unfold Registry.kindNames
  unfold Shows at h
  generalize r.kinds = ks at h ⊢
  induction h with
  | nil => rfl
  | cons hg _ ih => rw [List.map_cons, List.map_cons, hg.1, ih]

/-- A decoration is in place if its hit is part of the text. -/
theorem Decoration.Shows.inPlace {markdown : Bool} {x : Hit} {d : Decoration}
    (h : d.Shows doc markdown x) (htext : doc.text = some text)
    (hx : x.IsPartOf text.toList.toArray) : d.InPlace doc := by
  have hnonneg : 0 ≤ x.start := hx.nonneg
  have hnonempty : x.start < x.stop := hx.nonempty
  have hle : x.stop ≤ text.toList.length := hx.stop_le
  obtain ⟨hstart, hback⟩ := doc.offset_of_position htext h.start hnonneg (by omega)
  obtain ⟨hstop, hback'⟩ := doc.offset_of_position htext h.stop (by omega) hle
  refine ⟨?_, ?_, ?_, ?_⟩
  · rw [doc.chars_eq htext]
    refine ⟨?_, ?_, ?_⟩
    · rwa [h.startOffset]
    · rwa [h.startOffset, h.stopOffset]
    · rwa [h.stopOffset]
  · rw [hstart, hstop]
    exact positionIn_before (by omega)
  · rw [h.startOffset]
    exact hback
  · rw [h.stopOffset]
    exact hback'

end

/-! ## The annotations of all descriptors -/

/-- The annotations of each descriptor, one list after the other. -/
theorem exists_found_of_hitsOfAll {text : Array Char} {ds : List Descriptor} {xs : List Hit}
    (h : hitsOfAll text ds = .ok xs) :
    ∃ found, List.Forall₂ (fun d ys => d.annotations text = .ok ys) ds found ∧
      xs = found.flatten := by
  induction ds generalizing xs with
  | nil =>
    cases h
    exact ⟨[], .nil, rfl⟩
  | cons d ds ih =>
    obtain ⟨ys, rest, hys, hrest, rfl⟩ := hitsOfAll_cons_eq_ok.mp h
    obtain ⟨found, hfound, rfl⟩ := ih hrest
    exact ⟨ys :: found, .cons hys hfound, rfl⟩

/-- If extraction breaks off, it does so with one of the descriptors. -/
theorem exists_crossed_of_hitsOfAll {names : List String} {text : Array Char} {ds : List Descriptor}
    (hds : ∀ d ∈ ds, d.IsFor names) {e : ScanError} (h : hitsOfAll text ds = .error e) :
    ∃ d ∈ ds, d.MayGoBack ∧ d.annotations text = .error (.crossedGroup ⟨⟩) := by
  by_contra hnone
  have hall : ∀ d ∈ ds, ∃ ys, d.annotations text = .ok ys := by
    intro d hd
    rcases (hds d hd).annotations_cases text with ⟨herror, hback⟩ | ⟨ys, hys, -⟩
    · exact absurd ⟨d, hd, hback, herror⟩ hnone
    · exact ⟨ys, hys⟩
  obtain ⟨xs, hxs⟩ := exists_hitsOfAll_eq_ok.mpr hall
  cases h.symm.trans hxs

/-! ## Scans -/

/-- With a registry that was built from tables, the scan of a document with a text breaks off only
where groups cross.  Otherwise it returns, for each kind in the order of the configuration, the
decorations of the annotations of that kind which the descriptors for the document's language find,
one descriptor after the other; and each decoration is in place.  Extraction ends with any descriptor
that has no possessive repeat of more than one character, and it does not break off. -/
theorem scan_inPlace {kinds languages : List (List (String × Value))} {sink : Option Sink}
    {previous : Option Registry} {r : Registry}
    (hr : (rebuild (.ofTables .value kinds) (.ofTables .value languages) sink previous).result =
      .ok r) {doc : Document} (hdoc : doc.HasText) :
    kinds.map (·.lookup "name") = r.kindNames.map (fun n => some (.str n)) ∧
    (∀ d ∈ r.languagesFor doc.language, d.MayGoBack ∨ d.Ends doc.chars.toArray) ∧
    (scan doc r = .error (.crossedGroup ⟨⟩) ∧ (∃ d ∈ r.languagesFor doc.language, d.MayGoBack ∧
        d.annotations doc.chars.toArray = .error (.crossedGroup ⟨⟩)) ∨
      ∃ found groups, scan doc r = .ok groups ∧
        List.Forall₂ (fun d xs => d.annotations doc.chars.toArray = .ok xs)
          (r.languagesFor doc.language) found ∧
        groups.map Prod.fst = r.kindNames ∧ r.Shows doc found.flatten groups ∧
        ∀ g ∈ groups, ∀ d ∈ g.2, d.InPlace doc) := by
  have hfor := rebuild_languagesFor hr doc.language
  have hread := hdoc.readText
  refine ⟨(rebuild_asConfigured hr).names, fun d hd => ?_, ?_⟩
  · by_cases hback : d.MayGoBack
    · exact .inl hback
    · exact .inr ((hfor d hd).ends hback doc.chars.toArray)
  rcases hitsOfAll_cases hfor doc.chars.toArray with ⟨herror, -⟩ | ⟨xs, hxs, hin⟩
  · exact .inl ⟨scan_of_hits_error hread herror, exists_crossed_of_hitsOfAll hfor herror⟩
  · obtain ⟨found, hfound, rfl⟩ := exists_found_of_hitsOfAll hxs
    obtain ⟨text, htext⟩ := Option.isSome_iff_exists.mp hdoc.2
    have hchars := doc.chars_eq htext
    have hscan := scan_of_hits hread hxs fun x hx => (hin x hx).2
    have hshows := r.shows_group htext found.flatten
    rw [hchars] at hscan
    refine .inr ⟨found, _, hscan, hfound, hshows.keys, hshows, fun g hg d hd => ?_⟩
    -- A decoration is that of a hit, and the hit is part of the text.
    obtain ⟨k, -, rfl⟩ := List.mem_map.mp hg
    obtain ⟨x, hx, rfl⟩ := List.mem_map.mp hd
    have hpart := (hin x (List.mem_filter.mp hx).1).1
    rw [hchars] at hpart
    exact (x.shows_decorate htext k.spec.markdown).inPlace htext hpart

/-- Two languages for one tag, of which the second takes less of the line for a comment: both find the
first annotation, and only one of them the others. -/
theorem scan_inPlace_last_line :
    let kinds := [[("name", .str "LATE"), ("pattern", .str "b+"), ("isMarkdown", .bool true)],
      kindTable "a"]
    let languages := [lineTable "//.*", lineTable "//b*"]
    let doc : Document := { text := some "\n//bab", language := "t" }
    let shown := [("LATE", [⟨⟨⟨1, 2⟩, ⟨1, 3⟩⟩, some { value := "b" }, 3, 4⟩,
        ⟨⟨⟨1, 4⟩, ⟨1, 5⟩⟩, some { value := "b" }, 5, 6⟩,
        ⟨⟨⟨1, 2⟩, ⟨1, 3⟩⟩, some { value := "b" }, 3, 4⟩]),
      ("A", [⟨⟨⟨1, 3⟩, ⟨1, 4⟩⟩, none, 4, 5⟩])]
    ∃ r, (rebuild (.ofTables .value kinds) (.ofTables .value languages) none none).result = .ok r ∧
      doc.HasText ∧ scan doc r = .ok shown ∧ ∀ g ∈ shown, ∀ d ∈ g.2, d.InPlace doc := by
  intro kinds languages doc shown
  have hvalue : ((rebuild (.ofTables .value kinds) (.ofTables .value languages) none
      none).result.toOption.map fun r => (scan doc r).toOption) = some (some shown) := by
    decide +kernel
  obtain ⟨r, hr, hscan⟩ := Option.map_eq_some_iff.mp hvalue
  have hscan := eq_ok_of_toOption hscan
  have hdoc : doc.HasText := ⟨rfl, rfl⟩
  obtain ⟨-, -, ⟨herror, -⟩ | ⟨found, groups, hgroups, -, -, -, hplaced⟩⟩ :=
    scan_inPlace (eq_ok_of_toOption hr) hdoc
  · cases hscan.symm.trans herror
  · cases hscan.symm.trans hgroups
    exact ⟨r, eq_ok_of_toOption hr, hdoc, hscan, hplaced⟩

/-- A registry is built, but its scan of a comment in which groups cross breaks off. -/
theorem scan_breaks_off :
    ∃ r, (rebuild (.ofTables .value [[("name", .str "K"), ("pattern", .str "x")],
        [("name", .str "L"), ("pattern", .str "(?:(?<=a)b)*+(?=z)")]])
        (.ofTables .value [lineTable "//.*"]) none none).result = .ok r ∧
      scan { text := some "//zb", language := "t" } r = .error (.crossedGroup ⟨⟩) := by
  have hvalue : ((rebuild (.ofTables .value [[("name", .str "K"), ("pattern", .str "x")],
      [("name", .str "L"), ("pattern", .str "(?:(?<=a)b)*+(?=z)")]])
      (.ofTables .value [lineTable "//.*"]) none none).result.toOption.map fun r =>
        (scan { text := some "//zb", language := "t" } r).toOption) = some none := by
    decide +kernel
  obtain ⟨r, hr, hscan⟩ := Option.map_eq_some_iff.mp hvalue
  have hr := eq_ok_of_toOption hr
  refine ⟨r, hr, ?_⟩
  -- There is only one way to fail.
  rcases hitsOfAll_cases (rebuild_languagesFor hr "t") "//zb".toList.toArray with
    ⟨herror, -⟩ | ⟨xs, hxs, hin⟩
  · exact scan_of_hits_error rfl herror
  · rw [scan_of_hits rfl hxs fun x hx => (hin x hx).2] at hscan
    cases hscan

end Marginalia
