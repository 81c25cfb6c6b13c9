import Marginalia.Highlight
import Marginalia.Proofs.Findings.Listing
import Marginalia.Proofs.Registry.Atomicity

/-!
# What highlighting marks

All that registries paint on a document are parts of its text (`Ledger.Marks.run`).  Highlighting
shows the text without some control characters, and styles the parts at their offsets in the text with
these characters.  So a part is styled as many characters too late as were dropped before it
(`Decoration.Displaced`), and in its place if none was (`highlight_marks`).
-/

namespace Marginalia

/-! ## Offsets in the text that is shown -/

namespace Text

/-- Where an offset of the text comes to stand once the dropped characters are taken out. -/
def shownOffset (text : List Char) (offset : Nat) : Nat := (sanitize (text.take offset)).length

/-- How many characters before an offset are dropped. -/
def droppedBefore (text : List Char) (offset : Nat) : Nat := (text.take offset).countP isDropped

variable {text : List Char} {offset : Nat}

/-- Characters before an offset are shown or dropped. -/
theorem shownOffset_add_droppedBefore (h : offset ≤ text.length) :
    shownOffset text offset + droppedBefore text offset = offset := by
  have hlength := List.length_eq_countP_add_countP isDropped (l := text.take offset)
  have hshown : shownOffset text offset = (text.take offset).countP (!isDropped ·) :=
    List.countP_eq_length_filter.symm
  rw [List.length_take_of_le h] at hlength
  rw [hshown, droppedBefore, Nat.add_comm]
  simpa using hlength.symm

/-- What is shown before an offset. -/
theorem take_sanitize (text : List Char) (offset : Nat) :
    (sanitize text).take (shownOffset text offset) = sanitize (text.take offset) := by
  have hsplit : sanitize text = sanitize (text.take offset) ++ sanitize (text.drop offset) := by
    unfold sanitize
    rw [← List.filter_append, List.take_append_drop]
  rw [hsplit]
  exact List.take_left

/-- The part of the text that is shown between two offsets. -/
theorem drop_take_sanitize {start stop : Nat} (h : start ≤ stop) :
    ((sanitize text).take (shownOffset text stop)).drop (shownOffset text start) =
      sanitize ((text.take stop).drop start) := by
  have htake : (text.take stop).take start = text.take start := by
    rw [List.take_take, Nat.min_eq_left h]
  have hsplit : sanitize (text.take stop) =
      sanitize (text.take start) ++ sanitize ((text.take stop).drop start) := by
    unfold sanitize
    rw [← List.filter_append, ← htake, List.take_append_drop]
  rw [take_sanitize, hsplit]
  exact List.drop_left

/-- Nothing changes before an offset before which nothing is dropped. -/
theorem take_sanitize_of_none (hoffset : offset ≤ text.length) (h : droppedBefore text offset = 0) :
    (sanitize text).take offset = text.take offset ∧ offset ≤ (sanitize text).length := by
  have hnone : sanitize (text.take offset) = text.take offset := by
    refine List.filter_eq_self.mpr fun c hc => ?_
    rw [List.countP_eq_zero.mp h c hc |> Bool.eq_false_iff.mpr]
    rfl
  have hshown : shownOffset text offset = offset := by
    have hsum := shownOffset_add_droppedBefore hoffset
    omega
  have htake := take_sanitize text offset
  rw [hshown, hnone] at htake
  refine ⟨htake, ?_⟩
  have hlength := congrArg List.length htake
  rw [List.length_take, List.length_take_of_le hoffset] at hlength
  omega

end Text

/-! ## Decorations are parts of the text -/

/-- The decoration is a part of the text, and not an empty one. -/
structure Decoration.IsPartOf (text : List Char) (d : Decoration) : Prop where
  nonneg : 0 ≤ d.startOffset
  nonempty : d.startOffset < d.stopOffset
  stop_le : d.stopOffset ≤ text.length

/-- All that a scan gives are parts of the text. -/
theorem scan_isPartOf {doc : Document} {r : Registry} {text : List Char} {groups : Decorations}
    (hr : r.Compiled) (htext : doc.readText = .ok text) (h : scan doc r = .ok groups) :
    ∀ g ∈ groups, ∀ d ∈ g.2, d.IsPartOf text := by
  obtain ⟨names, hfor⟩ := hr
  have hfor : ∀ d ∈ r.languagesFor doc.language, d.IsFor names := fun d hd =>
    hfor d (List.mem_filter.mp hd).1
  obtain ⟨starts, size, xs, rfl, hxs⟩ := scan_ok h
  have hxs := hxs text htext
  rcases hitsOfAll_cases hfor text.toArray with ⟨herror, -⟩ | ⟨ys, hys, hin⟩
  · cases hxs.symm.trans herror
  cases hxs.symm.trans hys
  intro g hg d hd
  obtain ⟨k, -, rfl⟩ := List.mem_map.mp hg
  obtain ⟨x, hx, rfl⟩ := List.mem_map.mp hd
  obtain ⟨hpart, -⟩ := hin x (List.mem_filter.mp hx).1
  exact ⟨hpart.nonneg, hpart.nonempty, hpart.stop_le⟩

/-! ## What is painted -/

namespace Sink

/-- A paint adds entries of its own document. -/
theorem mem_of_paint {s s' : Sink} {handle : Option Nat} {ref : DocRef} {ds : List Decoration}
    (h : s.paint handle ref ds = .ok s') {p : Painted} (hp : p ∈ s'.painted) :
    p ∈ s.painted ∨ p.document = ref ∧ p.decorations = ds := by
  cases handle with
  | none =>
    cases h
    exact .inl hp
  | some ident =>
    have hpainted : s'.painted = put ⟨ident, ref, ds⟩ s.painted := by
      unfold paint at h
      dsimp only at h
      split at h
      · split at h <;> cases h
        rfl
      · cases h
        rfl
    rw [hpainted] at hp
    rcases mem_put hp with rfl | hp
    · exact .inr ⟨rfl, rfl⟩
    · exact .inl hp

/-- So do several. -/
theorem mem_of_paintGroups {ref : DocRef} {gs : List (Option Nat × List Decoration)} {s : Sink}
    {p : Painted} (hp : p ∈ (paintGroups ref gs s).2.painted) :
    p ∈ s.painted ∨ p.document = ref ∧ ∃ g ∈ gs, p.decorations = g.2 := by
  induction gs generalizing s with
  | nil => exact .inl hp
  | cons g gs ih =>
    rw [paintGroups] at hp
    split at hp
    · rename_i s₁ hpaint
      rcases ih hp with hp | ⟨href, g', hg', hds⟩
      · rcases mem_of_paint hpaint hp with hp | ⟨href, hds⟩
        · exact .inl hp
        · exact .inr ⟨href, g, List.mem_cons_self, hds⟩
      · exact .inr ⟨href, g', List.mem_cons_of_mem _ hg', hds⟩
    · exact .inl hp

/-- An entry that is there after a document was painted was there before, or is a group of its
scan. -/
theorem mem_of_paintDocument {doc : Document} {ref : DocRef} {r : Registry} {s : Sink} {p : Painted}
    (hp : p ∈ (paintDocument doc ref r s).2.painted) :
    p ∈ s.painted ∨ p.document = ref ∧
      ∃ groups, scan doc r = .ok groups ∧ ∃ g ∈ groups, p.decorations = g.2 := by
  unfold paintDocument at hp
  split at hp
  · exact .inl hp
  · rename_i groups hscan
    have hp : p ∈ (paintGroups ref ((r.kinds.map (·.handle)).zip (groups.map Prod.snd))
        s).2.painted := by
      split at hp <;> rename_i hpainted <;> rw [hpainted] <;> exact hp
    -- Whether or not all groups were painted, the sink is the one that they were painted on.
    rcases mem_of_paintGroups hp with hp | ⟨href, g, hg, hds⟩
    · exact .inl hp
    · obtain ⟨g', hg', heq⟩ := List.mem_map.mp (List.of_mem_zip hg).2
      exact .inr ⟨href, groups, hscan, g', hg', hds.trans heq.symm⟩

end Sink

namespace Ledger

variable {text : List Char} {ref : DocRef} {l : Ledger}

/-- The registries are compiled, and all that is painted on the document are parts of the text. -/
structure Marks (text : List Char) (ref : DocRef) (l : Ledger) : Prop where
  compiled : ∀ r ∈ l.registries, r.Compiled
  painted : ∀ p ∈ l.sink.painted, p.document = ref → ∀ d ∈ p.decorations, d.IsPartOf text

/-- Every event keeps the invariant, if what it paints on the document is a scan of the text. -/
theorem Marks.step (h : l.Marks text ref) (e : Event)
    (he : ∀ i doc, e = .paint i doc ref → doc.readText = .ok text) :
    (l.step e).2.Marks text ref := by
  refine ⟨forall_registries_step rebuild_compiled id h.compiled e, ?_⟩
  cases e with
  | rebuild annotations languages previous withSink refused =>
    have hpainted := (painted_rebuild annotations languages withSink
      { l.sink with refused } (previous.bind (l.registries[·]?))).subset
    dsimp only [Ledger.step]
    split <;> exact fun p hp => h.painted p (hpainted hp)
  | release i =>
    dsimp only [Ledger.step]
    split
    · exact fun p hp => h.painted p ((Registry.painted_release _ _).subset hp)
    · exact h.painted
  | paint i doc document =>
    have hpaint {r : Registry} (hr : l.registries[i]? = some r) :
        ∀ p ∈ (paintDocument doc document r l.sink).2.painted, p.document = ref →
          ∀ d ∈ p.decorations, d.IsPartOf text := by
      intro p hp href d hd
      rcases Sink.mem_of_paintDocument hp with hp | ⟨hdocument, groups, hscan, g, hg, hds⟩
      · exact h.painted p hp href d hd
      · -- The entry is new and on this document, so that it is a group of a scan of the text.
        have htext := he i doc (by rw [hdocument.symm.trans href])
        rw [hds] at hd
        exact scan_isPartOf (h.compiled r (List.mem_of_getElem? hr)) htext hscan g hg d hd
    dsimp only [Ledger.step]
    split
    · rename_i r hr
      have hmarks := hpaint hr
      split <;> rename_i hpainted <;> rw [hpainted] at hmarks <;> exact hmarks
    · exact h.painted

/-- All events keep marks in place, by induction on them. -/
theorem Marks.run (h : l.Marks text ref) (es : List Event)
    (hes : ∀ i doc, .paint i doc ref ∈ es → doc.readText = .ok text) :
    (l.run es).Marks text ref := by
  induction es generalizing l with
  | nil => exact h
  | cons e es ih =>
    refine ih (h.step e fun i doc he => ?_) fun i doc hmem => ?_
    · exact hes i doc (he ▸ List.mem_cons_self)
    · exact hes i doc (List.mem_cons_of_mem e hmem)

theorem marks_empty (text : List Char) (ref : DocRef) : Marks text ref {} := ⟨nofun, nofun⟩

end Ledger

/-! ## What is highlighted -/

/-- How a decoration of the text is shown in a style. -/
structure Decoration.Displaced (text : List Char) (style : Style) (d : Decoration) : Prop where
  /-- What it marks is shown between these two places. -/
  place : ((Text.sanitize text).take (Text.shownOffset text d.stopOffset.toNat)).drop
      (Text.shownOffset text d.startOffset.toNat) =
    Text.sanitize (sliceOf text d.startOffset d.stopOffset)
  /-- Its offsets are as many characters behind these places as were dropped before them. -/
  start_eq : d.startOffset = Text.shownOffset text d.startOffset.toNat +
    Text.droppedBefore text d.startOffset.toNat
  stop_eq : d.stopOffset = Text.shownOffset text d.stopOffset.toNat +
    Text.droppedBefore text d.stopOffset.toNat
  /-- What is styled lies between its offsets, as far as there is anything. -/
  span : styledSpan? (Text.sanitize text).length style d =
    if ((Text.sanitize text).length : Int) ≤ d.startOffset then none
    else some ⟨d.startOffset, min (Text.sanitize text).length d.stopOffset, style⟩
  /-- It is in its place if nothing was dropped before its end. -/
  inPlace : Text.droppedBefore text d.stopOffset.toNat = 0 →
    styledSpan? (Text.sanitize text).length style d = some ⟨d.startOffset, d.stopOffset, style⟩ ∧
      sliceOf (Text.sanitize text) d.startOffset d.stopOffset =
        sliceOf text d.startOffset d.stopOffset

/-- A decoration is moved by what is dropped before it. -/
theorem Decoration.IsPartOf.displaced {text : List Char} {d : Decoration} (hd : d.IsPartOf text)
    (style : Style) : d.Displaced text style := by
  have hnonneg := hd.nonneg
  have hnonempty := hd.nonempty
  have hstop := hd.stop_le
  have hspan : styledSpan? (Text.sanitize text).length style d =
      if ((Text.sanitize text).length : Int) ≤ d.startOffset then none
      else some ⟨d.startOffset, min (Text.sanitize text).length d.stopOffset, style⟩ := by
    -- Neither offset is negative, so that both count from the start of the text.
    have hstart (size : Nat) : fromEnd size d.startOffset = d.startOffset := if_neg (by omega)
    have hend (size : Nat) : fromEnd size d.stopOffset = d.stopOffset := if_neg (by omega)
    unfold styledSpan?
    dsimp only
    rw [hstart, hend, decide_eq_false (by omega : ¬ d.stopOffset ≤ d.startOffset), Bool.or_false]
    simp only [decide_eq_true_eq]
  have hslice := sliceOf_of_le hnonneg (by omega) hstop
  refine ⟨?_, ?_, ?_, hspan, fun hnone => ?_⟩
  · rw [Text.drop_take_sanitize (by omega), hslice]
  · have hle : d.startOffset.toNat ≤ text.length := by omega
    have hsum := Text.shownOffset_add_droppedBefore hle
    omega
  · have hle : d.stopOffset.toNat ≤ text.length := by omega
    have hsum := Text.shownOffset_add_droppedBefore hle
    omega
  · obtain ⟨htake, hle⟩ := Text.take_sanitize_of_none (by omega) hnone
    constructor
    · rw [hspan, if_neg (by omega), Int.min_eq_right (by omega)]
    · rw [hslice, sliceOf_of_le hnonneg (by omega) (by omega), htake]

namespace Sink

/-- The spans of what was painted are those of all its decorations, each in its style, unless a style
cannot be read. -/
theorem spans_cases (s : Sink) (size : Nat) (ps : List Painted) :
    (∃ (spans : List (List StyledSpan)) (marks : List (Decoration × Style)),
      ps.mapM (s.spansOf size) = .ok spans ∧
      spans.flatten = marks.filterMap (fun m => styledSpan? size m.2 m.1) ∧
      marks.map Prod.fst = ps.flatMap (·.decorations) ∧
      ∀ m ∈ marks, ∃ p ∈ ps, m.1 ∈ p.decorations ∧
        Style.ofOptions (s.optionsOf p.ident) = .ok m.2) ∨
    ∃ p ∈ ps, ∃ e, Style.ofOptions (s.optionsOf p.ident) = .error e ∧
      ps.mapM (s.spansOf size) = .error e := by
  induction ps with
  | nil => exact .inl ⟨[], [], rfl, rfl, rfl, List.forall_mem_nil _⟩
  | cons p ps ih =>
    rw [List.mapM_cons, spansOf]
    cases hstyle : Style.ofOptions (s.optionsOf p.ident) with
    | error e =>
      -- The first style that cannot be read decides.
      exact .inr ⟨p, List.mem_cons_self, e, hstyle, rfl⟩
    | ok style =>
      rcases ih with ⟨spans, marks, hspans, hflatten, hmarks, hstyles⟩ | ⟨q, hq, e, he, hspans⟩
      · refine .inl ⟨p.decorations.filterMap (styledSpan? size style) :: spans,
          p.decorations.map (·, style) ++ marks, ?_, ?_, ?_, ?_⟩
        · rw [hspans]
          rfl
        · rw [List.flatten_cons, hflatten, List.filterMap_append, List.filterMap_map]
          rfl
        · rw [List.map_append, hmarks, List.map_map, List.flatMap_cons]
          exact congrArg (· ++ _) (List.map_id _)
        · intro m hm
          rcases List.mem_append.mp hm with hm | hm
          · obtain ⟨d, hd, rfl⟩ := List.mem_map.mp hm
            exact ⟨p, List.mem_cons_self, hd, hstyle⟩
          · obtain ⟨q, hq, hm⟩ := hstyles m hm
            exact ⟨q, List.mem_cons_of_mem _ hq, hm⟩
      · refine .inr ⟨q, List.mem_cons_of_mem _ hq, e, he, ?_⟩
        rw [hspans]
        rfl

end Sink

/-- After any run of events in which only the text of the document was painted on it, highlighting the
document gives the text without the dropped characters and, for each decoration on the document in
order, the styled part that it is displaced to.  Each is in its place if no character is dropped before
its end, and then the styled parts correspond to the decorations one by one.  Only a style that cannot
be read makes highlighting fail. -/
theorem highlight_marks {es : List Ledger.Event} {doc : Document} {ref : DocRef} {text : List Char}
    (htext : doc.readText = .ok text)
    (hpaints : ∀ i doc', .paint i doc' ref ∈ es → doc'.readText = .ok text) :
    let s := (Ledger.run {} es).sink
    (∃ (h : Highlighted) (marks : List (Decoration × Style)), s.highlight doc ref = .ok h ∧
      h.plain = Text.sanitize text ∧
      h.spans = marks.filterMap (fun m => styledSpan? h.plain.length m.2 m.1) ∧
      marks.map Prod.fst = (s.paintedOn ref).flatMap (·.decorations) ∧
      (∀ m ∈ marks, m.1.IsPartOf text ∧ m.1.Displaced text m.2 ∧ ∃ p ∈ s.paintedOn ref,
        m.1 ∈ p.decorations ∧ Style.ofOptions (s.optionsOf p.ident) = .ok m.2) ∧
      ((∀ m ∈ marks, Text.droppedBefore text m.1.stopOffset.toNat = 0) →
        List.Forall₂ (fun m span => sliceOf h.plain span.start span.stop =
          sliceOf text m.1.startOffset m.1.stopOffset) marks h.spans)) ∨
    ∃ p ∈ s.paintedOn ref, ∃ e, Style.ofOptions (s.optionsOf p.ident) = .error e ∧
      s.highlight doc ref = .error (.style e) := by
  intro s
  have hmarked := (Ledger.marks_empty text ref).run es hpaints
  have hhighlight : s.highlight doc ref =
      (((s.paintedOn ref).mapM (s.spansOf (Text.sanitize text).length)).mapError .style).map
        fun spans => ⟨Text.sanitize text, spans.flatten⟩ := by
    unfold Sink.highlight
    rw [htext]
    rfl
  rw [hhighlight]
  rcases s.spans_cases (Text.sanitize text).length (s.paintedOn ref) with
    ⟨spans, marks, hspans, hflatten, hmarks, hstyles⟩ | ⟨p, hp, e, he, hspans⟩
  · rw [hspans]
    -- All that is painted on the document comes from scans of its text.
    have hparts (m : Decoration × Style) (hm : m ∈ marks) : m.1.IsPartOf text := by
      obtain ⟨p, hp, hd, -⟩ := hstyles m hm
      obtain ⟨hp, href⟩ := List.mem_filter.mp hp
      exact hmarked.painted p hp (beq_iff_eq.mp href) m.1 hd
    refine .inl ⟨⟨Text.sanitize text, spans.flatten⟩, marks, rfl, rfl, hflatten, hmarks,
      fun m hm => ?_, fun hnone => ?_⟩
    · exact ⟨hparts m hm, (hparts m hm).displaced m.2, hstyles m hm⟩
    · have hplaced (m : Decoration × Style) (hm : m ∈ marks) :=
        ((hparts m hm).displaced m.2).inPlace (hnone m hm)
      have hall : spans.flatten = marks.map fun m => ⟨m.1.startOffset, m.1.stopOffset, m.2⟩ := by
        rw [hflatten, ← List.filterMap_eq_map]
        exact List.filterMap_congr fun m hm => (hplaced m hm).1
      rw [hall, List.forall₂_map_right_iff, List.forall₂_same]
      exact fun m hm => (hplaced m hm).2
  · rw [hspans]
    exact .inr ⟨p, hp, e, he, rfl⟩

/-- Builds a registry with one kind and one language, and paints a document with it. -/
def paintedOnce (doc : Document) : List Ledger.Event :=
  [.rebuild (.entries [.value (.table [("name", .str "TODO"), ("pattern", .str "TODO")])])
      (.entries [.language { ids := ["c"], lineComments := [.text "//.*"] }]) none true [],
    .paint 0 doc (some 0)]

/-- A document with an annotation in a comment behind the given character. -/
def commentBehind (c : Char) : Document :=
  { text := some (String.ofList (c :: "//TODO".toList)), language := "c" }

/-- Behind a tab, which is not dropped, what is styled is what was painted. -/
theorem highlight_marks_behind_tab :
    let doc := commentBehind '\t'
    let s := (Ledger.run {} (paintedOnce doc)).sink
    ∃ (h : Highlighted) (marks : List (Decoration × Style)), s.highlight doc (some 0) = .ok h ∧
      marks.map (fun m => (m.1.startOffset, m.1.stopOffset)) = [(3, 7)] ∧
      List.Forall₂ (fun m span => sliceOf h.plain span.start span.stop =
        sliceOf doc.chars m.1.startOffset m.1.stopOffset) marks h.spans := by
  intro doc s
  have hvalue : (s.highlight doc (some 0)).toOption.isSome = true ∧
      ((s.paintedOn (some 0)).flatMap (·.decorations)).map
        (fun d => (d.startOffset, d.stopOffset)) = [(3, 7)] := by decide +kernel
  obtain ⟨hok, hplaces⟩ := hvalue
  have hpaints : ∀ i doc', .paint i doc' (some 0) ∈ paintedOnce doc →
      doc'.readText = .ok doc.chars := by
    intro i doc' hmem
    rcases List.mem_cons.mp hmem with hmem | hmem
    · cases hmem
    · cases List.mem_singleton.mp hmem
      rfl
  rcases highlight_marks (rfl : doc.readText = .ok doc.chars) hpaints with
    ⟨h, marks, hh, -, -, hmarks, -, hforall⟩ | ⟨p, -, e, -, herror⟩
  · have hoffsets : marks.map (fun m => (m.1.startOffset, m.1.stopOffset)) = [(3, 7)] := by
      rw [← hplaces, ← hmarks, List.map_map]
      rfl
    refine ⟨h, marks, hh, hoffsets, hforall fun m hm => ?_⟩
    have hplace : (m.1.startOffset, m.1.stopOffset) ∈ [((3, 7) : Int × Int)] :=
      hoffsets ▸ List.mem_map_of_mem hm
    have hstop : m.1.stopOffset = 7 := (Prod.mk.inj (List.mem_singleton.mp hplace)).2
    rw [hstop]
    decide +kernel
  · rw [herror] at hok
    cases hok

/-- Behind a form feed, which is dropped, what is styled begins a character too late. -/
theorem highlight_too_late_behind_form_feed :
    let doc := commentBehind (Char.ofNat 12)
    let s := (Ledger.run {} (paintedOnce doc)).sink
    ((s.paintedOn (some 0)).flatMap (·.decorations)).map (fun d => (d.startOffset, d.stopOffset)) =
        [(3, 7)] ∧
      sliceOf doc.chars 3 7 = "TODO".toList ∧
      ∃ h span, s.highlight doc (some 0) = .ok h ∧ h.spans = [span] ∧
        sliceOf h.plain span.start span.stop = "ODO".toList := by
  intro doc s
  have hvalue : ((s.paintedOn (some 0)).flatMap (·.decorations)).map
      (fun d => (d.startOffset, d.stopOffset)) = [(3, 7)] ∧ sliceOf doc.chars 3 7 = "TODO".toList ∧
      (s.highlight doc (some 0)).toOption.map (fun h => h.spans.map fun span =>
        sliceOf h.plain span.start span.stop) = some ["ODO".toList] := by decide +kernel
  obtain ⟨hplaces, hslice, hshown⟩ := hvalue
  obtain ⟨h, hh, hspans⟩ := Option.map_eq_some_iff.mp hshown
  obtain ⟨span, spans, hspans, hspan, hnil⟩ := List.map_eq_cons_iff.mp hspans
  obtain rfl := List.map_eq_nil_iff.mp hnil
  exact ⟨hplaces, hslice, h, span, eq_ok_of_toOption hh, hspans, hspan⟩

end Marginalia
