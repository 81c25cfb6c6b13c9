import Marginalia.Proofs.Extraction.Nesting
import Marginalia.Proofs.Findings.Order
import Marginalia.Proofs.Session.Rescan

/-!
# From annotations to findings

After a session has started, the findings of its documents are their annotations and nothing else
(`findings_of_started`).  Between the two an annotation is turned into a decoration, sorted into the
group of its kind, painted, read back by kind and put into order with the others.  The annotations of
a document are found kind by kind, and then sorted by their offsets.

A document whose extraction breaks off, because groups cross, has no findings at all.
-/

namespace Marginalia

/-! ## The kinds of annotations -/

section

variable {m : AnnotationMatcher}

/-- A label is the name of a group. -/
theorem AnnotationMatcher.mem_of_label? {captures : Pattern.Captures}
    {groups : List (String × Nat)} {name : String} {i j : Nat}
    (h : label? captures groups = some (name, i, j)) : name ∈ groups.map Prod.fst := by
  induction groups with
  | nil => cases h
  | cons g groups ih =>
    unfold label? at h
    split at h
    · cases h
      exact List.mem_cons_self
    · exact List.mem_cons_of_mem _ (ih h)

/-- A match is of one of the kinds. -/
theorem AnnotationMatcher.kind_mem_of_search {text : Array Char} {position : Int}
    {x : AnnotationMatch} (h : m.search text position = .ok (some x)) : x.kind ∈ m.kinds := by
  unfold search at h
  split at h
  · cases h
  · cases h
  · split at h
    · rename_i hlabel
      cases h
      exact mem_of_label? hlabel
    · cases h

/-- So are all matches. -/
theorem AnnotationMatcher.kind_mem_of_hitsFrom {text : Array Char} {left : Nat} {cursor : Cursor}
    {xs : List AnnotationMatch} (h : m.hitsFrom text left cursor = .ok xs) :
    ∀ x ∈ xs, x.kind ∈ m.kinds := by
  induction left generalizing cursor xs with
  | zero =>
    cases h
    exact nofun
  | succ left ih =>
    unfold hitsFrom at h
    split at h
    · cases h
      exact nofun
    split at h
    · cases h
    · cases h
      exact nofun
    · rename_i x hx
      split at h
      · cases h
      · rename_i rest hrest
        cases h
        exact List.forall_mem_cons.mpr ⟨kind_mem_of_search hx, ih hrest⟩

/-- So are the annotations in a comment. -/
theorem kind_mem_of_annotationsIn {body : Array Char} {offset : Int} {xs : List Hit}
    (h : annotationsIn (some m) body offset = .ok xs) : ∀ x ∈ xs, x.kind ∈ m.kinds := by
  unfold annotationsIn at h
  dsimp only at h
  split at h
  · cases h
  · rename_i hits hhits
    cases h
    intro x hx
    obtain ⟨y, hy, hxy⟩ := List.mem_filterMap.mp hx
    unfold AnnotationMatch.hit? at hxy
    split at hxy
    · cases hxy
    · cases hxy
      exact AnnotationMatcher.kind_mem_of_hitsFrom hhits y hy

theorem kind_mem_of_annotationsInAll {cs : List Comment} {xs : List Hit}
    (h : annotationsInAll (some m) cs = .ok xs) : ∀ x ∈ xs, x.kind ∈ m.kinds := by
  intro x hx
  obtain ⟨c, -, ys, hys, hx⟩ := mem_annotationsInAll h hx
  exact kind_mem_of_annotationsIn hys x hx

end

/-! ## The annotations of a document -/

section

variable {names : List String} {text : Array Char}

/-- The annotations of a compiled descriptor, unless groups cross: they are parts of the text, and of
the given kinds. -/
theorem Descriptor.IsFor.annotations_cases {d : Descriptor} (hd : d.IsFor names)
    (text : Array Char) :
    (d.annotations text = .error (.crossedGroup ⟨⟩) ∧ d.MayGoBack) ∨
      ∃ xs, d.annotations text = .ok xs ∧ ∀ x ∈ xs, x.IsPartOf text ∧ x.kind ∈ names := by
  obtain ⟨kinds, m, c, hm, hc, hd, rfl⟩ := hd
  rw [hd]
  rcases extraction_cases hm hc text with ⟨he, hplace | hplace⟩ | ⟨xs, -, hxs, hfound, hinside, -⟩
  · exact .inl ⟨he, .inl ⟨c, rfl, hplace⟩⟩
  · exact .inl ⟨he, .inr ⟨m, rfl, hplace⟩⟩
  · exact .inr ⟨xs, hxs, fun x hx =>
      ⟨(hinside x hx).1, kind_mem_of_annotationsInAll hfound x hx⟩⟩

/-- The annotations that all descriptors find, unless groups cross. -/
theorem hitsOfAll_cases {ds : List Descriptor} (hds : ∀ d ∈ ds, d.IsFor names) (text : Array Char) :
    (hitsOfAll text ds = .error (.crossedGroup ⟨⟩) ∧ ∃ d ∈ ds, d.MayGoBack) ∨
      ∃ xs, hitsOfAll text ds = .ok xs ∧ ∀ x ∈ xs, x.IsPartOf text ∧ x.kind ∈ names := by
  induction ds with
  | nil => exact .inr ⟨[], rfl, nofun⟩
  | cons d ds ih =>
    obtain ⟨hd, hds⟩ := List.forall_mem_cons.mp hds
    rcases hd.annotations_cases text with ⟨he, hback⟩ | ⟨xs, hok, hxs⟩
    · exact .inl ⟨by simp [hitsOfAll, he], d, List.mem_cons_self, hback⟩
    rcases ih hds with ⟨he, d', hd', hback⟩ | ⟨rest, hrest, hinside⟩
    · exact .inl ⟨by simp [hitsOfAll, hok, he], d', List.mem_cons_of_mem _ hd', hback⟩
    · exact .inr ⟨xs ++ rest, by simp [hitsOfAll, hok, hrest],
        List.forall_mem_append.mpr ⟨hxs, hinside⟩⟩

end

section

variable {text : Array Char} {d : Descriptor} {ds : List Descriptor} {xs : List Hit}

/-- Hits of the first language come before those of the rest. -/
theorem hitsOfAll_cons_eq_ok :
    hitsOfAll text (d :: ds) = .ok xs ↔ ∃ ys rest, d.annotations text = .ok ys ∧
      hitsOfAll text ds = .ok rest ∧ xs = ys ++ rest := by
  constructor
  · intro h
    unfold hitsOfAll at h
    split at h
    · cases h
    · rename_i ys hys
      split at h
      · cases h
      · rename_i rest hrest
        cases h
        exact ⟨ys, rest, hys, hrest, rfl⟩
  · rintro ⟨ys, rest, hys, hrest, rfl⟩
    rw [hitsOfAll, hys]
    dsimp only
    rw [hrest]

/-- The annotations are found to the end if no descriptor breaks off. -/
theorem exists_hitsOfAll_eq_ok : (∃ xs, hitsOfAll text ds = .ok xs) ↔
    ∀ d ∈ ds, ∃ ys, d.annotations text = .ok ys := by
  induction ds with
  | nil => exact ⟨fun _ => List.forall_mem_nil _, fun _ => ⟨[], rfl⟩⟩
  | cons d ds ih =>
    rw [List.forall_mem_cons, ← ih]
    constructor
    · rintro ⟨xs, hxs⟩
      obtain ⟨ys, rest, hys, hrest, -⟩ := hitsOfAll_cons_eq_ok.mp hxs
      exact ⟨⟨ys, hys⟩, rest, hrest⟩
    · rintro ⟨⟨ys, hys⟩, rest, hrest⟩
      exact ⟨ys ++ rest, hitsOfAll_cons_eq_ok.mpr ⟨ys, rest, hys, hrest, rfl⟩⟩

/-- A hit is one of a language. -/
theorem mem_hitsOfAll (h : hitsOfAll text ds = .ok xs) {x : Hit} :
    x ∈ xs ↔ ∃ d ∈ ds, ∃ ys, d.annotations text = .ok ys ∧ x ∈ ys := by
  induction ds generalizing xs with
  | nil =>
    cases h
    simp
  | cons d ds ih =>
    obtain ⟨ys, rest, hys, hrest, rfl⟩ := hitsOfAll_cons_eq_ok.mp h
    rw [List.mem_append, ih hrest, List.exists_mem_cons_iff]
    refine or_congr_left ⟨fun hx => ⟨ys, hys, hx⟩, ?_⟩
    rintro ⟨ys', hys', hx⟩
    cases hys.symm.trans hys'
    exact hx

end

/-! ## Scanning -/

section

variable {d : Document} {r : Registry} {text : List Char}

/-- A kind is found by its name. -/
theorem Registry.kind?_isSome {name : String} (h : name ∈ r.kindNames) :
    (r.kind? name).isSome = true := by
  obtain ⟨k, hk, rfl⟩ := List.mem_map.mp h
  unfold kind?
  rw [List.find?_isSome]
  exact ⟨k, hk, beq_self_eq_true _⟩

/-- The scan of a document whose annotations are all of kinds of the registry. -/
theorem scan_of_hits {xs : List Hit} (htext : d.readText = .ok text)
    (hxs : hitsOfAll text.toArray (r.languagesFor d.language) = .ok xs)
    (hkinds : ∀ x ∈ xs, x.kind ∈ r.kindNames) :
    scan d r = .ok (r.group (lineStarts text) text.length xs) := by
  have hknown : (xs.find? fun x => (r.kind? x.kind).isNone) = none := by
    refine List.find?_eq_none.mpr fun x hx => ?_
    rw [← Option.not_isSome, Registry.kind?_isSome (hkinds x hx)]
    exact Bool.false_ne_true
  unfold scan
  dsimp only
  split
  · rename_i hempty
    rw [List.isEmpty_iff.mp hempty] at hxs
    cases hxs
    rfl
  · simp only [htext, hxs, hknown, bind, Except.bind]
    rfl

/-- A scan fails if a language does. -/
theorem scan_of_hits_error {e : ScanError} (htext : d.readText = .ok text)
    (he : hitsOfAll text.toArray (r.languagesFor d.language) = .error e) : scan d r = .error e := by
  unfold scan
  dsimp only
  split
  · rename_i hempty
    rw [List.isEmpty_iff.mp hempty] at he
    cases he
  · simp only [htext, he, bind, Except.bind]

end

/-! ## Findings -/

/-- The finding of an annotation in a text.  Lines and columns are counted from one. -/
def Hit.finding (uri : String) (text : List Char) (k : KindSpec) (x : Hit) : Finding :=
  let before := text.take x.start.toNat
  let value := String.ofList ((text.take x.stop.toNat).drop x.start.toNat)
  { path := uri
    kind := k.name
    line := 1 + before.count '\n'
    column := 1 + (lastLine before).length
    text := value
    hover := if k.markdown then some value else none }

/-- The annotations kind by kind, in the order of the registry. -/
def Registry.byKind (r : Registry) (xs : List Hit) : List (KindSpec × Hit) :=
  r.kinds.flatMap fun k => (xs.filter (·.kind == k.spec.name)).map (k.spec, ·)

/-- The findings of a document: its annotations kind by kind, sorted by their offsets.  There are
none if extraction breaks off. -/
def Registry.findingsOf (r : Registry) (d : Document) : List Finding :=
  match hitsOfAll d.chars.toArray (r.languagesFor d.language) with
  | .ok xs =>
    ((r.byKind xs).mergeSort fun a b => decide (a.2.start ≤ b.2.start)).map fun e =>
      e.2.finding d.uri d.chars e.1
  | .error _ => []

/-- A slice within the text. -/
theorem sliceOf_of_le {text : List Char} {start stop : Int} (hstart : 0 ≤ start)
    (hle : start ≤ stop) (hstop : stop ≤ text.length) :
    sliceOf text start stop = (text.take stop.toNat).drop start.toNat := by
  have hindex (i : Int) (h : 0 ≤ i) (hi : i ≤ text.length) : sliceIndex text.length i = i.toNat := by
    unfold sliceIndex
    rw [if_neg (by omega)]
    omega
  unfold sliceOf
  rw [hindex start hstart (by omega), hindex stop (by omega) hstop]

/-- The finding of a hit has its text and its place. -/
theorem Hit.IsPartOf.finding_eq {text : List Char} {x : Hit} (hx : x.IsPartOf text.toArray)
    (uri : String) (k : KindSpec) :
    Finding.of uri k.name text (x.decorate (lineStarts text) text.length k.markdown) =
      x.finding uri text k := by
  have hnonneg := hx.nonneg
  have hnonempty := hx.nonempty
  have hstop : x.stop ≤ text.length := hx.stop_le
  have hposition : clampedPosition (lineStarts text) text.length x.start =
      ⟨(text.take x.start.toNat).count '\n', (lastLine (text.take x.start.toNat)).length⟩ := by
    unfold clampedPosition
    have hmin : min x.start.toNat text.length = x.start.toNat := by omega
    rw [hmin]
    exact positionIn_lineStarts (by omega)
  have hvalue : x.value = String.ofList ((text.take x.stop.toNat).drop x.start.toNat) := by
    rw [hx.value, Text.slice]
    congr 1
    simp [List.drop_take]
  unfold Finding.of Hit.finding Hit.decorate
  dsimp only
  rw [hposition, sliceOf_of_le hnonneg (by omega) hstop, hvalue]
  congr 1
  · exact Int.add_comm _ _
  · exact Int.add_comm _ _
  · cases k.markdown <;> rfl

/-- Without a choice of kinds all are listed. -/
theorem findingsByKind_all (d : Document) (text : List Char) (painted : Decorations) :
    findingsByKind d text [] painted = painted.flatMap fun g =>
      g.2.map fun x => (x.startOffset, Finding.of d.uri g.1 text x) := by
  have hall : painted.filter (fun g => isWanted [] g.1) = painted :=
    List.filter_eq_self.mpr fun _ _ => rfl
  unfold findingsByKind
  rw [hall]

/-- What is read back of the groups of a scan is the annotations kind by kind. -/
theorem findingsByKind_group {d : Document} {r : Registry} {text : List Char} {xs : List Hit}
    (hxs : ∀ x ∈ xs, x.IsPartOf text.toArray) :
    findingsByKind d text [] (r.group (lineStarts text) text.length xs) =
      (r.byKind xs).map fun e => (e.2.start, e.2.finding d.uri text e.1) := by
  unfold Registry.group Registry.byKind
  rw [findingsByKind_all, List.flatMap_map, List.map_flatMap]
  refine List.flatMap_congr fun k _ => ?_
  rw [List.map_map, List.map_map]
  refine List.map_congr_left fun x hx => ?_
  exact congrArg (Prod.mk x.start) ((hxs x (List.mem_filter.mp hx).1).finding_eq d.uri k.spec)

/-- The annotations of kinds with different names, kind by kind, are all annotations of these kinds. -/
theorem flatMap_kinds_perm {kinds : List String} (hnodup : kinds.Nodup) (xs : List Hit) :
    (kinds.flatMap fun name => xs.filter (·.kind == name)).Perm
      (xs.filter fun x => kinds.contains x.kind) := by
  induction kinds with
  | nil => simp
  | cons name kinds ih =>
    obtain ⟨hname, hnodup⟩ := List.nodup_cons.mp hnodup
    have hsplit := List.filter_append_perm (fun x : Hit => x.kind == name)
      (xs.filter fun x => (name :: kinds).contains x.kind)
    have hfirst : (xs.filter fun x => (name :: kinds).contains x.kind).filter (·.kind == name) =
        xs.filter (·.kind == name) := by
      rw [List.filter_filter]
      refine List.filter_congr fun x _ => ?_
      by_cases hx : x.kind = name <;> simp [hx]
    have hrest : ((xs.filter fun x => (name :: kinds).contains x.kind).filter
        fun x => !(x.kind == name)) = xs.filter fun x => kinds.contains x.kind := by
      rw [List.filter_filter]
      refine List.filter_congr fun x _ => ?_
      by_cases hx : x.kind = name
      · simp [hx, hname]
      · simp [hx]
    rw [List.flatMap_cons]
    rw [hfirst, hrest] at hsplit
    exact ((List.Perm.append_left _ (ih hnodup)).trans hsplit)

/-- Kind by kind, every annotation comes once. -/
theorem Registry.byKind_perm {r : Registry} (hnames : r.kindNames.Nodup) {xs : List Hit}
    (hkinds : ∀ x ∈ xs, x.kind ∈ r.kindNames) : ((r.byKind xs).map Prod.snd).Perm xs := by
  have hmap : (r.byKind xs).map Prod.snd =
      r.kindNames.flatMap fun name => xs.filter (·.kind == name) := by
    unfold byKind kindNames
    rw [List.map_flatMap, List.flatMap_map]
    refine List.flatMap_congr fun k _ => ?_
    rw [List.map_map]
    exact List.map_id _
  have hall : (xs.filter fun x => r.kindNames.contains x.kind) = xs :=
    List.filter_eq_self.mpr fun x hx => List.contains_iff_mem.mpr (hkinds x hx)
  rw [hmap]
  exact (flatMap_kinds_perm hnames xs).trans (List.Perm.of_eq hall)

/-- A hit is listed under its kind. -/
theorem Registry.mem_byKind {r : Registry} {xs : List Hit} {e : KindSpec × Hit} :
    e ∈ r.byKind xs ↔ ∃ k ∈ r.kinds, e.2 ∈ xs ∧ e.2.kind = k.spec.name ∧ e.1 = k.spec := by
  obtain ⟨spec, x⟩ := e
  simp only [byKind, List.mem_flatMap, List.mem_map, List.mem_filter, beq_iff_eq, Prod.mk.injEq]
  constructor
  · rintro ⟨k, hk, x, ⟨hx, hkind⟩, rfl, rfl⟩
    exact ⟨k, hk, hx, hkind, rfl⟩
  · rintro ⟨k, hk, hx, hkind, rfl⟩
    exact ⟨k, hk, x, ⟨hx, hkind⟩, rfl, rfl⟩

/-- A document has a finding of a kind if it has an annotation of that kind. -/
theorem Registry.exists_finding_iff {r : Registry} {d : Document} {kind : String}
    (hfor : ∀ c ∈ r.languagesFor d.language, c.IsFor r.kindNames) :
    (∃ f ∈ r.findingsOf d, f.kind = kind) ↔
      ∃ xs, hitsOfAll d.chars.toArray (r.languagesFor d.language) = .ok xs ∧
        ∃ x ∈ xs, x.kind = kind := by
  unfold findingsOf
  rcases hitsOfAll_cases hfor d.chars.toArray with ⟨herror, -⟩ | ⟨xs, hxs, hin⟩
  · rw [herror]
    exact ⟨nofun, nofun⟩
  rw [hxs]
  constructor
  · rintro ⟨f, hf, rfl⟩
    obtain ⟨e, he, rfl⟩ := List.mem_map.mp hf
    obtain ⟨k, -, hx, hkind, hspec⟩ := mem_byKind.mp (List.mem_mergeSort.mp he)
    refine ⟨xs, rfl, e.2, hx, ?_⟩
    rw [hkind, ← hspec]
    rfl
  · rintro ⟨xs', ⟨⟩, x, hx, rfl⟩
    -- The kind of an annotation is one of the registry, so that it comes up kind by kind.
    obtain ⟨k, hk, hname⟩ := List.mem_map.mp (hin x hx).2
    refine ⟨x.finding d.uri d.chars k.spec, List.mem_map.mpr ⟨(k.spec, x), ?_, rfl⟩, hname⟩
    exact List.mem_mergeSort.mpr (mem_byKind.mpr ⟨k, hk, hx, hname.symm, rfl⟩)

/-- Findings of a document come in the order of their offsets. -/
theorem Sink.findingsIn_of_readText {s : Sink} {kinds : List String} {d : Document} {ref : DocRef}
    {text : List Char} (htext : d.readText = .ok text) :
    s.findingsIn kinds d ref =
      .ok ((sortByOffset (findingsByKind d text kinds (s.decorationsFor ref))).map Prod.snd) := by
  unfold Sink.findingsIn
  rw [htext]
  rfl

/-- The findings of a document whose scan is painted. -/
theorem findingsIn_of_painted {s : Sink} {r : Registry} {d : Document} {ref : DocRef}
    {xs : List Hit} (htext : d.readText = .ok d.chars)
    (hxs : hitsOfAll d.chars.toArray (r.languagesFor d.language) = .ok xs)
    (hparts : ∀ x ∈ xs, x.IsPartOf d.chars.toArray)
    (hpainted : s.decorationsFor ref = r.group (lineStarts d.chars) d.chars.length xs) :
    s.findingsIn [] d ref = .ok (r.findingsOf d) := by
  have hmap := List.map_mergeSort (r := fun a b : KindSpec × Hit => decide (a.2.start ≤ b.2.start))
    (s := fun f g : Int × Finding => decide (f.1 ≤ g.1))
    (f := fun e => (e.2.start, e.2.finding d.uri d.chars e.1)) (l := r.byKind xs)
    fun _ _ _ _ => rfl
  unfold Registry.findingsOf
  rw [Sink.findingsIn_of_readText htext, hpainted, findingsByKind_group hparts, sortByOffset_eq_mergeSort, ← hmap, hxs,
    List.map_map]
  rfl

/-- The findings of a document on which nothing is painted. -/
theorem findingsIn_of_not_painted {s : Sink} {d : Document} {ref : DocRef}
    (htext : d.readText = .ok d.chars) (hpainted : s.decorationsFor ref = []) :
    s.findingsIn [] d ref = .ok [] := by
  rw [Sink.findingsIn_of_readText htext, hpainted]
  rfl

/-- Findings of all documents follow one another. -/
theorem Sink.findings_of_forall {s : Sink} {kinds : List String}
    {f : Document × DocRef → List Finding} {listed : List (Document × DocRef)}
    (h : ∀ e ∈ listed, s.findingsIn kinds e.1 e.2 = .ok (f e)) :
    s.findings kinds listed = .ok (listed.flatMap f) := by
  induction listed with
  | nil => rfl
  | cons e listed ih =>
    obtain ⟨he, hlisted⟩ := List.forall_mem_cons.mp h
    obtain ⟨d, ref⟩ := e
    unfold Sink.findings
    rw [he, ih hlisted]
    rfl

/-- A document with a text that can be read. -/
def Document.HasText (d : Document) : Prop := d.readable = true ∧ d.text.isSome = true

/-- A document with a text is read. -/
theorem Document.HasText.readText {d : Document} (h : d.HasText) : d.readText = .ok d.chars := by
  obtain ⟨hreadable, htext⟩ := h
  obtain ⟨t, ht⟩ := Option.isSome_iff_exists.mp htext
  unfold Document.readText Document.chars
  rw [hreadable, ht]
  rfl

/-- A configuration from which a registry is built is complete. -/
theorem isComplete_of_rebuild {c : Config} {s : Sink} {previous : Option Registry} {r : Registry}
    (h : (rebuild c.annotations c.languages (some s) previous).result = .ok r) :
    c.isComplete = true := by
  unfold rebuild at h
  split at h
  · cases h
  · rename_i plan hplan
    unfold Plan.of at hplan
    unfold Config.isComplete
    cases hannotations : c.annotations.isPresent with
    | false =>
      rw [hannotations] at hplan
      cases hplan
    | true =>
      cases hlanguages : c.languages.isPresent with
      | false =>
        rw [hannotations, hlanguages] at hplan
        cases hplan
      | true => rfl

open Session in
/-- After a session with a configuration from which a registry can be built has started, the registry
is in use, and the findings of the documents are listed document by document. -/
theorem start_findings {c : Config} {r : Registry}
    (hr : (rebuild c.annotations c.languages (some {}) none).result = .ok r)
    (documents : List (Option Document)) (listed : List (Document × DocRef))
    (hlisted : ∀ e ∈ listed, docAt documents e.2 = some e.1 ∧ e.1.HasText) :
    let s := ((Session.new documents (Workspace.ofDocuments (listed.map Prod.snd)) (.ok c)).step
      .start).session
    s.registry = some r ∧
      s.sink.findings [] listed = .ok (listed.flatMap fun e => r.findingsOf e.1) := by
  intro s
  have hnew := new_sound documents (Workspace.ofDocuments (listed.map Prod.snd)) (.ok c)
  obtain ⟨t, ht, hwhole, hempty, hregistry, hdocuments, hworkspace, hsession⟩ :=
    rebuildFrom_installs hnew hr
  have hs : s = { t with sink := t.pass.sink } := by
    rw [← hsession]
    change (Session.reload _).session = _
    unfold Session.reload
    simp only [Session.new, isComplete_of_rebuild hr, if_true]
  obtain ⟨hshown, hother⟩ := pass_shows hwhole hregistry (ht.fits hregistry)
  have hfor := rebuild_languagesFor hr
  rw [hs]
  refine ⟨hregistry, Sink.findings_of_forall fun e he => ?_⟩
  obtain ⟨hdoc, htext⟩ := hlisted e he
  have htext := htext.readText
  -- A listed document is the only one with its reference.
  have hvisible : ∀ d, (e.2, d) ∈ t.visible ↔ d = e.1 := by
    intro d
    rw [mem_visible, hdocuments, hworkspace]
    change e.2 ∈ listed.map Prod.snd ∧ docAt documents e.2 = some d ↔ _
    rw [hdoc]
    exact ⟨fun h => (Option.some.inj h.2).symm, fun h => ⟨List.mem_map_of_mem he, h ▸ rfl⟩⟩
  rcases hitsOfAll_cases (hfor e.1.language) e.1.chars.toArray with ⟨herror, -⟩ | ⟨xs, hxs, hin⟩
  · -- Nothing was painted when the registry was installed, and the scan fails.
    have hfindings : r.findingsOf e.1 = [] := by
      unfold Registry.findingsOf
      rw [herror]
    rw [hfindings]
    refine findingsIn_of_not_painted htext ((hother e.2 fun d groups hd hscan => ?_).trans ?_)
    · rw [(hvisible d).mp hd, scan_of_hits_error htext herror] at hscan
      cases hscan
    · unfold Sink.decorationsFor
      rw [hempty]
      rfl
  · refine findingsIn_of_painted htext hxs (fun x hx => (hin x hx).1) ?_
    exact hshown e.2 e.1 _ ((hvisible e.1).mpr rfl)
      (scan_of_hits htext hxs fun x hx => (hin x hx).2)

open Session in
/-- After a session with a configuration from which a registry can be built has started, the findings
of its documents are, document by document, the annotations of all descriptors for the document's
language, taken kind by kind and sorted by offset.  Each annotation comes once, and is a part of the
text.  Only a document whose extraction breaks off, which takes a possessive repeat of more than one
character, has no findings. -/
theorem findings_of_started {c : Config} {r : Registry}
    (hr : (rebuild c.annotations c.languages (some {}) none).result = .ok r)
    (documents : List (Option Document)) (listed : List (Document × DocRef))
    (hlisted : ∀ e ∈ listed, docAt documents e.2 = some e.1 ∧ e.1.HasText) :
    let s := ((Session.new documents (Workspace.ofDocuments (listed.map Prod.snd)) (.ok c)).step
      .start).session
    s.registry = some r ∧
      s.sink.findings [] listed = .ok (listed.flatMap fun e => r.findingsOf e.1) ∧
      ∀ e ∈ listed,
        (hitsOfAll e.1.chars.toArray (r.languagesFor e.1.language) = .error (.crossedGroup ⟨⟩) ∧
            ∃ d ∈ r.languagesFor e.1.language, d.MayGoBack) ∨
          ∃ xs, hitsOfAll e.1.chars.toArray (r.languagesFor e.1.language) = .ok xs ∧
            ((r.byKind xs).map Prod.snd).Perm xs ∧ ∀ x ∈ xs, x.IsPartOf e.1.chars.toArray := by
  intro s
  have hnames : r.kindNames.Nodup := rebuild_kindNames_nodup hr
  obtain ⟨hregistry, hfindings⟩ := start_findings hr documents listed hlisted
  refine ⟨hregistry, hfindings, fun e he => ?_⟩
  rcases hitsOfAll_cases (rebuild_languagesFor hr e.1.language) e.1.chars.toArray with
    herror | ⟨xs, hxs, hin⟩
  · exact .inl herror
  · exact .inr ⟨xs, hxs, r.byKind_perm hnames fun x hx => (hin x hx).2, fun x hx => (hin x hx).1⟩

/-- Two languages with one tag, whose comments are the same, and two kinds, one of them with a hover. -/
def doubledConfig : Config where
  annotations := .entries
    [.value (.table [("name", .str "LATE"), ("pattern", .str "b+"), ("isMarkdown", .bool true)]),
      .value (.table [("name", .str "EARLY"), ("pattern", .str "a")])]
  languages := .entries
    [.language { ids := ["t"], lineComments := [.text "//.*"] },
      .language { ids := ["t", "u"], lineComments := [.text "//.*"] }]

/-- A document with two lines. -/
def twoLines : Document := { text := some "x\n //abb", language := "t", uri := "m" }

/-- Both languages find the same two annotations, so that each comes twice; those of the kind that
comes later in the text come later. -/
theorem findings_of_started_doubled :
    ∃ r, (rebuild doubledConfig.annotations doubledConfig.languages (some {}) none).result = .ok r ∧
      r.findingsOf twoLines =
        [⟨"m", "EARLY", 2, 4, "a", none⟩, ⟨"m", "EARLY", 2, 4, "a", none⟩,
          ⟨"m", "LATE", 2, 5, "bb", some "bb"⟩, ⟨"m", "LATE", 2, 5, "bb", some "bb"⟩] := by
  have hresult : (rebuild doubledConfig.annotations doubledConfig.languages (some {})
      none).result.toOption.isSome = true := by decide +kernel
  have hvalue : ((((Session.new [some twoLines]
      (Workspace.ofDocuments (([(twoLines, some 0)] : List (Document × DocRef)).map Prod.snd))
      (.ok doubledConfig)).step .start).session.sink.findings [] [(twoLines, some 0)]).toOption) =
        some [⟨"m", "EARLY", 2, 4, "a", none⟩, ⟨"m", "EARLY", 2, 4, "a", none⟩,
          ⟨"m", "LATE", 2, 5, "bb", some "bb"⟩, ⟨"m", "LATE", 2, 5, "bb", some "bb"⟩] := by
    decide +kernel
  obtain ⟨r, hr⟩ := Option.isSome_iff_exists.mp hresult
  have hr := eq_ok_of_toOption hr
  obtain ⟨-, hfindings, -⟩ := findings_of_started (c := doubledConfig) hr [some twoLines]
    [(twoLines, some 0)] (List.forall_mem_singleton.mpr ⟨rfl, rfl, rfl⟩)
  rw [hfindings, List.flatMap_singleton] at hvalue
  exact ⟨r, hr, Option.some.inj hvalue⟩

/-- A kind whose pattern goes back before the place where it is found, and one that does not. -/
def breakingConfig : Config where
  annotations := .entries
    [.value (.table [("name", .str "K"), ("pattern", .str "x")]),
      .value (.table [("name", .str "L"), ("pattern", .str "(?:(?<=a)b)*+(?=z)")])]
  languages := .entries [.language { ids := ["t"], lineComments := [.text "//.*"] }]

/-- A document with an annotation in its first comment, and in whose second comment groups cross. -/
def brokenOff : Document := { text := some "//x\n//zb", language := "t", uri := "m" }

/-- The annotation in the first comment is found before extraction breaks off in the second one, but
the document has no findings. -/
theorem findings_lost_when_broken_off :
    ∃ r d m, (rebuild breakingConfig.annotations breakingConfig.languages (some {}) none).result =
        .ok r ∧
      r.languagesFor "t" = [d] ∧ d.annotationMatcher = some m ∧
      d.comments brokenOff.chars.toArray = .ok [⟨"//x", 0⟩, ⟨"//zb", 4⟩] ∧
      annotationsIn (some m) (Text.chars "//x") 0 = .ok [⟨"K", 2, 3, "x"⟩] ∧
      ((Session.new [some brokenOff] (Workspace.ofDocuments [some 0])
        (.ok breakingConfig)).step .start).session.sink.findings [] [(brokenOff, some 0)] =
          .ok [] := by
  have hresult : ((rebuild breakingConfig.annotations breakingConfig.languages (some {})
      none).result.toOption.map fun r => (r.languagesFor "t").map fun d =>
        ((d.comments brokenOff.chars.toArray).toOption, d.annotationMatcher.map fun m =>
          (annotationsIn (some m) (Text.chars "//x") 0).toOption)) =
      some [(some [⟨"//x", 0⟩, ⟨"//zb", 4⟩], some (some [⟨"K", 2, 3, "x"⟩]))] := by decide +kernel
  have hvalue : ((((Session.new [some brokenOff] (Workspace.ofDocuments [some 0])
      (.ok breakingConfig)).step .start).session.sink.findings [] [(brokenOff, some 0)]).toOption) =
        some [] := by decide +kernel
  obtain ⟨r, hr, hlanguages⟩ := Option.map_eq_some_iff.mp hresult
  obtain ⟨d, ds, hds, hd, hnil⟩ := List.map_eq_cons_iff.mp hlanguages
  obtain rfl := List.map_eq_nil_iff.mp hnil
  obtain ⟨hcomments, hmatcher⟩ := Prod.mk.inj hd
  obtain ⟨m, hm, hhits⟩ := Option.map_eq_some_iff.mp hmatcher
  exact ⟨r, d, m, eq_ok_of_toOption hr, hds, hm, eq_ok_of_toOption hcomments,
    eq_ok_of_toOption hhits, eq_ok_of_toOption hvalue⟩

end Marginalia
