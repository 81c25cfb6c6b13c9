import Marginalia.Proofs.Extraction.Endings
import Marginalia.Proofs.Session.Rollback
import Marginalia.Proofs.Sink.Painting

/-!
# What a rescan shows

A rescan visits the open documents in order.  One visit either paints a document in one layer, if it
can be scanned, or leaves the sink as it is and warns (`Pass.visit_eq`).  So after a pass each
document that can be scanned shows what its scan gives, in the order of the kinds, and every other
document shows what it showed before (`visitAll_frame`).

That painting cannot fail halfway, and that the entries come in the order of the kinds, is the
invariant `Sink.Whole` of the sink: it holds at every moment of a run (`Session.run_whole`), because
a new registry starts with nothing painted, and its kinds have different names.
-/

namespace Marginalia

namespace Session

/-! ## One visit and a pass -/

/-- The document that a reference stands for. -/
def docAt (documents : List (Option Document)) (ref : DocRef) : Option Document :=
  ref.bind fun i => (documents[i]?).getD none

/-- What the scan of a document gives, if there is a document and it can be scanned. -/
def scanAt? (documents : List (Option Document)) (r : Registry) (ref : DocRef) :
    Option Decorations :=
  (docAt documents ref).bind fun d => (scan d r).toOption

/-- The warning about a document that cannot be scanned. -/
def warningAt? (documents : List (Option Document)) (r : Registry) (ref : DocRef) :
    Option SessionWarning :=
  (docAt documents ref).bind fun d =>
    match scan d r with
    | .error e => some (.skipped d.literal (.scan e))
    | .ok _ => none

/-- The sink after the visit of a document. -/
def visitSink (documents : List (Option Document)) (r : Registry) (s : Sink) (ref : DocRef) : Sink :=
  match scanAt? documents r ref with
  | some groups => s.painting ref (groups.map Prod.snd)
  | none => s

section

variable {documents : List (Option Document)} {r : Registry}

/-- A document is scanned if it is there and its scan succeeds. -/
theorem scanAt?_eq_some {ref : DocRef} {groups : Decorations} :
    scanAt? documents r ref = some groups ↔
      ∃ d, docAt documents ref = some d ∧ scan d r = .ok groups := by
  unfold scanAt?
  rw [Option.bind_eq_some_iff]
  refine exists_congr fun d => and_congr_right fun _ => ?_
  cases scan d r with
  | error e => exact ⟨nofun, nofun⟩
  | ok gs => exact ⟨fun h => congrArg _ (Option.some.inj h), fun h => congrArg _ (Except.ok.inj h)⟩

/-- One visit. -/
theorem Pass.visit_eq {p : Pass} (hs : p.sink.Numbered) (hr : r.Fits p.sink) (ref : DocRef) :
    p.visit documents r ref =
      { results := p.results ++ ((scanAt? documents r ref).map (ref, ·)).toList
        warnings := p.warnings ++ (warningAt? documents r ref).toList
        sink := visitSink documents r p.sink ref } := by
  unfold Pass.visit visitSink scanAt? warningAt?
  have hdoc : (ref.bind fun i => (documents[i]?).getD none) = docAt documents ref := rfl
  rw [hdoc]
  cases docAt documents ref with
  | none => simp
  | some d =>
    dsimp only
    cases hscan : scan d r with
    | ok groups =>
      rw [paintDocument_of_scan hs hr hscan]
      simp [hscan, Except.toOption]
    | error e =>
      rw [paintDocument_of_scan_error hscan]
      simp [hscan, Except.toOption]

/-- A visit leaves the handles alone, keeps layers whole, and changes only the document itself. -/
theorem visitSink_frame (documents : List (Option Document)) {s : Sink} (hs : s.Whole)
    (hr : r.Fits s) (ref : DocRef) :
    (visitSink documents r s ref).Whole ∧ (visitSink documents r s ref).handles = s.handles ∧
      (∀ groups, scanAt? documents r ref = some groups →
        (visitSink documents r s ref).paintedOn ref =
          Sink.layer s.live ref (groups.map Prod.snd)) ∧
      ∀ ref', ref' ≠ ref ∨ scanAt? documents r ref = none →
        (visitSink documents r s ref).paintedOn ref' = s.paintedOn ref' := by
  unfold visitSink
  cases hscan : scanAt? documents r ref with
  | none => exact ⟨hs, rfl, nofun, fun _ _ => rfl⟩
  | some groups =>
    obtain ⟨d, -, hd⟩ := scanAt?_eq_some.mp hscan
    have hlength := scan_length hr hd
    refine ⟨hs.painting hlength, rfl, fun groups' heq => ?_, fun ref' hne => ?_⟩
    · cases heq
      exact hs.paintedOn_painting hlength
    · rcases hne with hne | hnone
      · exact Sink.paintedOn_painting_ne (Ne.symm hne)
      · cases hnone

/-- The sink after the visits of several documents. -/
def visitAll (documents : List (Option Document)) (r : Registry) (refs : List DocRef) (s : Sink) :
    Sink :=
  refs.foldl (visitSink documents r) s

/-- What is painted on the documents after the visits: each document that was visited and can be
scanned shows its scan, and every other one what it showed before. -/
theorem visitAll_frame (documents : List (Option Document)) {s : Sink} (hs : s.Whole)
    (hr : r.Fits s) (refs : List DocRef) :
    (visitAll documents r refs s).Whole ∧ (visitAll documents r refs s).handles = s.handles ∧
      (∀ ref ∈ refs, ∀ groups, scanAt? documents r ref = some groups →
        (visitAll documents r refs s).paintedOn ref =
          Sink.layer s.live ref (groups.map Prod.snd)) ∧
      ∀ ref, ref ∉ refs ∨ scanAt? documents r ref = none →
        (visitAll documents r refs s).paintedOn ref = s.paintedOn ref := by
  induction refs generalizing s with
  | nil => exact ⟨hs, rfl, nofun, fun _ _ => rfl⟩
  | cons first refs ih =>
    obtain ⟨hwhole, hhandles, hshown, hother⟩ :=
      visitSink_frame documents hs hr first
    obtain ⟨hwhole', hhandles', hshown', hother'⟩ := ih hwhole (hr.congr hhandles)
    have hlive := Sink.live_congr hhandles
    rw [hlive] at hshown'
    refine ⟨hwhole', hhandles'.trans hhandles, fun ref hmem groups hscan => ?_, fun ref hnot => ?_⟩
    · by_cases hlater : ref ∈ refs
      · exact hshown' ref hlater groups hscan
      · obtain rfl := (List.mem_cons.mp hmem).resolve_right hlater
        exact (hother' ref (.inl hlater)).trans (hshown groups hscan)
    · rw [List.mem_cons, not_or] at hnot
      refine (hother' ref (hnot.imp_left And.right)).trans (hother ref ?_)
      by_cases heq : ref = first
      · exact .inr (heq ▸ hnot.resolve_left fun h => h.1 heq)
      · exact .inl heq

/-- A pass over documents. -/
theorem Pass.foldl_visit {p : Pass} (hs : p.sink.Whole) (hr : r.Fits p.sink) (refs : List DocRef) :
    refs.foldl (Pass.visit documents r) p =
      { results := p.results ++ refs.filterMap fun ref => (scanAt? documents r ref).map (ref, ·)
        warnings := p.warnings ++ refs.filterMap (warningAt? documents r)
        sink := visitAll documents r refs p.sink } := by
  induction refs generalizing p with
  | nil => simp [visitAll]
  | cons ref refs ih =>
    obtain ⟨hwhole, hhandles, -, -⟩ := visitSink_frame documents hs hr ref
    rw [List.foldl_cons, Pass.visit_eq hs.numbered hr, ih hwhole (hr.congr hhandles)]
    cases hscan : scanAt? documents r ref <;> cases hwarning : warningAt? documents r ref <;>
      simp [hscan, hwarning, visitAll]

/-- To visit documents that already show their scans changes nothing that is painted. -/
theorem visitAll_painted {s : Sink} (hs : s.Whole) (hr : r.Fits s) {refs : List DocRef}
    (hshown : ∀ ref ∈ refs, ∀ groups, scanAt? documents r ref = some groups →
      s.paintedOn ref = Sink.layer s.live ref (groups.map Prod.snd)) :
    (visitAll documents r refs s).painted = s.painted := by
  induction refs generalizing s with
  | nil => rfl
  | cons first refs ih =>
    obtain ⟨hfirst, hrest⟩ := List.forall_mem_cons.mp hshown
    obtain ⟨hwhole, hhandles, -, -⟩ := visitSink_frame documents hs hr first
    have hlive := Sink.live_congr hhandles
    have hpainted : (visitSink documents r s first).painted = s.painted := by
      unfold visitSink
      cases hscan : scanAt? documents r first with
      | none => rfl
      | some groups => exact hs.painted_painting_of_layer (hfirst groups hscan)
    refine (ih hwhole (hr.congr hhandles) ?_).trans hpainted
    intro ref hmem groups hscan
    have h := hrest ref hmem groups hscan
    unfold Sink.paintedOn at h ⊢
    rw [hpainted, hlive]
    exact h

end

/-! ## Layers are whole at every moment -/

/-- The registry has the live handles. -/
theorem Sound.fits {s : Session} (hs : s.Sound) {r : Registry} (hr : s.registry = some r) :
    r.Fits s.sink :=
  ⟨hs.styles r hr, hs.names r hr⟩

/-- Scanning all documents keeps the sink whole. -/
theorem pass_whole {s : Session} (hs : s.Sound) (hw : s.sink.Whole) : s.pass.sink.Whole := by
  unfold Session.pass
  cases hreg : s.registry with
  | none => exact hw
  | some r =>
    dsimp only
    rw [Pass.foldl_visit hw (hs.fits hreg)]
    exact (visitAll_frame _ hw (hs.fits hreg) _).1

/-- So does a step that changes nothing. -/
theorem Keeps.whole {s t : Session} {reason : Option Refusal} (h : Keeps s t reason)
    (ht : t.Sound) (hw : s.sink.Whole) : t.sink.Whole :=
  hw.congr ht.numbered h.live h.painted

/-- A session whose styles are all newer than those of another one shows nothing of what that one
has painted. -/
theorem nothing_painted_of_newer {s t : Session} {new : Registry} {made : List StyleHandle}
    (hs : s.Sound) (ht : t.Sound) (hnew : t.registry = some new)
    (hmade : ∀ h ∈ made, h.disposed = false ∧ s.sink.handles.length < h.ident)
    (hstyles : new.kinds.map (·.handle) = made.map fun h => some h.ident)
    (hold : ∀ p ∈ t.sink.painted, p ∈ s.sink.painted) : t.sink.painted = [] := by
  refine List.eq_nil_iff_forall_not_mem.mpr fun p hp => ?_
  obtain ⟨h, hh, hident⟩ := ht.painted p hp
  have hlive : some h.ident ∈ made.map fun h => some h.ident := by
    rw [← hstyles, ht.styles new hnew]
    exact List.mem_map_of_mem (f := fun h => some h.ident) hh
  obtain ⟨g, hg, hsame⟩ := List.mem_map.mp hlive
  have hlater := (hmade g hg).2
  have hearlier := hs.painted_le (hold p hp)
  have hsame := Option.some.inj hsame
  omega

/-- A registry that is built is installed over a sink on which nothing is painted, and all documents
are scanned with it. -/
theorem rebuildFrom_installs {s : Session} (hs : s.Sound) {c : Config} {new : Registry}
    (hb : (rebuild c.annotations c.languages (some s.sink) s.registry).result = .ok new) :
    ∃ t : Session, t.Sound ∧ t.sink.Whole ∧ t.sink.painted = [] ∧ t.registry = some new ∧
      t.documents = s.documents ∧ t.workspace = s.workspace ∧
      (s.rebuildFrom c).session = { t with sink := t.pass.sink } := by
  obtain ⟨made, hsink, hprevious, hnum, hmade, hnew, -, hstyles, hnames⟩ :=
    rebuild_ok hs.numbered hb
  have hinstalled := hs.install hnum hmade hnew hstyles hnames
  have hempty := nothing_painted_of_newer hs hinstalled rfl hmade hstyles fun p hp => by
    dsimp only [Session.install] at hp
    cases hreg : s.registry with
    | none =>
      rw [hreg] at hp
      exact hp
    | some old =>
      rw [hreg] at hp
      exact ((old.painted_release _).subset hp :)
  refine ⟨_, hinstalled, .of_nothing_painted hinstalled.numbered ?_ hempty, hempty, rfl, rfl, rfl, ?_⟩
  · rw [← hinstalled.names new rfl]
    exact rebuild_kindNames_nodup hb
  · unfold rebuildFrom
    dsimp only
    rw [hb]
    dsimp only
    rw [hsink, hprevious, Option.getD_some]
    rfl

/-- So does building again. -/
theorem rebuildFrom_whole {s : Session} (hs : s.Sound) (hw : s.sink.Whole) (c : Config) :
    (s.rebuildFrom c).session.sink.Whole := by
  have hsound := (rebuildFrom_sound hs c).1
  cases hb : (rebuild c.annotations c.languages (some s.sink) s.registry).result with
  | error e =>
    rcases rebuildFrom_error hs hb with ⟨reason, -, -, -, hkeeps⟩ | ⟨-, -, hkeeps⟩
    · exact hkeeps.whole hsound hw
    · exact hkeeps.whole hsound hw
  | ok new =>
    obtain ⟨t, ht, hwhole, -, -, -, -, hsession⟩ := rebuildFrom_installs hs hb
    rw [hsession]
    exact pass_whole ht hwhole

/-- So does a reload. -/
theorem reload_whole {s : Session} (hs : s.Sound) (hw : s.sink.Whole) :
    s.reload.session.sink.Whole := by
  unfold Session.reload
  split
  · split
    · exact hw
    · exact hw
  · split
    · exact rebuildFrom_whole hs hw _
    · exact hw

/-- So does closing, which leaves nothing painted. -/
theorem close_whole {s : Session} (hs : s.Sound) (hw : s.sink.Whole) : s.close.sink.Whole := by
  have hclose := hs.close
  cases hreg : s.registry with
  | none =>
    have hsame : s.close = s := by
      unfold Session.close
      rw [hreg]
    rw [hsame]
    exact hw
  | some r =>
    have hnone : s.close.registry = none := by
      unfold Session.close
      rw [hreg]
    obtain ⟨hlive, hpainted⟩ := hclose.idle hnone
    exact .of_nothing_painted hclose.numbered (by rw [hlive]; exact List.nodup_nil) hpainted

/-- Every event keeps layers whole. -/
theorem step_whole {s : Session} (hs : s.Sound) (hw : s.sink.Whole) (e : Event) :
    (s.step e).session.sink.Whole := by
  cases e with
  | start => exact reload_whole hs hw
  | reload => exact reload_whole hs hw
  | enter => exact reload_whole hs hw
  | configChanged => exact reload_whole hs hw
  | close => exact close_whole hs hw
  | leave => exact close_whole hs hw
  | textChanged => exact pass_whole hs hw
  | activeChanged => exact pass_whole hs hw
  | rescan => exact pass_whole hs hw
  | setSource source => exact hw
  | refuseStyles kinds => exact hw.congr hw.numbered rfl rfl
  | setText index text =>
    simp only [Session.step, Session.setText]
    split
    · exact hw
    · exact hw
  | add _ | openDoc _ => exact hw
  | closeDoc _ | setActive _ =>
    simp only [Session.step, Session.inWorkspace]
    split
    · exact hw
    · exact hw
  | decorationsFor index => exact hw

/-- So do all events, by induction on them. -/
theorem run_whole {s : Session} (hs : s.Sound) (hw : s.sink.Whole) (es : List Event) :
    (s.run es).sink.Whole := by
  induction es generalizing s with
  | nil => exact hw
  | cons e es ih => exact ih (step_sound hs e).1 (step_whole hs hw e)

/-! ## The registry in use -/

/-- A reload keeps the registry in use, or puts a registry in its place that was built. -/
theorem reload_registry (s : Session) : s.reload.session.registry = s.registry ∨
    ∃ new, s.reload.session.registry = some new ∧ new.Compiled := by
  unfold Session.reload
  split
  · split <;> exact .inl rfl
  · split
    · unfold Session.rebuildFrom
      dsimp only
      split
      · rename_i new hnew
        exact .inr ⟨new, rfl, rebuild_compiled hnew⟩
      · exact .inl rfl
      · exact .inl rfl
    · exact .inl rfl

/-- A closed session has no registry. -/
theorem close_registry (s : Session) : s.close.registry = none := by
  unfold Session.close
  split
  · assumption
  · rfl

/-- Whatever happens, the descriptors in use are compiled. -/
theorem step_compiled {s : Session} (hs : ∀ r ∈ s.registry, r.Compiled) (e : Event) :
    ∀ r ∈ (s.step e).session.registry, r.Compiled := by
  have hreload : ∀ r ∈ s.reload.session.registry, r.Compiled := by
    obtain hsame | ⟨new, hnew, hcompiled⟩ := s.reload_registry
    · rwa [hsame]
    · rw [hnew]
      rintro r ⟨⟩
      exact hcompiled
  cases e with
  | start => exact hreload
  | reload => exact hreload
  | enter => exact hreload
  | configChanged => exact hreload
  | close | leave =>
    change ∀ r ∈ s.close.registry, r.Compiled
    rw [close_registry]
    exact nofun
  | setText index text =>
    simp only [Session.step, Session.setText]
    split <;> exact hs
  | closeDoc _ | setActive _ =>
    simp only [Session.step, Session.inWorkspace]
    split <;> exact hs
  | _ => exact hs

/-- The registry of a session is compiled after all events. -/
theorem run_compiled {s : Session} (hs : ∀ r ∈ s.registry, r.Compiled) (es : List Event) :
    ∀ r ∈ (s.run es).registry, r.Compiled := by
  induction es generalizing s with
  | nil => exact hs
  | cons e es ih => exact ih (step_compiled hs e)

/-- So is that of a session that was new once. -/
theorem compiled_of_run {documents : List (Option Document)} {workspace : Workspace}
    {source : Except LoadError Config} {es : List Event} {r : Registry}
    (hr : ((new documents workspace source).run es).registry = some r) : r.Compiled := by
  refine run_compiled (fun r' hr' => ?_) es r hr
  cases hr'

/-! ## Rescans -/

/-- The open documents in order, each with its reference. -/
def visible (s : Session) : List (DocRef × Document) :=
  s.workspace.documents.filterMap fun ref => (docAt s.documents ref).map (ref, ·)

/-- The scan of an open document, if it succeeds. -/
def shown? (r : Registry) (v : DocRef × Document) : Option (DocRef × Decorations) :=
  (scan v.2 r).toOption.map (v.1, ·)

/-- The warning about an open document whose scan fails. -/
def skipped? (r : Registry) (v : DocRef × Document) : Option SessionWarning :=
  match scan v.2 r with
  | .error e => some (.skipped v.2.literal (.scan e))
  | .ok _ => none

section

variable {s : Session} {r : Registry}

/-- Visible documents are listed and there. -/
theorem mem_visible {ref : DocRef} {d : Document} :
    (ref, d) ∈ s.visible ↔ ref ∈ s.workspace.documents ∧ docAt s.documents ref = some d := by
  unfold visible
  rw [List.mem_filterMap]
  constructor
  · rintro ⟨ref', hmem, h⟩
    obtain ⟨d', hd', heq⟩ := Option.map_eq_some_iff.mp h
    cases heq
    exact ⟨hmem, hd'⟩
  · rintro ⟨hmem, hd⟩
    exact ⟨ref, hmem, by rw [hd]; rfl⟩

/-- The pass over the open documents. -/
theorem pass_eq (hw : s.sink.Whole) (hr : s.registry = some r) (hfits : r.Fits s.sink) :
    s.pass =
      { results := s.visible.filterMap (shown? r)
        warnings := s.visible.filterMap (skipped? r)
        sink := visitAll s.documents r s.workspace.documents s.sink } := by
  unfold Session.pass
  rw [hr]
  dsimp only
  rw [Pass.foldl_visit hw hfits]
  unfold visible
  rw [List.filterMap_filterMap, List.filterMap_filterMap, List.nil_append, List.nil_append]
  congr 2
  · funext ref
    unfold scanAt? shown?
    cases docAt s.documents ref <;> rfl
  · funext ref
    unfold warningAt? skipped?
    cases docAt s.documents ref <;> rfl

/-- What the pass shows: the scans of the open documents that can be scanned, and on every other
document what was there before. -/
theorem pass_shows (hw : s.sink.Whole) (hr : s.registry = some r) (hfits : r.Fits s.sink) :
    (∀ ref d groups, (ref, d) ∈ s.visible → scan d r = .ok groups →
        s.pass.sink.decorationsFor ref = groups) ∧
      ∀ ref, (∀ d groups, (ref, d) ∈ s.visible → scan d r ≠ .ok groups) →
        s.pass.sink.decorationsFor ref = s.sink.decorationsFor ref := by
  obtain ⟨hw', hhandles, hshown, hother⟩ :=
    visitAll_frame s.documents hw hfits s.workspace.documents
  have hlive := Sink.live_congr hhandles
  rw [pass_eq hw hr hfits]
  dsimp only
  refine ⟨fun ref d groups hmem hscan => ?_, fun ref hnone => ?_⟩
  · obtain ⟨hopen, hdoc⟩ := mem_visible.mp hmem
    have hlayer := hshown ref hopen groups (scanAt?_eq_some.mpr ⟨d, hdoc, hscan⟩)
    rw [← hlive] at hlayer
    have hlength := hlive ▸ scan_length hfits hscan
    rw [hw'.decorationsFor_of_layer hlength hlayer, hlive, ← hfits.names]
    exact (List.zip_of_prod (scan_kinds hscan) rfl).symm
  · refine Sink.decorationsFor_congr hhandles (hother ref ?_)
    by_cases hopen : ref ∈ s.workspace.documents
    · refine .inr (Option.eq_none_iff_forall_ne_some.mpr fun groups hscan => ?_)
      obtain ⟨d, hdoc, hd⟩ := scanAt?_eq_some.mp hscan
      exact hnone d groups (mem_visible.mpr ⟨hopen, hdoc⟩) hd
    · exact .inl hopen

end

/-- If extraction ends on the open documents, a rescan of a session returns those whose scans succeed,
in order and each with its scan, and warns about each of the others.  Afterwards these documents show
their scans, with a group for each kind, and every other document shows what it showed.  To rescan
once more changes nothing.  Extraction ends with any descriptor that has no possessive repeat of more
than one character. -/
theorem rescan_shows_scans (documents : List (Option Document)) (workspace : Workspace)
    (source : Except LoadError Config) (es : List Event) (r : Registry)
    (hr : ((new documents workspace source).run es).registry = some r)
    (hends : ∀ v ∈ ((new documents workspace source).run es).visible, r.EndsOn v.2) :
    let s := (new documents workspace source).run es
    let first := s.step .rescan
    let second := first.session.step .rescan
    (∀ d ∈ r.languages, d.MayGoBack ∨ ∀ text, d.Ends text) ∧
      (∀ v ∈ s.visible, r.Exhausts v.2) ∧
      first.result = .ok (.scanned (s.visible.filterMap (shown? r))) ∧
      first.warnings = s.visible.filterMap (skipped? r) ∧
      first.session = { s with sink := first.session.sink } ∧
      (∀ ref d groups, (ref, d) ∈ s.visible → scan d r = .ok groups →
        first.session.sink.decorationsFor ref = groups ∧ groups.map Prod.fst = r.kindNames) ∧
      (∀ ref, (∀ d groups, (ref, d) ∈ s.visible → scan d r ≠ .ok groups) →
        first.session.sink.decorationsFor ref = s.sink.decorationsFor ref) ∧
      second.result = first.result ∧ second.warnings = first.warnings ∧
      second.session.sink.painted = first.session.sink.painted := by
  intro s first second
  have hsound : s.Sound := (new_sound documents workspace source).run es
  have hw : s.sink.Whole := run_whole (new_sound documents workspace source)
    (.of_nothing_painted (new_sound documents workspace source).numbered List.nodup_nil rfl) es
  have hfits := hsound.fits hr
  have hpass := pass_eq hw hr hfits
  obtain ⟨hw', hhandles, hlayers, -⟩ := visitAll_frame s.documents hw hfits s.workspace.documents
  obtain ⟨hshown, hother⟩ := pass_shows hw hr hfits
  have hfirst : first.session.sink = visitAll s.documents r s.workspace.documents s.sink :=
    congrArg Pass.sink hpass
  have hpass' : first.session.pass = _ := pass_eq (hfirst ▸ hw') hr (hfirst ▸ hfits.congr hhandles)
  have hresults : first.result = .ok (.scanned (s.visible.filterMap (shown? r))) :=
    congrArg (fun p : Pass => Except.ok (Outcome.scanned p.results)) hpass
  have hwarnings : first.warnings = s.visible.filterMap (skipped? r) :=
    congrArg Pass.warnings hpass
  have hcompiled := compiled_of_run hr
  refine ⟨fun d hd => hcompiled.mayGoBack_or_ends hd, fun v hv => (hends v hv).exhausts, hresults,
    hwarnings, rfl, fun ref d groups hmem hscan =>
      ⟨hshown ref d groups hmem hscan, scan_kinds hscan⟩, hother, ?_, ?_, ?_⟩
  · rw [hresults]
    exact congrArg (fun p : Pass => Except.ok (Outcome.scanned p.results)) hpass'
  · rw [hwarnings]
    exact congrArg Pass.warnings hpass'
  · -- Every visited document shows its scan by now, so nothing is replaced by something else.
    have hsecond : second.session.sink =
        visitAll s.documents r s.workspace.documents first.session.sink :=
      congrArg Pass.sink hpass'
    rw [hsecond, hfirst]
    refine visitAll_painted hw' (hfits.congr hhandles) fun ref hopen groups hscan => ?_
    rw [Sink.live_congr hhandles]
    exact hlayers ref hopen groups hscan

/-- Documents of which one cannot be read, one has no text and one has a language without comments. -/
def mixedDocuments : List (Option Document) :=
  [some { text := some "//a", language := "t" },
    some { text := some "//b", language := "t", readable := false },
    some { text := none, language := "t" },
    some { text := some "//a", language := "u" }]

/-- They are all open, the first one twice. -/
def mixedWorkspace : Workspace :=
  Workspace.ofDocuments [some 0, some 1, none, some 0, some 2, some 3]

/-- The two kinds, in line comments. -/
def mixedSource : Except LoadError Config :=
  .ok ⟨pairAnnotations, .entries [.language { ids := ["t"], lineComments := [.text "//.*"] }], none⟩

/-- A session over them, in which the first document has got a new text. -/
def mixedSession : Session :=
  (new mixedDocuments mixedWorkspace mixedSource).run [.start, .setText 0 (some "//ab//")]

/-- The first document shows its new text when it is scanned again, and is scanned twice. -/
theorem rescan_shows_scans_mixed :
    ∃ r groups, mixedSession.registry = some r ∧ (∀ v ∈ mixedSession.visible, r.EndsOn v.2) ∧
      scan { text := some "//ab//", language := "t" } r = .ok groups ∧
      groups.map (fun g => (g.1, g.2.length)) = [("A", 1), ("B", 1)] ∧
      (mixedSession.step .rescan).warnings.length = 2 ∧
      (mixedSession.step .rescan).session.sink.decorationsFor (some 0) = groups := by
  have hsome : (mixedSession.registry.map fun r => (r.keepsPlace,
        ((scan { text := some "//ab//", language := "t" } r).toOption.map fun groups =>
          (groups.map fun g => (g.1, g.2.length),
            (mixedSession.visible.filterMap (skipped? r)).length)))) =
      some (true, some ([("A", 1), ("B", 1)], 2)) := by decide +kernel
  have hopen : (some 0, { text := some "//ab//", language := "t" }) ∈ mixedSession.visible :=
    mem_visible.mpr (by decide +kernel)
  obtain ⟨r, hr, hvalues⟩ := Option.map_eq_some_iff.mp hsome
  obtain ⟨hplace, hscan⟩ := Prod.mk.inj hvalues
  obtain ⟨groups, hgroups, hvalues⟩ := Option.map_eq_some_iff.mp hscan
  obtain ⟨hlengths, hwarned⟩ := Prod.mk.inj hvalues
  have hscan := eq_ok_of_toOption hgroups
  have hcompiled := compiled_of_run hr
  have hends : ∀ v ∈ mixedSession.visible, r.EndsOn v.2 :=
    fun v _ => hcompiled.endsOn hplace v.2
  obtain ⟨-, -, -, hwarnings, -, hshown, -⟩ := rescan_shows_scans mixedDocuments mixedWorkspace
    mixedSource [.start, .setText 0 (some "//ab//")] r hr hends
  have hshows := hshown (some 0) _ groups hopen hscan
  exact ⟨r, groups, hr, hends, hscan, hlengths, hwarnings ▸ hwarned, hshows.1⟩

/-- A document with one letter. -/
def letterDocument : Document := { text := some "a", language := "t" }

/-- A session with a language whose skipped block looks back, to which the document is added. -/
def returningSession : Session :=
  (new [] (Workspace.ofDocuments []) (.ok ⟨pairAnnotations, .entries [.language
    { ids := ["t"], skippedBlocks := [.text "(?:(?<=x)y)*+"] }], none⟩)).run
      [.start, .add (some letterDocument)]

/-- The document is open, but the loop over its comments never ends, so that a rescan returns
nothing. -/
theorem rescan_never_ends :
    ∃ r, returningSession.registry = some r ∧ (some 0, letterDocument) ∈ returningSession.visible ∧
      ∃ d ∈ r.languagesFor letterDocument.language, ∃ c, d.commentMatcher = some c ∧
        ∀ hits broken, ¬(c.scanner (Text.chars "a")).Runs 0 hits broken := by
  have hvalue : (returningSession.registry.map fun r =>
      (r.languagesFor letterDocument.language).map fun d => d.commentMatcher.map fun c =>
        ((c.scanner (Text.chars "a")).search 0, (c.scanner (Text.chars "a")).search 1)) =
      some [some (.ok (some ⟨0, 0, none⟩), .ok (some ⟨1, 0, none⟩))] := by decide +kernel
  obtain ⟨r, hr, hlanguages⟩ := Option.map_eq_some_iff.mp hvalue
  obtain ⟨d, ds, hds, hd, -⟩ := List.map_eq_cons_iff.mp hlanguages
  obtain ⟨c, hc, hsearches⟩ := Option.map_eq_some_iff.mp hd
  obtain ⟨hfirst, hsecond⟩ := Prod.mk.inj hsearches
  refine ⟨r, hr, mem_visible.mpr (by decide +kernel), d, hds ▸ List.mem_cons_self, c, hc, ?_⟩
  exact CommentMatcher.not_runs_of_returns (Nat.le_refl 1) hfirst hsecond

end Session

end Marginalia
