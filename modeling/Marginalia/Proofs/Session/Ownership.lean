import Marginalia.Proofs.Sink.Handles
import Marginalia.Session

/-!
# A session owns exactly the live styles

At every moment of a run the live handles of the sink are those of the registry in use, one for each
of its kinds and in their order, and everything painted is painted with one of them
(`Session.Sound`).  A session without a registry has neither live handles nor anything painted.

One event can do three things with registries (`Session.Turn`): nothing, take the registry out of
use, or put a new one in its place, numbered one higher.  A registry that goes out of use is
released, and it stays so, because the list of retired registries only grows at its end.

What an event does to the sink is said once for building a registry (`rebuild_ok`, `rebuild_error`)
and once for a pass over the documents (`Pass.frame`); the events are assembled from these.
-/

namespace Marginalia

/-! ## Building a registry -/

/-- The number of the registry that takes the place of another, or of none. -/
def nextGeneration (previous : Option Registry) : Nat :=
  match previous with
  | some r => r.generation + 1
  | none => 1

/-- A registry after its styles were taken back. -/
def Registry.retire (r : Registry) : Registry := { r with released := true }

/-- A release disposes of all handles of the registry. -/
theorem Registry.release_of_inUse {r : Registry} (hr : r.released = false) (s : Sink) :
    r.release s = (r.retire, s.disposeAll r.idents) := by
  unfold Registry.release
  rw [hr]
  rfl

/-- To release a registry adds nothing to what is painted. -/
theorem Registry.painted_release (r : Registry) (s : Sink) :
    (r.release s).2.painted.Sublist s.painted := by
  unfold release
  split
  · exact .refl _
  · rw [Sink.disposeAll_painted]
    exact List.filter_sublist

/-- A new registry has the handles that were made for it. -/
theorem Plan.registry_handles (p : Plan) {idents : List Nat} {made : List StyleHandle}
    (previous : Option Registry) (hi : idents = made.map (·.ident))
    (hk : made.map (·.kind) = p.specs.map (·.name)) :
    (p.registry (idents.map some) previous).kinds.map (·.handle) =
        made.map (fun h => some h.ident) ∧
      (p.registry (idents.map some) previous).kindNames = made.map (·.kind) := by
  have hlen : p.specs.length = made.length := by simpa using (congrArg List.length hk).symm
  have hsnd : (p.specs.zip (idents.map some)).map Prod.snd = idents.map some :=
    List.map_snd_zip (by simp [hi, hlen])
  have hfst : (p.specs.zip (idents.map some)).map Prod.fst = p.specs :=
    List.map_fst_zip (by simp [hi, hlen])
  refine ⟨?_, ?_⟩
  · simp only [Plan.registry, List.map_map, Function.comp_def]
    change (p.specs.zip (idents.map some)).map Prod.snd = _
    rw [hsnd, hi, List.map_map]
    rfl
  · simp only [Registry.kindNames, Plan.registry, List.map_map, Function.comp_def]
    change (p.specs.zip (idents.map some)).map (fun k => k.1.name) = _
    rw [hk, ← congrArg (List.map (·.name)) hfst, List.map_map]
    rfl

/-- A failed attempt to build a registry changes the sink only by handles that are disposed, and
leaves the previous registry as it is. -/
theorem rebuild_error {annotations : Section AnnotationEntry} {languages : Section LanguageEntry}
    {s : Sink} {previous : Option Registry} {e : RebuildError} (hs : s.Numbered)
    (hb : (rebuild annotations languages (some s) previous).result = .error e) :
    ∃ s' made, (rebuild annotations languages (some s) previous).sink = some s' ∧
      (rebuild annotations languages (some s) previous).previous = previous ∧
      s'.Numbered ∧ s'.handles = s.handles ++ made ∧ (∀ h ∈ made, h.disposed = true) ∧
      (∃ idents : List Nat, s'.painted = s.painted.filter (fun p => p.ident ∉ idents) ∧
        ∀ i ∈ idents, s.handles.length < i) ∧
      s'.paintCalls = s.paintCalls ∧ s'.refused = s.refused := by
  unfold rebuild at hb ⊢
  split at hb
  · have hnone : s.painted = s.painted.filter fun p => p.ident ∉ ([] : List Nat) :=
      (List.filter_eq_self.mpr fun _ _ => by simp).symm
    exact ⟨s, [], rfl, rfl, hs, by simp, by simp, ⟨[], hnone, by simp⟩, rfl, rfl⟩
  · rename_i plan _
    simp only at hb ⊢
    split at hb
    · rename_i s₁ ha
      obtain ⟨made, hh, hnum, hmade, hp, hcalls, hrefused⟩ := Sink.allocateStyles_error hs ha
      exact ⟨s₁, made, rfl, rfl, hnum, hh, hmade, hp, hcalls, hrefused⟩
    · split at hb <;> cases hb

/-- A new registry has one new live style for each kind, and the previous one is released. -/
theorem rebuild_ok {annotations : Section AnnotationEntry} {languages : Section LanguageEntry}
    {s : Sink} {previous : Option Registry} {new : Registry} (hs : s.Numbered)
    (hb : (rebuild annotations languages (some s) previous).result = .ok new) :
    ∃ made : List StyleHandle,
      let s₁ := { s with handles := s.handles ++ made }
      (rebuild annotations languages (some s) previous).sink =
          some ((previous.map fun old => (old.release s₁).2).getD s₁) ∧
      (rebuild annotations languages (some s) previous).previous =
          previous.map (fun old => (old.release s₁).1) ∧
      s₁.Numbered ∧ (∀ h ∈ made, h.disposed = false ∧ s.handles.length < h.ident) ∧
      new.released = false ∧ new.generation = nextGeneration previous ∧
      new.kinds.map (·.handle) = made.map (fun h => some h.ident) ∧
      new.kindNames = made.map (·.kind) := by
  unfold rebuild at hb ⊢
  split at hb
  · cases hb
  · rename_i plan _
    simp only at hb ⊢
    split at hb
    · cases hb
    · rename_i idents s₁ ha
      obtain ⟨made, rfl, hnum, hids, hkinds, -, hmade⟩ := Sink.allocateStyles_ok hs ha
      rw [List.nil_append] at hids
      obtain ⟨hhandles, hnames⟩ := plan.registry_handles previous hids hkinds
      refine ⟨made, ?_⟩
      cases previous with
      | none =>
        cases hb
        exact ⟨rfl, rfl, hnum, hmade, rfl, rfl, hhandles, hnames⟩
      | some old =>
        cases hb
        exact ⟨rfl, rfl, hnum, hmade, rfl, rfl, hhandles, hnames⟩

namespace Session

/-! ## What holds at every moment of a run -/

/-- The styles, the paintings and the registries of a session fit together. -/
structure Sound (s : Session) : Prop where
  /-- The handles are numbered in order. -/
  numbered : s.sink.Numbered
  /-- Without a registry no handle is live and nothing is painted. -/
  idle : s.registry = none → s.sink.live = [] ∧ s.sink.painted = []
  /-- The registry in use is not released. -/
  inUse : ∀ r, s.registry = some r → r.released = false
  /-- The live handles are the styles of the kinds in use, in order. -/
  styles : ∀ r, s.registry = some r →
    r.kinds.map (·.handle) = s.sink.live.map (fun h => some h.ident)
  /-- Each of them is the style of the kind it was made for. -/
  names : ∀ r, s.registry = some r → r.kindNames = s.sink.live.map (·.kind)
  /-- What is painted is painted with a live handle. -/
  painted : ∀ p ∈ s.sink.painted, ∃ h ∈ s.sink.live, h.ident = p.ident
  /-- The registries that went out of use are released. -/
  retired : ∀ r ∈ s.retired, r.released = true

/-- What one event can do with the registries of a session. -/
inductive Turn (s t : Session) : Prop
  /-- The registry stays in use. -/
  | kept (registry : t.registry = s.registry) (retired : t.retired = s.retired)
  /-- The registry goes out of use. -/
  | closed (r : Registry) (before : s.registry = some r) (after : t.registry = none)
      (retired : t.retired = s.retired ++ [r.retire])
  /-- A new registry takes the place of the old one, or of none. -/
  | replaced (new : Registry) (after : t.registry = some new)
      (generation : new.generation = nextGeneration s.registry)
      (retired : t.retired = s.retired ++ (s.registry.map Registry.retire).toList)

/-- The invariant speaks about the sink and the registries only. -/
theorem Sound.congr {s t : Session} (hs : s.Sound) (hsink : t.sink = s.sink)
    (hreg : t.registry = s.registry) (hret : t.retired = s.retired) : t.Sound where
  numbered := hsink ▸ hs.numbered
  idle h := hsink ▸ hs.idle (hreg ▸ h)
  inUse r h := hs.inUse r (hreg ▸ h)
  styles r h := hsink ▸ hs.styles r (hreg ▸ h)
  names r h := hsink ▸ hs.names r (hreg ▸ h)
  painted := hsink ▸ hs.painted
  retired r h := hs.retired r (hret ▸ h)

/-- The numbers of the styles in use are those of the live handles. -/
theorem Sound.idents_eq {s : Session} (hs : s.Sound) {r : Registry} (hr : s.registry = some r) :
    r.idents = s.sink.live.map (·.ident) := by
  have h := hs.styles r hr
  have hid : r.idents = (r.kinds.map (·.handle)).filterMap id := by
    simp [Registry.idents, List.filterMap_map]
  rw [hid, h, List.filterMap_map]
  simp

/-- Paintings with a handle made by and by never belong to a handle that comes later. -/
theorem Sound.painted_le {s : Session} (hs : s.Sound) {p : Painted} (hp : p ∈ s.sink.painted) :
    p.ident ≤ s.sink.handles.length := by
  obtain ⟨h, hh, he⟩ := hs.painted p hp
  exact he ▸ hs.numbered.ident_le (s.sink.live_subset hh)

/-! ## A pass over the documents -/

/-- A pass leaves the handles alone, and paints only with the styles of its registry. -/
theorem Pass.visit_frame (documents : List (Option Document)) (r : Registry) (p : Pass)
    (ref : DocRef) :
    (p.visit documents r ref).sink.handles = p.sink.handles ∧
      ∀ q ∈ (p.visit documents r ref).sink.painted,
        q ∈ p.sink.painted ∨ some q.ident ∈ r.kinds.map (·.handle) := by
  unfold Pass.visit
  split
  · exact ⟨rfl, fun q hq => .inl hq⟩
  · split
    · rename_i hp
      obtain ⟨hh, -, hq⟩ := Sink.paintDocument_frame hp
      exact ⟨hh, hq⟩
    · rename_i hp
      obtain ⟨hh, -, hq⟩ := Sink.paintDocument_frame hp
      exact ⟨hh, hq⟩

/-- Visiting documents makes no handles and paints with those of the registry. -/
theorem Pass.frame (documents : List (Option Document)) (r : Registry) (refs : List DocRef)
    (p : Pass) :
    (refs.foldl (Pass.visit documents r) p).sink.handles = p.sink.handles ∧
      ∀ q ∈ (refs.foldl (Pass.visit documents r) p).sink.painted,
        q ∈ p.sink.painted ∨ some q.ident ∈ r.kinds.map (·.handle) := by
  induction refs generalizing p with
  | nil => exact ⟨rfl, fun q hq => .inl hq⟩
  | cons ref refs ih =>
    obtain ⟨hh, hq⟩ := ih (p.visit documents r ref)
    obtain ⟨hh₁, hq₁⟩ := Pass.visit_frame documents r p ref
    refine ⟨hh.trans hh₁, fun q h => ?_⟩
    rcases hq q h with h | h
    · exact hq₁ q h
    · exact .inr h

/-- A pass keeps the invariant. -/
theorem Sound.pass {s : Session} (hs : s.Sound) : ({ s with sink := s.pass.sink }).Sound := by
  unfold Session.pass
  split
  · exact hs.congr rfl rfl rfl
  · rename_i r hr
    obtain ⟨hh, hq⟩ := Pass.frame s.documents r s.workspace.documents { sink := s.sink }
    have hlive : (s.workspace.documents.foldl (Pass.visit s.documents r)
        { sink := s.sink }).sink.live = s.sink.live := by
      unfold Sink.live
      rw [hh]
    refine ⟨?_, ?_, hs.inUse, ?_, ?_, ?_, hs.retired⟩
    · exact hs.numbered.congr (congrArg (List.map (·.ident)) hh)
    · intro hnone
      rw [hr] at hnone
      cases hnone
    · intro r' hr'
      rw [hs.styles r' hr', hlive]
    · intro r' hr'
      rw [hs.names r' hr', hlive]
    · intro p hp
      rw [hlive]
      rcases hq p hp with hp | hp
      · exact hs.painted p hp
      · rw [hs.styles r hr] at hp
        obtain ⟨h, hh', he⟩ := List.mem_map.mp hp
        exact ⟨h, hh', Option.some.inj he⟩

/-! ## Closing -/

/-- Closing takes all live handles back. -/
theorem Sound.close {s : Session} (hs : s.Sound) : s.close.Sound := by
  unfold Session.close
  split
  · exact hs
  · rename_i r hr
    rw [Registry.release_of_inUse (hs.inUse r hr)]
    have hids := hs.idents_eq hr
    have hlive : (s.sink.disposeAll r.idents).live = [] := by
      rw [Sink.live_disposeAll, List.filter_eq_nil_iff]
      intro h hh
      simpa [hids] using ⟨h, hh, rfl⟩
    have hpainted : (s.sink.disposeAll r.idents).painted = [] := by
      rw [Sink.disposeAll_painted, List.filter_eq_nil_iff]
      intro p hp
      obtain ⟨h, hh, he⟩ := hs.painted p hp
      simpa [hids] using ⟨h, hh, he⟩
    refine ⟨hs.numbered.disposeAll _, fun _ => ⟨hlive, hpainted⟩, ?_, ?_, ?_, ?_, ?_⟩
    · intro r' hr'
      cases hr'
    · intro r' hr'
      cases hr'
    · intro r' hr'
      cases hr'
    · intro p hp
      simp only [hpainted, List.not_mem_nil] at hp
    · intro r' hr'
      rcases List.mem_append.mp hr' with hr' | hr'
      · exact hs.retired r' hr'
      · rw [List.mem_singleton.mp hr']
        rfl

/-- Closing gives up the registry and its handles. -/
theorem close_turn {s : Session} (hs : s.Sound) : Turn s s.close := by
  unfold Session.close
  split
  · exact .kept rfl rfl
  · rename_i r hr
    rw [Registry.release_of_inUse (hs.inUse r hr)]
    exact .closed r hr rfl rfl

/-! ## Loading -/

/-- A registry that could not be built leaves the live handles and the paintings as they were. -/
theorem Sound.withSink {s : Session} (hs : s.Sound) {sink : Sink} {made : List StyleHandle}
    (hnum : sink.Numbered) (hh : sink.handles = s.sink.handles ++ made)
    (hmade : ∀ h ∈ made, h.disposed = true)
    (hp : ∃ idents : List Nat, sink.painted = s.sink.painted.filter (fun p => p.ident ∉ idents) ∧
      ∀ i ∈ idents, s.sink.handles.length < i) : ({ s with sink := sink }).Sound := by
  -- The new handles are disposed of, and nothing was painted with them.
  have hlive : sink.live = s.sink.live := by
    have hnone : made.filter (fun h => !h.disposed) = [] := by
      rw [List.filter_eq_nil_iff]
      intro h hm
      simp [hmade h hm]
    unfold Sink.live
    rw [hh, List.filter_append, hnone, List.append_nil]
  have hpainted : sink.painted = s.sink.painted := by
    obtain ⟨idents, hpaint, hids⟩ := hp
    rw [hpaint, List.filter_eq_self]
    intro p hpm
    have hle := hs.painted_le hpm
    simp only [decide_eq_true_eq]
    intro hmem
    have := hids _ hmem
    omega
  refine ⟨hnum, ?_, hs.inUse, ?_, ?_, ?_, hs.retired⟩
  · intro hnone
    simp only [hlive, hpainted]
    exact hs.idle hnone
  · intro r hr
    simp only [hlive]
    exact hs.styles r hr
  · intro r hr
    simp only [hlive]
    exact hs.names r hr
  · intro p hpm
    simp only [hlive]
    simp only [hpainted] at hpm
    exact hs.painted p hpm

/-- A new registry takes over: its styles are the live ones, and those of the old one are gone. -/
theorem Sound.install {s : Session} (hs : s.Sound) {new : Registry} {made : List StyleHandle}
    (hnum : ({ s.sink with handles := s.sink.handles ++ made }).Numbered)
    (hmade : ∀ h ∈ made, h.disposed = false ∧ s.sink.handles.length < h.ident)
    (hnew : new.released = false)
    (hstyles : new.kinds.map (·.handle) = made.map (fun h => some h.ident))
    (hnames : new.kindNames = made.map (·.kind)) :
    let s₁ := { s.sink with handles := s.sink.handles ++ made }
    (s.install new (s.registry.map fun old => (old.release s₁).1)
      ((s.registry.map fun old => (old.release s₁).2).getD s₁)).Sound := by
  intro s₁
  have hlive₁ : s₁.live = s.sink.live ++ made := by
    have hall : made.filter (fun h => !h.disposed) = made := by
      rw [List.filter_eq_self]
      intro h hm
      simp [(hmade h hm).1]
    change (s.sink.handles ++ made).filter _ = _
    rw [List.filter_append, hall]
    rfl
  -- the sink after the old registry, if there was one, is released
  have hsink : ∀ sink, (s.registry.map fun old => (old.release s₁).2).getD s₁ = sink →
      sink.Numbered ∧ sink.live = made ∧ sink.painted = [] := by
    intro sink hsink
    cases hreg : s.registry with
    | none =>
      rw [hreg] at hsink
      subst hsink
      obtain ⟨hl, hp⟩ := hs.idle hreg
      exact ⟨hnum, by simp [hlive₁, hl], hp⟩
    | some old =>
      rw [hreg] at hsink
      simp only [Option.map_some, Option.getD_some,
        Registry.release_of_inUse (hs.inUse old hreg)] at hsink
      subst hsink
      have hids := hs.idents_eq hreg
      refine ⟨hnum.disposeAll _, ?_, ?_⟩
      · rw [Sink.live_disposeAll, hlive₁, List.filter_append]
        have hgone : s.sink.live.filter (fun h => h.ident ∉ old.idents) = [] := by
          rw [List.filter_eq_nil_iff]
          intro h hh
          simpa [hids] using ⟨h, hh, rfl⟩
        have hkept : made.filter (fun h => h.ident ∉ old.idents) = made := by
          rw [List.filter_eq_self]
          intro h hm
          simp only [hids, decide_eq_true_eq, List.mem_map, not_exists, not_and]
          intro g hg he
          have h₁ := hs.numbered.ident_le (s.sink.live_subset hg)
          have h₂ := (hmade h hm).2
          omega
        rw [hgone, hkept, List.nil_append]
      · rw [Sink.disposeAll_painted, List.filter_eq_nil_iff]
        intro p hp
        obtain ⟨h, hh, he⟩ := hs.painted p hp
        simpa [hids] using ⟨h, hh, he⟩
  obtain ⟨hn, hl, hp⟩ := hsink _ rfl
  refine ⟨hn, ?_, ?_, ?_, ?_, ?_, ?_⟩
  · intro hnone
    cases hnone
  · intro r hr
    cases hr
    exact hnew
  · intro r hr
    cases hr
    exact hstyles.trans (congrArg (List.map _) hl).symm
  · intro r hr
    cases hr
    exact hnames.trans (congrArg (List.map _) hl).symm
  · intro p hpm
    simp only [Session.install, hp, List.not_mem_nil] at hpm
  · intro r hr
    rcases List.mem_append.mp hr with hr | hr
    · exact hs.retired r hr
    · cases hreg : s.registry with
      | none => simp [hreg] at hr
      | some old =>
        simp only [hreg, Option.map_some, Option.toList_some, List.mem_singleton,
          Registry.release_of_inUse (hs.inUse old hreg)] at hr
        rw [hr]
        rfl

/-- Scanning again keeps the registry. -/
theorem rescan_turn {s t : Session} (h : Turn s t) (f : List (DocRef × Decorations) → Outcome) :
    Turn s (t.rescan f).session := by
  cases h with
  | kept hr hret => exact .kept hr hret
  | closed r hb ha hret => exact .closed r hb ha hret
  | replaced new ha hg hret => exact .replaced new ha hg hret

/-- Building a registry from a configuration keeps the invariant and turns the registries once. -/
theorem rebuildFrom_sound {s : Session} (hs : s.Sound) (c : Config) :
    (s.rebuildFrom c).session.Sound ∧ Turn s (s.rebuildFrom c).session := by
  unfold Session.rebuildFrom
  simp only
  split
  · rename_i new hb
    obtain ⟨made, hsink, hprev, hnum, hmade, hnew, hgen, hstyles, hnames⟩ :=
      rebuild_ok hs.numbered hb
    rw [hsink, hprev, Option.getD_some]
    refine ⟨(hs.install hnum hmade hnew hstyles hnames).pass, rescan_turn ?_ _⟩
    refine .replaced new rfl hgen ?_
    cases hreg : s.registry with
    | none => rfl
    | some old =>
      simp only [Session.install, Option.map_some,
        Registry.release_of_inUse (hs.inUse old hreg)]
  · rename_i e hb
    obtain ⟨s', made, hsink, -, hnum, hh, hdisp, hp, -, -⟩ := rebuild_error hs.numbered hb
    rw [hsink, Option.getD_some]
    exact ⟨(hs.withSink hnum hh hdisp hp).congr rfl rfl rfl, .kept rfl rfl⟩
  · rename_i e _ hb
    obtain ⟨s', made, hsink, -, hnum, hh, hdisp, hp, -, -⟩ := rebuild_error hs.numbered hb
    rw [hsink, Option.getD_some]
    exact ⟨hs.withSink hnum hh hdisp hp, .kept rfl rfl⟩

/-- A reload keeps a session sound, and replaces the registry or keeps it. -/
theorem reload_sound {s : Session} (hs : s.Sound) :
    s.reload.session.Sound ∧ Turn s s.reload.session := by
  unfold Session.reload
  split
  · split
    · exact ⟨hs.congr rfl rfl rfl, .kept rfl rfl⟩
    · exact ⟨hs, .kept rfl rfl⟩
  · split
    · exact rebuildFrom_sound hs _
    · exact ⟨hs, .kept rfl rfl⟩

/-! ## Events and runs -/

/-- Every event keeps the invariant and turns the registries at most once. -/
theorem step_sound {s : Session} (hs : s.Sound) (e : Event) :
    (s.step e).session.Sound ∧ Turn s (s.step e).session := by
  cases e with
  | start => exact reload_sound hs
  | reload => exact reload_sound hs
  | enter => exact reload_sound hs
  | configChanged => exact reload_sound hs
  | close => exact ⟨hs.close, close_turn hs⟩
  | leave => exact ⟨hs.close, close_turn hs⟩
  | textChanged => exact ⟨hs.pass, .kept rfl rfl⟩
  | activeChanged => exact ⟨hs.pass, .kept rfl rfl⟩
  | rescan => exact ⟨hs.pass, .kept rfl rfl⟩
  | setSource source => exact ⟨hs.congr rfl rfl rfl, .kept rfl rfl⟩
  | refuseStyles kinds =>
    exact ⟨⟨hs.numbered, hs.idle, hs.inUse, hs.styles, hs.names, hs.painted, hs.retired⟩,
      .kept rfl rfl⟩
  | setText index text =>
    simp only [Session.step, Session.setText]
    split
    · exact ⟨hs, .kept rfl rfl⟩
    · exact ⟨hs.congr rfl rfl rfl, .kept rfl rfl⟩
  | add _ | openDoc _ => exact ⟨hs.congr rfl rfl rfl, .kept rfl rfl⟩
  | closeDoc _ | setActive _ =>
    simp only [Session.step, Session.inWorkspace]
    split
    · exact ⟨hs.congr rfl rfl rfl, .kept rfl rfl⟩
    · exact ⟨hs, .kept rfl rfl⟩
  | decorationsFor index => exact ⟨hs, .kept rfl rfl⟩

/-- A new session has nothing to own. -/
theorem new_sound (documents : List (Option Document)) (workspace : Workspace)
    (source : Except LoadError Config) : (Session.new documents workspace source).Sound where
  numbered := rfl
  idle _ := ⟨rfl, rfl⟩
  inUse _ h := by cases h
  styles _ h := by cases h
  names _ h := by cases h
  painted _ h := by cases h
  retired _ h := by cases h

/-- All events keep a session sound, by induction on them. -/
theorem Sound.run {s : Session} (hs : s.Sound) (es : List Event) : (s.run es).Sound := by
  induction es generalizing s with
  | nil => exact hs
  | cons e es ih => exact ih (step_sound hs e).1

/-- A registry that was in use is still in use later on, or it is among the retired ones. -/
theorem Sound.run_registry {s : Session} (hs : s.Sound) (es : List Event) {r : Registry}
    (hr : s.registry = some r ∨ r.retire ∈ s.retired) :
    (s.run es).registry = some r ∨ r.retire ∈ (s.run es).retired := by
  induction es generalizing s with
  | nil => exact hr
  | cons e es ih =>
    obtain ⟨hs', hturn⟩ := step_sound hs e
    refine ih hs' ?_
    cases hturn with
    | kept hreg hret => rwa [hreg, hret]
    | closed r' hb _ hret =>
      rw [hret, List.mem_append, List.mem_singleton]
      rcases hr with hr | hr
      · exact .inr (.inr (by rw [Option.some.inj (hr.symm.trans hb)]))
      · exact .inr (.inl hr)
    | replaced new _ _ hret =>
      rw [hret, List.mem_append]
      rcases hr with hr | hr
      · exact .inr (.inr (by simp [hr]))
      · exact .inr (.inl hr)

/-- After any run of a new session the live handles are the styles of the registry in use and every
painting is by one of them.  Whatever event comes next keeps, closes or replaces the registry, a new
one being numbered one higher than the one it replaces, or one; and whatever run follows, a registry
that was in use is still in use or was released. -/
theorem run_sound_and_turn (documents : List (Option Document)) (workspace : Workspace)
    (source : Except LoadError Config) (es : List Event) :
    let s := (Session.new documents workspace source).run es
    s.Sound ∧ (∀ e, Turn s (s.step e).session) ∧
      ∀ later r, s.registry = some r →
        (s.run later).registry = some r ∨ r.retire ∈ (s.run later).retired := by
  intro s
  have hs : s.Sound := (new_sound documents workspace source).run es
  exact ⟨hs, fun e => (step_sound hs e).2, fun later r hr => hs.run_registry later (.inl hr)⟩

end Session

end Marginalia
