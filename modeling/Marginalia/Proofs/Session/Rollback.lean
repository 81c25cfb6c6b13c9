import Marginalia.Proofs.Session.Ownership

/-!
# A registry that cannot be built leaves no trace

An attempt to build a registry can fail at an entry, at the combined patterns, at a language, or at
the style of any kind after those of the kinds before it were handed out.  Whatever the reason is,
the only thing that stays behind are handles that are disposed of (`Sink.Retains`).

Taking styles back removes what was painted with them.  That this touches nothing older rests on the
numbers: a painting has the number of a handle that was handed out before (`Sink.Tidy`), and the
handles that are taken back are numbered higher.

For a session there are three ways not to get a new registry.  The reload ends in an error, the
configuration is refused (`Session.Refuses`), or it is incomplete; in all of them the session is
what it was, but for those disposed handles and for the reason of a refusal (`Session.Keeps`).
-/

namespace Marginalia

namespace Sink

/-! ## Sinks as a host can leave them -/

/-- The sinks that a host can come to: styles are handed out and taken back, and decorations are
painted with a style that was handed out, or with none.  At any time the kinds without a style can
be others. -/
inductive Reachable : Sink → Prop
  | fresh : Reachable {}
  | refuse {s : Sink} (hs : Reachable s) (kinds : List String) : Reachable { s with refused := kinds }
  | create {s s' : Sink} {h : StyleHandle} (hs : Reachable s) (kind : String)
      (options : Style.Options) (hc : s.create kind options = .ok (h, s')) : Reachable s'
  | dispose {s : Sink} (hs : Reachable s) {h : StyleHandle} (hh : h ∈ s.handles) :
      Reachable (s.dispose h.ident)
  | paint {s s' : Sink} (hs : Reachable s) (handle : Option StyleHandle)
      (hh : ∀ h, handle = some h → h ∈ s.handles) (document : DocRef) (ds : List Decoration)
      (hp : s.paint (handle.map (·.ident)) document ds = .ok s') : Reachable s'

/-- The handles are numbered in order, and what is painted has the number of one of them. -/
structure Tidy (s : Sink) : Prop where
  numbered : s.Numbered
  painted_le : ∀ p ∈ s.painted, p.ident ≤ s.handles.length

/-- What a sink can come to is tidy. -/
theorem Reachable.tidy {s : Sink} (hs : s.Reachable) : s.Tidy := by
  induction hs with
  | fresh => exact ⟨rfl, nofun⟩
  | refuse _ kinds ih => exact ⟨ih.numbered, ih.painted_le⟩
  | @create s s' h _ kind options hc ih =>
    obtain ⟨rfl, hid, -, -, -⟩ := create_ok hc
    refine ⟨ih.numbered.push hid, fun p hp => ?_⟩
    have hle := ih.painted_le p hp
    rw [List.length_append]
    exact Nat.le_trans hle (Nat.le_add_right _ _)
  | @dispose s _ h hh ih =>
    refine ⟨ih.numbered.disposeAll [h.ident], fun p hp => ?_⟩
    have hmem : p ∈ s.painted := (List.mem_filter.mp hp).1
    have hlength : (s.dispose h.ident).handles.length = s.handles.length := List.length_map _
    rw [hlength]
    exact ih.painted_le p hmem
  | @paint s s' _ handle hh document ds hp ih =>
    obtain ⟨hhandles, -, hpainted⟩ := paint_frame hp
    refine ⟨ih.numbered.congr (by rw [hhandles]), fun p hmem => ?_⟩
    rw [hhandles]
    rcases hpainted p hmem with hold | hnew
    · exact ih.painted_le p hold
    · obtain ⟨h, rfl, hid⟩ := Option.map_eq_some_iff.mp hnew
      rw [← hid]
      exact ih.numbered.ident_le (hh h rfl)

/-! ## What a failed attempt leaves -/

/-- The second sink is the first one with more handles, all of which are disposed of. -/
def Retains (s t : Sink) : Prop :=
  ∃ made : List StyleHandle,
    t = { s with handles := s.handles ++ made } ∧ ∀ h ∈ made, h.disposed = true

theorem Retains.refl (s : Sink) : s.Retains s := ⟨[], by simp, nofun⟩

/-- What is painted is kept. -/
theorem Retains.painted {s t : Sink} (h : s.Retains t) : t.painted = s.painted := by
  obtain ⟨made, rfl, -⟩ := h
  rfl

/-- So is the count of paints. -/
theorem Retains.paintCalls {s t : Sink} (h : s.Retains t) : t.paintCalls = s.paintCalls := by
  obtain ⟨made, rfl, -⟩ := h
  rfl

/-- So are the live handles. -/
theorem Retains.live {s t : Sink} (h : s.Retains t) : t.live = s.live := by
  obtain ⟨made, rfl, hmade⟩ := h
  have hnone : made.filter (fun h => !h.disposed) = [] := by
    rw [List.filter_eq_nil_iff]
    intro h hh
    simp [hmade h hh]
  unfold Sink.live
  rw [List.filter_append, hnone, List.append_nil]

/-- A failed attempt to build a registry leaves the previous one as it is and the sink with nothing
new but disposed handles. -/
theorem Tidy.rebuild_error {s : Sink} (hs : s.Tidy) {annotations : Section AnnotationEntry}
    {languages : Section LanguageEntry} {previous : Option Registry} {e : RebuildError}
    (hb : (rebuild annotations languages (some s) previous).result = .error e) :
    (rebuild annotations languages (some s) previous).previous = previous ∧
      ∃ t, (rebuild annotations languages (some s) previous).sink = some t ∧ s.Retains t := by
  obtain ⟨t, made, hsink, hprevious, -, hhandles, hmade, ⟨idents, hpainted, hidents⟩, hcalls,
    hrefused⟩ := Marginalia.rebuild_error hs.numbered hb
  -- What was painted has an older number than the styles that were taken back.
  have hkept : t.painted = s.painted := by
    rw [hpainted, List.filter_eq_self]
    intro p hp
    have hle := hs.painted_le p hp
    refine decide_eq_true fun hmem => ?_
    have hlt := hidents _ hmem
    omega
  refine ⟨hprevious, t, hsink, made, ?_, hmade⟩
  obtain ⟨handles, painted, calls, refused⟩ := t
  simp only at hhandles hkept hcalls hrefused
  rw [hhandles, hkept, hcalls, hrefused]

end Sink

namespace Session

/-! ## Reloads that give no registry -/

/-- The configuration that a reload comes to is refused for the reason: it cannot be used, or it
breaks a rule. -/
inductive Refuses (s : Session) : Refusal → Prop
  | load {e : LoadError} (hsource : s.source = .error e) (he : e.isRefusal = true) :
      Refuses s (.load e)
  | registry {c : Config} {e : RegistryError} (hsource : s.source = .ok c)
      (hcomplete : c.isComplete = true)
      (hb : (rebuild c.annotations c.languages (some s.sink) s.registry).result =
        .error (.rejected e)) : Refuses s (.registry e)

/-- The second session is the first one, but for disposed handles and for the reason why a
configuration was refused last. -/
structure Keeps (s t : Session) (reason : Option Refusal) : Prop where
  sink : s.sink.Retains t.sink
  live : t.sink.live = s.sink.live
  painted : t.sink.painted = s.sink.painted
  registry : t.registry = s.registry
  lastError : t.lastError = reason
  rest : t = { s with sink := t.sink, lastError := reason }

/-- A session keeps its state if the sink does. -/
theorem Keeps.of_retains {s : Session} {sink : Sink} (h : s.sink.Retains sink)
    (reason : Option Refusal) : Keeps s { s with sink := sink, lastError := reason } reason :=
  ⟨h, h.live, h.painted, rfl, rfl, rfl⟩

theorem Keeps.refl (s : Session) : Keeps s s s.lastError := .of_retains (.refl s.sink) s.lastError

/-- What is painted in a session has the number of a handle of its sink. -/
theorem Sound.tidy {s : Session} (hs : s.Sound) : s.sink.Tidy :=
  ⟨hs.numbered, fun _ hp => hs.painted_le hp⟩

/-- What becomes of a session whose registry cannot be built. -/
theorem rebuildFrom_error {s : Session} (hs : s.Sound) {c : Config} {e : RebuildError}
    (hb : (rebuild c.annotations c.languages (some s.sink) s.registry).result = .error e) :
    (∃ reason, e = .rejected reason ∧
        (s.rebuildFrom c).result = .ok (.generation s.generation) ∧
        (s.rebuildFrom c).warnings = [.refused (.registry reason) s.registry.isSome] ∧
        Keeps s (s.rebuildFrom c).session (some (.registry reason))) ∨
      (∀ reason, e ≠ .rejected reason) ∧ (s.rebuildFrom c).result = .error (.rebuild e) ∧
        Keeps s (s.rebuildFrom c).session s.lastError := by
  obtain ⟨-, t, hsink, hretains⟩ := hs.tidy.rebuild_error hb
  unfold rebuildFrom
  dsimp only
  rw [hsink, Option.getD_some]
  split
  · rename_i hok
    cases hb.symm.trans hok
  · rename_i reason hrejected
    cases hb.symm.trans hrejected
    exact .inl ⟨reason, rfl, rfl, rfl, .of_retains hretains _⟩
  · rename_i e' hne herror
    cases hb.symm.trans herror
    exact .inr ⟨hne, rfl, .of_retains hretains _⟩

/-- A new registry never makes a reload end in an error. -/
theorem rebuildFrom_ok {s : Session} {c : Config} {new : Registry}
    (hb : (rebuild c.annotations c.languages (some s.sink) s.registry).result = .ok new) :
    (s.rebuildFrom c).result = .ok (.generation (some new.generation)) := by
  unfold rebuildFrom
  simp only [hb]
  rfl

/-- Building from a configuration ends in an error if there is one that is no refusal. -/
theorem rebuildFrom_eq_error_iff (s : Session) (c : Config) (e : SessionError) :
    (s.rebuildFrom c).result = .error e ↔ ∃ e',
      (rebuild c.annotations c.languages (some s.sink) s.registry).result = .error e' ∧
        (∀ reason, e' ≠ .rejected reason) ∧ e = .rebuild e' := by
  unfold rebuildFrom
  dsimp only
  split
  · rename_i hb
    rw [hb]
    exact ⟨nofun, nofun⟩
  · rename_i reason hb
    rw [hb]
    exact ⟨nofun, fun ⟨_, h, hne, _⟩ => absurd (Except.error.inj h).symm (hne reason)⟩
  · rename_i e' hne hb
    rw [hb]
    constructor
    · intro h
      cases h
      exact ⟨e', rfl, hne, rfl⟩
    · rintro ⟨_, h, -, rfl⟩
      cases h
      rfl

/-- A reload ends in an error of the source, or in an error of building, if it is no refusal. -/
theorem reload_eq_error_iff (s : Session) (e : SessionError) : s.reload.result = .error e ↔
    (∃ e', s.source = .error e' ∧ e'.isRefusal = false ∧ e = .load e') ∨
    ∃ c e', s.source = .ok c ∧ c.isComplete = true ∧
      (rebuild c.annotations c.languages (some s.sink) s.registry).result = .error e' ∧
        (∀ reason, e' ≠ .rejected reason) ∧ e = .rebuild e' := by
  unfold reload
  cases hsource : s.source with
  | error e' =>
    cases hrefusal : e'.isRefusal with
    | false => simpa [hrefusal] using eq_comm
    | true => simp [hrefusal, refuse]
  | ok c =>
    cases hcomplete : c.isComplete with
    | false => simp [hcomplete]
    | true => simp [hcomplete, rebuildFrom_eq_error_iff]

/-- A reload of a configuration that is refused. -/
theorem Refuses.reload {s : Session} (hs : s.Sound) {reason : Refusal} (h : s.Refuses reason) :
    s.reload.result = .ok (.generation s.generation) ∧
      s.reload.warnings = [.refused reason s.registry.isSome] ∧
      Keeps s s.reload.session (some reason) := by
  unfold Session.reload
  cases h with
  | load hsource he =>
    simp only [hsource, he, if_true]
    exact ⟨rfl, rfl, .of_retains (.refl s.sink) _⟩
  | registry hsource hcomplete hb =>
    simp only [hsource, hcomplete, if_true]
    rcases rebuildFrom_error hs hb with ⟨reason, hreason, h⟩ | ⟨hne, -⟩
    · cases hreason
      exact h
    · exact absurd rfl (hne _)

/-- A reload that ends in an error. -/
theorem reload_error {s : Session} (hs : s.Sound) {e : SessionError}
    (h : s.reload.result = .error e) : Keeps s s.reload.session s.lastError := by
  unfold Session.reload at h ⊢
  split at h
  · split at h
    · cases h
    · rename_i hsource hrefusal
      simp only [hrefusal]
      exact .refl s
  · split at h
    · rename_i c hsource hcomplete
      simp only [hcomplete, if_true]
      cases hb : (rebuild c.annotations c.languages (some s.sink) s.registry).result with
      | ok new =>
        rw [rebuildFrom_ok hb] at h
        cases h
      | error e =>
        rcases rebuildFrom_error hs hb with ⟨reason, -, hok, -⟩ | ⟨-, -, hkeeps⟩
        · rw [hok] at h
          cases h
        · exact hkeeps
    · cases h

/-- A reload of an incomplete configuration. -/
theorem reload_incomplete {s : Session} {c : Config} (hsource : s.source = .ok c)
    (hcomplete : c.isComplete = false) :
    s.reload.result = .ok (.generation s.generation) ∧ s.reload.warnings = [] ∧
      Keeps s s.reload.session s.lastError := by
  unfold Session.reload
  simp only [hsource, hcomplete]
  exact ⟨rfl, rfl, .refl s⟩

/-- If a registry cannot be built, whatever the reason is, the previous one and the sink are left as
they were, but for new handles, which are all disposed of.  So a reload of a session that ends in an
error, whose configuration is refused or whose configuration is incomplete leaves the registry, the
live handles and all that is painted as they were; the refusal is remembered, and nothing else is. -/
theorem failed_reload_keeps_session :
    (∀ (annotations : Section AnnotationEntry) (languages : Section LanguageEntry) (sink : Sink)
        (previous : Option Registry) (e : RebuildError), sink.Reachable →
      (rebuild annotations languages (some sink) previous).result = .error e →
        (rebuild annotations languages (some sink) previous).previous = previous ∧
        ∃ t, (rebuild annotations languages (some sink) previous).sink = some t ∧
          sink.Retains t) ∧
    ∀ (documents : List (Option Document)) (workspace : Workspace)
        (source : Except LoadError Config) (es : List Event),
      let s := (Session.new documents workspace source).run es
      (∀ e, s.reload.result = .error e → Keeps s s.reload.session s.lastError) ∧
      (∀ reason, s.Refuses reason →
        s.reload.result = .ok (.generation s.generation) ∧
        s.reload.warnings = [.refused reason s.registry.isSome] ∧
        Keeps s s.reload.session (some reason)) ∧
      ∀ c, s.source = .ok c → c.isComplete = false →
        s.reload.result = .ok (.generation s.generation) ∧ s.reload.warnings = [] ∧
        Keeps s s.reload.session s.lastError := by
  refine ⟨?_, fun documents workspace source es => ?_⟩
  · intro annotations languages sink previous e hsink hb
    exact hsink.tidy.rebuild_error hb
  · intro s
    have hs : s.Sound := (new_sound documents workspace source).run es
    exact ⟨fun e he => reload_error hs he, fun reason hreason => hreason.reload hs,
      fun c hsource hcomplete => reload_incomplete hsource hcomplete⟩

/-- Two kinds. -/
def pairAnnotations : Section AnnotationEntry :=
  .entries [.value (.table [("name", .str "A"), ("pattern", .str "a")]),
    .value (.table [("name", .str "B"), ("pattern", .str "b")])]

/-- A sink on which something is painted, and which has no style for the second of the two kinds. -/
def shortSink : Sink where
  handles := [⟨"OLD", [], 1, false⟩]
  painted := [⟨1, some 0, []⟩]
  paintCalls := 1
  refused := ["B"]

/-- The sink is one that calls lead to. -/
theorem shortSink_reachable : shortSink.Reachable := by
  have hcreate := Sink.Reachable.fresh.create (h := ⟨"OLD", [], 1, false⟩) "OLD" [] rfl
  have hpaint := hcreate.paint (some ⟨"OLD", [], 1, false⟩)
    (fun h hh => Option.some.inj hh ▸ List.mem_singleton_self _) (some 0) [] rfl
  exact hpaint.refuse ["B"]

/-- A session with the two kinds. -/
def pairSession : Session :=
  Session.new [] (Workspace.ofDocuments []) (.ok ⟨pairAnnotations, .entries [], none⟩)

/-- The style of the second kind cannot be had after that of the first was handed out; a file that is
not there; a section that is missing. -/
theorem failed_reload_keeps_session_pair :
    (∃ e t, (rebuild pairAnnotations (.entries []) (some shortSink) none).result = .error e ∧
      (rebuild pairAnnotations (.entries []) (some shortSink) none).sink = some t ∧
      t.handles.length = 2 ∧ shortSink.Retains t) ∧
    (∃ e, (pairSession.run [.start, .refuseStyles ["B"]]).reload.result = .error e ∧
      Keeps (pairSession.run [.start, .refuseStyles ["B"]])
        (pairSession.run [.start, .refuseStyles ["B"]]).reload.session
        (pairSession.run [.start, .refuseStyles ["B"]]).lastError) ∧
    Keeps (pairSession.run [.start, .setSource (.error (.notFound ⟨"", ["x"]⟩))])
      (pairSession.run [.start, .setSource (.error (.notFound ⟨"", ["x"]⟩))]).reload.session
      (some (.load (.notFound ⟨"", ["x"]⟩))) ∧
    Keeps (pairSession.run [.start, .setSource (.ok ⟨.missing, .entries [], none⟩)])
      (pairSession.run [.start, .setSource (.ok ⟨.missing, .entries [], none⟩)]).reload.session
      (pairSession.run [.start, .setSource (.ok ⟨.missing, .entries [], none⟩)]).lastError := by
  have hfails : ∀ {ε α : Type} {x : Except ε α}, x.toOption.isNone = true → ∃ e, x = .error e := by
    intro ε α x hx
    cases x with
    | ok a => cases hx
    | error e => exact ⟨e, rfl⟩
  obtain ⟨hrebuild, hsession⟩ := failed_reload_keeps_session
  obtain ⟨e, he⟩ := hfails (x := (rebuild pairAnnotations (.entries []) (some shortSink) none).result)
    (by decide +kernel)
  obtain ⟨-, t, ht, hretains⟩ := hrebuild _ _ _ _ e shortSink_reachable he
  have hlength : ((rebuild pairAnnotations (.entries []) (some shortSink) none).sink.map
      fun t => t.handles.length) = some 2 := by decide +kernel
  rw [ht] at hlength
  obtain ⟨hraises, -, -⟩ := hsession [] (Workspace.ofDocuments [])
    (.ok ⟨pairAnnotations, .entries [], none⟩) [.start, .refuseStyles ["B"]]
  obtain ⟨e', he'⟩ := hfails (x := (pairSession.run [.start, .refuseStyles ["B"]]).reload.result)
    (by decide +kernel)
  obtain ⟨-, hrefused, -⟩ := hsession [] (Workspace.ofDocuments [])
    (.ok ⟨pairAnnotations, .entries [], none⟩)
    [.start, .setSource (.error (.notFound ⟨"", ["x"]⟩))]
  obtain ⟨-, -, hincomplete⟩ := hsession [] (Workspace.ofDocuments [])
    (.ok ⟨pairAnnotations, .entries [], none⟩)
    [.start, .setSource (.ok ⟨.missing, .entries [], none⟩)]
  exact ⟨⟨e, t, he, ht, Option.some.inj hlength, hretains⟩, ⟨e', he', hraises e' he'⟩,
    (hrefused _ (.load rfl rfl)).2.2, (hincomplete _ rfl rfl).2.2⟩

end Session

end Marginalia
