import Marginalia.Proofs.Session.Ownership
import Marginalia.Proofs.Sink.Painting
import Marginalia.Registry.Ledger
import Mathlib.Data.List.Nodup

/-!
# Every live style belongs to one registry

Registries can be built on top of one another in any order: twice on the same one, on one that is
released already, without the sink, or not to the end because a style is refused.  Whatever a host
does, the live handles of the sink are the styles of the registries that are not released, oldest
first and each once (`Ledger.Owns`).

Two facts carry this.  Handles are only ever added and marked as disposed (`Sink.Evolves`), so a
handle that is disposed of stays so.  And the styles of the registries in use are all different, so
those of one of them can be taken back without touching the others (`ownedStyles_set_retire`).
-/

namespace Marginalia

/-! ## How the handles of a sink change -/

/-- The second sink has the handles of the first, some of them disposed of by now, and then others.
-/
def Sink.Evolves (s t : Sink) : Prop :=
  ∃ (idents : List Nat) (made : List StyleHandle), t.handles = s.handles.map (mark idents) ++ made

namespace Sink

/-- New handles come behind the others. -/
theorem Evolves.of_append {s t : Sink} {made : List StyleHandle}
    (h : t.handles = s.handles ++ made) : s.Evolves t := by
  refine ⟨[], made, ?_⟩
  rw [h, List.map_congr_left fun h _ => mark_of_not_mem List.not_mem_nil, List.map_id']

/-- Disposing marks handles and keeps them. -/
theorem evolves_disposeAll (s : Sink) (idents : List Nat) : s.Evolves (s.disposeAll idents) :=
  ⟨idents, [], by rw [disposeAll_handles, List.append_nil]⟩

/-- A disposed handle stays as it is. -/
theorem Evolves.disposed {s t : Sink} (h : s.Evolves t) {handle : StyleHandle}
    (hmem : handle ∈ s.handles) (hd : handle.disposed = true) : handle ∈ t.handles := by
  obtain ⟨idents, made, ht⟩ := h
  have hsame : mark idents handle = handle := by
    unfold mark
    split
    · rw [← hd]
    · rfl
  rw [ht, List.mem_append]
  exact .inl (List.mem_map.mpr ⟨handle, hmem, hsame⟩)

end Sink

/-! ## The styles of the registries in use -/

/-- The styles of the registries that are not released, in the order of the registries. -/
def ownedStyles (rs : List Registry) : List Nat :=
  (rs.filter fun r => !r.released).flatMap Registry.idents

/-- Handles of registries one after the other. -/
theorem ownedStyles_append (rs rs' : List Registry) :
    ownedStyles (rs ++ rs') = ownedStyles rs ++ ownedStyles rs' := by
  rw [ownedStyles, List.filter_append, List.flatMap_append]
  rfl

theorem ownedStyles_cons (r : Registry) (rs : List Registry) :
    ownedStyles (r :: rs) = ownedStyles [r] ++ ownedStyles rs := ownedStyles_append [r] rs

/-- A registry in use owns its handles. -/
theorem ownedStyles_inUse {r : Registry} (hr : r.released = false) :
    ownedStyles [r] = r.idents := by
  simp [ownedStyles, hr]

/-- A released one owns none. -/
theorem ownedStyles_released {r : Registry} (hr : r.released = true) : ownedStyles [r] = [] := by
  simp [ownedStyles, hr]

/-- Releasing one registry takes its styles out and leaves those of the others. -/
theorem ownedStyles_set_retire {rs : List Registry} {i : Nat} {r : Registry} (hi : rs[i]? = some r)
    (hr : r.released = false) (hnodup : (ownedStyles rs).Nodup) :
    ownedStyles (rs.set i r.retire) = (ownedStyles rs).filter (· ∉ r.idents) := by
  obtain ⟨before, after, rfl, rfl⟩ : ∃ before after, rs = before ++ r :: after ∧
      before.length = i := by
    obtain ⟨hlt, rfl⟩ := List.getElem?_eq_some_iff.mp hi
    refine ⟨rs.take i, rs.drop (i + 1), ?_, List.length_take_of_le (Nat.le_of_lt hlt)⟩
    rw [List.getElem_cons_drop, List.take_append_drop]
  have hset : (before ++ r :: after).set before.length r.retire = before ++ r.retire :: after := by
    simp
  rw [ownedStyles_append, ownedStyles_cons, ownedStyles_inUse hr] at hnodup ⊢
  rw [hset, ownedStyles_append, ownedStyles_cons, ownedStyles_released rfl, List.nil_append]
  obtain ⟨-, hrest, hbefore⟩ := List.nodup_append.mp hnodup
  obtain ⟨-, -, hafter⟩ := List.nodup_append.mp hrest
  have hgone : r.idents.filter (· ∉ r.idents) = [] :=
    List.filter_eq_nil_iff.mpr fun a ha => by simpa using ha
  rw [List.filter_append, List.filter_append, hgone, List.nil_append]
  congr 1
  · refine (List.filter_eq_self.mpr fun a ha => ?_).symm
    rw [decide_eq_true_eq]
    exact fun hmem => hbefore a ha a (List.mem_append_left _ hmem) rfl
  · refine (List.filter_eq_self.mpr fun a ha => ?_).symm
    rw [decide_eq_true_eq]
    exact fun hmem => hafter a hmem a ha rfl

/-! ## Building without a sink -/

/-- Without a sink a registry has no styles, and nothing else changes. -/
theorem rebuild_sinkless {annotations : Section AnnotationEntry}
    {languages : Section LanguageEntry} (previous : Option Registry) :
    (rebuild annotations languages none previous).sink = none ∧
      (rebuild annotations languages none previous).previous = previous ∧
      ∀ new, (rebuild annotations languages none previous).result = .ok new →
        new.released = false ∧ new.idents = [] := by
  unfold rebuild
  split
  · exact ⟨rfl, rfl, nofun⟩
  · rename_i plan _
    refine ⟨rfl, rfl, ?_⟩
    rintro new ⟨⟩
    refine ⟨rfl, List.filterMap_eq_nil_iff.mpr fun k hk => ?_⟩
    obtain ⟨⟨spec, handle⟩, hmem, rfl⟩ := List.mem_map.mp hk
    obtain ⟨-, hhandle⟩ := List.of_mem_zip hmem
    obtain ⟨-, -, rfl⟩ := List.mem_map.mp hhandle
    rfl

/-- The styles of a registry whose kinds have those of the given handles. -/
theorem Registry.idents_of_handles {r : Registry} {made : List StyleHandle}
    (h : r.kinds.map (·.handle) = made.map fun h => some h.ident) :
    r.idents = made.map (·.ident) := by
  have hid : r.idents = (r.kinds.map (·.handle)).filterMap id := by
    simp [Registry.idents, List.filterMap_map]
  rw [hid, h, List.filterMap_map]
  simp

namespace Ledger

/-! ## What holds at every moment of a run -/

/-- The handles of the sink and the registries fit together. -/
structure Owns (l : Ledger) : Prop where
  /-- The handles are numbered in order. -/
  numbered : l.sink.Numbered
  /-- The live handles are the styles of the registries that are not released. -/
  live : l.sink.live.map (·.ident) = ownedStyles l.registries
  /-- The styles of a released registry are disposed of. -/
  disposed : ∀ r ∈ l.registries, r.released = true → ∀ ident ∈ r.idents,
    ∃ h ∈ l.sink.handles, h.ident = ident ∧ h.disposed = true

/-- No handle has two owners. -/
theorem Owns.nodup {l : Ledger} (h : l.Owns) : (ownedStyles l.registries).Nodup :=
  h.live ▸ h.numbered.live_nodup

/-- A registry that is not released has live styles only. -/
theorem Owns.mem_live {l : Ledger} (h : l.Owns) {r : Registry} (hmem : r ∈ l.registries)
    (hr : r.released = false) {ident : Nat} (hident : ident ∈ r.idents) :
    ∃ handle ∈ l.sink.live, handle.ident = ident := by
  have howned : ident ∈ ownedStyles l.registries :=
    List.mem_flatMap.mpr ⟨r, List.mem_filter.mpr ⟨hmem, by rw [hr]; rfl⟩, hident⟩
  rw [← h.live] at howned
  exact List.mem_map.mp howned

/-- Sinks that differ in other things than their handles. -/
theorem Owns.withSink {l : Ledger} (h : l.Owns) {sink : Sink}
    (hhandles : sink.handles = l.sink.handles) : Owns { l with sink := sink } where
  numbered := h.numbered.congr (by rw [hhandles])
  live := by
    have hlive : sink.live = l.sink.live := by rw [Sink.live, hhandles, Sink.live]
    rw [hlive]
    exact h.live
  disposed r hr hreleased ident hident := hhandles ▸ h.disposed r hr hreleased ident hident

/-- A registry that could not be built leaves only disposed handles. -/
theorem Owns.withDisposed {l : Ledger} (h : l.Owns) {sink : Sink} {made : List StyleHandle}
    (hnumbered : sink.Numbered) (hhandles : sink.handles = l.sink.handles ++ made)
    (hmade : ∀ h ∈ made, h.disposed = true) : Owns { l with sink := sink } where
  numbered := hnumbered
  live := by
    have hnone : made.filter (fun h => !h.disposed) = [] :=
      List.filter_eq_nil_iff.mpr fun h hh => by simp [hmade h hh]
    have hlive : sink.live = l.sink.live := by
      rw [Sink.live, hhandles, List.filter_append, hnone, List.append_nil, Sink.live]
    rw [hlive]
    exact h.live
  disposed r hr hreleased ident hident := by
    obtain ⟨handle, hmem, hspec⟩ := h.disposed r hr hreleased ident hident
    exact ⟨handle, (Sink.Evolves.of_append hhandles).disposed hmem hspec.2, hspec⟩

/-- A new registry brings live handles, which are its styles. -/
theorem Owns.build {l : Ledger} (h : l.Owns) {sink : Sink} {made : List StyleHandle}
    {new : Registry} (hnumbered : sink.Numbered) (hhandles : sink.handles = l.sink.handles ++ made)
    (hmade : ∀ h ∈ made, h.disposed = false) (hnew : new.released = false)
    (hidents : new.idents = made.map (·.ident)) : Owns ⟨sink, l.registries ++ [new]⟩ where
  numbered := hnumbered
  live := by
    have hall : made.filter (fun h => !h.disposed) = made :=
      List.filter_eq_self.mpr fun h hh => by simp [hmade h hh]
    have hlive : sink.live = l.sink.live ++ made := by
      rw [Sink.live, hhandles, List.filter_append, hall, Sink.live]
    rw [hlive, List.map_append, h.live, ownedStyles_append, ownedStyles_inUse hnew, hidents]
  disposed r hr hreleased ident hident := by
    obtain hr | hr := List.mem_append.mp hr
    · obtain ⟨handle, hmem, hspec⟩ := h.disposed r hr hreleased ident hident
      exact ⟨handle, (Sink.Evolves.of_append hhandles).disposed hmem hspec.2, hspec⟩
    · rw [List.mem_singleton.mp hr, hnew] at hreleased
      cases hreleased

/-- Releasing a registry takes its own styles back, and no others. -/
theorem Owns.release {l : Ledger} (h : l.Owns) {i : Nat} {r : Registry}
    (hi : l.registries[i]? = some r) :
    Owns ⟨(r.release l.sink).2, l.registries.set i (r.release l.sink).1⟩ := by
  cases hr : r.released with
  | true =>
    have hrelease : r.release l.sink = (r, l.sink) := if_pos hr
    obtain ⟨hlt, hget⟩ := List.getElem?_eq_some_iff.mp hi
    rw [hrelease, ← hget, List.set_getElem_self]
    exact h
  | false =>
    rw [Registry.release_of_inUse hr]
    refine ⟨h.numbered.disposeAll _, ?_, fun r' hr' hreleased ident hident => ?_⟩
    · have hfilter : (l.sink.live.filter (·.ident ∉ r.idents)).map (·.ident) =
          (l.sink.live.map (·.ident)).filter (· ∉ r.idents) := by
        rw [List.filter_map]
        rfl
      rw [Sink.live_disposeAll, hfilter, h.live, ownedStyles_set_retire hi hr h.nodup]
    · obtain hr' | rfl := List.mem_or_eq_of_mem_set hr'
      · obtain ⟨handle, hmem, hspec⟩ := h.disposed r' hr' hreleased ident hident
        exact ⟨handle, (l.sink.evolves_disposeAll _).disposed hmem hspec.2, hspec⟩
      · obtain ⟨handle, hmem, hid⟩ := h.mem_live (List.mem_of_getElem? hi) hr hident
        refine ⟨Sink.mark r.idents handle, ?_, (Sink.mark_ident _ _).trans hid, ?_⟩
        · rw [Sink.disposeAll_handles]
          exact List.mem_map_of_mem (l.sink.live_subset hmem)
        · rw [Sink.mark_of_mem (hid ▸ hident)]

/-! ## Registries in their places -/

/-- Each registry that is released is still in its place in the second list, as it was. -/
def Keeps (rs rs' : List Registry) : Prop :=
  ∀ (i : Nat) (r : Registry), rs[i]? = some r → r.released = true → rs'[i]? = some r

theorem Keeps.refl (rs : List Registry) : Keeps rs rs := fun _ _ hi _ => hi

/-- Registries that are kept twice are kept. -/
theorem Keeps.trans {rs rs' rs'' : List Registry} (h : Keeps rs rs') (h' : Keeps rs' rs'') :
    Keeps rs rs'' := fun i r hi hr => h' i r (h i r hi hr) hr

/-- New registries come behind the others. -/
theorem keeps_append (rs rs' : List Registry) : Keeps rs (rs ++ rs') := by
  intro i r hi _
  rw [List.getElem?_append_left (List.getElem?_eq_some_iff.mp hi).1]
  exact hi

/-- A release keeps its registry in its place. -/
theorem keeps_release {rs : List Registry} {i : Nat} {r : Registry} (hi : rs[i]? = some r)
    (sink : Sink) : Keeps rs (rs.set i (r.release sink).1) := by
  intro j r' hj hr'
  by_cases hij : i = j
  · subst hij
    cases hi.symm.trans hj
    have hrelease : r.release sink = (r, sink) := if_pos hr'
    rw [hrelease, List.getElem?_set_self (List.getElem?_eq_some_iff.mp hi).1]
  · rw [List.getElem?_set_ne hij]
    exact hj

theorem restore_self (rs : List Registry) (i : Option Nat) :
    restore rs i (i.bind fun i => rs[i]?) = rs := by
  cases i with
  | none => rfl
  | some i =>
    rw [Option.bind_some]
    cases hi : rs[i]? with
    | none => rfl
    | some r =>
      obtain ⟨hlt, rfl⟩ := List.getElem?_eq_some_iff.mp hi
      exact List.set_getElem_self hlt

/-! ## Building a registry -/

/-- A registry that is released is so for good. -/
theorem release_released (r : Registry) (sink : Sink) : (r.release sink).1.released = true := by
  unfold Registry.release
  split
  · assumption
  · rfl

section

variable {l : Ledger} {annotations : Section AnnotationEntry} {languages : Section LanguageEntry}
  {previous : Option Nat} {new : Registry}

/-- A registry that is built with the sink is added, and then the previous one, if there is one, is
released. -/
theorem Owns.built (h : l.Owns)
    (hnew : (rebuild annotations languages (some l.sink)
      (previous.bind fun i => l.registries[i]?)).result = .ok new) :
    let b := rebuild annotations languages (some l.sink) (previous.bind fun i => l.registries[i]?)
    let registries := restore l.registries previous b.previous ++ [new]
    Owns ⟨b.sink.getD l.sink, registries⟩ ∧ Keeps l.registries registries ∧
      ∀ i, previous = some i → i < l.registries.length →
        ∃ old, registries[i]? = some old ∧ old.released = true := by
  dsimp only
  obtain ⟨made, hsink, hprevious, hnumbered, hmade, hreleased, -, hhandles, -⟩ :=
    rebuild_ok h.numbered hnew
  rw [hsink, hprevious, Option.getD_some]
  have hbuilt := h.build hnumbered rfl (fun g hg => (hmade g hg).1) hreleased
    (Registry.idents_of_handles hhandles)
  cases hold : previous.bind fun i => l.registries[i]? with
  | none =>
    have hrestore : restore l.registries previous none = l.registries := by cases previous <;> rfl
    rw [Option.map_none, Option.map_none, hrestore]
    refine ⟨hbuilt, keeps_append _ _, ?_⟩
    rintro i rfl hlt
    rw [Option.bind_some, List.getElem?_eq_none_iff] at hold
    exact absurd hlt (Nat.not_lt_of_le hold)
  | some old =>
    obtain ⟨i, rfl, hi⟩ := Option.bind_eq_some_iff.mp hold
    have hlt := (List.getElem?_eq_some_iff.mp hi).1
    have hi' : (l.registries ++ [new])[i]? = some old := by
      rw [List.getElem?_append_left hlt]
      exact hi
    -- The previous registry is released after the new one has got its handles.
    have hset : ∀ r, (l.registries ++ [new]).set i r = l.registries.set i r ++ [new] :=
      fun r => List.set_append_left i r hlt
    have hreleases := hbuilt.release hi'
    rw [hset] at hreleases
    refine ⟨hreleases, (keeps_release hi _).trans (keeps_append _ _), ?_⟩
    rintro j ⟨⟩ -
    have hlt' : i < (l.registries ++ [new]).length := (List.getElem?_eq_some_iff.mp hi').1
    rw [Option.map_some, restore, ← hset, List.getElem?_set_self hlt']
    exact ⟨_, rfl, release_released old _⟩

/-- A registry that cannot be built leaves the others as they are. -/
theorem Owns.notBuilt (h : l.Owns) {e : RebuildError}
    (he : (rebuild annotations languages (some l.sink)
      (previous.bind fun i => l.registries[i]?)).result = .error e) :
    let b := rebuild annotations languages (some l.sink) (previous.bind fun i => l.registries[i]?)
    restore l.registries previous b.previous = l.registries ∧
      Owns { l with sink := b.sink.getD l.sink } := by
  dsimp only
  obtain ⟨s', made, hsink, hprevious, hnumbered, hhandles, hmade, -⟩ := rebuild_error h.numbered he
  rw [hsink, hprevious, Option.getD_some]
  exact ⟨restore_self _ _, h.withDisposed hnumbered hhandles hmade⟩

end

/-! ## Events and runs -/

/-- Building a registry keeps the invariant and the registries that are released, and if it succeeds
with the sink it releases the previous registry. -/
theorem Owns.rebuild {l : Ledger} (h : l.Owns) (annotations : Section AnnotationEntry)
    (languages : Section LanguageEntry) (previous : Option Nat) (withSink : Bool)
    (refused : List String) :
    let after := l.step (.rebuild annotations languages previous withSink refused)
    after.2.Owns ∧ Keeps l.registries after.2.registries ∧
      ∀ new i, after.1 = .built new → withSink = true → previous = some i →
        i < l.registries.length →
          ∃ old, after.2.registries[i]? = some old ∧ old.released = true := by
  have hsink : Owns { l with sink := { l.sink with refused := refused } } := h.withSink rfl
  dsimp only [step]
  cases withSink with
  | true =>
    rw [if_pos rfl]
    split
    · rename_i new hnew
      obtain ⟨howns, hkeeps, hreleased⟩ := hsink.built hnew
      exact ⟨howns, hkeeps, fun _ i _ _ hi hlt => hreleased i hi hlt⟩
    · rename_i e he
      obtain ⟨hrestore, howns⟩ := hsink.notBuilt he
      rw [hrestore]
      exact ⟨howns, .refl _, nofun⟩
  | false =>
    -- Without a sink there are no handles to own.
    obtain ⟨hnone, hprevious, hnew⟩ :=
      @rebuild_sinkless annotations languages (previous.bind fun i => l.registries[i]?)
    rw [if_neg Bool.false_ne_true]
    simp only [hnone, hprevious, restore_self, Option.getD_none]
    split
    · rename_i new hok
      obtain ⟨hreleased, hidents⟩ := hnew new hok
      have hhandles : l.sink.handles = l.sink.handles ++ [] := (List.append_nil _).symm
      exact ⟨hsink.build hsink.numbered hhandles nofun hreleased hidents, keeps_append _ _, nofun⟩
    · exact ⟨hsink, .refl _, nofun⟩

/-- Every event keeps the invariant, and the registries that are released. -/
theorem Owns.step {l : Ledger} (h : l.Owns) (e : Event) :
    (l.step e).2.Owns ∧ Keeps l.registries (l.step e).2.registries := by
  cases e with
  | rebuild annotations languages previous withSink refused =>
    obtain ⟨howns, hkeeps, -⟩ := h.rebuild annotations languages previous withSink refused
    exact ⟨howns, hkeeps⟩
  | release i =>
    dsimp only [Ledger.step]
    split
    · rename_i r hi
      exact ⟨h.release hi, keeps_release hi l.sink⟩
    · exact ⟨h, .refl _⟩
  | paint i doc document =>
    dsimp only [Ledger.step]
    split
    · split
      · rename_i hpaint
        exact ⟨h.withSink (Sink.paintDocument_frame hpaint).1, .refl _⟩
      · rename_i hpaint
        exact ⟨h.withSink (Sink.paintDocument_frame hpaint).1, .refl _⟩
    · exact ⟨h, .refl _⟩

/-- All events keep owners apart, by induction on them. -/
theorem Owns.run {l : Ledger} (h : l.Owns) (es : List Event) :
    (l.run es).Owns ∧ Keeps l.registries (l.run es).registries := by
  induction es generalizing l with
  | nil => exact ⟨h, .refl _⟩
  | cons e es ih =>
    obtain ⟨howns, hkeeps⟩ := h.step e
    obtain ⟨howns', hkeeps'⟩ := ih howns
    exact ⟨howns', hkeeps.trans hkeeps'⟩

theorem owns_empty : Owns {} := ⟨rfl, rfl, nofun⟩

/-- After any run of events on one sink: the live handles are the styles of the registries that are
not released, oldest first, and no two of these registries share a style; no two handles have the
same number; a registry that is released stays so through whatever comes later, and its styles stay
disposed of; and a registry that is built with the sink on top of another one releases that. -/
theorem live_styles_owned_once (es : List Event) :
    let l := ({} : Ledger).run es
    let inUse := l.registries.filter fun r => !r.released
    l.sink.live.map (·.ident) = inUse.flatMap Registry.idents ∧
    (∀ r ∈ inUse, r.idents.Nodup) ∧
    inUse.Pairwise (fun r r' => r.idents.Disjoint r'.idents) ∧
    (l.sink.handles.map (·.ident)).Nodup ∧
    (∀ (later : List Event) (i : Nat) (r : Registry), l.registries[i]? = some r →
      r.released = true →
        (l.run later).registries[i]? = some r ∧ ∀ ident ∈ r.idents,
          ∃ h ∈ (l.run later).sink.handles, h.ident = ident ∧ h.disposed = true) ∧
    ∀ annotations languages i refused new, i < l.registries.length →
      (l.step (.rebuild annotations languages (some i) true refused)).1 = .built new →
        ∃ old, (l.step (.rebuild annotations languages (some i) true refused)).2.registries[i]? =
          some old ∧ old.released = true := by
  intro l inUse
  have howns : l.Owns := (owns_empty.run es).1
  obtain ⟨hnodup, hdisjoint⟩ := List.nodup_flatMap.mp howns.nodup
  refine ⟨howns.live, hnodup, hdisjoint, howns.numbered.nodup, ?_, ?_⟩
  · intro later i r hi hr
    obtain ⟨howns', hkeeps⟩ := howns.run later
    have hi' := hkeeps i r hi hr
    exact ⟨hi', howns'.disposed r (List.mem_of_getElem? hi') hr⟩
  · intro annotations languages i refused new hlt hnew
    obtain ⟨-, -, hreleased⟩ := howns.rebuild annotations languages (some i) true refused
    exact hreleased new i hnew rfl rfl hlt

/-- Two kinds. -/
def letters : Section AnnotationEntry :=
  .entries [.value (.table [("name", .str "A"), ("pattern", .str "a")]),
    .value (.table [("name", .str "B"), ("pattern", .str "b")])]

/-- Builds a registry of the two kinds with the sink. -/
def lettersOn (previous : Option Nat) (refused : List String) : Event :=
  .rebuild letters (.entries []) previous true refused

/-- Two registries are built on top of the first one, a third cannot be built to the end, and the
first of the two is released. -/
def branching : List Event :=
  [lettersOn none [], lettersOn (some 0) [], lettersOn (some 0) [], lettersOn (some 1) ["B"],
    .release 1]

/-- The registry that an event built. -/
def Outcome.new? : Outcome → Option Registry
  | .built r => some r
  | _ => Option.none

/-- A new registry was built. -/
theorem Outcome.built_of_new? {o : Outcome} (h : o.new?.isSome = true) :
    ∃ r, o = .built r := by
  cases o with
  | built r => exact ⟨r, rfl⟩
  | _ => cases h

/-- In the end the styles of the last registry are live, those of the first one stay disposed of
when the last one is released as well, and building on top of the last one releases it. -/
theorem live_styles_owned_once_branching :
    (({} : Ledger).run branching).sink.live.map (·.ident) = [5, 6] ∧
    (({} : Ledger).run branching).sink.live.map (·.ident) =
      ((({} : Ledger).run branching).registries.filter fun r => !r.released).flatMap
        Registry.idents ∧
    (∃ r, (({} : Ledger).run branching).registries[0]? = some r ∧ r.released = true ∧
      r.idents = [1, 2] ∧
      ∀ ident ∈ r.idents, ∃ h ∈ ((({} : Ledger).run branching).run [.release 2]).sink.handles,
        h.ident = ident ∧ h.disposed = true) ∧
    ∃ new old,
      let after := (({} : Ledger).run branching).step
        (.rebuild letters (.entries []) (some 2) true [])
      after.1 = .built new ∧ after.2.registries[2]? = some old ∧ old.released = true := by
  have hidents : (({} : Ledger).run branching).sink.live.map (·.ident) = [5, 6] := by
    decide +kernel
  have hfirst : ((({} : Ledger).run branching).registries[0]?.map fun r => (r.released, r.idents)) =
      some (true, [1, 2]) := by decide +kernel
  have hlength : 2 < (({} : Ledger).run branching).registries.length := by decide +kernel
  have hbuilt : ((({} : Ledger).run branching).step
      (.rebuild letters (.entries []) (some 2) true [])).1.new?.isSome = true := by
    decide +kernel
  obtain ⟨hlive, -, -, -, hkept, hbuilds⟩ := live_styles_owned_once branching
  obtain ⟨r, hr, hspec⟩ := Option.map_eq_some_iff.mp hfirst
  obtain ⟨hreleased, hstyles⟩ := Prod.mk.inj hspec
  obtain ⟨new, hnew⟩ := Outcome.built_of_new? hbuilt
  obtain ⟨old, hold, hgone⟩ := hbuilds letters (.entries []) 2 [] new hlength hnew
  exact ⟨hidents, hlive, ⟨r, hr, hreleased, hstyles, (hkept [.release 2] 0 r hr hreleased).2⟩, new,
    old, hnew, hold, hgone⟩

end Ledger

end Marginalia
