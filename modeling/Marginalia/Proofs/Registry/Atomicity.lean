import Marginalia.Proofs.Extraction.Endings
import Marginalia.Proofs.Registry.Ownership

/-!
# A document is painted as a whole or not at all

Painting hands the groups of a document to the sink one after the other, and takes nothing back if
one of them is refused.  A refusal changes nothing all the same, because the styles of a registry are
live together or disposed of together (`Ledger.Owns`): if one is refused, the first one is.

What a document is painted with replaces the entries of its styles and leaves all others
(`Sink.mem_putAll_iff`), because the sink has one entry for a style and a document (`Keyed`).
-/

namespace Marginalia

/-! ## One entry for a style and a document -/

/-- No two entries are of one handle and one document. -/
def Keyed (ps : List Painted) : Prop := ps.Pairwise fun p q => p.sameKey q = false

namespace Painted

theorem sameKey_comm (p q : Painted) : p.sameKey q = q.sameKey p := by
  rw [Bool.eq_iff_iff, sameKey_iff, sameKey_iff, eq_comm, @eq_comm _ p.document]

/-- Entries that have the key of one entry differ from the same entries. -/
theorem sameKey_congr {p q : Painted} (h : p.sameKey q = true) (r : Painted) :
    p.sameKey r = q.sameKey r := by
  obtain ⟨hident, hdocument⟩ := sameKey_iff.mp h
  rw [Bool.eq_iff_iff, sameKey_iff, sameKey_iff, hident, hdocument]

end Painted

namespace Sink

variable {p q : Painted} {ps new : List Painted}

/-- An entry replaces those with its key. -/
theorem mem_put_iff (h : Keyed ps) : q ∈ put p ps ↔ q = p ∨ q ∈ ps ∧ q.sameKey p = false := by
  induction ps with
  | nil => simp [put]
  | cons r ps ih =>
    obtain ⟨hr, hps⟩ := List.pairwise_cons.mp h
    rw [put]
    by_cases hkey : r.sameKey p = true
    · -- The entry takes the place of `r`, and no entry behind it has its key.
      have hrest : q ∈ ps → q.sameKey p = false := fun hq => by
        rw [q.sameKey_comm, ← Painted.sameKey_congr hkey]
        exact hr q hq
      rw [if_pos hkey, List.mem_cons, List.mem_cons]
      refine or_congr_right ⟨fun hq => ⟨.inr hq, hrest hq⟩, ?_⟩
      rintro ⟨rfl | hq, hne⟩
      · cases hkey.symm.trans hne
      · exact hq
    · rw [if_neg hkey, List.mem_cons, ih hps, List.mem_cons]
      constructor
      · rintro (rfl | rfl | ⟨hq, hne⟩)
        · exact .inr ⟨.inl rfl, Bool.eq_false_iff.mpr hkey⟩
        · exact .inl rfl
        · exact .inr ⟨.inr hq, hne⟩
      · rintro (rfl | ⟨rfl | hq, hne⟩)
        · exact .inr (.inl rfl)
        · exact .inl rfl
        · exact .inr (.inr ⟨hq, hne⟩)

/-- Keys stay distinct when an entry is put. -/
theorem keyed_put (h : Keyed ps) (p : Painted) : Keyed (put p ps) := by
  induction ps with
  | nil => exact List.pairwise_singleton _ _
  | cons r ps ih =>
    obtain ⟨hr, hps⟩ := List.pairwise_cons.mp h
    rw [put]
    by_cases hkey : r.sameKey p = true
    · rw [if_pos hkey]
      exact List.pairwise_cons.mpr ⟨fun q hq => Painted.sameKey_congr hkey q ▸ hr q hq, hps⟩
    · rw [if_neg hkey]
      refine List.pairwise_cons.mpr ⟨fun q hq => ?_, ih hps⟩
      rcases (mem_put_iff hps).mp hq with rfl | ⟨hq, -⟩
      · exact Bool.eq_false_iff.mpr hkey
      · exact hr q hq

/-- Entries of different keys replace those of the same keys, and leave the others. -/
theorem mem_putAll_iff (hnew : Keyed new) (h : Keyed ps) :
    q ∈ putAll new ps ↔ q ∈ new ∨ q ∈ ps ∧ ∀ p ∈ new, q.sameKey p = false := by
  induction new generalizing ps with
  | nil => simp
  | cons p new ih =>
    obtain ⟨hp, hnew⟩ := List.pairwise_cons.mp hnew
    rw [putAll_cons, ih hnew (keyed_put h p), mem_put_iff h, List.mem_cons, List.forall_mem_cons]
    constructor
    · rintro (hq | ⟨rfl | ⟨hq, hne⟩, hall⟩)
      · exact .inl (.inr hq)
      · exact .inl (.inl rfl)
      · exact .inr ⟨hq, hne, hall⟩
    · rintro ((rfl | hq) | ⟨hq, hne, hall⟩)
      · exact .inr ⟨.inl rfl, hp⟩
      · exact .inl hq
      · exact .inr ⟨.inr ⟨hq, hne⟩, hall⟩

/-- They do so when several are. -/
theorem keyed_putAll (h : Keyed ps) (new : List Painted) : Keyed (putAll new ps) := by
  induction new generalizing ps with
  | nil => exact h
  | cons p new ih => exact ih (keyed_put h p)

/-! ## Painting with styles of one registry -/

/-- The entries of groups with their styles on a document; a group without a style has none. -/
def entriesOf (ref : DocRef) (gs : List (Option Nat × List Decoration)) : List Painted :=
  gs.filterMap fun g => g.1.map fun ident => ⟨ident, ref, g.2⟩

variable {s : Sink} {gs : List (Option Nat × List Decoration)}

/-- If all styles are live, all groups are painted. -/
theorem paintGroups_of_live (hs : s.Numbered)
    (hlive : ∀ g ∈ gs, ∀ ident ∈ g.1, ∃ h ∈ s.live, h.ident = ident) (ref : DocRef) :
    paintGroups ref gs s = (.ok (), { s with
      painted := putAll (entriesOf ref gs) s.painted
      paintCalls := s.paintCalls + (entriesOf ref gs).length }) := by
  induction gs generalizing s with
  | nil => rfl
  | cons g gs ih =>
    obtain ⟨handle, ds⟩ := g
    obtain ⟨hg, hgs⟩ := List.forall_mem_cons.mp hlive
    cases handle with
    | none => exact ih hs hgs
    | some ident =>
      obtain ⟨h, hh, rfl⟩ := hg ident rfl
      have hrest := ih (s := { s with
        paintCalls := s.paintCalls + 1, painted := put ⟨h.ident, ref, ds⟩ s.painted })
        (hs.congr rfl) hgs
      rw [paintGroups, paint_live hs hh]
      dsimp only
      rw [hrest]
      simp [entriesOf, Nat.add_assoc, Nat.add_comm 1]

/-- If all styles are disposed of and there is one, nothing is painted. -/
theorem paintGroups_of_disposed (hs : s.Numbered)
    (hgone : ∀ g ∈ gs, ∀ ident ∈ g.1, ∃ h ∈ s.handles, h.ident = ident ∧ h.disposed = true)
    (hsome : gs.filterMap Prod.fst ≠ []) (ref : DocRef) :
    ∃ e, paintGroups ref gs s = (.error e, s) := by
  induction gs with
  | nil => exact absurd rfl hsome
  | cons g gs ih =>
    obtain ⟨handle, ds⟩ := g
    obtain ⟨hg, hgs⟩ := List.forall_mem_cons.mp hgone
    cases handle with
    | none => exact ih hgs hsome
    | some ident =>
      obtain ⟨h, hh, rfl, hdisposed⟩ := hg ident rfl
      have hpaint : s.paint (some h.ident) ref ds = .error ⟨h⟩ := by
        unfold paint
        simp only [hs.handle?_eq hh, hdisposed]
        rfl
      exact ⟨⟨h⟩, by rw [paintGroups, hpaint]⟩

/-- They do so when groups are painted. -/
theorem keyed_paintGroups (hs : Keyed s.painted) (ref : DocRef)
    (gs : List (Option Nat × List Decoration)) :
    Keyed (paintGroups ref gs s).2.painted := by
  induction gs generalizing s with
  | nil => exact hs
  | cons g gs ih =>
    rw [paintGroups]
    split
    · rename_i s' hpaint
      refine ih ?_
      unfold paint at hpaint
      split at hpaint
      · cases hpaint
        exact hs
      · dsimp only at hpaint
        split at hpaint
        · split at hpaint <;> cases hpaint
          exact keyed_put hs _
        · cases hpaint
          exact keyed_put hs _
    · exact hs

end Sink

/-! ## What a run keeps -/

/-- A release retires the registry or leaves it as it is. -/
theorem Registry.release_cases (r : Registry) (s : Sink) :
    (r.release s).1 = r ∨ (r.release s).1 = r.retire := by
  unfold release
  split
  · exact .inl rfl
  · exact .inr rfl

/-- Allocating styles paints nothing. -/
theorem Sink.painted_allocateStyles (done : List Nat) (ks : List KindSpec) (s : Sink) :
    (allocateStyles done ks s).2.painted.Sublist s.painted := by
  induction ks generalizing s done with
  | nil => exact .refl _
  | cons k ks ih =>
    rw [allocateStyles]
    split
    · rename_i h s₁ hcreate
      obtain ⟨rfl, -⟩ := create_ok hcreate
      exact (ih _ _ :)
    · rw [disposeAll_painted]
      exact List.filter_sublist

/-- The previous registry comes back as it was, or released. -/
theorem rebuild_previous {annotations : Section AnnotationEntry}
    {languages : Section LanguageEntry} {sink : Option Sink} {previous : Option Registry} {r : Registry}
    (h : (rebuild annotations languages sink previous).previous = some r) :
    ∃ old, previous = some old ∧ (r = old ∨ r = old.retire) := by
  unfold rebuild at h
  split at h
  · exact ⟨r, h, .inl rfl⟩
  · dsimp only at h
    split at h
    · exact ⟨r, h, .inl rfl⟩
    · split at h
      · exact ⟨r, h, .inl rfl⟩
      · cases previous with
        | none => cases h
        | some old =>
          cases h
          exact ⟨old, rfl, old.release_cases _⟩

/-- Building a registry paints nothing. -/
theorem painted_rebuild (annotations : Section AnnotationEntry)
    (languages : Section LanguageEntry) (withSink : Bool) (s : Sink) (previous : Option Registry) :
    ((rebuild annotations languages (if withSink then some s else none)
      previous).sink.getD s).painted.Sublist s.painted := by
  cases withSink with
  | false =>
    rw [if_neg Bool.false_ne_true, (rebuild_sinkless previous).1]
    exact .refl _
  | true =>
    rw [if_pos rfl]
    unfold rebuild
    split
    · exact .refl _
    · rename_i plan _
      have hallocated := Sink.painted_allocateStyles [] plan.specs s
      dsimp only
      split
      · rename_i ha
        rw [ha] at hallocated
        exact hallocated
      · rename_i ha
        rw [ha] at hallocated
        cases previous with
        | none => exact hallocated
        | some old => exact (old.painted_release _).trans hallocated

namespace Ledger

variable {l : Ledger}

/-- What holds of every registry that is built, and still when it is released, holds of all
registries after an event if it does before. -/
theorem forall_registries_step {P : Registry → Prop}
    (hbuilt : ∀ {annotations languages sink previous new},
      (Marginalia.rebuild annotations languages sink previous).result = .ok new → P new)
    (hretire : ∀ {r}, P r → P r.retire) (h : ∀ r ∈ l.registries, P r) (e : Event) :
    ∀ r ∈ (l.step e).2.registries, P r := by
  cases e with
  | rebuild annotations languages previous withSink refused =>
    -- The previous registry is the one that may have changed, by being retired.
    have hrestored {sink : Option Sink} : ∀ r ∈ restore l.registries previous (Marginalia.rebuild
        annotations languages sink (previous.bind (l.registries[·]?))).previous, P r := by
      intro r hr
      unfold restore at hr
      split at hr
      · rename_i i new hprevious
        rcases List.mem_or_eq_of_mem_set hr with hr | rfl
        · exact h r hr
        · obtain ⟨old, hold, hsame⟩ := rebuild_previous hprevious
          have hP := h old (List.mem_of_getElem? hold)
          rcases hsame with rfl | rfl
          · exact hP
          · exact hretire hP
      · exact h r hr
    dsimp only [Ledger.step]
    split
    · rename_i new hnew
      exact List.forall_mem_append.mpr ⟨hrestored, List.forall_mem_singleton.mpr (hbuilt hnew)⟩
    · exact hrestored
  | release i =>
    dsimp only [Ledger.step]
    split
    · rename_i r hr
      intro r' hr'
      rcases List.mem_or_eq_of_mem_set hr' with hr' | rfl
      · exact h r' hr'
      · have hP := h r (List.mem_of_getElem? hr)
        rcases r.release_cases l.sink with hsame | hsame <;> rw [hsame]
        · exact hP
        · exact hretire hP
    · exact h
  | paint i doc document =>
    dsimp only [Ledger.step]
    split
    · split <;> exact h
    · exact h

/-- Keys stay distinct with each event. -/
theorem keyed_step (h : Keyed l.sink.painted) (e : Event) : Keyed (l.step e).2.sink.painted := by
  cases e with
  | rebuild annotations languages previous withSink refused =>
    have hpainted := h.sublist (painted_rebuild annotations languages withSink
      { l.sink with refused } (previous.bind (l.registries[·]?)))
    dsimp only [Ledger.step]
    split <;> exact hpainted
  | release i =>
    dsimp only [Ledger.step]
    split
    · exact h.sublist (Registry.painted_release _ _)
    · exact h
  | paint i doc document =>
    dsimp only [Ledger.step]
    split
    · rename_i r _
      have hpainted : Keyed (paintDocument doc document r l.sink).2.painted := by
        unfold paintDocument
        split
        · exact h
        · rename_i groups _
          have hgroups := Sink.keyed_paintGroups h document ((r.kinds.map (·.handle)).zip
            (groups.map Prod.snd))
          split <;> rename_i heq <;> rw [heq] at hgroups <;> exact hgroups
      split <;> rename_i heq <;> rw [heq] at hpainted <;> exact hpainted
    · exact h

/-- What painting relies on. -/
structure Orderly (l : Ledger) : Prop where
  owns : l.Owns
  keyed : Keyed l.sink.painted
  names : ∀ r ∈ l.registries, r.kindNames.Nodup
  compiled : ∀ r ∈ l.registries, r.Compiled

/-- Each event keeps a ledger orderly. -/
theorem Orderly.step (h : l.Orderly) (e : Event) : (l.step e).2.Orderly where
  owns := (h.owns.step e).1
  keyed := keyed_step h.keyed e
  names := forall_registries_step rebuild_kindNames_nodup id h.names e
  compiled := forall_registries_step rebuild_compiled id h.compiled e

/-- All events do, by induction on them. -/
theorem Orderly.run (h : l.Orderly) (es : List Event) : (l.run es).Orderly := by
  induction es generalizing l with
  | nil => exact h
  | cons e es ih => exact ih (h.step e)

/-- A registry that is not released has distinct handles. -/
theorem Owns.idents_nodup {r : Registry} (h : l.Owns) (hr : r ∈ l.registries)
    (hreleased : r.released = false) : r.idents.Nodup :=
  (List.nodup_flatMap.mp h.nodup).1 r (List.mem_filter.mpr ⟨hr, by rw [hreleased]; rfl⟩)

theorem orderly_empty : Orderly {} := ⟨owns_empty, .nil, nofun, nofun⟩

end Ledger

/-! ## Painting a document -/

/-- What painting the groups of a registry on a document makes of a sink. -/
structure Sink.Repainted (r : Registry) (ref : DocRef) (groups : Decorations) (s s' : Sink) :
    Prop where
  /-- There is a group for each kind. -/
  names : groups.map Prod.fst = r.kindNames
  /-- The entries of the registry's styles on the document are the groups of their kinds; all other
  entries are as they were. -/
  painted : ∀ p, p ∈ s'.painted ↔
    p ∈ s.painted ∧ (p.document = ref → p.ident ∉ r.idents) ∨
      p.document = ref ∧ ∃ k ∈ r.kinds, k.handle = some p.ident ∧
        groups.lookup k.spec.name = some p.decorations
  /-- There is one entry for a style and a document. -/
  keyed : Keyed s'.painted
  paintCalls : s'.paintCalls = s.paintCalls + r.idents.length
  handles : s'.handles = s.handles

section

variable {r : Registry} {ref : DocRef} {f : Kind → List Decoration}

/-- A scan has a group for each kind, in the order of the registry. -/
theorem scan_groups {doc : Document} {groups : Decorations} (h : scan doc r = .ok groups) :
    ∃ f : Kind → List Decoration, groups = r.kinds.map fun k => (k.spec.name, f k) := by
  obtain ⟨starts, size, hits, rfl, -⟩ := scan_ok h
  exact ⟨_, rfl⟩

/-- The groups with the styles of the kinds. -/
theorem Registry.zip_handles (r : Registry) (f : Kind → List Decoration) :
    (r.kinds.map (·.handle)).zip ((r.kinds.map fun k => (k.spec.name, f k)).map Prod.snd) =
      r.kinds.map fun k => (k.handle, f k) := by
  rw [List.map_map, List.zip_map']
  rfl

/-- A kind is found by its name. -/
theorem Registry.lookup_group (hnames : r.kindNames.Nodup) {k : Kind} (hk : k ∈ r.kinds) :
    (r.kinds.map fun k => (k.spec.name, f k)).lookup k.spec.name = some (f k) := by
  unfold kindNames at hnames
  generalize r.kinds = kinds at hnames hk
  induction kinds with
  | nil => cases hk
  | cons k' kinds ih =>
    obtain ⟨hk', hkinds⟩ := List.nodup_cons.mp hnames
    rw [List.map_cons, List.lookup_cons]
    rcases List.mem_cons.mp hk with rfl | hk
    · rw [beq_self_eq_true]
    · have hne : k.spec.name ≠ k'.spec.name := fun heq =>
        hk' (List.mem_map.mpr ⟨k, hk, heq⟩)
      rw [beq_false_of_ne hne]
      exact ih hkinds hk

/-- There is an entry for each kind with a handle. -/
theorem Registry.mem_entriesOf (r : Registry) (ref : DocRef) (f : Kind → List Decoration)
    {p : Painted} :
    p ∈ Sink.entriesOf ref (r.kinds.map fun k => (k.handle, f k)) ↔
      p.document = ref ∧ ∃ k ∈ r.kinds, k.handle = some p.ident ∧ f k = p.decorations := by
  simp only [Sink.entriesOf, List.mem_filterMap, List.mem_map, exists_exists_and_eq_and,
    Option.map_eq_some_iff]
  constructor
  · rintro ⟨k, hk, ident, hident, rfl⟩
    exact ⟨rfl, k, hk, hident, rfl⟩
  · rintro ⟨rfl, k, hk, hident, hds⟩
    exact ⟨k, hk, p.ident, hident, by rw [hds]⟩

/-- Groups are painted with handles of the registry. -/
theorem Registry.mem_idents {g : Option Nat × List Decoration}
    (hg : g ∈ r.kinds.map fun k => (k.handle, f k)) {ident : Nat} (hident : ident ∈ g.1) :
    ident ∈ r.idents := by
  obtain ⟨k, hk, rfl⟩ := List.mem_map.mp hg
  exact List.mem_filterMap.mpr ⟨k, hk, hident⟩

/-- Entries are painted with these handles, in order. -/
theorem Registry.ident_entriesOf (r : Registry) (ref : DocRef) (f : Kind → List Decoration) :
    (Sink.entriesOf ref (r.kinds.map fun k => (k.handle, f k))).map (·.ident) = r.idents := by
  unfold Sink.entriesOf idents
  rw [List.filterMap_map, List.map_filterMap]
  refine List.filterMap_congr fun k _ => ?_
  cases h : k.handle <;> simp [h]

/-- Painting all groups replaces what was painted with these handles. -/
theorem Registry.repainted {s : Sink} (hs : Keyed s.painted) (hnames : r.kindNames.Nodup)
    (hidents : r.idents.Nodup) (ref : DocRef) (f : Kind → List Decoration) :
    s.Repainted r ref (r.kinds.map fun k => (k.spec.name, f k)) { s with
      painted := Sink.putAll (Sink.entriesOf ref (r.kinds.map fun k => (k.handle, f k))) s.painted
      paintCalls := s.paintCalls +
        (Sink.entriesOf ref (r.kinds.map fun k => (k.handle, f k))).length } := by
  have hmem {p : Painted} := r.mem_entriesOf ref f (p := p)
  have hident := r.ident_entriesOf ref f
  generalize Sink.entriesOf ref (r.kinds.map fun k => (k.handle, f k)) = new at hmem hident
  have hnew : Keyed new := by
    rw [← hident] at hidents
    refine (List.pairwise_map.mp hidents).imp fun {p q} hne => Bool.eq_false_iff.mpr fun hkey => ?_
    exact hne (Painted.sameKey_iff.mp hkey).1
  have hother {p : Painted} : (∀ q ∈ new, p.sameKey q = false) ↔
      (p.document = ref → p.ident ∉ r.idents) := by
    rw [← hident]
    constructor
    · rintro hall href hp
      obtain ⟨q, hq, heq⟩ := List.mem_map.mp hp
      have hkey := Painted.sameKey_iff.mpr ⟨heq.symm, href.trans (hmem.mp hq).1.symm⟩
      cases hkey.symm.trans (hall q hq)
    · intro hp q hq
      refine Bool.eq_false_iff.mpr fun hkey => ?_
      obtain ⟨heq, href⟩ := Painted.sameKey_iff.mp hkey
      exact hp (href.trans (hmem.mp hq).1) (List.mem_map.mpr ⟨q, hq, heq.symm⟩)
  refine ⟨?_, fun p => ?_, Sink.keyed_putAll hs new, ?_, rfl⟩
  · rw [List.map_map]
    rfl
  · rw [Sink.mem_putAll_iff hnew hs, hother, hmem, or_comm]
    refine or_congr_right (and_congr_right fun _ => exists_congr fun k => and_congr_right fun hk => ?_)
    rw [r.lookup_group hnames hk, Option.some.injEq]
  · rw [← hident, List.length_map]

end

namespace Ledger

/-- Whatever was built, released and painted on one sink before, a document on which extraction ends is
painted with any of the registries, released or not, built with the sink or without, in one of two
ways.  It is not painted, because its scan fails or because the styles of the registry are disposed
of, and the sink stays as it is; or the groups of its scan are painted, empty ones included, and no
other entry changes.  Extraction ends with any descriptor that has no possessive repeat of more than
one character. -/
theorem paint_all_or_nothing (es : List Event) {r : Registry}
    (hr : r ∈ (({} : Ledger).run es).registries) {doc : Document} (hends : r.EndsOn doc)
    (ref : DocRef) :
    let s := (({} : Ledger).run es).sink
    (∀ d ∈ r.languages, d.MayGoBack ∨ ∀ text, d.Ends text) ∧ r.Exhausts doc ∧
    ((∃ e, paintDocument doc ref r s = (.error e, s) ∧
      ((∃ e', scan doc r = .error e') ∨ r.released = true ∧ r.idents ≠ [])) ∨
    ∃ groups s', paintDocument doc ref r s = (.ok groups, s') ∧ scan doc r = .ok groups ∧
      (r.released = true → r.idents = []) ∧ s.Repainted r ref groups s') := by
  intro s
  have h : (({} : Ledger).run es).Orderly := orderly_empty.run es
  refine ⟨fun d hd => (h.compiled r hr).mayGoBack_or_ends hd, hends.exhausts, ?_⟩
  cases hscan : scan doc r with
  | error e => exact .inl ⟨_, paintDocument_of_scan_error hscan, .inl ⟨e, rfl⟩⟩
  | ok groups =>
    obtain ⟨f, rfl⟩ := scan_groups hscan
    -- Either all styles are disposed of, and the first one is refused, or none is.
    by_cases hgone : r.released = true ∧ r.idents ≠ []
    · have hsome : (r.kinds.map fun k => (k.handle, f k)).filterMap Prod.fst ≠ [] := by
        rw [List.filterMap_map]
        exact hgone.2
      obtain ⟨e, he⟩ := Sink.paintGroups_of_disposed h.owns.numbered
        (fun g hg ident hident => h.owns.disposed r hr hgone.1 ident (r.mem_idents hg hident))
        hsome ref
      refine .inl ⟨.disposed e, ?_, .inr hgone⟩
      rw [paintDocument, hscan]
      dsimp only
      rw [r.zip_handles, he]
    · have hkept : r.released = true → r.idents = [] := by simpa using hgone
      have hlive : ∀ ident ∈ r.idents, ∃ handle ∈ s.live, handle.ident = ident := by
        intro ident hident
        refine h.owns.mem_live hr (Bool.eq_false_iff.mpr fun hreleased => ?_) hident
        exact List.ne_nil_of_mem hident (hkept hreleased)
      have hidents : r.idents.Nodup := by
        cases hreleased : r.released with
        | true =>
          rw [hkept hreleased]
          exact List.nodup_nil
        | false => exact h.owns.idents_nodup hr hreleased
      have hpaint := Sink.paintGroups_of_live h.owns.numbered
        (fun g hg ident hident => hlive ident (r.mem_idents (f := f) hg hident)) ref
      refine .inr ⟨_, _, ?_, rfl, hkept, r.repainted h.keyed (h.names r hr) hidents ref f⟩
      rw [paintDocument, hscan]
      dsimp only
      rw [r.zip_handles, hpaint]

/-- A registry of the two kinds, with comments after two slashes. -/
def lettersIn (previous : Option Nat) (refused : List String) : Event :=
  .rebuild letters (.entries [.language { ids := ["t"], lineComments := [.text "//.*"] }]) previous
    true refused

/-- A registry takes the place of another one and paints a document, and a third one cannot be built
to the end. -/
def superseding (doc : Document) : List Event :=
  [lettersIn none [], lettersIn (some 0) [], .paint 1 doc (some 0), lettersIn (some 1) ["B"]]

/-- The registry that is released paints nothing, although its scan succeeds; the one in use paints
both of its groups. -/
theorem paint_all_or_nothing_superseding :
    let doc : Document := { text := some "x //b", language := "t" }
    let groups := [("A", []), ("B", [⟨⟨⟨0, 4⟩, ⟨0, 5⟩⟩, none, 4, 5⟩])]
    let l := ({} : Ledger).run (superseding doc)
    ∃ old new, l.registries = [old, new] ∧ old.EndsOn doc ∧ new.EndsOn doc ∧
      scan doc old = .ok groups ∧
      (∃ e, paintDocument doc (some 7) old l.sink = (.error e, l.sink)) ∧
      ∃ s', paintDocument doc (some 7) new l.sink = (.ok groups, s') ∧
        l.sink.Repainted new (some 7) groups s' := by
  intro doc groups l
  have hregistries : (l.registries.map fun r => (r.released, r.idents, r.keepsPlace)) =
      [(true, [1, 2], true), (false, [3, 4], true)] := by decide +kernel
  have hscans : (l.registries.map fun r => (scan doc r).toOption) = [some groups, some groups] := by
    decide +kernel
  obtain ⟨old, rest, hl, hold, hrest⟩ := List.map_eq_cons_iff.mp hregistries
  obtain ⟨new, nothing, rfl, hnew, hnothing⟩ := List.map_eq_cons_iff.mp hrest
  obtain rfl := List.map_eq_nil_iff.mp hnothing
  rw [hl] at hscans
  simp only [List.map_cons, List.cons.injEq, Prod.mk.injEq] at hold hnew hscans
  have hscan := eq_ok_of_toOption hscans.2.1
  have hmem : new ∈ l.registries := by
    rw [hl]
    exact List.mem_cons_of_mem _ List.mem_cons_self
  have hcompiled := (orderly_empty.run (superseding doc)).compiled
  have hends := (hcompiled old (hl ▸ List.mem_cons_self)).endsOn hold.2.2 doc
  have hends' := (hcompiled new hmem).endsOn hnew.2.2 doc
  refine ⟨old, new, hl, hends, hends', eq_ok_of_toOption hscans.1, ?_, ?_⟩
  · obtain ⟨-, -, ⟨e, he, -⟩ | ⟨_, _, -, -, hkept, -⟩⟩ :=
      paint_all_or_nothing (superseding doc) (hl ▸ List.mem_cons_self) hends (some 7)
    · exact ⟨e, he⟩
    · cases hold.2.1.symm.trans (hkept hold.1)
  · obtain ⟨-, -, ⟨_, -, ⟨_, herror⟩ | ⟨hreleased, -⟩⟩ | ⟨_, s', hpaint, hgroups, -, hs'⟩⟩ :=
      paint_all_or_nothing (superseding doc) hmem hends' (some 7)
    · cases hscan.symm.trans herror
    · cases hnew.1.symm.trans hreleased
    · cases hscan.symm.trans hgroups
      exact ⟨s', hpaint, hs'⟩

/-- A document with two letters. -/
def letterPair : Document := { text := some "ab", language := "t" }

/-- A registry of the two kinds for a language whose skipped block looks back. -/
def returningLedger : Ledger :=
  ({} : Ledger).run [.rebuild letters (.entries [.language
    { ids := ["t"], skippedBlocks := [.text "(?:(?<=x)y)*+"] }]) none true []]

/-- The loop over the comments of the document never ends, so that it is neither painted nor
refused. -/
theorem painting_never_ends :
    ∃ r ∈ returningLedger.registries, ∃ d ∈ r.languagesFor letterPair.language,
      ∃ c, d.commentMatcher = some c ∧
        ∀ hits broken, ¬(c.scanner (Text.chars "ab")).Runs 0 hits broken := by
  have hvalue : (returningLedger.registries.map fun r =>
      (r.languagesFor letterPair.language).map fun d => d.commentMatcher.map fun c =>
        ((c.scanner (Text.chars "ab")).search 0, (c.scanner (Text.chars "ab")).search 1)) =
      [[some (.ok (some ⟨0, 0, none⟩), .ok (some ⟨1, 0, none⟩))]] := by decide +kernel
  obtain ⟨r, rs, hrs, hlanguages, -⟩ := List.map_eq_cons_iff.mp hvalue
  obtain ⟨d, ds, hds, hd, -⟩ := List.map_eq_cons_iff.mp hlanguages
  obtain ⟨c, hc, hsearches⟩ := Option.map_eq_some_iff.mp hd
  obtain ⟨hfirst, hsecond⟩ := Prod.mk.inj hsearches
  refine ⟨r, hrs ▸ List.mem_cons_self, d, hds ▸ List.mem_cons_self, c, hc, ?_⟩
  exact CommentMatcher.not_runs_of_returns (Nat.le_succ 1) hfirst hsecond

end Ledger

end Marginalia
