import Marginalia.Proofs.Sink.Handles
import Mathlib.Data.List.Nodup

/-!
# Painting in layers

A registry paints a document in one go: with each live style once, in the order of the styles.  So on
each document either nothing is painted or one entry for each live style, in order (`Sink.Whole`).
Painting a document again replaces these entries in their places (`paintedOn_painting`), leaves the
other documents alone (`paintedOn_painting_ne`), and does nothing at all if it paints what is there
already (`painted_painting_of_layer`).  Read by kind, what was painted comes back as it was given
(`decorationsFor_of_layer`), because no two live styles are of one kind.
-/

namespace Marginalia

namespace Painted

/-- Entries have the same key if handle and document are the same. -/
theorem sameKey_iff {p q : Painted} :
    p.sameKey q = true ↔ p.ident = q.ident ∧ p.document = q.document := by
  unfold sameKey
  rw [Bool.and_eq_true, beq_iff_eq, beq_iff_eq]

end Painted

namespace Sink

/-! ## Entries of one document -/

/-- What is painted on a document. -/
def paintedOn (s : Sink) (ref : DocRef) : List Painted := s.painted.filter (·.document == ref)

/-- Puts several entries, one after the other. -/
def putAll (new ps : List Painted) : List Painted := new.foldl (fun ps p => put p ps) ps

@[simp] theorem putAll_nil (ps : List Painted) : putAll [] ps = ps := rfl

@[simp] theorem putAll_cons (p : Painted) (new ps : List Painted) :
    putAll (p :: new) ps = putAll new (put p ps) := rfl

section

variable {keep : Painted → Bool} (hkeep : ∀ {p q : Painted}, q.sameKey p = true → keep q = keep p)

include hkeep

/-- An entry is put among the entries that are kept, if what is kept depends on the handle and the
document only. -/
theorem filter_put (p : Painted) (ps : List Painted) :
    (put p ps).filter keep = if keep p then put p (ps.filter keep) else ps.filter keep := by
  induction ps with
  | nil => by_cases hp : keep p = true <;> simp [put, hp]
  | cons q qs ih =>
    rw [put]
    by_cases hkey : q.sameKey p = true
    · rw [if_pos hkey, List.filter_cons, List.filter_cons, hkeep hkey]
      by_cases hp : keep p = true
      · simp [hp, put, hkey]
      · simp [hp]
    · rw [if_neg hkey, List.filter_cons, ih, List.filter_cons]
      by_cases hp : keep p = true
      · by_cases hq : keep q = true <;> simp [hp, hq, put, hkey]
      · simp [hp]

/-- Entries that are kept are put among those that are kept. -/
theorem filter_putAll (new ps : List Painted) :
    (putAll new ps).filter keep = putAll (new.filter keep) (ps.filter keep) := by
  induction new generalizing ps with
  | nil => rfl
  | cons p new ih =>
    rw [putAll_cons, ih, filter_put hkeep, List.filter_cons]
    by_cases hp : keep p = true <;> simp [hp]

end

/-- Entries of one document are put among the entries of that document. -/
theorem filter_document_putAll {new : List Painted} {document : DocRef}
    (hnew : ∀ p ∈ new, p.document = document) (ps : List Painted) (ref : DocRef) :
    (putAll new ps).filter (·.document == ref) =
      if document = ref then putAll new (ps.filter (·.document == ref))
      else ps.filter (·.document == ref) := by
  rw [filter_putAll fun h => by rw [(Painted.sameKey_iff.mp h).2]]
  split
  · rename_i href
    rw [List.filter_eq_self.mpr fun p hp => by simp [hnew p hp, href]]
  · rename_i href
    rw [List.filter_eq_nil_iff.mpr fun p hp => by simp [hnew p hp, href]]
    rfl

/-- An entry is put behind entries of other handles. -/
theorem put_append {p : Painted} {done : List Painted} (hdone : ∀ q ∈ done, q.ident ≠ p.ident)
    (rest : List Painted) : put p (done ++ rest) = done ++ put p rest := by
  induction done with
  | nil => rfl
  | cons q done ih =>
    obtain ⟨hq, hdone⟩ := List.forall_mem_cons.mp hdone
    have hkey : ¬ q.sameKey p = true := fun h => hq (Painted.sameKey_iff.mp h).1
    rw [List.cons_append, put, if_neg hkey, ih hdone]
    rfl

/-- Entries with different numbers are put at the end, or in the places of entries with the same
numbers in the same order. -/
theorem putAll_append {new done rest : List Painted} {document : DocRef}
    (hnew : ∀ p ∈ new, p.document = document) (hrest : ∀ p ∈ rest, p.document = document)
    (hnodup : ((done ++ new).map (·.ident)).Nodup)
    (hwhole : rest.map (·.ident) = [] ∨ rest.map (·.ident) = new.map (·.ident)) :
    putAll new (done ++ rest) = done ++ new := by
  induction new generalizing done rest with
  | nil =>
    have hnil : rest = [] := by
      rcases hwhole with h | h <;> exact List.map_eq_nil_iff.mp h
    simp [hnil]
  | cons p new ih =>
    obtain ⟨hp, hnew⟩ := List.forall_mem_cons.mp hnew
    have hsplit : ((done ++ [p]) ++ new).map (·.ident) = (done ++ p :: new).map (·.ident) := by simp
    have hdone : ∀ q ∈ done, q.ident ≠ p.ident := by
      rw [List.map_append, List.nodup_append] at hnodup
      intro q hq
      exact hnodup.2.2 _ (List.mem_map_of_mem hq) _ (by simp)
    -- The entry takes the place of the one with its handle, or comes last.
    have hput : ∃ rest', put p (done ++ rest) = (done ++ [p]) ++ rest' ∧
        (∀ q ∈ rest', q.document = document) ∧
        (rest'.map (·.ident) = [] ∨ rest'.map (·.ident) = new.map (·.ident)) := by
      cases rest with
      | nil => exact ⟨[], by rw [put_append hdone]; simp [put], nofun, .inl rfl⟩
      | cons q rest =>
        obtain ⟨hq, hrest⟩ := List.forall_mem_cons.mp hrest
        obtain hnone | hsame := hwhole
        · cases hnone
        · obtain ⟨hident, hsame⟩ := List.cons.inj hsame
          have hkey : q.sameKey p = true := Painted.sameKey_iff.mpr ⟨hident, hq.trans hp.symm⟩
          exact ⟨rest, by rw [put_append hdone]; simp [put, hkey], hrest, .inr hsame⟩
    obtain ⟨rest', heq, hrest', hwhole'⟩ := hput
    rw [putAll_cons, heq, ih hnew hrest' (hsplit ▸ hnodup) hwhole', List.append_assoc]
    rfl

/-- An entry that is there already is put in its own place. -/
theorem put_of_mem {p : Painted} {ps : List Painted} (hp : p ∈ ps)
    (hnodup : ((ps.filter (·.document == p.document)).map (·.ident)).Nodup) : put p ps = ps := by
  induction ps with
  | nil => cases hp
  | cons q qs ih =>
    rw [put]
    by_cases hkey : q.sameKey p = true
    · obtain ⟨hident, hdocument⟩ := Painted.sameKey_iff.mp hkey
      have hq : q ∈ (q :: qs).filter (·.document == p.document) := by simp [hdocument]
      have hp' : p ∈ (q :: qs).filter (·.document == p.document) := by simp [hp]
      rw [if_pos hkey, List.inj_on_of_nodup_map hnodup hq hp' hident]
    · have hne : p ≠ q := fun heq => hkey (Painted.sameKey_iff.mpr ⟨by rw [heq], by rw [heq]⟩)
      have hmem : p ∈ qs := (List.mem_cons.mp hp).resolve_left hne
      have hsub := (List.sublist_cons_self q qs).filter (·.document == p.document)
      rw [if_neg hkey, ih hmem (hnodup.sublist (hsub.map _))]

/-- Putting entries that are there changes nothing. -/
theorem putAll_of_subset {new ps : List Painted} (hnew : ∀ p ∈ new, p ∈ ps)
    (hnodup : ∀ ref, ((ps.filter (·.document == ref)).map (·.ident)).Nodup) :
    putAll new ps = ps := by
  induction new with
  | nil => rfl
  | cons p new ih =>
    obtain ⟨hp, hnew⟩ := List.forall_mem_cons.mp hnew
    rw [putAll_cons, put_of_mem hp (hnodup _), ih hnew]

/-! ## Painting with live handles -/

/-- No two handles have the same number. -/
theorem Numbered.nodup {s : Sink} (hs : s.Numbered) : (s.handles.map (·.ident)).Nodup := by
  rw [hs]
  exact List.nodup_range'

/-- Nor have two handles that are live. -/
theorem Numbered.live_nodup {s : Sink} (hs : s.Numbered) : (s.live.map (·.ident)).Nodup :=
  hs.nodup.sublist (List.filter_sublist.map _)

/-- A handle is found by its number. -/
theorem Numbered.handle?_eq {s : Sink} (hs : s.Numbered) {h : StyleHandle} (hh : h ∈ s.handles) :
    s.handle? h.ident = some h := by
  unfold handle?
  cases hfind : s.handles.find? (·.ident == h.ident) with
  | none => exact absurd (List.find?_eq_none.mp hfind h hh) (by simp)
  | some g =>
    have hident : g.ident = h.ident := by simpa using List.find?_some hfind
    rw [List.inj_on_of_nodup_map hs.nodup (List.mem_of_find?_eq_some hfind) hh hident]

/-- The entries of a document that is painted with the given handles, one after the other. -/
def layer (handles : List StyleHandle) (ref : DocRef) (dss : List (List Decoration)) :
    List Painted :=
  List.zipWith (fun h ds => ⟨h.ident, ref, ds⟩) handles dss

/-- The entries of a layer are all on its document. -/
theorem document_of_mem_layer {handles : List StyleHandle} {ref : DocRef}
    {dss : List (List Decoration)} : ∀ p ∈ layer handles ref dss, p.document = ref := by
  intro p hp
  obtain ⟨i, hi, rfl⟩ := List.mem_iff_getElem.mp hp
  simp [layer]

/-- They are painted with its handles, one after the other. -/
theorem ident_layer {handles : List StyleHandle} {dss : List (List Decoration)}
    (hlength : dss.length = handles.length) (ref : DocRef) :
    (layer handles ref dss).map (·.ident) = handles.map (·.ident) := by
  induction handles generalizing dss with
  | nil => rfl
  | cons h handles ih =>
    cases dss with
    | nil => cases hlength
    | cons ds dss => exact congrArg (h.ident :: ·) (ih (Nat.succ.inj hlength))

/-- The sink after a document was painted with all live handles. -/
def painting (s : Sink) (ref : DocRef) (dss : List (List Decoration)) : Sink :=
  { s with
    painted := putAll (layer s.live ref dss) s.painted
    paintCalls := s.paintCalls + (layer s.live ref dss).length }

/-- A live handle paints. -/
theorem paint_live {s : Sink} (hs : s.Numbered) {h : StyleHandle} (hh : h ∈ s.live) (ref : DocRef)
    (ds : List Decoration) :
    s.paint (some h.ident) ref ds =
      .ok { s with paintCalls := s.paintCalls + 1, painted := put ⟨h.ident, ref, ds⟩ s.painted } := by
  have hlive : h.disposed = false := by simpa using (List.mem_filter.mp hh).2
  unfold paint
  simp only [hs.handle?_eq (s.live_subset hh), hlive]
  rfl

/-- Painting with live handles does not fail. -/
theorem paintGroups_live {s : Sink} (hs : s.Numbered) {handles : List StyleHandle}
    (hlive : ∀ h ∈ handles, h ∈ s.live) (ref : DocRef) (dss : List (List Decoration)) :
    paintGroups ref ((handles.map fun h => some h.ident).zip dss) s =
      (.ok (), { s with
        painted := putAll (layer handles ref dss) s.painted
        paintCalls := s.paintCalls + (layer handles ref dss).length }) := by
  induction handles generalizing dss s with
  | nil => rfl
  | cons h handles ih =>
    cases dss with
    | nil => rfl
    | cons ds dss =>
      obtain ⟨hh, hlive⟩ := List.forall_mem_cons.mp hlive
      have hrest := ih (s := { s with
        paintCalls := s.paintCalls + 1, painted := put ⟨h.ident, ref, ds⟩ s.painted })
        (hs.congr rfl) hlive dss
      rw [List.map_cons, List.zip_cons_cons, paintGroups, paint_live hs hh]
      dsimp only
      rw [hrest]
      simp [layer, Nat.add_assoc, Nat.add_comm 1]

/-! ## Whole layers -/

/-- On each document nothing is painted, or one entry for each live handle, in order; and no two live
handles are of one kind. -/
structure Whole (s : Sink) : Prop where
  numbered : s.Numbered
  kinds : (s.live.map (·.kind)).Nodup
  layers : ∀ ref, (s.paintedOn ref).map (·.ident) = [] ∨
    (s.paintedOn ref).map (·.ident) = s.live.map (·.ident)

/-- Whether a sink is whole depends on its live handles and on what is painted. -/
theorem Whole.congr {s t : Sink} (hs : s.Whole) (hnum : t.Numbered) (hlive : t.live = s.live)
    (hpainted : t.painted = s.painted) : t.Whole where
  numbered := hnum
  kinds := hlive ▸ hs.kinds
  layers ref := by
    unfold paintedOn
    rw [hlive, hpainted]
    exact hs.layers ref

/-- A sink with nothing painted is whole. -/
theorem Whole.of_nothing_painted {s : Sink} (hnum : s.Numbered)
    (hkinds : (s.live.map (·.kind)).Nodup) (hpainted : s.painted = []) : s.Whole where
  numbered := hnum
  kinds := hkinds
  layers ref := by
    unfold paintedOn
    rw [hpainted]
    exact .inl rfl

section

variable {s : Sink} {ref : DocRef} {dss : List (List Decoration)}

/-- Painting one document leaves the others alone. -/
theorem paintedOn_painting_ne {ref' : DocRef} (hne : ref ≠ ref') :
    (s.painting ref dss).paintedOn ref' = s.paintedOn ref' := by
  unfold paintedOn painting
  rw [filter_document_putAll document_of_mem_layer, if_neg hne]

/-- On a document that was just painted there is what was painted, whatever was there before. -/
theorem Whole.paintedOn_painting (hs : s.Whole) (hlength : dss.length = s.live.length) :
    (s.painting ref dss).paintedOn ref = layer s.live ref dss := by
  have hident := ident_layer hlength ref
  have hbefore : ∀ p ∈ s.painted.filter (·.document == ref), p.document = ref := by
    intro p hp
    simpa using (List.mem_filter.mp hp).2
  unfold paintedOn painting
  rw [filter_document_putAll document_of_mem_layer, if_pos rfl,
    ← List.nil_append (s.painted.filter _)]
  refine putAll_append document_of_mem_layer hbefore ?_ ?_
  · rw [List.nil_append, hident]
    exact hs.numbered.live_nodup
  · rw [hident]
    exact hs.layers ref

/-- Painting with all live handles keeps a sink whole. -/
theorem Whole.painting (hs : s.Whole) (hlength : dss.length = s.live.length) :
    (s.painting ref dss).Whole where
  numbered := hs.numbered.congr rfl
  kinds := hs.kinds
  layers ref' := by
    by_cases hne : ref = ref'
    · rw [← hne, hs.paintedOn_painting hlength]
      exact .inr (ident_layer hlength ref)
    · rw [paintedOn_painting_ne hne]
      exact hs.layers ref'

/-- A handle paints a document once. -/
theorem Whole.paintedOn_nodup (hs : s.Whole) (ref : DocRef) :
    ((s.paintedOn ref).map (·.ident)).Nodup := by
  rcases hs.layers ref with h | h
  · rw [h]
    exact List.nodup_nil
  · rw [h]
    exact hs.numbered.live_nodup

/-- To paint what is there already changes nothing. -/
theorem Whole.painted_painting_of_layer (hs : s.Whole) (h : s.paintedOn ref = layer s.live ref dss) :
    (s.painting ref dss).painted = s.painted := by
  refine putAll_of_subset (fun p hp => ?_) hs.paintedOn_nodup
  rw [← h] at hp
  exact (List.mem_filter.mp hp).1

end

/-! ## Reading by kind -/

/-- A new kind comes last. -/
theorem setKind_of_not_mem {kind : String} {acc : Decorations} (h : kind ∉ acc.map Prod.fst)
    (ds : List Decoration) : setKind kind ds acc = acc ++ [(kind, ds)] := by
  induction acc with
  | nil => rfl
  | cons g acc ih =>
    rw [List.map_cons, List.mem_cons, not_or] at h
    rw [setKind, if_neg (Ne.symm h.1), ih h.2]
    rfl

/-- Distinct kinds come in the order in which they are set. -/
theorem foldl_setKind {pairs acc : Decorations} (h : ((acc ++ pairs).map Prod.fst).Nodup) :
    pairs.foldl (fun acc g => setKind g.1 g.2 acc) acc = acc ++ pairs := by
  induction pairs generalizing acc with
  | nil => simp
  | cons g pairs ih =>
    have hsplit : ((acc ++ [g]) ++ pairs).map Prod.fst = (acc ++ g :: pairs).map Prod.fst := by simp
    have hg : g.1 ∉ acc.map Prod.fst := by
      rw [List.map_append, List.nodup_append] at h
      intro hmem
      exact h.2.2 _ hmem _ (by simp) rfl
    rw [List.foldl_cons, setKind_of_not_mem hg, ih (hsplit ▸ h), List.append_assoc]
    rfl

/-- What is read from a document depends on the handles and on the entries of the document. -/
theorem decorationsFor_congr {s t : Sink} {ref : DocRef} (hhandles : t.handles = s.handles)
    (hpainted : t.paintedOn ref = s.paintedOn ref) : t.decorationsFor ref = s.decorationsFor ref := by
  unfold paintedOn at hpainted
  unfold decorationsFor
  rw [hpainted]
  unfold kindOf handle?
  rw [hhandles]

/-- The kinds of the entries of a layer. -/
theorem Numbered.kinds_layer {s : Sink} (hs : s.Numbered) {handles : List StyleHandle}
    (hlive : ∀ h ∈ handles, h ∈ s.live) (ref : DocRef) (dss : List (List Decoration)) :
    (layer handles ref dss).map (fun p => (s.kindOf p.ident, p.decorations)) =
      (handles.map (·.kind)).zip dss := by
  induction handles generalizing dss with
  | nil => rfl
  | cons h handles ih =>
    cases dss with
    | nil => rfl
    | cons ds dss =>
      obtain ⟨hh, hlive⟩ := List.forall_mem_cons.mp hlive
      have hkind : s.kindOf h.ident = h.kind := by
        unfold kindOf
        rw [hs.handle?_eq (s.live_subset hh)]
        rfl
      rw [List.map_cons, List.zip_cons_cons, ← ih hlive, ← hkind]
      rfl

/-- What was painted in a layer is read back as it was painted. -/
theorem Whole.decorationsFor_of_layer {s : Sink} (hs : s.Whole) {ref : DocRef}
    {dss : List (List Decoration)} (hlength : dss.length = s.live.length)
    (h : s.paintedOn ref = layer s.live ref dss) :
    s.decorationsFor ref = (s.live.map (·.kind)).zip dss := by
  have hkeys : ((s.live.map (·.kind)).zip dss).map Prod.fst = s.live.map (·.kind) :=
    List.map_fst_zip (by simp [hlength])
  have hpairs := hs.numbered.kinds_layer (fun _ hh => hh) ref dss
  have hfold : s.decorationsFor ref =
      ((s.paintedOn ref).map fun p => (s.kindOf p.ident, p.decorations)).foldl
        (fun acc g => setKind g.1 g.2 acc) [] := by
    rw [List.foldl_map]
    rfl
  rw [hfold, h, hpairs, foldl_setKind, List.nil_append]
  rw [List.nil_append, hkeys]
  exact hs.kinds

end Sink

/-! ## Painting a document -/

/-- The styles and names of the kinds are those of the live handles, in order. -/
structure Registry.Fits (r : Registry) (s : Sink) : Prop where
  styles : r.kinds.map (·.handle) = s.live.map fun h => some h.ident
  names : r.kindNames = s.live.map (·.kind)

/-- Which handles are live depends on the handles. -/
theorem Sink.live_congr {s t : Sink} (h : t.handles = s.handles) : t.live = s.live := by
  unfold Sink.live
  rw [h]

/-- So does whether a registry fits. -/
theorem Registry.Fits.congr {r : Registry} {s t : Sink} (hr : r.Fits s)
    (h : t.handles = s.handles) : r.Fits t :=
  ⟨Sink.live_congr h ▸ hr.styles, Sink.live_congr h ▸ hr.names⟩

/-- What a scan gives are the groups of the annotations of the text. -/
theorem scan_ok {d : Document} {r : Registry} {groups : Decorations} (h : scan d r = .ok groups) :
    ∃ starts size hits, groups = r.group starts size hits ∧ ∀ text, d.readText = .ok text →
      hitsOfAll text.toArray (r.languagesFor d.language) = .ok hits := by
  unfold scan at h
  dsimp only at h
  split at h
  · -- No language applies, and the text is not read.
    rename_i hnone
    cases h
    refine ⟨[], 0, [], rfl, fun text _ => ?_⟩
    rw [List.isEmpty_iff.mp hnone]
    rfl
  · cases htext : d.readText with
    | error e =>
      rw [htext] at h
      cases h
    | ok text =>
      rw [htext] at h
      cases hhits : hitsOfAll text.toArray (r.languagesFor d.language) with
      | error e =>
        simp only [hhits, Except.bind, bind] at h
        cases h
      | ok hits =>
        simp only [hhits, Except.bind, bind] at h
        split at h
        · cases h
        · cases h
          refine ⟨_, _, hits, rfl, fun text' htext' => ?_⟩
          cases htext'
          exact hhits

/-- A scan has a group for each kind, in the order of the registry. -/
theorem scan_kinds {d : Document} {r : Registry} {groups : Decorations}
    (h : scan d r = .ok groups) : groups.map Prod.fst = r.kindNames := by
  obtain ⟨starts, size, hits, rfl, -⟩ := scan_ok h
  unfold Registry.group
  rw [List.map_map]
  rfl

section

variable {d : Document} {ref : DocRef} {r : Registry} {s : Sink}

/-- A scan has a group of decorations for each live handle. -/
theorem scan_length {groups : Decorations} (hr : r.Fits s) (h : scan d r = .ok groups) :
    (groups.map Prod.snd).length = s.live.length := by
  have hlength := congrArg List.length ((scan_kinds h).trans hr.names)
  rw [List.length_map, List.length_map] at hlength
  rw [List.length_map]
  exact hlength

/-- A document that can be scanned is painted. -/
theorem paintDocument_of_scan {groups : Decorations} (hs : s.Numbered) (hr : r.Fits s)
    (h : scan d r = .ok groups) :
    paintDocument d ref r s = (.ok groups, s.painting ref (groups.map Prod.snd)) := by
  unfold paintDocument
  rw [h]
  dsimp only
  rw [hr.styles, Sink.paintGroups_live hs fun _ hh => hh]
  rfl

/-- A scan that fails paints nothing. -/
theorem paintDocument_of_scan_error {e : ScanError} (h : scan d r = .error e) :
    paintDocument d ref r s = (.error (.scan e), s) := by
  unfold paintDocument
  rw [h]

end

end Marginalia
