import Marginalia.Scan

/-!
# What happens to the handles of a sink

Handles are numbered in the order in which they are handed out (`Sink.Numbered`), so a new handle
has a number that no earlier one has.  Everything else follows from two equations: disposing of a
list of handles marks exactly those handles and removes exactly what was painted with them
(`disposeAll_handles`, `disposeAll_painted`).

* Allocating styles either adds one live handle for each kind, in order, or, when a style is
  refused, adds only handles that are disposed (`allocateStyles_ok`, `allocateStyles_error`).
* Painting leaves the handles alone and adds only entries of the handles it is given
  (`paintGroups_frame`).
-/

namespace Marginalia

namespace Sink

/-- The handles are numbered from one on, in the order in which they were handed out. -/
def Numbered (s : Sink) : Prop := s.handles.map (·.ident) = List.range' 1 s.handles.length

/-- Numbers go up to the number of handles. -/
theorem Numbered.ident_le {s : Sink} (hs : s.Numbered) {h : StyleHandle} (hh : h ∈ s.handles) :
    h.ident ≤ s.handles.length := by
  have hmem : h.ident ∈ s.handles.map (·.ident) := List.mem_map_of_mem hh
  rw [hs, List.mem_range'_1] at hmem
  omega

/-- A new handle gets the next number. -/
theorem Numbered.push {s : Sink} (hs : s.Numbered) {h : StyleHandle}
    (hh : h.ident = s.handles.length + 1) : ({ s with handles := s.handles ++ [h] }).Numbered := by
  unfold Numbered at *
  simp only [List.map_append, List.map_cons, List.map_nil, List.length_append, List.length_cons,
    List.length_nil, hs, hh, Nat.zero_add]
  rw [List.range'_1_concat, Nat.add_comm 1]

/-- The numbering depends on the numbers of the handles only. -/
theorem Numbered.congr {s t : Sink} (hs : s.Numbered)
    (h : t.handles.map (·.ident) = s.handles.map (·.ident)) : t.Numbered := by
  have hlen : t.handles.length = s.handles.length := by
    simpa using congrArg List.length h
  unfold Numbered at *
  rw [h, hs, hlen]

/-! ## Disposing of handles -/

/-- A handle after the handles with the given numbers were disposed of. -/
def mark (idents : List Nat) (h : StyleHandle) : StyleHandle :=
  if h.ident ∈ idents then { h with disposed := true } else h

@[simp] theorem mark_ident (idents : List Nat) (h : StyleHandle) :
    (mark idents h).ident = h.ident := by
  unfold mark
  split <;> rfl

/-- A handle of the list is marked. -/
theorem mark_of_mem {idents : List Nat} {h : StyleHandle} (hh : h.ident ∈ idents) :
    mark idents h = { h with disposed := true } := if_pos hh

/-- Other handles are left alone. -/
theorem mark_of_not_mem {idents : List Nat} {h : StyleHandle} (hh : h.ident ∉ idents) :
    mark idents h = h := if_neg hh

/-- Disposing of handles marks exactly those. -/
theorem disposeAll_handles (s : Sink) (idents : List Nat) :
    (s.disposeAll idents).handles = s.handles.map (mark idents) := by
  induction idents generalizing s with
  | nil => exact (List.map_id' _).symm
  | cons i is ih =>
    have hstep : s.disposeAll (i :: is) = (s.dispose i).disposeAll is := rfl
    rw [hstep, ih, Sink.dispose, List.map_map]
    apply List.map_congr_left
    intro h _
    by_cases hi : h.ident = i <;> by_cases his : h.ident ∈ is <;> simp_all [mark]

/-- Disposing of handles removes exactly what was painted with them. -/
theorem disposeAll_painted (s : Sink) (idents : List Nat) :
    (s.disposeAll idents).painted = s.painted.filter (·.ident ∉ idents) := by
  induction idents generalizing s with
  | nil => exact (List.filter_eq_self.mpr fun _ _ => by simp).symm
  | cons i is ih =>
    have hstep : s.disposeAll (i :: is) = (s.dispose i).disposeAll is := rfl
    rw [hstep, ih, Sink.dispose, List.filter_filter]
    apply List.filter_congr
    intro p _
    by_cases hi : p.ident = i <;> by_cases his : p.ident ∈ is <;> simp_all

/-- Disposing changes neither the number of paints nor the kinds without a style. -/
theorem disposeAll_rest (s : Sink) (idents : List Nat) :
    (s.disposeAll idents).paintCalls = s.paintCalls ∧
      (s.disposeAll idents).refused = s.refused := by
  induction idents generalizing s with
  | nil => exact ⟨rfl, rfl⟩
  | cons i is ih => exact ih (s.dispose i)

/-- Disposing keeps numbers. -/
theorem Numbered.disposeAll {s : Sink} (hs : s.Numbered) (idents : List Nat) :
    (s.disposeAll idents).Numbered := by
  apply hs.congr
  rw [disposeAll_handles, List.map_map]
  exact List.map_congr_left fun h _ => mark_ident idents h

/-- The live handles after some were disposed of. -/
theorem live_disposeAll (s : Sink) (idents : List Nat) :
    (s.disposeAll idents).live = s.live.filter (·.ident ∉ idents) := by
  unfold Sink.live
  rw [disposeAll_handles, List.filter_map, List.filter_filter]
  have hmark : ∀ h : StyleHandle,
      (!(mark idents h).disposed) = (!h.disposed && decide (h.ident ∉ idents)) := by
    intro h
    by_cases hh : h.ident ∈ idents
    · simp [mark_of_mem hh, hh]
    · simp [mark_of_not_mem hh, hh]
  have hkept : ∀ h ∈ s.handles.filter fun h => !h.disposed && decide (h.ident ∉ idents),
      mark idents h = h := by
    intro h hh
    simp only [List.mem_filter, Bool.and_eq_true, decide_eq_true_eq] at hh
    exact mark_of_not_mem hh.2.2
  simp only [Function.comp_def, hmark]
  rw [List.map_congr_left hkept, List.map_id']
  exact List.filter_congr fun h _ => Bool.and_comm _ _

/-- A live handle is a handle. -/
theorem live_subset (s : Sink) {h : StyleHandle} (hh : h ∈ s.live) : h ∈ s.handles :=
  (List.mem_filter.mp hh).1

/-! ## Allocating styles -/

/-- A style that is handed out is a live handle with the next number. -/
theorem create_ok {s s' : Sink} {kind : String} {options : Style.Options} {h : StyleHandle}
    (hc : s.create kind options = .ok (h, s')) :
    s' = { s with handles := s.handles ++ [h] } ∧ h.ident = s.handles.length + 1 ∧
      h.kind = kind ∧ h.options = options ∧ h.disposed = false := by
  unfold Sink.create at hc
  split at hc
  · cases hc
  · cases hc
    exact ⟨rfl, rfl, rfl, rfl, rfl⟩

/-- Styles that are all handed out become live handles, one for each kind, in order. -/
theorem allocateStyles_ok {ks : List KindSpec} {s s' : Sink} {done idents : List Nat}
    (hs : s.Numbered) (ha : allocateStyles done ks s = (.ok idents, s')) :
    ∃ made : List StyleHandle, s' = { s with handles := s.handles ++ made } ∧ s'.Numbered ∧
      idents = done ++ made.map (·.ident) ∧ made.map (·.kind) = ks.map (·.name) ∧
      made.map (·.options) = ks.map (·.style) ∧
      (∀ h ∈ made, h.disposed = false ∧ s.handles.length < h.ident) := by
  induction ks generalizing s done with
  | nil =>
    cases ha
    exact ⟨[], by simp, hs, by simp, rfl, rfl, by simp⟩
  | cons k ks ih =>
    simp only [allocateStyles] at ha
    split at ha
    · rename_i h s₁ hc
      obtain ⟨rfl, hid, hk, ho, hd⟩ := create_ok hc
      obtain ⟨made, hs', hnum, hids, hkinds, hopts, hmade⟩ := ih (hs.push hid) ha
      refine ⟨h :: made, ?_, hnum, ?_, ?_, ?_, ?_⟩
      · simpa using hs'
      · simpa using hids
      · simp [hk, hkinds]
      · simp [ho, hopts]
      · intro g hg
        rcases List.mem_cons.mp hg with rfl | hg
        · exact ⟨hd, by omega⟩
        · have := hmade g hg
          simp only [List.length_append, List.length_cons, List.length_nil] at this
          exact ⟨this.1, by omega⟩
    · cases ha

/-- If a style is refused, the handles in `done` and those made on the way are disposed of, and
nothing else happens. -/
theorem allocateStyles_error {ks : List KindSpec} {s s' : Sink} {done : List Nat} {e : RebuildError}
    (hs : s.Numbered) (ha : allocateStyles done ks s = (.error e, s')) :
    ∃ made : List StyleHandle,
      s'.handles = (s.disposeAll done).handles ++ made ∧ s'.Numbered ∧
      (∀ h ∈ made, h.disposed = true) ∧
      (∃ idents : List Nat,
        s'.painted = (s.disposeAll done).painted.filter (fun p => p.ident ∉ idents) ∧
        ∀ i ∈ idents, s.handles.length < i) ∧
      s'.paintCalls = s.paintCalls ∧ s'.refused = s.refused := by
  induction ks generalizing s done with
  | nil => cases ha
  | cons k ks ih =>
    simp only [allocateStyles] at ha
    split at ha
    · rename_i h s₁ hc
      obtain ⟨rfl, hid, -, -, -⟩ := create_ok hc
      obtain ⟨made, hh, hnum, hmade, ⟨idents, hp, hidents⟩, hcalls, hrefused⟩ := ih (hs.push hid) ha
      -- the new number is none of the old ones, so only the new handle is marked with it
      have hold : s.handles.map (mark (done ++ [h.ident])) = s.handles.map (mark done) := by
        apply List.map_congr_left
        intro g hg
        have hne : g.ident ≠ h.ident := by have := hs.ident_le hg; omega
        by_cases hgd : g.ident ∈ done
        · rw [mark_of_mem hgd, mark_of_mem (by simp [hgd])]
        · rw [mark_of_not_mem hgd, mark_of_not_mem (by simp [hgd, hne])]
      refine ⟨mark (done ++ [h.ident]) h :: made, ?_, hnum, ?_, ⟨h.ident :: idents, ?_, ?_⟩, hcalls,
        hrefused⟩
      · rw [hh, disposeAll_handles, disposeAll_handles, List.map_append, hold]
        simp
      · intro g hg
        rcases List.mem_cons.mp hg with rfl | hg
        · rw [mark_of_mem (by simp)]
        · exact hmade g hg
      · rw [hp, disposeAll_painted, disposeAll_painted, List.filter_filter, List.filter_filter]
        apply List.filter_congr
        intro p _
        by_cases h1 : p.ident ∈ idents <;> by_cases h2 : p.ident ∈ done <;> simp [h1, h2]
      · intro i hi
        rcases List.mem_cons.mp hi with rfl | hi
        · omega
        · have := hidents i hi
          simp only [List.length_append, List.length_cons, List.length_nil] at this
          omega
    · cases ha
      obtain ⟨hcalls, hrefused⟩ := disposeAll_rest s done
      have hnone : (s.disposeAll done).painted =
          (s.disposeAll done).painted.filter fun p => p.ident ∉ ([] : List Nat) :=
        (List.filter_eq_self.mpr fun _ _ => by simp).symm
      exact ⟨[], by simp, hs.disposeAll done, by simp, ⟨[], hnone, by simp⟩, hcalls, hrefused⟩

/-! ## Painting -/

/-- An entry is the new one or was there. -/
theorem mem_put {p q : Painted} {ps : List Painted} (hq : q ∈ put p ps) : q = p ∨ q ∈ ps := by
  induction ps with
  | nil => simpa [put] using hq
  | cons r rs ih =>
    unfold put at hq
    split at hq
    · rcases List.mem_cons.mp hq with rfl | hq
      · exact .inl rfl
      · exact .inr (List.mem_cons_of_mem _ hq)
    · rcases List.mem_cons.mp hq with rfl | hq
      · exact .inr List.mem_cons_self
      · exact (ih hq).imp id (List.mem_cons_of_mem _)

/-- Painting leaves the handles alone, and adds at most an entry of its own handle. -/
theorem paint_frame {s s' : Sink} {handle : Option Nat} {document : DocRef}
    {ds : List Decoration} (hp : s.paint handle document ds = .ok s') :
    s'.handles = s.handles ∧ s'.refused = s.refused ∧
      ∀ p ∈ s'.painted, p ∈ s.painted ∨ handle = some p.ident := by
  cases handle with
  | none =>
    cases hp
    exact ⟨rfl, rfl, fun p hp => .inl hp⟩
  | some ident =>
    have hs' : s'.handles = s.handles ∧ s'.refused = s.refused ∧
        s'.painted = put ⟨ident, document, ds⟩ s.painted := by
      unfold Sink.paint at hp
      simp only at hp
      split at hp
      · split at hp
        · cases hp
        · cases hp
          exact ⟨rfl, rfl, rfl⟩
      · cases hp
        exact ⟨rfl, rfl, rfl⟩
    refine ⟨hs'.1, hs'.2.1, fun p hp => ?_⟩
    rw [hs'.2.2] at hp
    rcases mem_put hp with rfl | hp
    · exact .inr rfl
    · exact .inl hp

/-- Painting groups leaves the handles alone, and adds only entries of the given handles. -/
theorem paintGroups_frame {document : DocRef} {gs : List (Option Nat × List Decoration)}
    {s s' : Sink} {result : Except DisposedStyle Unit}
    (hp : paintGroups document gs s = (result, s')) :
    s'.handles = s.handles ∧ s'.refused = s.refused ∧
      ∀ p ∈ s'.painted, p ∈ s.painted ∨ ∃ g ∈ gs, g.1 = some p.ident := by
  induction gs generalizing s with
  | nil =>
    cases hp
    exact ⟨rfl, rfl, fun p hp => .inl hp⟩
  | cons g gs ih =>
    simp only [paintGroups] at hp
    split at hp
    · rename_i s₁ hg
      obtain ⟨hh, hr, hp₁⟩ := paint_frame hg
      obtain ⟨hh', hr', hp'⟩ := ih hp
      refine ⟨hh'.trans hh, hr'.trans hr, fun p hpp => ?_⟩
      rcases hp' p hpp with hpp | ⟨g', hg', he⟩
      · rcases hp₁ p hpp with hpp | he
        · exact .inl hpp
        · exact .inr ⟨g, List.mem_cons_self, he⟩
      · exact .inr ⟨g', List.mem_cons_of_mem _ hg', he⟩
    · cases hp
      exact ⟨rfl, rfl, fun p hp => .inl hp⟩

/-- Painting a document leaves the handles alone, and adds only entries of the registry's styles. -/
theorem paintDocument_frame {d : Document} {ref : DocRef} {r : Registry} {s s' : Sink}
    {result : Except PaintError Decorations} (hp : paintDocument d ref r s = (result, s')) :
    s'.handles = s.handles ∧ s'.refused = s.refused ∧
      ∀ p ∈ s'.painted, p ∈ s.painted ∨ some p.ident ∈ r.kinds.map (·.handle) := by
  unfold paintDocument at hp
  split at hp
  · cases hp
    exact ⟨rfl, rfl, fun p hp => .inl hp⟩
  · rename_i groups _
    have hframe : s'.handles = s.handles ∧ s'.refused = s.refused ∧
        ∀ p ∈ s'.painted, p ∈ s.painted ∨
          ∃ g ∈ (r.kinds.map (·.handle)).zip (groups.map Prod.snd), g.1 = some p.ident := by
      split at hp
      · rename_i hg
        cases hp
        exact paintGroups_frame hg
      · rename_i hg
        cases hp
        exact paintGroups_frame hg
    refine ⟨hframe.1, hframe.2.1, fun p hpp => (hframe.2.2 p hpp).imp id ?_⟩
    rintro ⟨⟨handle, ds⟩, hg, rfl⟩
    exact (List.of_mem_zip hg).1

end Sink

end Marginalia
