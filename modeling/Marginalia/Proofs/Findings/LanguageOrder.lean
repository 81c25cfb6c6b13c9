import Marginalia.Proofs.Highlight.Placement

/-!
# The order of the languages

Languages can be configured in any order.  Each of them is compiled and finds its annotations by
itself, so that a registry with its languages in another order finds the same annotations in another
order (`Registry.Reordered.scan`).  Where an annotation stands depends on its offset alone; so each
group of a scan has the same places for one offset, though not the same annotations in the same order
(`Alike`).  This carries over to the sink (`Sink.Alike`) and to findings, and sorting by offset then
gives the same places altogether (`Alike.sorted`).
-/

namespace Marginalia

/-! ## Lists with the same places -/

/-- The same members, and for each offset the same places in the same order.  A place starts with its
offset. -/
structure Alike {α β : Type} (place : α → Int × β) (xs ys : List α) : Prop where
  perm : xs.Perm ys
  places : ∀ v, (xs.map place).filter (·.1 = v) = (ys.map place).filter (·.1 = v)

namespace Alike

variable {α β γ : Type} {place : α → Int × β} {xs ys : List α}

theorem refl (xs : List α) : Alike place xs xs := ⟨.refl _, fun _ => rfl⟩

/-- Lists one after the other. -/
theorem append {xs' ys' : List α} (h : Alike place xs ys) (h' : Alike place xs' ys') :
    Alike place (xs ++ xs') (ys ++ ys') := by
  refine ⟨h.perm.append h'.perm, fun v => ?_⟩
  rw [List.map_append, List.map_append, List.filter_append, List.filter_append, h.places, h'.places]

/-- What is made of alike lists is alike if places are kept. -/
theorem map {place' : γ → Int × β} {f : α → γ} (h : Alike place xs ys)
    (hf : ∀ x, place' (f x) = place x) : Alike place' (xs.map f) (ys.map f) := by
  have hplace : place' ∘ f = place := funext hf
  refine ⟨h.perm.map f, fun v => ?_⟩
  rw [List.map_map, List.map_map, hplace, h.places]

/-- If the offset determines the place, the order does not matter. -/
theorem of_perm (h : xs.Perm ys) (position : Int → β)
    (hplace : ∀ x ∈ xs, place x = ((place x).1, position (place x).1)) : Alike place xs ys := by
  refine ⟨h, fun v => ?_⟩
  -- All members at one offset have one place, so that only their number counts.
  have hsame : ∀ p ∈ (xs.map place).filter (·.1 = v), p = (v, position v) := by
    intro p hp
    obtain ⟨hmem, hv⟩ := List.mem_filter.mp hp
    obtain ⟨x, hx, rfl⟩ := List.mem_map.mp hmem
    rw [hplace x hx, of_decide_eq_true hv]
  have hperm := ((h.map place).filter (·.1 = v)).symm
  rw [List.eq_replicate_of_mem hsame] at hperm ⊢
  exact (List.perm_replicate.mp hperm).symm

/-- Sorted by offset, alike lists have the same places. -/
theorem sorted {xs' ys' : List α} (h : Alike place xs ys)
    (hxs : StablySorted (fun x => (place x).1) xs xs')
    (hys : StablySorted (fun x => (place x).1) ys ys') : xs'.map place = ys'.map place := by
  have hmap {zs zs' : List α} (hzs : StablySorted (fun x => (place x).1) zs zs') :
      StablySorted Prod.fst (zs.map place) (zs'.map place) := by
    refine ⟨List.pairwise_map.mpr hzs.sorted, fun v => ?_⟩
    rw [List.filter_map, List.filter_map]
    exact congrArg _ (hzs.stable v)
  exact (hmap hxs).unique ⟨(hmap hys).sorted, fun v => ((hmap hys).stable v).trans (h.places v).symm⟩

end Alike

/-- The offset of a decoration, and the line and column of its finding. -/
def Decoration.place (d : Decoration) : Int × Int × Int :=
  (d.startOffset, d.span.start.line + 1, d.span.start.character + 1)

/-- The groups are of the same kinds and alike. -/
def SameGroups : Decorations → Decorations → Prop :=
  List.Forall₂ fun g g' => g.1 = g'.1 ∧ Alike Decoration.place g.2 g'.2

namespace SameGroups

variable {groups groups' : Decorations}

/-- Groups stay the same when a kind is set. -/
theorem setKind {ds ds' : List Decoration} (h : SameGroups groups groups') (kind : String)
    (hds : Alike Decoration.place ds ds') :
    SameGroups (Sink.setKind kind ds groups) (Sink.setKind kind ds' groups') := by
  induction h with
  | nil => exact .cons ⟨rfl, hds⟩ .nil
  | @cons g g' groups groups' hg hgroups ih =>
    obtain ⟨k, xs⟩ := g
    obtain ⟨k', xs'⟩ := g'
    obtain ⟨rfl, hxs⟩ : k = k' ∧ Alike Decoration.place xs xs' := hg
    unfold Sink.setKind
    split
    · exact .cons ⟨rfl, hds⟩ hgroups
    · exact .cons ⟨rfl, hxs⟩ ih

/-- The same groups have findings at the same places. -/
theorem findingsByKind (h : SameGroups groups groups') (d : Document) (text : List Char) :
    Alike (fun f => (f.1, f.2.line, f.2.column)) (findingsByKind d text [] groups)
      (Marginalia.findingsByKind d text [] groups') := by
  rw [findingsByKind_all, findingsByKind_all]
  induction h with
  | nil => exact .refl _
  | @cons g g' groups groups' hg _ ih =>
    rw [List.flatMap_cons, List.flatMap_cons, hg.1]
    exact .append (hg.2.map fun _ => rfl) ih

end SameGroups

/-! ## Sinks -/

/-- What a handle painted on a document in two runs. -/
structure Painted.Alike (p p' : Painted) : Prop where
  ident : p.ident = p'.ident
  document : p.document = p'.document
  decorations : Marginalia.Alike Decoration.place p.decorations p'.decorations

namespace Sink

/-- The same handles, and what they painted alike. -/
structure Alike (s s' : Sink) : Prop where
  handles : s.handles = s'.handles
  painted : List.Forall₂ Painted.Alike s.painted s'.painted

theorem Alike.refl (s : Sink) : s.Alike s :=
  ⟨rfl, List.forall₂_same.mpr fun p _ => ⟨rfl, rfl, .refl p.decorations⟩⟩

/-- Entries stay alike when one is put. -/
theorem put_alike {p p' : Painted} {ps ps' : List Painted} (hp : p.Alike p')
    (h : List.Forall₂ Painted.Alike ps ps') : List.Forall₂ Painted.Alike (put p ps) (put p' ps') := by
  induction h with
  | nil => exact .cons hp .nil
  | @cons q q' qs qs' hq hqs ih =>
    have hkey : q.sameKey p = q'.sameKey p' := by
      unfold Painted.sameKey
      rw [hq.ident, hq.document, hp.ident, hp.document]
    unfold put
    rw [hkey]
    split
    · exact .cons hp hqs
    · exact .cons hq ih

namespace Alike

variable {s s' : Sink}

/-- Sinks that are alike have the same handles. -/
theorem handle? (h : s.Alike s') (ident : Nat) : s.handle? ident = s'.handle? ident := by
  unfold Sink.handle?
  rw [h.handles]

/-- They have the same groups on a document. -/
theorem decorationsFor (h : s.Alike s') (ref : DocRef) :
    SameGroups (s.decorationsFor ref) (s'.decorationsFor ref) := by
  have hfilter : List.Forall₂ Painted.Alike (s.painted.filter (·.document == ref))
      (s'.painted.filter (·.document == ref)) :=
    List.rel_filter (fun p p' hp => by dsimp only; rw [hp.document]) h.painted
  unfold Sink.decorationsFor
  refine List.rel_foldl (fun groups groups' hgroups p p' hp => ?_) .nil hfilter
  have hkind : s.kindOf p.ident = s'.kindOf p'.ident := by
    unfold Sink.kindOf
    rw [h.handle?, hp.ident]
  rw [hkind]
  exact hgroups.setKind _ hp.decorations

/-- The findings of a readable document. -/
theorem findingsIn (h : s.Alike s') {d : Document} (hd : d.HasText) (ref : DocRef) :
    ∃ fs fs', s.findingsIn [] d ref = .ok fs ∧ s'.findingsIn [] d ref = .ok fs' ∧ fs.Perm fs' ∧
      fs.map (fun f => (f.line, f.column)) = fs'.map fun f => (f.line, f.column) := by
  have halike := (h.decorationsFor ref).findingsByKind d d.chars
  refine ⟨_, _, findingsIn_of_readText hd.readText, findingsIn_of_readText hd.readText, ?_, ?_⟩
  · rw [sortByOffset_eq_mergeSort, sortByOffset_eq_mergeSort]
    exact (((List.mergeSort_perm _ _).trans halike.perm).trans (List.mergeSort_perm _ _).symm).map _
  · have hsorted := halike.sorted (sortByOffset_stablySorted _) (sortByOffset_stablySorted _)
    have hplaces := congrArg (List.map Prod.snd) hsorted
    rw [List.map_map, List.map_map] at hplaces
    rw [List.map_map, List.map_map]
    exact hplaces

/-- They have the same findings, at the same places in order. -/
theorem findings (h : s.Alike s') {listed : List (Document × DocRef)}
    (hlisted : ∀ e ∈ listed, e.1.HasText) :
    ∃ fs fs', s.findings [] listed = .ok fs ∧ s'.findings [] listed = .ok fs' ∧ fs.Perm fs' ∧
      fs.map (fun f => (f.line, f.column)) = fs'.map fun f => (f.line, f.column) := by
  induction listed with
  | nil => exact ⟨[], [], rfl, rfl, .nil, rfl⟩
  | cons e listed ih =>
    obtain ⟨he, hlisted⟩ := List.forall_mem_cons.mp hlisted
    obtain ⟨fs, fs', hfs, hfs', hperm, hplaces⟩ := h.findingsIn he e.2
    obtain ⟨rest, rest', hrest, hrest', hperm', hplaces'⟩ := ih hlisted
    refine ⟨fs ++ rest, fs' ++ rest', ?_, ?_, hperm.append hperm', ?_⟩
    · rw [Sink.findings, hfs, hrest]
      rfl
    · rw [Sink.findings, hfs', hrest']
      rfl
    · rw [List.map_append, List.map_append, hplaces, hplaces']

/-- Painting fails in both runs or in none. -/
theorem paint (h : s.Alike s') (handle : Option Nat) (ref : DocRef) {ds ds' : List Decoration}
    (hds : Marginalia.Alike Decoration.place ds ds') :
    (∃ e, s.paint handle ref ds = .error e ∧ s'.paint handle ref ds' = .error e) ∨
      ∃ t t', s.paint handle ref ds = .ok t ∧ s'.paint handle ref ds' = .ok t' ∧ t.Alike t' := by
  cases handle with
  | none => exact .inr ⟨s, s', rfl, rfl, h⟩
  | some ident =>
    have hput : List.Forall₂ Painted.Alike (put ⟨ident, ref, ds⟩ s.painted)
        (put ⟨ident, ref, ds'⟩ s'.painted) := put_alike ⟨rfl, rfl, hds⟩ h.painted
    unfold Sink.paint
    dsimp only
    rw [h.handle?]
    split
    · split
      · exact .inl ⟨_, rfl, rfl⟩
      · exact .inr ⟨_, _, rfl, rfl, h.handles, hput⟩
    · exact .inr ⟨_, _, rfl, rfl, h.handles, hput⟩

/-- They stay alike when groups are painted. -/
theorem paintGroups (h : s.Alike s') (ref : DocRef) {gs gs' : List (Option Nat × List Decoration)}
    (hgs : List.Forall₂ (fun g g' => g.1 = g'.1 ∧ Marginalia.Alike Decoration.place g.2 g'.2)
      gs gs') : (paintGroups ref gs s).2.Alike (Marginalia.paintGroups ref gs' s').2 := by
  induction hgs generalizing s s' with
  | nil => exact h
  | @cons g g' gs gs' hg _ ih =>
    rw [Marginalia.paintGroups, Marginalia.paintGroups, ← hg.1]
    rcases h.paint g.1 ref hg.2 with ⟨e, he, he'⟩ | ⟨t, t', ht, ht', hsinks⟩
    · rw [he, he']
      exact h
    · rw [ht, ht']
      exact ih hsinks

end Alike

end Sink

/-! ## Scans -/

/-- The registry with its languages in another order. -/
structure Registry.Reordered (r r' : Registry) : Prop where
  kinds : r.kinds = r'.kinds
  languages : r.languages.Perm r'.languages
  isFor : ∀ d ∈ r.languages, d.IsFor r.kindNames

/-- Each descriptor finds its annotations by itself. -/
theorem hitsOfAll_perm {text : Array Char} {ds ds' : List Descriptor} (h : ds'.Perm ds)
    {xs : List Hit} (hxs : hitsOfAll text ds = .ok xs) :
    ∃ xs', hitsOfAll text ds' = .ok xs' ∧ xs.Perm xs' := by
  obtain ⟨found, hfound, rfl⟩ := exists_found_of_hitsOfAll hxs
  obtain ⟨found', hfound', hperm⟩ := List.perm_comp_forall₂ h hfound
  refine ⟨found'.flatten, ?_, hperm.symm.flatten⟩
  clear hperm h
  induction hfound' with
  | nil => rfl
  | cons hys _ ih => exact hitsOfAll_cons_eq_ok.mpr ⟨_, _, hys, ih, rfl⟩

namespace Registry

variable {r r' : Registry}

/-- The groups of the same annotations in another order. -/
theorem sameGroups_group (hkinds : r.kinds = r'.kinds) (starts : List Nat) (size : Nat)
    {xs xs' : List Hit} (h : xs.Perm xs') :
    SameGroups (r.group starts size xs) (r'.group starts size xs') := by
  unfold group SameGroups
  rw [hkinds, List.forall₂_map_left_iff, List.forall₂_map_right_iff, List.forall₂_same]
  refine fun k _ => ⟨rfl, .of_perm ((h.filter _).map _) (fun v =>
    ((clampedPosition starts size v).line + 1, (clampedPosition starts size v).character + 1)) ?_⟩
  intro d hd
  obtain ⟨x, -, rfl⟩ := List.mem_map.mp hd
  rfl

/-- A scan fails for both registries, or finds the same groups. -/
theorem Reordered.scan (h : r.Reordered r') (doc : Document) :
    (∃ e, scan doc r = .error e ∧ Marginalia.scan doc r' = .error e) ∨
      ∃ groups groups', Marginalia.scan doc r = .ok groups ∧ Marginalia.scan doc r' = .ok groups' ∧
        SameGroups groups groups' := by
  have hperm : (r.languagesFor doc.language).Perm (r'.languagesFor doc.language) :=
    h.languages.filter _
  have hfor : ∀ d ∈ r.languagesFor doc.language, d.IsFor r.kindNames :=
    fun d hd => h.isFor d (List.mem_filter.mp hd).1
  have hnames : r'.kindNames = r.kindNames := by rw [kindNames, kindNames, h.kinds]
  cases htext : doc.readText with
  | error e =>
    unfold Marginalia.scan
    dsimp only
    -- The text is not read if no language is for the document.
    rw [htext, ← hperm.isEmpty_eq]
    split
    · refine .inr ⟨_, _, rfl, rfl, ?_⟩
      exact sameGroups_group h.kinds [] 0 (.refl [])
    · exact .inl ⟨e, rfl, rfl⟩
  | ok text =>
    rcases hitsOfAll_cases hfor text.toArray with ⟨herror, -⟩ | ⟨xs, hxs, hin⟩
    · -- If the other order succeeded, this one would.
      rcases hitsOfAll_cases (fun d hd => hfor d (hperm.mem_iff.mpr hd)) text.toArray with
        ⟨herror', -⟩ | ⟨xs', hxs', -⟩
      · exact .inl ⟨_, scan_of_hits_error htext herror, scan_of_hits_error htext herror'⟩
      · obtain ⟨xs, hxs, -⟩ := hitsOfAll_perm hperm hxs'
        cases herror.symm.trans hxs
    · obtain ⟨xs', hxs', hperm'⟩ := hitsOfAll_perm hperm.symm hxs
      refine .inr ⟨_, _, scan_of_hits htext hxs fun x hx => (hin x hx).2,
        scan_of_hits htext hxs' fun x hx => ?_, sameGroups_group h.kinds _ _ hperm'⟩
      rw [hnames]
      exact (hin x (hperm'.mem_iff.mpr hx)).2

/-- Painting a document keeps sinks alike. -/
theorem Reordered.paintDocument (h : r.Reordered r') {s s' : Sink} (hs : s.Alike s')
    (doc : Document) (ref : DocRef) :
    (paintDocument doc ref r s).2.Alike (Marginalia.paintDocument doc ref r' s').2 := by
  unfold Marginalia.paintDocument
  rcases h.scan doc with ⟨e, he, he'⟩ | ⟨groups, groups', hscan, hscan', hgroups⟩
  · rw [he, he']
    exact hs
  · have hzip : List.Forall₂ (fun g g' => g.1 = g'.1 ∧ Alike Decoration.place g.2 g'.2)
        ((r.kinds.map (·.handle)).zip (groups.map Prod.snd))
        ((r'.kinds.map (·.handle)).zip (groups'.map Prod.snd)) := by
      rw [← h.kinds]
      generalize r.kinds.map (·.handle) = handles
      clear hscan hscan'
      induction hgroups generalizing handles with
      | nil =>
        rw [List.map_nil, List.zip_nil_right]
        exact .nil
      | cons hg _ ih =>
        cases handles with
        | nil => exact .nil
        | cons handle handles => exact .cons ⟨rfl, hg.2⟩ (ih handles)
    have hpainted := hs.paintGroups ref hzip
    rw [hscan, hscan']
    dsimp only
    split <;> split <;> rename_i heq _ _ _ heq' <;> rw [heq, heq'] at hpainted <;> exact hpainted

end Registry

section

variable {ls ls' : List LanguageEntry}

end

end Marginalia
