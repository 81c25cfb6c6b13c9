import Marginalia.Proofs.Sink.Painting
import Mathlib.Data.List.Induction

/-!
# What a sink keeps of the calls made on it

A sink is a table in which the last write wins.  Its entries are the pairs of a handle and a
document that were painted, without those of the handles that were disposed of; they stand in the
order in which the pairs were painted first, each with what was painted last (`run_recorded`).  The
table by kind that is read from it is another such table, of the entries of one document.

Both tables are written by one operation, which replaces an entry in its place or adds it at the end
(`write`).  What a run of writes leaves is said without it in `lastWrites`: the keys without
repetitions, in the order of their first writes, and for each key its last value.
-/

namespace Marginalia

/-! ## Tables in which the last write wins -/

section

variable {κ : Type} [DecidableEq κ]

/-- The keys in the order of their first writes, each with its last value. -/
def lastWrites (writes : List (κ × List Decoration)) : List (κ × List Decoration) :=
  (writes.map Prod.fst).eraseDups.map fun k => (k, (writes.reverse.lookup k).getD [])

/-- Replaces the value of a key in its place, or adds the key at the end. -/
def write (key : κ) (value : List Decoration) :
    List (κ × List Decoration) → List (κ × List Decoration)
  | [] => [(key, value)]
  | (k, v) :: rest => if k = key then (k, value) :: rest else (k, v) :: write key value rest

/-- A key that was seen is not added again. -/
theorem eraseDups_append_singleton (ks : List κ) (k : κ) :
    (ks ++ [k]).eraseDups = if k ∈ ks then ks.eraseDups else ks.eraseDups ++ [k] := by
  rw [List.eraseDups_append]
  by_cases hk : k ∈ ks <;> simp [List.removeAll, hk, List.eraseDups_cons]

/-- Keys without repeats are distinct. -/
theorem nodup_eraseDups (ks : List κ) : ks.eraseDups.Nodup := by
  induction ks using List.reverseRecOn with
  | nil => exact List.nodup_nil
  | append_singleton ks k ih =>
    rw [eraseDups_append_singleton]
    split
    · exact ih
    · rename_i hk
      rw [← List.mem_eraseDups] at hk
      exact List.nodup_append.mpr ⟨ih, List.nodup_singleton k, by grind⟩

/-- In a table of keys with their values, a write changes the value of one key, and adds the key if
it is new. -/
theorem write_map {ks : List κ} (hks : ks.Nodup) (values : κ → List Decoration) (key : κ)
    (value : List Decoration) :
    write key value (ks.map fun k => (k, values k)) =
      (if key ∈ ks then ks else ks ++ [key]).map fun k =>
        (k, if k = key then value else values k) := by
  induction ks with
  | nil => simp [write]
  | cons k ks ih =>
    obtain ⟨hk, hks⟩ := List.nodup_cons.mp hks
    rw [List.map_cons, write]
    by_cases heq : k = key
    · subst heq
      have hrest : ∀ k' ∈ ks, (k', values k') = (k', if k' = k then value else values k') := by
        intro k' hk'
        rw [if_neg (ne_of_mem_of_not_mem hk' hk)]
      simp [List.map_congr_left hrest]
    · rw [if_neg heq, ih hks]
      by_cases hmem : key ∈ ks <;> simp [heq, Ne.symm heq, hmem]

/-- One more write changes the last writes by that write. -/
theorem lastWrites_append (writes : List (κ × List Decoration)) (key : κ)
    (value : List Decoration) :
    lastWrites (writes ++ [(key, value)]) = write key value (lastWrites writes) := by
  have hlookup : ∀ k, ((writes ++ [(key, value)]).reverse.lookup k).getD [] =
      if k = key then value else (writes.reverse.lookup k).getD [] := by
    intro k
    rw [List.reverse_append, List.reverse_singleton, List.singleton_append, List.lookup_cons]
    by_cases hk : k = key
    · simp [hk]
    · rw [beq_false_of_ne hk, if_neg hk]
  unfold lastWrites
  rw [write_map (nodup_eraseDups _)]
  simp only [hlookup, List.map_append, List.map_cons, List.map_nil, eraseDups_append_singleton,
    List.mem_eraseDups]

/-- What a run of writes leaves. -/
theorem foldl_write (writes : List (κ × List Decoration)) :
    writes.foldl (fun table w => write w.1 w.2 table) [] = lastWrites writes := by
  induction writes using List.reverseRecOn with
  | nil => rfl
  | append_singleton writes w ih => rw [List.foldl_append, ih, lastWrites_append]; rfl

/-- The keys are those that were written. -/
theorem mem_map_lastWrites {writes : List (κ × List Decoration)} {k : κ} :
    k ∈ (lastWrites writes).map Prod.fst ↔ k ∈ writes.map Prod.fst := by
  rw [lastWrites, List.map_map, ← List.mem_eraseDups]
  simp [Function.comp_def]

end

/-- A painted entry as a pair of its key and its value. -/
def Painted.entry (p : Painted) : (Nat × DocRef) × List Decoration :=
  ((p.ident, p.document), p.decorations)

namespace Sink

/-- To set a kind is to write under it. -/
theorem setKind_eq_write (kind : String) (ds : List Decoration) (table : Decorations) :
    setKind kind ds table = write kind ds table := by
  induction table with
  | nil => rfl
  | cons e table ih => rw [setKind, write, ih]

/-- To put an entry is to write under its key. -/
theorem map_entry_put (p : Painted) (ps : List Painted) :
    (put p ps).map Painted.entry =
      write (p.ident, p.document) p.decorations (ps.map Painted.entry) := by
  induction ps with
  | nil => rfl
  | cons q ps ih =>
    rw [put, List.map_cons, Painted.entry, write]
    by_cases hkey : q.sameKey p = true
    · obtain ⟨hident, hdocument⟩ := Painted.sameKey_iff.mp hkey
      rw [if_pos hkey, if_pos (by rw [hident, hdocument]), List.map_cons, Painted.entry, hident,
        hdocument]
    · have hne : (q.ident, q.document) ≠ (p.ident, p.document) := fun h =>
        hkey (Painted.sameKey_iff.mpr (Prod.mk.inj h))
      rw [if_neg hkey, if_neg hne, List.map_cons, ih, Painted.entry]

/-- The entries are the last writes. -/
theorem map_entry_putAll (ps : List Painted) :
    (putAll ps []).map Painted.entry = lastWrites (ps.map Painted.entry) := by
  induction ps using List.reverseRecOn with
  | nil => rfl
  | append_singleton ps p ih =>
    rw [List.map_append, List.map_singleton, Painted.entry, lastWrites_append, ← ih,
      ← map_entry_put, putAll, List.foldl_append]
    rfl

/-! ## Calls and their history -/

/-- A call of a sink.  A handle is named by its number. -/
inductive Call
  | create (kind : String) (options : Value)
  | dispose (handle : Nat)
  | paint (handle : Option Nat) (document : DocRef) (decorations : List Decoration)

/-- The sink after a call.  A call that fails leaves it as it was. -/
def call (s : Sink) : Call → Sink
  | .create kind options =>
    match s.createFrom kind options with
    | .ok (_, s') => s'
    | .error _ => s
  | .dispose handle => s.dispose handle
  | .paint handle document ds =>
    match s.paint handle document ds with
    | .ok s' => s'
    | .error _ => s

/-- A new sink after a run of calls. -/
def run (calls : List Call) : Sink := calls.foldl call {}

/-- The kinds of the handles that were handed out, in order; they are numbered from one on. -/
def created (calls : List Call) : List String :=
  calls.filterMap fun
    | .create kind options => if (Style.Options.ofValue options).isOk then some kind else none
    | _ => none

/-- The handles that were disposed of. -/
def disposed (calls : List Call) : List Nat :=
  calls.filterMap fun
    | .dispose handle => some handle
    | _ => none

/-- The paints with handles that are not among those gone, in order. -/
def paintsBut (gone : List Nat) (calls : List Call) : List Painted :=
  calls.filterMap fun
    | .paint (some handle) document ds =>
      if handle ∈ gone then none else some ⟨handle, document, ds⟩
    | _ => none

/-- The paints with handles that were not disposed of, neither before nor after. -/
def standing (calls : List Call) : List Painted := paintsBut (disposed calls) calls

/-- The number of paints with a handle that was not among those gone by then. -/
def paintsFrom (gone : List Nat) : List Call → Nat
  | [] => 0
  | .dispose handle :: calls => paintsFrom (gone ++ [handle]) calls
  | .paint (some handle) _ _ :: calls => (if handle ∈ gone then 0 else 1) + paintsFrom gone calls
  | _ :: calls => paintsFrom gone calls

/-- The kind for which a handle was handed out. -/
def kindIn (calls : List Call) (handle : Nat) : String := ("" :: created calls).getD handle ""

/-- The handle that a call is given. -/
def Call.handle? : Call → Option Nat
  | .create _ _ => none
  | .dispose handle => some handle
  | .paint handle _ _ => handle

/-- All calls are given handles that were handed out before. -/
def Issued (calls : List Call) : Prop :=
  ∀ i < calls.length, ∀ handle ∈ calls[i]?.bind Call.handle?,
    0 < handle ∧ handle ≤ (created (calls.take i)).length

instance (calls : List Call) : Decidable (Issued calls) :=
  inferInstanceAs (Decidable (∀ i < calls.length, ∀ handle ∈ calls[i]?.bind Call.handle?, _ ∧ _))

section

variable {calls : List Call} {c : Call} {s : Sink}

/-- A call that may come last has a handle that was created before. -/
theorem issued_append (h : Issued (calls ++ [c])) :
    Issued calls ∧ ∀ handle ∈ c.handle?, 0 < handle ∧ handle ≤ (created calls).length := by
  constructor
  · intro i hi handle hhandle
    have hlt : i < (calls ++ [c]).length := by
      rw [List.length_append]
      omega
    have hissued := h i hlt handle (by rwa [List.getElem?_append_left hi])
    rwa [List.take_append_of_le_length (Nat.le_of_lt hi)] at hissued
  · intro handle hhandle
    have hissued := h calls.length (by simp) handle (by simpa using hhandle)
    rwa [List.take_left] at hissued

/-- Handles that were created before the last call, and by it. -/
theorem created_append (calls : List Call) (c : Call) :
    created (calls ++ [c]) = created calls ++ created [c] := List.filterMap_append

/-- Handles that were disposed of before the last call, and by it. -/
theorem disposed_append (calls : List Call) (c : Call) :
    disposed (calls ++ [c]) = disposed calls ++ disposed [c] := List.filterMap_append

/-- Paints with other handles before the last call, and by it. -/
theorem paintsBut_append (gone : List Nat) (calls : List Call) (c : Call) :
    paintsBut gone (calls ++ [c]) = paintsBut gone calls ++ paintsBut gone [c] :=
  List.filterMap_append

/-- Paints that succeed before the last call, and by it. -/
theorem paintsFrom_append (gone : List Nat) (calls : List Call) (c : Call) :
    paintsFrom gone (calls ++ [c]) =
      paintsFrom gone calls + paintsFrom (gone ++ disposed calls) [c] := by
  induction calls generalizing gone with
  | nil => simp [paintsFrom, disposed]
  | cons d calls ih =>
    cases d with
    | create kind options => exact ih gone
    | dispose handle =>
      have hrest := ih (gone ++ [handle])
      rw [List.append_assoc] at hrest
      exact hrest
    | paint handle document ds =>
      cases handle with
      | none => exact ih gone
      | some handle =>
        rw [List.cons_append, paintsFrom, paintsFrom, ih gone, Nat.add_assoc]
        rfl

/-- The paints with the handles that stay after one more is gone. -/
theorem paintsBut_concat (gone : List Nat) (handle : Nat) (calls : List Call) :
    paintsBut (gone ++ [handle]) calls = (paintsBut gone calls).filter (·.ident ∉ [handle]) := by
  unfold paintsBut
  rw [List.filter_filterMap]
  refine List.filterMap_congr fun c _ => ?_
  cases c with
  | create _ _ | dispose _ => rfl
  | paint painted document ds =>
    cases painted with
    | none => rfl
    | some painted =>
      by_cases hgone : painted ∈ gone
      · simp [hgone]
      · rcases eq_or_ne painted handle with rfl | hne
        · simp [hgone, Option.filter]
        · simp [hgone, hne, Option.filter]

/-- The last entry is put last. -/
theorem putAll_append_singleton (ps : List Painted) (p : Painted) :
    putAll (ps ++ [p]) [] = put p (putAll ps []) := by
  rw [putAll, List.foldl_append]
  rfl

/-- Entries of other handles do not depend on those of a handle. -/
theorem filter_ident_putAll (ps : List Painted) (handle : Nat) :
    (putAll ps []).filter (·.ident ∉ [handle]) = putAll (ps.filter (·.ident ∉ [handle])) [] :=
  filter_putAll (fun h => by rw [(Painted.sameKey_iff.mp h).1]) ps []

/-! ## Handles by number -/

/-- No handle has the number zero. -/
theorem Numbered.handle?_zero (hs : s.Numbered) : s.handle? 0 = none := by
  refine List.find?_eq_none.mpr fun h hh => ?_
  have hmem : h.ident ∈ s.handles.map (·.ident) := List.mem_map_of_mem hh
  rw [hs, List.mem_range'_1] at hmem
  simp only [beq_iff_eq]
  omega

/-- Handles are found by counting from one. -/
theorem Numbered.handle?_succ (hs : s.Numbered) (n : Nat) : s.handle? (n + 1) = s.handles[n]? := by
  cases hget : s.handles[n]? with
  | none =>
    refine List.find?_eq_none.mpr fun h hh => ?_
    have hle := hs.ident_le hh
    have hlength := List.getElem?_eq_none_iff.mp hget
    simp only [beq_iff_eq]
    omega
  | some h =>
    have hident : (s.handles.map (·.ident))[n]? = some h.ident := by
      rw [List.getElem?_map, hget]
      rfl
    have hlt := (List.getElem?_eq_some_iff.mp hget).1
    rw [hs, List.getElem?_range' hlt, Option.some.injEq, Nat.one_mul, Nat.add_comm] at hident
    rw [hident]
    exact hs.handle?_eq (List.mem_of_getElem? hget)

/-! ## A run of calls -/

/-- The sink is what the calls make of a new one. -/
structure Follows (calls : List Call) (s : Sink) : Prop where
  numbered : s.Numbered
  kinds : s.handles.map (·.kind) = created calls
  disposed : ∀ h ∈ s.handles, h.disposed = decide (h.ident ∈ disposed calls)
  issued : ∀ handle ∈ Sink.disposed calls, handle ≤ s.handles.length
  refused : s.refused = []
  painted : s.painted = putAll (standing calls) []
  paintCalls : s.paintCalls = paintsFrom [] calls

namespace Follows

/-- There are as many handles as were created. -/
theorem length_handles (hs : Follows calls s) : s.handles.length = (created calls).length := by
  rw [← hs.kinds, List.length_map]

/-- The handle with a number that was handed out. -/
theorem exists_handle (hs : Follows calls s) {handle : Nat} (hpos : 0 < handle)
    (hle : handle ≤ (created calls).length) :
    ∃ h, s.handle? handle = some h ∧ h.ident = handle ∧
      h.disposed = decide (handle ∈ Sink.disposed calls) := by
  obtain ⟨n, rfl⟩ := Nat.exists_eq_succ_of_ne_zero (Nat.ne_of_gt hpos)
  have hlt : n < s.handles.length := by
    rw [hs.length_handles]
    exact hle
  have hhandle := (hs.numbered.handle?_succ n).trans (List.getElem?_eq_getElem hlt)
  have hident : s.handles[n].ident = n + 1 := by simpa using List.find?_some hhandle
  refine ⟨_, hhandle, hident, ?_⟩
  rw [hs.disposed _ (List.getElem_mem hlt), hident]

/-- A handle has the kind that it was created with. -/
theorem kindOf_eq (hs : Follows calls s) (handle : Nat) :
    s.kindOf handle = kindIn calls handle := by
  unfold kindOf kindIn
  cases handle with
  | zero =>
    rw [hs.numbered.handle?_zero]
    rfl
  | succ n =>
    rw [hs.numbered.handle?_succ, ← List.getElem?_map, hs.kinds]
    rfl

/-- A call that hands out nothing, disposes of nothing and paints nothing. -/
theorem unchanged (hs : Follows calls s) (hcreated : created [c] = [])
    (hdisposed : Sink.disposed [c] = []) (hstanding : paintsBut (Sink.disposed calls) [c] = [])
    (hpaints : paintsFrom (Sink.disposed calls) [c] = 0) : Follows (calls ++ [c]) s := by
  have hgone : Sink.disposed (calls ++ [c]) = Sink.disposed calls := by
    rw [disposed_append, hdisposed, List.append_nil]
  refine ⟨hs.numbered, ?_, ?_, ?_, hs.refused, ?_, ?_⟩
  · rw [created_append, hcreated, List.append_nil, hs.kinds]
  · rw [hgone]
    exact hs.disposed
  · rw [hgone]
    exact hs.issued
  · rw [standing, hgone, paintsBut_append, hstanding, List.append_nil]
    exact hs.painted
  · rw [paintsFrom_append, List.nil_append, hpaints, Nat.add_zero, hs.paintCalls]

/-- One more handle. -/
theorem create (hs : Follows calls s) (kind : String) (options : Value) :
    Follows (calls ++ [.create kind options]) (s.call (.create kind options)) := by
  rw [call, createFrom]
  cases hoptions : Style.Options.ofValue options with
  | error e =>
    refine hs.unchanged ?_ rfl rfl rfl
    simp [created, hoptions, Except.isOk, Except.toBool]
  | ok given =>
    have hcreated : created (calls ++ [.create kind options]) = created calls ++ [kind] := by
      rw [created_append]
      simp [created, hoptions, Except.isOk, Except.toBool]
    have hgone : Sink.disposed (calls ++ [.create kind options]) = Sink.disposed calls :=
      (disposed_append calls _).trans (List.append_nil _)
    have hcreate : s.create kind given = .ok (⟨kind, given, s.handles.length + 1, false⟩,
        { s with handles := s.handles ++ [⟨kind, given, s.handles.length + 1, false⟩] }) := by
      rw [Sink.create, hs.refused]
      rfl
    simp only [Except.mapError, Except.bind, bind, hcreate]
    refine ⟨hs.numbered.push rfl, ?_, ?_, ?_, hs.refused, ?_, ?_⟩
    · rw [List.map_append, hs.kinds, hcreated]
      rfl
    · rw [hgone]
      refine List.forall_mem_append.mpr ⟨hs.disposed, List.forall_mem_singleton.mpr ?_⟩
      -- Only handles with smaller numbers were disposed of.
      have hnew : s.handles.length + 1 ∉ Sink.disposed calls := fun h => by
        have := hs.issued _ h
        omega
      exact (decide_eq_false hnew).symm
    · rw [hgone, List.length_append]
      exact fun handle h => Nat.le_add_right_of_le (hs.issued handle h)
    · rw [standing, hgone, paintsBut_append]
      exact hs.painted.trans (congrArg (putAll · []) (List.append_nil _).symm)
    · rw [paintsFrom_append]
      exact hs.paintCalls

/-- A handle is disposed of, and its entries are gone. -/
theorem dispose (hs : Follows calls s) {handle : Nat} (hle : handle ≤ (created calls).length) :
    Follows (calls ++ [.dispose handle]) (s.call (.dispose handle)) := by
  have hgone : Sink.disposed (calls ++ [.dispose handle]) = Sink.disposed calls ++ [handle] :=
    disposed_append calls _
  have hcall : s.call (.dispose handle) = s.disposeAll [handle] := rfl
  obtain ⟨hcalls, hrefused⟩ := s.disposeAll_rest [handle]
  rw [hcall]
  refine ⟨hs.numbered.disposeAll _, ?_, ?_, ?_, hrefused.trans hs.refused, ?_, ?_⟩
  · have hkind : ∀ h ∈ s.handles, ((·.kind) ∘ mark [handle]) h = h.kind := by
      intro h _
      rw [Function.comp_apply, mark]
      split <;> rfl
    rw [disposeAll_handles, List.map_map, List.map_congr_left hkind, hs.kinds, created_append]
    exact (List.append_nil _).symm
  · rw [disposeAll_handles, hgone]
    refine List.forall_mem_map.mpr fun h hh => ?_
    rw [mark_ident]
    by_cases hident : h.ident ∈ [handle]
    · rw [mark_of_mem hident]
      simp [List.mem_singleton.mp hident]
    · rw [mark_of_not_mem hident, hs.disposed h hh]
      simp_all
  · rw [disposeAll_handles, hgone, List.length_map]
    refine List.forall_mem_append.mpr ⟨hs.issued, List.forall_mem_singleton.mpr ?_⟩
    rw [hs.length_handles]
    exact hle
  · -- Of the paints that stand, those with the handle are gone.
    have hstanding : standing (calls ++ [.dispose handle]) =
        (standing calls).filter (·.ident ∉ [handle]) := by
      rw [standing, hgone, paintsBut_append, paintsBut_concat]
      exact List.append_nil _
    rw [disposeAll_painted, hs.painted, hstanding, filter_ident_putAll]
  · rw [hcalls, hs.paintCalls, paintsFrom_append]
    rfl

/-- A paint puts an entry, or fails if the handle is gone. -/
theorem paint (hs : Follows calls s) {handle : Option Nat} (document : DocRef)
    (ds : List Decoration) (hissued : ∀ i ∈ handle, 0 < i ∧ i ≤ (created calls).length) :
    Follows (calls ++ [.paint handle document ds]) (s.call (.paint handle document ds)) := by
  cases handle with
  | none => exact hs.unchanged rfl rfl rfl rfl
  | some i =>
    obtain ⟨hpos, hle⟩ := hissued i rfl
    obtain ⟨h, hhandle, -, hdisposed⟩ := hs.exists_handle hpos hle
    rw [call, Sink.paint, hhandle]
    by_cases hmem : i ∈ Sink.disposed calls
    · simp only [hdisposed, hmem, decide_true, if_true]
      refine hs.unchanged rfl rfl ?_ ?_
      · simp [paintsBut, hmem]
      · simp [paintsFrom, hmem]
    · simp only [hdisposed, hmem, decide_false, Bool.false_eq_true, if_false]
      have hgone : Sink.disposed (calls ++ [.paint (some i) document ds]) = Sink.disposed calls :=
        (disposed_append calls _).trans (List.append_nil _)
      have hpaint : paintsBut (Sink.disposed calls) [.paint (some i) document ds] =
          [⟨i, document, ds⟩] := by simp [paintsBut, hmem]
      refine ⟨hs.numbered.congr rfl, ?_, ?_, ?_, hs.refused, ?_, ?_⟩
      · rw [created_append]
        exact hs.kinds.trans (List.append_nil _).symm
      · rw [hgone]
        exact hs.disposed
      · rw [hgone]
        exact hs.issued
      · rw [standing, hgone, paintsBut_append, hpaint, putAll_append_singleton]
        exact congrArg _ hs.painted
      · rw [paintsFrom_append, ← hs.paintCalls]
        simp [paintsFrom, hmem]

end Follows

/-- The sink follows the calls, by induction on them from the end. -/
theorem follows_run (h : Issued calls) : Follows calls (run calls) := by
  induction calls using List.reverseRecOn with
  | nil => exact ⟨rfl, rfl, nofun, nofun, rfl, rfl, rfl⟩
  | append_singleton calls c ih =>
    obtain ⟨hcalls, hhandle⟩ := issued_append h
    have hs := ih hcalls
    have hrun : run (calls ++ [c]) = (run calls).call c := by
      rw [run, List.foldl_append]
      rfl
    rw [hrun]
    cases c with
    | create kind options => exact hs.create kind options
    | dispose handle => exact hs.dispose (hhandle handle rfl).2
    | paint handle document ds => exact hs.paint document ds hhandle

/-- What a sink keeps of the calls made on it. -/
structure Recorded (calls : List Call) (s : Sink) : Prop where
  /-- An entry for each handle that is left and each document it was painted on. -/
  holds : ∀ handle document, (∃ ds, ⟨handle, document, ds⟩ ∈ s.painted) ↔
    handle ∉ disposed calls ∧ ∃ ds, .paint (some handle) document ds ∈ calls
  /-- The entries stand in the order of the first paints, with the decorations of the last ones. -/
  entries : s.painted.map Painted.entry = lastWrites ((standing calls).map Painted.entry)
  /-- By kind, the last entry of a document counts, and the kinds stand in the order of the
  entries. -/
  byKind : ∀ document, s.decorationsFor document = lastWrites
    ((s.painted.filter (·.document == document)).map fun p => (kindIn calls p.ident, p.decorations))
  /-- A handle that was disposed of is refused, and nothing changes. -/
  refuses : ∀ handle ∈ disposed calls, ∀ document ds, ∃ h : StyleHandle, h.ident = handle ∧
    s.paint (some handle) document ds = .error ⟨h⟩ ∧ s.call (.paint (some handle) document ds) = s
  /-- Every other handle is painted with. -/
  accepts : ∀ handle, 0 < handle → handle ≤ (created calls).length → handle ∉ disposed calls →
    ∀ document ds, ∃ s', s.paint (some handle) document ds = .ok s'
  /-- Without a handle nothing changes. -/
  ignores : ∀ document ds, s.paint none document ds = .ok s
  /-- All other paints are counted. -/
  paintCalls : s.paintCalls = paintsFrom [] calls

/-- An entry stands if it was painted and its handle was never disposed of. -/
theorem mem_standing {handle : Nat} {document : DocRef} {ds : List Decoration} :
    ⟨handle, document, ds⟩ ∈ standing calls ↔
      handle ∉ disposed calls ∧ .paint (some handle) document ds ∈ calls := by
  rw [standing, paintsBut, List.mem_filterMap]
  constructor
  · rintro ⟨c, hc, heq⟩
    split at heq
    · split at heq
      · cases heq
      · rename_i hgone
        cases heq
        exact ⟨hgone, hc⟩
    · cases heq
  · rintro ⟨hgone, hc⟩
    exact ⟨_, hc, if_neg hgone⟩

/-- After every run of calls that are given handles of the sink, the sink is the table that the
calls describe. -/
theorem run_recorded (h : Issued calls) : Recorded calls (run calls) := by
  have hs := follows_run h
  generalize run calls = s at hs
  have hentries := congrArg (List.map Painted.entry) hs.painted
  rw [map_entry_putAll] at hentries
  -- Handles are counted from one.
  have hpositive : ∀ handle ∈ disposed calls, 0 < handle := by
    intro handle hmem
    obtain ⟨c, hc, hhandle⟩ := List.mem_filterMap.mp hmem
    obtain ⟨i, hi, rfl⟩ := List.mem_iff_getElem.mp hc
    refine (h i hi handle ?_).1
    split at hhandle
    · rename_i heq
      cases hhandle
      simp [List.getElem?_eq_getElem hi, heq, Call.handle?]
    · cases hhandle
  refine ⟨fun handle document => ?_, hentries, fun document => ?_,
    fun handle hmem document ds => ?_, fun handle hpos hle hmem document ds => ?_, fun _ _ => rfl,
    hs.paintCalls⟩
  · -- The keys of the table are the pairs that were painted.
    have hkey : ∀ ps : List Painted, (handle, document) ∈ (ps.map Painted.entry).map Prod.fst ↔
        ∃ ds, ⟨handle, document, ds⟩ ∈ ps := by
      intro ps
      simp only [List.map_map, List.mem_map, Function.comp_apply, Painted.entry, Prod.mk.injEq]
      exact ⟨fun ⟨p, hp, hident, hdocument⟩ => ⟨p.decorations, hident ▸ hdocument ▸ hp⟩,
        fun ⟨ds, hp⟩ => ⟨_, hp, rfl, rfl⟩⟩
    rw [← hkey, hentries, mem_map_lastWrites, hkey]
    simp only [mem_standing, exists_and_left]
  · rw [← foldl_write, List.foldl_map, decorationsFor]
    simp only [setKind_eq_write, hs.kindOf_eq]
  · have hle := hs.issued handle hmem
    rw [hs.length_handles] at hle
    obtain ⟨g, hhandle, hident, hgone⟩ := hs.exists_handle (hpositive handle hmem) hle
    have hpaint : s.paint (some handle) document ds = .error ⟨g⟩ := by
      rw [paint, hhandle]
      simp [hgone, hmem]
    exact ⟨g, hident, hpaint, by rw [call, hpaint]⟩
  · obtain ⟨g, hhandle, -, hgone⟩ := hs.exists_handle hpos hle
    rw [paint, hhandle]
    simp [hgone, hmem]

/-- Two handles of one kind; the first is painted again, and the third is disposed of, after which
a paint with it fails. -/
def repaintingCalls : List Call :=
  [.create "TODO" (.table []), .create "TODO" (.table []), .paint (some 1) (some 0) [],
    .paint (some 2) (some 0) [⟨⟨⟨0, 0⟩, ⟨0, 1⟩⟩, none, 0, 1⟩], .create "FIXME" (.table []),
    .paint (some 3) none [], .dispose 3, .paint (some 3) none [], .paint none none [],
    .paint (some 1) (some 0) [⟨⟨⟨0, 1⟩, ⟨0, 2⟩⟩, none, 1, 2⟩]]

/-- The last paints with the two handles are what is left. -/
theorem run_recorded_repainted :
    Issued repaintingCalls ∧
    (run repaintingCalls).painted.map Painted.entry =
      [((1, some 0), [⟨⟨⟨0, 1⟩, ⟨0, 2⟩⟩, none, 1, 2⟩]),
        ((2, some 0), [⟨⟨⟨0, 0⟩, ⟨0, 1⟩⟩, none, 0, 1⟩])] := by
  constructor
  · decide
  · exact (run_recorded (by decide)).entries

end

end Sink

end Marginalia
