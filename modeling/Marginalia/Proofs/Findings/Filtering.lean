import Marginalia.Proofs.Findings.Listing

/-!
# Findings of some kinds

Kinds can be picked out before the findings of a document are sorted, or out of the sorted list of all
findings.  Both give the same list (`Sink.findings_of_kinds`), since a stable sort commutes with
leaving members out (`sortByOffset_filter`).
-/

namespace Marginalia

theorem sortByOffset_filter (fs : List (Int × Finding)) (p : Int × Finding → Bool) :
    sortByOffset (fs.filter p) = (sortByOffset fs).filter p :=
  (sortByOffset_stablySorted _).unique ((sortByOffset_stablySorted fs).filter p)

theorem isWanted_eq (kinds : List String) (kind : String) :
    isWanted kinds kind = decide (kinds = [] ∨ kind ∈ kinds) := by
  unfold isWanted
  cases kinds with
  | nil => rfl
  | cons k kinds => simp

/-- All members of a group have its kind, so that groups can be left out by their members. -/
theorem findingsByKind_eq_filter (d : Document) (text : List Char) (kinds : List String)
    (painted : Decorations) :
    findingsByKind d text kinds painted =
      (findingsByKind d text [] painted).filter fun f => isWanted kinds f.2.kind := by
  have hfilter (g : String × List Decoration) :
      (g.2.map fun x => (x.startOffset, Finding.of d.uri g.1 text x)).filter
        (fun f => isWanted kinds f.2.kind) = if isWanted kinds g.1 then
          g.2.map fun x => (x.startOffset, Finding.of d.uri g.1 text x) else [] := by
    rw [List.filter_map]
    split
    · rename_i hg
      exact congrArg _ (List.filter_eq_self.mpr fun _ _ => hg)
    · rename_i hg
      exact congrArg _ (List.filter_eq_nil_iff.mpr fun _ _ => hg)
  rw [findingsByKind_all, List.filter_flatMap, List.flatMap_congr fun g _ => hfilter g]
  unfold findingsByKind
  induction painted with
  | nil => rfl
  | cons g painted ih =>
    rw [List.filter_cons, List.flatMap_cons, ← ih]
    split <;> rfl

namespace Sink

/-- The findings of some kinds in readable documents are those of all kinds with the others left out,
in the same order, whatever the sink holds; and the findings of all kinds are one for each painted
decoration.  No kinds at all stand for all kinds. -/
theorem findings_of_kinds (s : Sink) (kinds : List String) (listed : List (Document × DocRef))
    (hlisted : ∀ e ∈ listed, e.1.HasText) :
    ∃ all, s.findings [] listed = .ok all ∧
      s.findings kinds listed = .ok (all.filter fun f => kinds = [] ∨ f.kind ∈ kinds) ∧
      all.Perm (listed.flatMap fun e => (s.decorationsFor e.2).flatMap fun g =>
        g.2.map (Finding.of e.1.uri g.1 e.1.chars)) := by
  let sorted (kinds : List String) (e : Document × DocRef) : List (Int × Finding) :=
    sortByOffset (findingsByKind e.1 e.1.chars kinds (s.decorationsFor e.2))
  have hfindings (kinds : List String) : s.findings kinds listed =
      .ok (listed.flatMap fun e => (sorted kinds e).map Prod.snd) :=
    findings_of_forall fun e he => findingsIn_of_readText (hlisted e he).readText
  have hsorted (e : Document × DocRef) : (sorted kinds e).map Prod.snd =
      ((sorted [] e).map Prod.snd).filter fun f => kinds = [] ∨ f.kind ∈ kinds := by
    simp only [sorted, ← isWanted_eq]
    rw [findingsByKind_eq_filter, sortByOffset_filter, List.filter_map]
    rfl
  have hmembers (e : Document × DocRef) : ((sorted [] e).map Prod.snd).Perm
      ((s.decorationsFor e.2).flatMap fun g => g.2.map (Finding.of e.1.uri g.1 e.1.chars)) := by
    simp only [sorted, sortByOffset_eq_mergeSort]
    refine ((List.mergeSort_perm _ _).map _).trans (.of_eq ?_)
    rw [findingsByKind_all, List.map_flatMap]
    exact List.flatMap_congr fun g _ => List.map_map
  refine ⟨_, hfindings [], (hfindings kinds).trans ?_, List.Perm.flatMap_left _ fun e _ => hmembers e⟩
  rw [List.filter_flatMap]
  exact congrArg _ (List.flatMap_congr fun e _ => hsorted e)

/-- A sink with two kinds on one document, one decoration of each at the same offset, and one of them
on another document. -/
def twoKinds : Sink where
  handles := [{ kind := "b", options := {}, ident := 1 }, { kind := "a", options := {}, ident := 2 }]
  painted :=
    [⟨1, some 0, [{ span := ⟨⟨0, 2⟩, ⟨0, 3⟩⟩, startOffset := 2, stopOffset := 3 },
        { span := ⟨⟨0, 0⟩, ⟨0, 2⟩⟩, startOffset := 0, stopOffset := 2 }]⟩,
      ⟨2, some 0, [{ span := ⟨⟨0, 0⟩, ⟨0, 1⟩⟩, startOffset := 0, stopOffset := 1 }]⟩,
      ⟨2, some 1, [{ span := ⟨⟨0, 1⟩, ⟨0, 2⟩⟩, startOffset := 1, stopOffset := 2 }]⟩]

/-- The kinds asked for can be repeated or unknown. -/
theorem findings_of_kinds_twoKinds :
    ∃ all, twoKinds.findings [] [({ text := "xyz" }, some 0), ({ text := "pq" }, some 1)] = .ok all ∧
      all.map (fun f => (f.kind, f.text)) = [("b", "xy"), ("a", "x"), ("b", "z"), ("a", "q")] ∧
      twoKinds.findings ["b", "c", "b"] [({ text := "xyz" }, some 0), ({ text := "pq" }, some 1)] =
        .ok (all.filter fun f => ["b", "c", "b"] = [] ∨ f.kind ∈ ["b", "c", "b"]) := by
  obtain ⟨all, hall, hkinds, -⟩ := findings_of_kinds twoKinds ["b", "c", "b"]
    [({ text := "xyz" }, some 0), ({ text := "pq" }, some 1)]
    (List.forall_mem_cons.mpr ⟨⟨rfl, rfl⟩, List.forall_mem_singleton.mpr ⟨rfl, rfl⟩⟩)
  refine ⟨all, hall, ?_, hkinds⟩
  have hlist : (twoKinds.findings [] [({ text := "xyz" }, some 0), ({ text := "pq" }, some 1)]).map
      (fun fs => fs.map fun f => (f.kind, f.text)) =
        .ok [("b", "xy"), ("a", "x"), ("b", "z"), ("a", "q")] := by decide +kernel
  rw [hall] at hlist
  exact Except.ok.inj hlist

end Sink

end Marginalia
