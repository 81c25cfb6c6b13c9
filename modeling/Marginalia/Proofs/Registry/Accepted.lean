import Marginalia.Proofs.Matcher.Winner
import Marginalia.Registry.Basic

/-!
# Configurations that are accepted

What is known of the registry of a configuration that passed every check.  Its kinds have different
names, which are those of the kinds of its matcher, in order (`Plan.names_eq`, `Plan.names_nodup`);
each of its languages has its own comment matcher, and all have the one matcher of the kinds
(`Plan.mem_languages`).  Whatever the sink and the registry before, a registry that is built has the
kinds, the languages and the matcher of a plan (`rebuild_planned`), and its descriptors are compiled
for its kinds (`rebuild_languagesFor`).
-/

namespace Marginalia

open Pattern

/-! ## Annotation entries -/

/-- No two drafts have the same name. -/
def Distinct (drafts : List KindDraft) : Prop :=
  drafts.Pairwise fun k k' => k.name.sameKey k'.name = false

/-- Drafts have distinct names. -/
theorem draftsFrom_distinct {entries : List AnnotationEntry} {done drafts : List KindDraft}
    (h : draftsFrom done entries = .ok drafts) (hdone : Distinct done) : Distinct drafts := by
  induction entries generalizing done with
  | nil =>
    cases h
    exact hdone
  | cons e entries ih =>
    rw [draftsFrom] at h
    obtain ⟨k, -, h⟩ := bind_eq_ok.mp h
    split at h
    · cases h
    · split at h
      · cases h
      · rename_i hnew
        rw [Bool.not_eq_true, List.any_eq_false] at hnew
        refine ih h (List.pairwise_append.mpr ⟨hdone, List.pairwise_singleton _ _, ?_⟩)
        intro k' hk' k'' hk''
        rw [List.mem_singleton.mp hk'', ← Bool.not_eq_true]
        exact hnew k' hk'

/-- The names of which a matcher knows the groups are texts. -/
theorem groupsOf_names {p : Pattern} {names : List Value} {groups : List (String × Nat)}
    (h : AnnotationMatcher.groupsOf p names = .ok groups) :
    names = groups.map fun g => .str g.1 := by
  induction names generalizing groups with
  | nil =>
    cases h
    rfl
  | cons name names ih =>
    rw [AnnotationMatcher.groupsOf] at h
    split at h
    · rename_i g hg
      obtain ⟨rest, hrest, h⟩ := bind_eq_ok.mp h
      cases h
      have hname : name = .str g.1 := by
        cases name with
        | str s =>
          obtain ⟨number, -, rfl⟩ := Option.map_eq_some_iff.mp hg
          rfl
        | _ => cases hg
      rw [List.map_cons, ← ih hrest, hname]
    · cases h

/-- The matcher has the names of the kinds. -/
theorem AnnotationMatcher.ofKinds_names {kinds : List (Value × Fragment)} {m : AnnotationMatcher}
    (h : AnnotationMatcher.ofKinds kinds = .ok m) : kinds.map Prod.fst = m.kinds.map .str := by
  obtain ⟨source, -, h⟩ := bind_eq_ok.mp h
  obtain ⟨p, -, h⟩ := bind_eq_ok.mp h
  obtain ⟨groups, hgroups, h⟩ := bind_eq_ok.mp h
  cases h
  rw [groupsOf_names hgroups, AnnotationMatcher.kinds, List.map_map]
  rfl

/-! ## Languages -/

/-- A compiled language has the matcher of its comments. -/
theorem compileLanguage_ok {m : AnnotationMatcher} {l : Language} {d : Descriptor}
    (h : compileLanguage m l = .ok d) : ∃ c, l.commentMatcher = .ok c ∧ d = ⟨l, some c, some m⟩ := by
  unfold compileLanguage at h
  split at h
  · rename_i c hc
    cases h
    exact ⟨c, hc, rfl⟩
  · cases h

/-- Languages are compiled one by one. -/
theorem compileLanguages_eq_ok {m : AnnotationMatcher} {ls : List LanguageEntry}
    {ds : List Descriptor} : compileLanguages m ls = .ok ds ↔
      List.Forall₂ (fun e d => ∃ l, e.grammar = .ok l ∧ compileLanguage m l = .ok d) ls ds := by
  constructor
  · intro h
    induction ls generalizing ds with
    | nil =>
      cases h
      exact .nil
    | cons e ls ih =>
      rw [compileLanguages] at h
      obtain ⟨l, hl, h⟩ := bind_eq_ok.mp h
      obtain ⟨d, hd, h⟩ := bind_eq_ok.mp h
      obtain ⟨rest, hrest, h⟩ := bind_eq_ok.mp h
      cases h
      exact .cons ⟨l, hl, hd⟩ (ih hrest)
  · intro h
    induction h with
    | nil => rfl
    | cons hd _ ih =>
      obtain ⟨l, hl, hd⟩ := hd
      rw [compileLanguages, hl, ih]
      simp only [bind, Except.bind, hd]
      rfl

/-- All of them have the matcher of the kinds. -/
theorem compileLanguages_ok {m : AnnotationMatcher} {entries : List LanguageEntry}
    {ds : List Descriptor} (h : compileLanguages m entries = .ok ds) :
    ∀ d ∈ ds, ∃ c, d.language.commentMatcher = .ok c ∧ d = ⟨d.language, some c, some m⟩ := by
  refine forall_mem_of_forall₂ (compileLanguages_eq_ok.mp h) (fun _ _ => trivial) ?_
  rintro e d - ⟨l, -, hd⟩
  obtain ⟨c, hc, rfl⟩ := compileLanguage_ok hd
  exact ⟨c, hc, rfl⟩

/-! ## Plans -/

/-- A plan from entries has nothing built in. -/
theorem Plan.of_entries (entries : List AnnotationEntry) (ls : List LanguageEntry) :
    Plan.of (.entries entries) (.entries ls) = (do
      let drafts ← draftsFrom [] entries
      let m ← AnnotationMatcher.ofKinds (drafts.map fun k => (k.name, k.pattern))
      return ⟨(drafts.zip m.kinds).map fun e => e.1.named e.2, m, ← compileLanguages m ls⟩) := rfl

/-- Where the parts of a plan come from. -/
theorem Plan.of_ok {annotations : Section AnnotationEntry} {languages : Section LanguageEntry}
    {p : Plan} (h : Plan.of annotations languages = .ok p) :
    ∃ drafts : List KindDraft, Distinct drafts ∧
      AnnotationMatcher.ofKinds (drafts.map fun k => (k.name, k.pattern)) = .ok p.matcher ∧
      p.specs = (drafts.zip p.matcher.kinds).map (fun e => e.1.named e.2) ∧
      ∃ entries, compileLanguages p.matcher entries = .ok p.languages := by
  unfold Plan.of at h
  dsimp only at h
  split at h
  · cases h
  split at h
  · cases h
  obtain ⟨entries, -, h⟩ := bind_eq_ok.mp h
  obtain ⟨drafts, hdrafts, h⟩ := bind_eq_ok.mp h
  obtain ⟨m, hm, h⟩ := bind_eq_ok.mp h
  obtain ⟨items, -, h⟩ := bind_eq_ok.mp h
  obtain ⟨ds, hds, h⟩ := bind_eq_ok.mp h
  cases h
  exact ⟨drafts, draftsFrom_distinct hdrafts .nil, hm, rfl, items, hds⟩

namespace Plan

variable {annotations : Section AnnotationEntry} {languages : Section LanguageEntry} {p : Plan}

/-- The kinds of a plan go by the names of the kinds of its matcher. -/
theorem draft_names_eq {drafts : List KindDraft} {m : AnnotationMatcher}
    (h : AnnotationMatcher.ofKinds (drafts.map fun k => (k.name, k.pattern)) = .ok m) :
    drafts.map (·.name) = m.kinds.map .str := by
  rw [← AnnotationMatcher.ofKinds_names h, List.map_map]
  rfl

/-- The kinds of a plan are those of its matcher. -/
theorem names_eq (h : Plan.of annotations languages = .ok p) :
    p.specs.map (·.name) = p.matcher.kinds := by
  obtain ⟨drafts, -, hm, hspecs, -⟩ := of_ok h
  have hnames := AnnotationMatcher.ofKinds_names hm
  have hlength : drafts.length = p.matcher.kinds.length := by
    simpa using congrArg List.length hnames
  have hnamed : ((·.name) ∘ fun e : KindDraft × String => e.1.named e.2) = Prod.snd := rfl
  rw [hspecs, List.map_map, hnamed, List.map_snd_zip (Nat.le_of_eq hlength.symm)]

/-- Their names are distinct. -/
theorem names_nodup (h : Plan.of annotations languages = .ok p) :
    (p.specs.map (·.name)).Nodup := by
  obtain ⟨drafts, hdistinct, hm, -, -⟩ := of_ok h
  have hnames := draft_names_eq hm
  have hvalues : (drafts.map (·.name)).Pairwise fun v w => v.sameKey w = false :=
    List.pairwise_map.mpr hdistinct
  rw [hnames] at hvalues
  rw [names_eq h]
  refine (List.pairwise_map.mp hvalues).imp fun {a b} hne heq => ?_
  have hsame : (Value.str a).sameKey (Value.str b) = (a == b) := rfl
  rw [hsame, heq, beq_self_eq_true] at hne
  cases hne

/-- Its languages are compiled with the one matcher. -/
theorem mem_languages (h : Plan.of annotations languages = .ok p) :
    ∀ d ∈ p.languages, ∃ c, d.language.commentMatcher = .ok c ∧
      d = ⟨d.language, some c, some p.matcher⟩ := by
  obtain ⟨-, -, -, -, entries, hentries⟩ := of_ok h
  exact compileLanguages_ok hentries

/-- The matcher of a plan is that of some table of kinds. -/
theorem exists_kinds (h : Plan.of annotations languages = .ok p) :
    ∃ kinds, AnnotationMatcher.ofKinds kinds = .ok p.matcher := by
  obtain ⟨drafts, -, hm, -⟩ := of_ok h
  exact ⟨_, hm⟩

end Plan

/-! ## Registries -/

/-- There is one style for each kind. -/
theorem length_of_allocateStyles {ks : List KindSpec} {s s' : Sink} {done idents : List Nat}
    (h : allocateStyles done ks s = (.ok idents, s')) : idents.length = done.length + ks.length := by
  induction ks generalizing s done with
  | nil =>
    cases h
    rfl
  | cons k ks ih =>
    rw [allocateStyles] at h
    split at h
    · rw [ih h, List.length_append, List.length_singleton, List.length_cons]
      omega
    · cases h

/-- The registry has the kinds, the languages and the matcher of the plan. -/
structure Registry.Follows (r : Registry) (plan : Plan) : Prop where
  specs : r.kinds.map (·.spec) = plan.specs
  languages : r.languages = plan.languages
  matcher : r.matcher = plan.matcher

/-- The registry of a plan follows it. -/
theorem Plan.follows_registry (p : Plan) {handles : List (Option Nat)}
    (hlength : handles.length = p.specs.length) (previous : Option Registry) :
    (p.registry handles previous).Follows p := by
  refine ⟨?_, rfl, rfl⟩
  show ((p.specs.zip handles).map fun e => (⟨e.1, e.2⟩ : Kind)).map (·.spec) = p.specs
  rw [List.map_map]
  exact List.map_fst_zip (Nat.le_of_eq hlength.symm)

/-- A registry that is built has what a plan says. -/
theorem rebuild_planned {annotations : Section AnnotationEntry} {languages : Section LanguageEntry}
    {sink : Option Sink} {previous : Option Registry} {r : Registry}
    (h : (rebuild annotations languages sink previous).result = .ok r) :
    ∃ plan, Plan.of annotations languages = .ok plan ∧ r.Follows plan := by
  unfold rebuild at h
  split at h
  · cases h
  rename_i plan hplan
  refine ⟨plan, hplan, ?_⟩
  split at h
  · cases h
    exact plan.follows_registry (List.length_map _) previous
  · split at h
    · cases h
    · rename_i idents s₁ hidents
      have hlength : (idents.map some).length = plan.specs.length := by
        rw [List.length_map, length_of_allocateStyles hidents, List.length_nil, Nat.zero_add]
      split at h <;> cases h <;> exact plan.follows_registry hlength _

/-- The descriptor is compiled: its comments with its language, its annotations with kinds of the
given names. -/
def Descriptor.IsFor (names : List String) (d : Descriptor) : Prop :=
  ∃ kinds m c, AnnotationMatcher.ofKinds kinds = .ok m ∧ d.language.commentMatcher = .ok c ∧
    d = ⟨d.language, some c, some m⟩ ∧ m.kinds = names

/-- With a plan, the descriptors of a registry are compiled for its kinds. -/
theorem Plan.isFor_of_follows {annotations : Section AnnotationEntry}
    {languages : Section LanguageEntry} {plan : Plan} {r : Registry}
    (hplan : Plan.of annotations languages = .ok plan) (hr : r.Follows plan) :
    ∀ d ∈ r.languages, d.IsFor r.kindNames := by
  have hnames : r.kindNames = plan.matcher.kinds := by
    rw [← plan.names_eq hplan, ← hr.specs, List.map_map]
    rfl
  obtain ⟨kinds, hkinds⟩ := plan.exists_kinds hplan
  intro d hd
  obtain ⟨c, hc, heq⟩ := plan.mem_languages hplan d (hr.languages ▸ hd)
  exact ⟨kinds, plan.matcher, c, hkinds, hc, heq, hnames.symm⟩

section

variable {annotations : Section AnnotationEntry} {languages : Section LanguageEntry}
  {sink : Option Sink} {previous : Option Registry} {r : Registry}

/-- The descriptors of the registry are compiled. -/
def Registry.Compiled (r : Registry) : Prop := ∃ names, ∀ d ∈ r.languages, d.IsFor names

/-- The descriptors of a registry that is built are compiled. -/
theorem rebuild_compiled (h : (rebuild annotations languages sink previous).result = .ok r) :
    r.Compiled := by
  obtain ⟨plan, hplan, hfollows⟩ := rebuild_planned h
  exact ⟨r.kindNames, plan.isFor_of_follows hplan hfollows⟩

/-- The descriptors for a language are compiled for the kinds of the registry. -/
theorem rebuild_languagesFor (h : (rebuild annotations languages sink previous).result = .ok r)
    (tag : String) : ∀ d ∈ r.languagesFor tag, d.IsFor r.kindNames := by
  obtain ⟨plan, hplan, hfollows⟩ := rebuild_planned h
  exact fun d hd => plan.isFor_of_follows hplan hfollows d (List.mem_filter.mp hd).1

/-- The kinds of a registry have different names. -/
theorem rebuild_kindNames_nodup (h : (rebuild annotations languages sink previous).result = .ok r) :
    r.kindNames.Nodup := by
  obtain ⟨plan, hplan, hfollows⟩ := rebuild_planned h
  have hnodup := plan.names_nodup hplan
  rwa [← hfollows.specs, List.map_map] at hnodup

end

end Marginalia
