import Mathlib.Data.String.Basic
import Marginalia.Proofs.Registry.Refusals
import Marginalia.Scan

/-!
# Building a registry from itself

The kinds and the languages of a registry can be handed back as entries of a configuration: the kinds
as they are, and each language as it is or as a table, with its keys in either spelling
(`Restates`).  What is built from them has the same kinds, the same languages with the same patterns,
and the same matcher of all kinds, so it finds the same in every document (`rebuild_restated`).

The reason is that nothing is lost on the way into a plan: the kinds of a plan are the drafts of its
entries, and a language that came from a table comes back from the table that it is written as
(`Language.IsWritten.grammar`).  So the plan of what is restated is the plan itself
(`Plan.of_restated`).
-/

namespace Marginalia

/-! ## Languages as tables -/

namespace Language

/-- An identifier is the new one or was there. -/
theorem mem_insertId {x z : String} {ys : List String} (h : z ∈ insertId x ys) :
    z = x ∨ z ∈ ys := by
  induction ys with
  | nil => exact .inl (List.mem_singleton.mp h)
  | cons y ys ih =>
    rw [insertId] at h
    split at h
    · exact .inr h
    · split at h
      · exact List.mem_cons.mp h
      · obtain rfl | h := List.mem_cons.mp h
        · exact .inr (List.mem_cons_self ..)
        · exact (ih h).imp_right (List.mem_cons_of_mem y)

/-- Inserting keeps identifiers sorted. -/
theorem pairwise_insertId {ys : List String} (hys : ys.Pairwise (· < ·)) (x : String) :
    (insertId x ys).Pairwise (· < ·) := by
  induction ys with
  | nil => exact List.pairwise_singleton ..
  | cons y ys ih =>
    obtain ⟨hy, htail⟩ := List.pairwise_cons.mp hys
    rw [insertId]
    split
    · exact hys
    · rename_i hne
      split
      · rename_i hlt
        refine List.pairwise_cons.mpr ⟨List.forall_mem_cons.mpr ⟨hlt, fun z hz => ?_⟩, hys⟩
        exact hlt.trans (hy z hz)
      · rename_i hlt
        refine List.pairwise_cons.mpr ⟨fun z hz => ?_, ih htail⟩
        obtain rfl | hz := mem_insertId hz
        · exact lt_of_le_of_ne (not_lt.mp hlt) (Ne.symm hne)
        · exact hy z hz

/-- The identifiers are sorted and distinct. -/
theorem pairwise_idSet (ids : List String) : (idSet ids).Pairwise (· < ·) := by
  induction ids with
  | nil => exact .nil
  | cons x ids ih => exact pairwise_insertId ih x

/-- Identifiers in increasing order are their own set. -/
theorem idSet_of_pairwise {ids : List String} (h : ids.Pairwise (· < ·)) : idSet ids = ids := by
  induction ids with
  | nil => rfl
  | cons x ids ih =>
    obtain ⟨hx, htail⟩ := List.pairwise_cons.mp h
    show insertId x (idSet ids) = x :: ids
    rw [ih htail]
    cases ids with
    | nil => rfl
    | cons y ys =>
      have hlt : x < y := hx y (List.mem_cons_self ..)
      rw [insertId, if_neg hlt.ne, if_pos hlt]

theorem insertId_ne_nil (x : String) (ys : List String) : insertId x ys ≠ [] := by
  cases ys with
  | nil => exact List.cons_ne_nil _ _
  | cons y ys =>
    rw [insertId]
    split
    · exact List.cons_ne_nil _ _
    · split <;> exact List.cons_ne_nil _ _

/-- The language is one that a table can describe. -/
structure IsWritten (l : Language) : Prop where
  ids_ne_nil : l.ids ≠ []
  increasing : l.ids.Pairwise (· < ·)
  texts : AllTexts l.fragments

/-- A language from a table can be written as one. -/
theorem ofConfig_isWritten {t : List (String × Value)} {l : Language}
    (h : ofConfig (.table t) = .ok l) : l.IsWritten := by
  have htexts := ofConfig_ok h
  obtain ⟨ids, -, h⟩ := bind_eq_ok.mp h
  dsimp only at h
  split at h
  · cases h
  rename_i hids
  obtain ⟨line, -, h⟩ := bind_eq_ok.mp h
  obtain ⟨block, -, h⟩ := bind_eq_ok.mp h
  obtain ⟨skipped, -, h⟩ := bind_eq_ok.mp h
  cases h
  refine ⟨?_, pairwise_idSet ids, htexts⟩
  cases ids with
  | nil => exact absurd rfl hids
  | cons x ids => exact insertId_ne_nil x (idSet ids)

/-- The spellings of the keys of a language, in order. -/
def keySpellings : List (List String) :=
  [["languageIds", "language_ids"], ["lineComments", "line_comments"],
    ["blockComments", "block_comments"], ["skippedBlocks", "skipped_blocks"]]

/-- The entry of a language, with the given keys. -/
def entryWith (keys : List String) (l : Language) : List (String × Value) :=
  keys.zip (l.toConfig.map Prod.snd)

/-- Fragments that are texts as a list of texts. -/
theorem exists_texts {fs : List Fragment} (h : AllTexts fs) :
    ∃ ss : List String, fs = ss.map .text := by
  induction fs with
  | nil => exact ⟨[], rfl⟩
  | cons f fs ih =>
    obtain ⟨⟨s, rfl⟩, hrest⟩ := List.forall_mem_cons.mp h
    obtain ⟨ss, rfl⟩ := ih hrest
    exact ⟨s :: ss, rfl⟩

theorem fragmentList_texts (ss : List String) :
    fragmentList (ss.map .text) = .list (ss.map .str) := by
  rw [fragmentList, List.map_map]
  rfl

/-- Under whichever keys a language is written, each of its lists is found again. -/
theorem field?_entryWith {keys : List String}
    (hkeys : List.Forall₂ (· ∈ ·) keys keySpellings) (l : Language) :
    field? (l.entryWith keys) "languageIds" "language_ids" = .list (l.ids.map .str) ∧
      field? (l.entryWith keys) "lineComments" "line_comments" = fragmentList l.lineComments ∧
      field? (l.entryWith keys) "blockComments" "block_comments" = fragmentList l.blockComments ∧
      field? (l.entryWith keys) "skippedBlocks" "skipped_blocks" = fragmentList l.skippedBlocks := by
  obtain ⟨a, rest, ha, hrest, rfl⟩ := List.forall₂_cons_right_iff.mp hkeys
  obtain ⟨b, rest₁, hb, hrest₁, rfl⟩ := List.forall₂_cons_right_iff.mp hrest
  obtain ⟨c, rest₂, hc, hrest₂, rfl⟩ := List.forall₂_cons_right_iff.mp hrest₁
  obtain ⟨d, rest₃, hd, hrest₃, rfl⟩ := List.forall₂_cons_right_iff.mp hrest₂
  cases hrest₃
  simp only [List.mem_cons, List.not_mem_nil, or_false] at ha hb hc hd
  rcases ha with rfl | rfl <;> rcases hb with rfl | rfl <;> rcases hc with rfl | rfl <;>
    rcases hd with rfl | rfl <;> exact ⟨rfl, rfl, rfl, rfl⟩

/-- A language that is written is read again, under either spelling of its keys. -/
theorem IsWritten.ofConfig_entryWith {l : Language} (hl : l.IsWritten) {keys : List String}
    (hkeys : List.Forall₂ (· ∈ ·) keys keySpellings) :
    ofConfig (.table (l.entryWith keys)) = .ok l := by
  obtain ⟨ids, lineComments, blockComments, skippedBlocks⟩ := l
  obtain ⟨hids, hincreasing, htexts⟩ := hl
  obtain ⟨hcomments, hskipped⟩ := List.forall_mem_append.mp htexts
  obtain ⟨hline, hblock⟩ := List.forall_mem_append.mp hcomments
  obtain ⟨line, rfl⟩ := exists_texts hline
  obtain ⟨block, rfl⟩ := exists_texts hblock
  obtain ⟨skipped, rfl⟩ := exists_texts hskipped
  have hsome : ids.isEmpty = false := List.isEmpty_eq_false_iff.mpr hids
  simp only [ofConfig, field?_entryWith hkeys, fragmentList_texts, texts_list]
  show (if ids.isEmpty = true then _ else _) = _
  rw [hsome]
  show Except.ok (_ : Language) = _
  rw [idSet_of_pairwise hincreasing]

end Language

/-- The entry describes the language: it is the language itself, or a table that it is written as. -/
inductive Restates (l : Language) : LanguageEntry → Prop
  | object : Restates l (.language l)
  | table {keys : List String} (hkeys : List.Forall₂ (· ∈ ·) keys Language.keySpellings) :
      Restates l (.value (.table (l.entryWith keys)))

/-- A language restates itself. -/
theorem Restates.toConfig (l : Language) : Restates l (.value (.table l.toConfig)) := by
  have hkeys : List.Forall₂ (· ∈ ·)
      ["languageIds", "lineComments", "blockComments", "skippedBlocks"] Language.keySpellings := by
    decide
  exact .table hkeys

/-- What restates a language is read as it. -/
theorem Language.IsWritten.grammar {l : Language} (hl : l.IsWritten) {e : LanguageEntry}
    (he : Restates l e) : e.grammar = .ok l := by
  cases he with
  | object => rfl
  | table hkeys => exact grammar_table_eq_ok.mpr (hl.ofConfig_entryWith hkeys)

/-! ## Plans -/

/-- Languages that are restated compile to the same. -/
theorem compileLanguages_restated {m : AnnotationMatcher} {ds : List Descriptor}
    {es : List LanguageEntry} (hds : ∀ d ∈ ds, d.language.IsWritten ∧
      compileLanguage m d.language = .ok d)
    (hes : List.Forall₂ (fun d e => Restates d.language e) ds es) :
    compileLanguages m es = .ok ds := by
  refine compileLanguages_eq_ok.mpr ?_
  induction hes with
  | nil => exact .nil
  | cons he hes ih =>
    obtain ⟨⟨hwritten, hcompile⟩, hrest⟩ := List.forall_mem_cons.mp hds
    exact .cons ⟨_, hwritten.grammar he, hcompile⟩ (ih hrest)

/-- Languages from tables can be written. -/
theorem isWritten_of_compileLanguages {m : AnnotationMatcher} {ts : List (List (String × Value))}
    {ds : List Descriptor}
    (h : compileLanguages m (ts.map fun t => .value (.table t)) = .ok ds) :
    ∀ d ∈ ds, d.language.IsWritten ∧ compileLanguage m d.language = .ok d := by
  have hds := List.forall₂_map_left_iff.mp (compileLanguages_eq_ok.mp h)
  refine forall_mem_of_forall₂ hds (fun _ _ => trivial) ?_
  rintro t d - ⟨l, hl, hd⟩
  obtain ⟨c, -, rfl⟩ := compileLanguage_ok hd
  exact ⟨Language.ofConfig_isWritten (grammar_table_eq_ok.mp hl), hd⟩

/-- Kinds with different names are taken as they are. -/
theorem draftsFrom_kinds (before : List KindSpec) {specs : List KindSpec}
    (h : ((before ++ specs).map (·.name)).Nodup) :
    draftsFrom (before.map KindSpec.draft) (specs.map .kind) =
      .ok ((before ++ specs).map KindSpec.draft) := by
  induction specs generalizing before with
  | nil => rw [List.append_nil]; rfl
  | cons k specs ih =>
    have hnew : (before.map KindSpec.draft).any (·.name.sameKey k.draft.name) = false := by
      rw [List.any_map, List.any_eq_false]
      intro k' hk' hsame
      have hsame : k'.name = k.name := beq_iff_eq.mp hsame
      rw [List.map_append, List.nodup_append] at h
      exact h.2.2 k'.name (List.mem_map_of_mem hk') k.name (List.mem_map_of_mem List.mem_cons_self)
        hsame
    -- The kind joins those before it, which leaves the whole list as it is.
    rw [List.append_cons] at h ⊢
    have hrest := ih (before ++ [k]) h
    rw [List.map_append, List.map_singleton] at hrest
    have hstep : draftsFrom (before.map KindSpec.draft) (.kind k :: specs.map .kind) =
        if (before.map KindSpec.draft).any (·.name.sameKey k.draft.name) then
          .error (.rejected (.duplicateName k.draft.name.text))
        else draftsFrom (before.map KindSpec.draft ++ [k.draft]) (specs.map .kind) := rfl
    rw [List.map_cons, hstep, hnew]
    exact hrest

/-- A draft that is named as it was named before is itself again. -/
theorem map_draft_named {drafts : List KindDraft} {names : List String}
    (h : drafts.map (·.name) = names.map .str) :
    ((drafts.zip names).map fun e => e.1.named e.2).map KindSpec.draft = drafts := by
  induction drafts generalizing names with
  | nil => rfl
  | cons d drafts ih =>
    cases names with
    | nil => cases h
    | cons n names =>
      obtain ⟨hname, hrest⟩ := List.cons.inj h
      rw [List.zip_cons_cons, List.map_cons, List.map_cons, ih hrest]
      congr 1
      rw [KindDraft.named, KindSpec.draft, ← hname]

namespace Plan

variable {annotations : Section AnnotationEntry} {languages : Section LanguageEntry} {p : Plan}

/-- The matcher of a plan is that of its kinds. -/
theorem ofKinds_specs (h : Plan.of annotations languages = .ok p) :
    AnnotationMatcher.ofKinds ((p.specs.map KindSpec.draft).map fun k => (k.name, k.pattern)) =
      .ok p.matcher := by
  obtain ⟨drafts, -, hm, hspecs, -⟩ := of_ok h
  have hdrafts : p.specs.map KindSpec.draft = drafts := by
    rw [hspecs]
    exact map_draft_named (draft_names_eq hm)
  rwa [hdrafts]

/-- What the kinds and the languages of a plan restate is the plan. -/
theorem of_restated {ts us : List (List (String × Value))}
    (h : Plan.of (.ofTables .value ts) (.ofTables .value us) = .ok p) {es : List LanguageEntry}
    (hes : List.Forall₂ (fun d e => Restates d.language e) p.languages es) :
    Plan.of (.entries (p.specs.map .kind)) (.entries es) = .ok p := by
  have hdrafts : draftsFrom [] (p.specs.map .kind) = .ok (p.specs.map KindSpec.draft) :=
    draftsFrom_kinds [] (names_nodup h)
  -- The languages came from tables, so each of them can be written as one.
  have hlanguages : compileLanguages p.matcher es = .ok p.languages := by
    refine compileLanguages_restated ?_ hes
    rw [Plan.of_tables] at h
    obtain ⟨drafts, -, h⟩ := bind_eq_ok.mp h
    obtain ⟨m, -, h⟩ := bind_eq_ok.mp h
    obtain ⟨ds, hds, h⟩ := bind_eq_ok.mp h
    cases h
    exact isWritten_of_compileLanguages hds
  have hspecs : ((p.specs.map KindSpec.draft).zip p.matcher.kinds).map (fun e =>
      e.1.named e.2) = p.specs := by
    rw [← names_eq h, List.zip_map', List.map_map]
    exact List.map_id' _
  rw [of_entries, hdrafts]
  show (AnnotationMatcher.ofKinds _ >>= _) = _
  rw [ofKinds_specs h]
  show (compileLanguages p.matcher es >>= _) = _
  rw [hlanguages]
  show Except.ok (⟨_, p.matcher, p.languages⟩ : Plan) = _
  rw [hspecs]

end Plan

/-! ## Scans -/

theorem Registry.isNone_kind? (r : Registry) (name : String) :
    (r.kind? name).isNone = !(r.kinds.map (·.spec)).any (·.name == name) := by
  rw [List.any_map, kind?, ← Option.not_isSome, List.isSome_find?]
  rfl

/-- A scan sees of a registry what its kinds say, and its languages. -/
theorem scan_congr {r r' : Registry} (hkinds : r'.kinds.map (·.spec) = r.kinds.map (·.spec))
    (hlanguages : r'.languages = r.languages) (doc : Document) : scan doc r' = scan doc r := by
  have hempty : r'.emptyGroups = r.emptyGroups := by
    have hmap := congrArg (List.map fun k : KindSpec => (k.name, ([] : List Decoration))) hkinds
    rw [List.map_map, List.map_map] at hmap
    exact hmap
  have hgroup (starts : List Nat) (size : Nat) (hits : List Hit) :
      r'.group starts size hits = r.group starts size hits := by
    have hmap := congrArg (List.map fun k : KindSpec => (k.name,
      (hits.filter (·.kind == k.name)).map (·.decorate starts size k.markdown))) hkinds
    rw [List.map_map, List.map_map] at hmap
    exact hmap
  unfold scan Registry.languagesFor
  simp only [hempty, hgroup, hlanguages, Registry.isNone_kind?, hkinds]

/-! ## Registries -/

/-- A registry can be built from what a registry that was built from tables has: from its kinds, and
from its languages, each as it is or as a table.  It has the same kinds, the same languages with the
same patterns, and the same matcher, and a scan of any document comes to the same. -/
theorem rebuild_restated {kinds languages : List (List (String × Value))} {sink : Option Sink}
    {previous : Option Registry} {r : Registry}
    (hr : (rebuild (.ofTables .value kinds) (.ofTables .value languages) sink previous).result =
      .ok r) {entries : List LanguageEntry}
    (hentries : List.Forall₂ (fun d e => Restates d.language e) r.languages entries)
    (sink' : Option Sink) (hsink : ∀ s ∈ sink', s.refused = []) (previous' : Option Registry) :
    ∃ r', (rebuild (.entries (r.kinds.map fun k => .kind k.spec)) (.entries entries) sink'
        previous').result = .ok r' ∧
      r'.kinds.map (·.spec) = r.kinds.map (·.spec) ∧ r'.languages = r.languages ∧
      r'.matcher = r.matcher ∧ ∀ doc, scan doc r' = scan doc r := by
  obtain ⟨plan, hplan, hfollows⟩ := rebuild_planned hr
  have hkinds : (r.kinds.map fun k => AnnotationEntry.kind k.spec) = plan.specs.map .kind := by
    rw [← hfollows.specs, List.map_map]
    rfl
  rw [hfollows.languages] at hentries
  have hrestated := plan.of_restated hplan hentries
  rw [← hkinds] at hrestated
  cases hr' : (rebuild (.entries (r.kinds.map fun k => .kind k.spec)) (.entries entries) sink'
      previous').result with
  | error e => cases ((rebuild_error_iff hsink previous' e).mp hr').symm.trans hrestated
  | ok r' =>
    obtain ⟨plan', hplan', hfollows'⟩ := rebuild_planned hr'
    cases hrestated.symm.trans hplan'
    have hspecs := hfollows'.specs.trans hfollows.specs.symm
    have hlanguages := hfollows'.languages.trans hfollows.languages.symm
    exact ⟨r', rfl, hspecs, hlanguages, hfollows'.matcher.trans hfollows.matcher.symm,
      scan_congr hspecs hlanguages⟩

/-- A language with its identifiers out of order and one of them twice, handed back as it is, as its
table, and as a table with keys in both spellings. -/
theorem rebuild_restated_spellings :
    let kinds := [kindTable "x", [("name", .str "B"), ("pattern", .str "[]y]"),
      ("color", .str "red"), ("isMarkdown", .bool true)]]
    let languages := [[("languageIds", .list [.str "t", .str "s", .str "t"]),
      ("line_comments", .list [.str "#.*"])]]
    let keys := ["language_ids", "lineComments", "block_comments", "skippedBlocks"]
    ∃ r, (rebuild (.ofTables .value kinds) (.ofTables .value languages) none none).result = .ok r ∧
      ∀ entry ∈ [.language, fun l => .value (.table l.toConfig),
          fun l => .value (.table (l.entryWith keys))],
        ∃ r', (rebuild (.entries (r.kinds.map fun k => .kind k.spec))
            (.entries (r.languages.map fun d => entry d.language)) none (some r)).result = .ok r' ∧
          r'.kinds.map (·.spec) = r.kinds.map (·.spec) ∧ r'.languages = r.languages ∧
          r'.matcher = r.matcher ∧ ∀ doc, scan doc r' = scan doc r := by
  intro kinds languages keys
  have hok : (rebuild (.ofTables .value kinds) (.ofTables .value languages) none none).result.toBool =
      true := by decide +kernel
  have hkeys : List.Forall₂ (· ∈ ·) keys Language.keySpellings := by decide
  cases hr : (rebuild (.ofTables .value kinds) (.ofTables .value languages) none none).result with
  | error e => exact absurd (hr ▸ hok) nofun
  | ok r =>
    refine ⟨r, rfl, fun entry hentry => ?_⟩
    have hrestates (l : Language) : Restates l (entry l) := by
      simp only [List.mem_cons, List.not_mem_nil, or_false] at hentry
      obtain rfl | rfl | rfl := hentry
      · exact .object
      · exact .toConfig l
      · exact .table hkeys
    have hentries : List.Forall₂ (fun d e => Restates d.language e) r.languages
        (r.languages.map fun d => entry d.language) :=
      List.forall₂_map_right_iff.mpr (List.forall₂_same.mpr fun d _ => hrestates d.language)
    exact rebuild_restated hr hentries none nofun (some r)

end Marginalia
