import Marginalia.Proofs.Config.Depth
import Marginalia.Proofs.Session.Rescan
import Marginalia.Registry.Warnings

/-!
# How building a registry can fail

A configuration file gives two lists of tables.  Building a registry from them is meant to end in a
registry or in a reason to refuse them (`RegistryError`), and does so but for two kinds of content.
A pattern can hit a limit of the notation, and a value that the reason would show can hold a number
with too many digits.  Both errors end a reload of a session (`rebuild_of_tables`).

Each step of the building is followed with the texts that it compiles (`Traced`).
-/

namespace Marginalia

/-- Either step can fail. -/
theorem bind_eq_error {ε α β : Type} {x : Except ε α} {f : α → Except ε β} {e : ε} :
    (x >>= f) = .error e ↔ x = .error e ∨ ∃ a, x = .ok a ∧ f a = .error e := by
  constructor
  · intro h
    cases x with
    | error e' =>
      cases h
      exact .inl rfl
    | ok a => exact .inr ⟨a, rfl, h⟩
  · rintro (rfl | ⟨a, rfl, h⟩)
    · rfl
    · exact h

/-- A refusal is shown, unless its value has a number that is too long. -/
theorem showing_cases (v : Value) (r : RegistryError) :
    RebuildError.showing v r = .rejected r ∨
      RebuildError.showing v r = .tooLongToWrite ∧ v.isTooLong = true := by
  unfold RebuildError.showing
  split
  · exact .inr ⟨rfl, by assumption⟩
  · exact .inl rfl

/-! ## Following a computation -/

/-- Compiling the text hits a limit of the notation. -/
def HitsLimit (source : String) (e : Pattern.Error) : Prop :=
  (∃ r, Pattern.compile source = .error r ∧ r.error = e) ∧ ∀ fault p, e ≠ .malformed fault p

/-- Texts that are compiled one after the other; what comes after a failure is left out. -/
def inTurn (c d : List String × Bool) : List String × Bool := if c.2 then (c.1 ++ d.1, d.2) else c

theorem inTurn_nil (c : List String × Bool) : inTurn c ([], true) = c := by
  obtain ⟨ts, good⟩ := c
  cases good <;> simp [inTurn]

/-- How texts are put together does not matter. -/
theorem inTurn_assoc (b c d : List String × Bool) :
    inTurn (inTurn b c) d = inTurn b (inTurn c d) := by
  unfold inTurn
  obtain ⟨ts, good⟩ := b
  obtain ⟨ts', good'⟩ := c
  cases good <;> cases good' <;> simp

/-- A computation compiles the texts of `c`, the last of which may fail, and ends well if `c` says
so.  It can fail for a limit that one of the texts hits, and for a number that is too long in one of
the values that it shows; any other failure is a refusal. -/
structure Traced {α : Type} (shown : Value → Prop) (c : List String × Bool)
    (x : Except RebuildError α) : Prop where
  good : (∃ a, x = .ok a) ↔ c.2 = true
  limit : ∀ e, x = .error (.patternLimit e) ↔ ∃ source ∈ c.1, HitsLimit source e
  declared : ∀ e, x = .error e → (∃ r, e = .rejected r) ∨ (∃ l, e = .patternLimit l) ∨
    e = .tooLongToWrite ∧ ∃ v, shown v ∧ v.isTooLong = true

namespace Traced

variable {α β : Type} {shown : Value → Prop} {c d : List String × Bool}
  {x : Except RebuildError α} {f : α → Except RebuildError β}

/-- A computation that compiles nothing and ends well. -/
theorem ok (a : α) : Traced shown ([], true) (.ok a : Except RebuildError α) :=
  ⟨⟨fun _ => rfl, fun _ => ⟨a, rfl⟩⟩, fun _ => ⟨nofun, nofun⟩, nofun⟩

/-- A computation that compiles nothing. -/
theorem of_errors (h : ∀ e, x = .error e → (∃ r, e = .rejected r) ∨
    e = .tooLongToWrite ∧ ∃ v, shown v ∧ v.isTooLong = true) : Traced shown ([], x.toBool) x := by
  cases x with
  | ok a => exact ok a
  | error e =>
    refine ⟨⟨nofun, nofun⟩, fun e' => ⟨fun he => ?_, nofun⟩, fun e' he => ?_⟩
    · obtain ⟨r, hr⟩ | ⟨hr, -⟩ := h e rfl <;> cases he.symm.trans (congrArg _ hr)
    · exact (h e' he).imp_right .inr

/-- A computation that ends well compiles no text that hits a limit. -/
theorem not_hitsLimit (hx : Traced shown c x) {a : α} (ha : x = .ok a) (e : Pattern.Error) :
    ¬ ∃ source ∈ c.1, HitsLimit source e := by
  rw [← hx.limit e, ha]
  exact nofun

/-- What would come after a failure compiles nothing. -/
theorem bind_error {e : RebuildError} (hx : Traced shown c (.error e : Except RebuildError α))
    (f : α → Except RebuildError β) :
    Traced shown c ((.error e : Except RebuildError α) >>= f) := by
  have herror {e' : RebuildError} : ((.error e : Except RebuildError α) >>= f) = .error e' ↔
      (.error e : Except RebuildError α) = .error e' :=
    ⟨fun h => congrArg _ (Except.error.inj h), fun h => congrArg _ (Except.error.inj h)⟩
  exact ⟨⟨nofun, fun h => nomatch hx.good.mpr h⟩, fun e' => herror.trans (hx.limit e'),
    fun e' h => hx.declared e' (herror.mp h)⟩

/-- The second step compiles its texts if the first one ends well. -/
theorem bind (hx : Traced shown c x) (hf : ∀ a, x = .ok a → Traced shown d (f a)) :
    Traced shown (inTurn c d) (x >>= f) := by
  cases hresult : x with
  | ok a =>
    have hfa := hf a hresult
    have hgood : c.2 = true := hx.good.mp ⟨a, hresult⟩
    -- The first part ended well, so a text that hits a limit is one of the second part.
    rw [inTurn, if_pos hgood]
    refine ⟨hfa.good, fun e => ?_, hfa.declared⟩
    refine (hfa.limit e).trans ⟨?_, ?_⟩
    · rintro ⟨source, hmem, h⟩
      exact ⟨source, List.mem_append_right _ hmem, h⟩
    · rintro ⟨source, hmem, h⟩
      obtain hmem | hmem := List.mem_append.mp hmem
      · exact absurd ⟨source, hmem, h⟩ (hx.not_hitsLimit hresult e)
      · exact ⟨source, hmem, h⟩
  | error e =>
    rw [hresult] at hx
    have hbad : ¬ c.2 = true := fun h => nomatch hx.good.mpr h
    rw [inTurn, if_neg hbad]
    exact hx.bind_error f

/-- What is done with the result of a computation, and cannot fail, compiles nothing. -/
theorem map (hx : Traced shown c x) (f : α → β) : Traced shown c (do return f (← x)) := by
  have h : Traced shown (inTurn c ([], true)) (do return f (← x)) := hx.bind fun a _ => .ok (f a)
  rwa [inTurn_nil] at h

end Traced

/-! ## Patterns -/

section Patterns

variable {shown : Value → Prop}

/-- The first text comes before the rest. -/
theorem compileInTurn_cons (s : Option String) (rest : List (Option String)) :
    compileInTurn (s :: rest) = inTurn (compileInTurn [s]) (compileInTurn rest) := by
  cases s with
  | none => rfl
  | some s =>
    rw [compileInTurn, compileInTurn]
    split <;> rfl

/-- Texts one after the other. -/
theorem compileInTurn_append (fs gs : List (Option String)) :
    compileInTurn (fs ++ gs) = inTurn (compileInTurn fs) (compileInTurn gs) := by
  induction fs with
  | nil => rfl
  | cons f fs ih =>
    rw [List.cons_append, compileInTurn_cons, ih, compileInTurn_cons f fs, inTurn_assoc]

/-- Fragments come before the pattern that combines them. -/
theorem compileTogether_eq (fragments : List Fragment) (combined : Option String) :
    compileTogether fragments combined =
      inTurn (compileInTurn (fragments.map Fragment.source?)) (compileInTurn [combined]) := by
  unfold compileTogether inTurn
  obtain ⟨texts, good⟩ := compileInTurn (fragments.map Fragment.source?)
  cases good <;> rfl

/-- A refusal is for a limit if the pattern is not malformed. -/
theorem refusal_eq_patternLimit_iff {owner : PatternOwner} {name source : String}
    {e e' : Pattern.Error} : refusal owner name source e = .patternLimit e' ↔
      e = e' ∧ ∀ fault p, e' ≠ .malformed fault p := by
  constructor
  · intro h
    cases e with
    | malformed fault position => cases h
    | _ =>
      cases h
      exact ⟨rfl, nofun⟩
  · rintro ⟨rfl, hlimit⟩
    cases e with
    | malformed fault position => exact absurd rfl (hlimit fault position)
    | _ => rfl

/-- One pattern compiles its own text. -/
theorem traced_compileFor (owner : PatternOwner) (name source : String) :
    Traced shown (compileInTurn [some source]) (compileFor owner name source) := by
  unfold compileFor
  rw [compileInTurn]
  cases hp : Pattern.compile source with
  | ok p =>
    refine ⟨⟨fun _ => rfl, fun _ => ⟨p, rfl⟩⟩, fun e => ⟨nofun, ?_⟩, nofun⟩
    rintro ⟨s, hs, ⟨r, hr, -⟩, -⟩
    rw [List.mem_singleton.mp hs, hp] at hr
    cases hr
  | error r =>
    refine ⟨⟨nofun, nofun⟩, fun e => ?_, fun e h => ?_⟩
    · rw [Except.error.injEq, refusal_eq_patternLimit_iff]
      constructor
      · rintro ⟨rfl, hlimit⟩
        exact ⟨source, List.mem_singleton_self source, ⟨r, hp, rfl⟩, hlimit⟩
      · rintro ⟨s, hs, ⟨r', hr', rfl⟩, hlimit⟩
        rw [List.mem_singleton.mp hs, hp] at hr'
        cases hr'
        exact ⟨rfl, hlimit⟩
    · rw [← Except.error.inj h]
      cases r.error with
      | malformed fault position => exact .inl ⟨_, rfl⟩
      | _ => exact .inr (.inl ⟨_, rfl⟩)

/-- Every fragment is a text. -/
def AllTexts (fs : List Fragment) : Prop := ∀ f ∈ fs, ∃ s, f = .text s

/-- Fragments are compiled one after the other. -/
theorem traced_checkFragments (owner : PatternOwner) {fs : List Fragment} (hfs : AllTexts fs) :
    Traced shown (compileInTurn (fs.map Fragment.source?)) (checkFragments owner fs) := by
  induction fs with
  | nil => exact .ok []
  | cons f fs ih =>
    obtain ⟨⟨s, rfl⟩, hrest⟩ := List.forall_mem_cons.mp hfs
    rw [List.map_cons, compileInTurn_cons, checkFragments]
    exact ((traced_compileFor owner s _).map fun _ => Fragment.normalise s).bind
      fun source _ => (ih hrest).map (source :: ·)

/-! ## Languages -/

/-- Fragments of a language are compiled, and then all together. -/
theorem traced_commentMatcher {l : Language} (hl : AllTexts l.fragments) :
    Traced shown (compileTogether l.fragments l.commentPattern.toOption) l.commentMatcher := by
  obtain ⟨hcomments, hskipped⟩ := List.forall_mem_append.mp hl
  obtain ⟨hline, hblock⟩ := List.forall_mem_append.mp hcomments
  have hpattern : Traced shown (compileInTurn (l.fragments.map Fragment.source?))
      l.commentPattern := by
    rw [Language.fragments, List.map_append, List.map_append, compileInTurn_append,
      compileInTurn_append, inTurn_assoc]
    exact (traced_checkFragments l.owner hline).bind fun line _ =>
      (traced_checkFragments l.owner hblock).bind fun block _ =>
        (traced_checkFragments l.owner hskipped).map fun skipped =>
          combinedComments (line ++ block) skipped
  rw [compileTogether_eq]
  refine hpattern.bind fun source hsource => ?_
  rw [hsource]
  exact (traced_compileFor l.owner source source).map CommentMatcher.mk

end Patterns

/-- An item of a list in the table. -/
def ItemOf (t : List (String × Value)) (v : Value) : Prop :=
  ∃ e ∈ t, ∃ items, e.2.elements? = some items ∧ v ∈ items

namespace Language

/-- An item that is not a text is one of the list. -/
theorem textItems_error {key : String} {vs : List Value} {e : GrammarError}
    (h : textItems key vs = .error e) : ∃ v ∈ vs, e = .notText key v := by
  induction vs with
  | nil => cases h
  | cons v vs ih =>
    cases v with
    | str s =>
      cases hrest : textItems key vs with
      | ok ss =>
        rw [textItems, hrest] at h
        cases h
      | error e' =>
        rw [textItems, hrest] at h
        cases h
        obtain ⟨v, hv, he⟩ := ih hrest
        exact ⟨v, List.mem_cons_of_mem _ hv, he⟩
    | _ =>
      cases h
      exact ⟨_, List.mem_cons_self, rfl⟩

/-- What can be wrong with a list of texts in a table: it is none, or one of its items is no text.
-/
theorem texts_field?_error {t : List (String × Value)} {key key' other : String} {e : GrammarError}
    (h : texts key (field? t key' other) = .error e) :
    e = .notList key ∨ ∃ v, ItemOf t v ∧ e = .notText key v := by
  unfold field? at h
  split at h
  · rename_i k v hfind
    have hmem : (k, v) ∈ t := List.mem_reverse.mp (List.mem_of_find?_eq_some hfind)
    unfold texts at h
    split at h
    · cases h
    · cases h
      exact .inl rfl
    · split at h
      · rename_i items hitems
        obtain ⟨item, hitem, he⟩ := textItems_error h
        exact .inr ⟨item, ⟨(k, v), hmem, items, hitems, hitem⟩, he⟩
      · cases h
        exact .inl rfl
  · cases h

/-- What can be wrong with a table that describes a language. -/
theorem ofConfig_error {t : List (String × Value)} {e : GrammarError}
    (h : ofConfig (.table t) = .error e) :
    (∃ key, e = .notList key) ∨ e = .noIds ∨ ∃ key v, ItemOf t v ∧ e = .notText key v := by
  have htexts {key key' other : String} (h : texts key (field? t key' other) = .error e) :
      (∃ key, e = .notList key) ∨ e = .noIds ∨ ∃ key v, ItemOf t v ∧ e = .notText key v := by
    obtain rfl | ⟨v, hv, rfl⟩ := texts_field?_error h
    · exact .inl ⟨key, rfl⟩
    · exact .inr (.inr ⟨key, v, hv, rfl⟩)
  obtain hids | ⟨ids, -, h⟩ := bind_eq_error.mp h
  · exact htexts hids
  dsimp only at h
  split at h
  · cases h
    exact .inr (.inl rfl)
  obtain hline | ⟨line, -, h⟩ := bind_eq_error.mp h
  · exact htexts hline
  obtain hblock | ⟨block, -, h⟩ := bind_eq_error.mp h
  · exact htexts hblock
  obtain hskipped | ⟨skipped, -, h⟩ := bind_eq_error.mp h
  · exact htexts hskipped
  · cases h

/-- Fragments of a language from a table are texts. -/
theorem ofConfig_ok {t : List (String × Value)} {l : Language} (h : ofConfig (.table t) = .ok l) :
    AllTexts l.fragments := by
  obtain ⟨ids, -, h⟩ := bind_eq_ok.mp h
  dsimp only at h
  split at h
  · cases h
  obtain ⟨line, -, h⟩ := bind_eq_ok.mp h
  obtain ⟨block, -, h⟩ := bind_eq_ok.mp h
  obtain ⟨skipped, -, h⟩ := bind_eq_ok.mp h
  cases h
  rw [fragments, ← List.map_append, ← List.map_append]
  intro f hf
  obtain ⟨s, -, rfl⟩ := List.mem_map.mp hf
  exact ⟨s, rfl⟩

end Language

/-- What an entry that is a table can be refused for. -/
theorem grammar_error {t : List (String × Value)} {e : RebuildError}
    (h : (LanguageEntry.value (.table t)).grammar = .error e) :
    (∃ r, e = .rejected r) ∨ e = .tooLongToWrite ∧ ∃ v, ItemOf t v ∧ v.isTooLong = true := by
  have h : (Language.ofConfig (.table t)).mapError GrammarError.refusal = .error e := h
  cases hconfig : Language.ofConfig (.table t) with
  | ok l =>
    rw [hconfig] at h
    cases h
  | error e' =>
    rw [hconfig] at h
    cases h
    obtain ⟨key, rfl⟩ | rfl | ⟨key, v, hv, rfl⟩ := Language.ofConfig_error hconfig
    · exact .inl ⟨_, rfl⟩
    · exact .inl ⟨_, rfl⟩
    · obtain h | ⟨h, hlong⟩ := showing_cases v (.grammar (.notText key v))
      · exact .inl ⟨_, h⟩
      · exact .inr ⟨h, v, hv, hlong⟩

/-- A table is read as a language. -/
theorem grammar_table_eq_ok {t : List (String × Value)} {l : Language} :
    (LanguageEntry.value (.table t)).grammar = .ok l ↔ Language.ofConfig (.table t) = .ok l := by
  show (Language.ofConfig (.table t)).mapError GrammarError.refusal = .ok l ↔ _
  cases Language.ofConfig (.table t) with
  | ok l' => exact ⟨fun h => congrArg _ (Except.ok.inj h), fun h => congrArg _ (Except.ok.inj h)⟩
  | error e => exact ⟨nofun, nofun⟩

/-- Fragments of an entry that is a table are texts. -/
theorem grammar_ok {t : List (String × Value)} {l : Language}
    (h : (LanguageEntry.value (.table t)).grammar = .ok l) : AllTexts l.fragments :=
  Language.ofConfig_ok (grammar_table_eq_ok.mp h)

/-- A language compiles the texts of its matcher. -/
theorem traced_compileLanguage (m : AnnotationMatcher) {shown : Value → Prop} {l : Language}
    (hl : AllTexts l.fragments) :
    Traced shown (compileTogether l.fragments l.commentPattern.toOption) (compileLanguage m l) := by
  have hmap : compileLanguage m l =
      (do return (⟨l, some (← l.commentMatcher), some m⟩ : Descriptor)) := by
    unfold compileLanguage
    cases l.commentMatcher <;> rfl
  rw [hmap]
  exact (traced_commentMatcher hl).map _

/-- Texts of the first language come before those of the rest. -/
theorem languageTexts_cons {e : LanguageEntry} {l : Language} (h : e.grammar = .ok l)
    {es : List LanguageEntry} {c : List String × Bool} (hc : c.1 = languageTexts es) :
    (inTurn (compileTogether l.fragments l.commentPattern.toOption) c).1 =
      languageTexts (e :: es) := by
  rw [languageTexts, h, ← hc]
  dsimp only
  obtain ⟨texts, good⟩ := compileTogether l.fragments l.commentPattern.toOption
  cases good <;> rfl

/-- Languages are compiled one after the other, by induction on the tables. -/
theorem traced_compileLanguages {shown : Value → Prop} {ts : List (List (String × Value))}
    (hts : ∀ t ∈ ts, ∀ v, ItemOf t v → shown v) :
    ∃ c : List String × Bool, c.1 = languageTexts (ts.map fun t => .value (.table t)) ∧
      ∀ m, Traced shown c (compileLanguages m (ts.map fun t => .value (.table t))) := by
  induction ts with
  | nil => exact ⟨([], true), rfl, fun _ => .ok []⟩
  | cons t ts ih =>
    obtain ⟨ht, hts⟩ := List.forall_mem_cons.mp hts
    obtain ⟨c, hc, hrest⟩ := ih hts
    rw [List.map_cons]
    cases hg : (LanguageEntry.value (.table t)).grammar with
    | error e =>
      refine ⟨([], false), by rw [languageTexts, hg], fun m => ?_⟩
      rw [compileLanguages, hg]
      refine Traced.bind_error (.of_errors fun e' he => ?_) _
      refine (grammar_error (hg.trans he)).imp_right ?_
      rintro ⟨h, v, hv, hlong⟩
      exact ⟨h, v, ht v hv, hlong⟩
    | ok l =>
      refine ⟨_, languageTexts_cons hg hc, fun m => ?_⟩
      rw [compileLanguages, hg]
      exact (traced_compileLanguage m (grammar_ok hg)).bind fun d _ => (hrest m).map (d :: ·)

/-! ## Annotation kinds -/

/-- A draft as tables give it: its name is a valid one, and its fragment is a text. -/
def KindDraft.Checked (d : KindDraft) : Prop :=
  ∃ n p, d.name = .str n ∧ isName n.toList = true ∧ d.pattern = .text p

/-- A draft from a table is one that tables give. -/
theorem ofFields_ok {t : List (String × Value)} {d : KindDraft}
    (h : KindDraft.ofFields t = .ok d) : d.Checked := by
  unfold KindDraft.ofFields at h
  dsimp only at h
  split at h
  · rename_i n hname
    split at h
    · cases h
    · rename_i hvalid
      split at h
      · rename_i p hpattern
        split at h
        · cases h
          exact ⟨n, p, hname, by simpa using hvalid, rfl⟩
        · cases h
      · cases h
  · cases h

/-- A draft fails with a refusal, or with a name that cannot be shown. -/
theorem ofFields_error {t : List (String × Value)} {e : RebuildError}
    (h : KindDraft.ofFields t = .error e) : (∃ r, e = .rejected r) ∨
      e = .tooLongToWrite ∧ ∃ v, t.lookup "name" = some v ∧ v.isTooLong = true := by
  unfold KindDraft.ofFields at h
  dsimp only at h
  split at h
  · split at h
    · cases h
      exact .inl ⟨_, rfl⟩
    · split at h
      · split at h
        · cases h
        · cases h
          exact .inl ⟨_, rfl⟩
      · cases h
        exact .inl ⟨_, rfl⟩
  · cases h
    obtain h | ⟨h, hlong⟩ := showing_cases ((t.lookup "name").getD .null)
      (.invalidName ((t.lookup "name").getD .null))
    · exact .inl ⟨_, h⟩
    · refine .inr ⟨h, ?_⟩
      cases hname : t.lookup "name" with
      | none =>
        rw [hname] at hlong
        cases hlong
      | some v =>
        rw [hname] at hlong
        exact ⟨v, rfl, hlong⟩

/-- What the entries of a section of tables come to. -/
theorem draftsFrom_tables {ts : List (List (String × Value))} {done : List KindDraft}
    (hdone : ∀ d ∈ done, d.Checked) :
    (∀ e, draftsFrom done (ts.map fun t => .value (.table t)) = .error e → (∃ r, e = .rejected r) ∨
      e = .tooLongToWrite ∧ ∃ v, (∃ t ∈ ts, t.lookup "name" = some v) ∧ v.isTooLong = true) ∧
    ∀ drafts, draftsFrom done (ts.map fun t => .value (.table t)) = .ok drafts →
      ∀ d ∈ drafts, d.Checked := by
  induction ts generalizing done with
  | nil =>
    refine ⟨nofun, fun drafts h => ?_⟩
    cases h
    exact hdone
  | cons t ts ih =>
    rw [List.map_cons, draftsFrom, AnnotationEntry.draft]
    cases hd : KindDraft.ofFields t with
    | error e =>
      refine ⟨fun e' h => ?_, fun drafts h => ?_⟩
      · cases h
        refine (ofFields_error hd).imp_right ?_
        rintro ⟨h, v, hv, hlong⟩
        exact ⟨h, v, ⟨t, List.mem_cons_self, hv⟩, hlong⟩
      · cases h
    | ok d =>
      obtain ⟨n, p, hname, -, -⟩ := ofFields_ok hd
      have hkey : d.name.unusableKey? = none := by rw [hname]; rfl
      have hall : ∀ d' ∈ done ++ [d], d'.Checked :=
        List.forall_mem_append.mpr ⟨hdone, List.forall_mem_singleton.mpr (ofFields_ok hd)⟩
      simp only [bind, Except.bind, hkey]
      split
      · refine ⟨fun e h => ?_, fun drafts h => ?_⟩
        · cases h
          exact .inl ⟨_, rfl⟩
        · cases h
      · obtain ⟨herror, hok⟩ := ih hall
        refine ⟨fun e h => (herror e h).imp_right ?_, hok⟩
        rintro ⟨h, v, ⟨t', ht', hv⟩, hlong⟩
        exact ⟨h, v, ⟨t', List.mem_cons_of_mem _ ht', hv⟩, hlong⟩

section Kinds

variable {shown : Value → Prop}

/-- The fragments of all kinds are compiled one after the other. -/
theorem traced_kindGroups {kinds : List (Value × Fragment)}
    (hkinds : AllTexts (kinds.map Prod.snd)) :
    Traced shown (compileInTurn ((kinds.map Prod.snd).map Fragment.source?))
      (kindGroups kinds) := by
  induction kinds with
  | nil => exact .ok []
  | cons k kinds ih =>
    obtain ⟨name, f⟩ := k
    obtain ⟨⟨s, rfl⟩, hrest⟩ := List.forall_mem_cons.mp hkinds
    rw [List.map_cons, List.map_cons, compileInTurn_cons, kindGroups]
    exact ((traced_compileFor (.kind name.text) s _).map fun _ => Fragment.normalise s).bind
      fun source _ => (ih hrest).map (kindGroup name.text source :: ·)

/-- A valid name can be written into a pattern. -/
theorem not_mem_of_isName {cs : List Char} (h : isName cs = true) {c : Char}
    (hc : Text.isAsciiWord c.toNat = false) : c ∉ cs := by
  cases cs with
  | nil => exact List.not_mem_nil
  | cons d ds =>
    rw [isName, Bool.and_eq_true, List.all_eq_true] at h
    intro hmem
    obtain rfl | hmem := List.mem_cons.mp hmem
    · have hstart := h.1
      rw [isNameStart, hc] at hstart
      cases hstart
    · exact absurd (h.2 c hmem) (by simp [hc])

/-- Groups are found if all names are in the pattern. -/
theorem groupsOf_of_lookup {p : Pattern} {names : List Value}
    (h : ∀ v ∈ names, ∃ n g, v = .str n ∧ p.names.lookup n = some g) :
    ∃ groups, AnnotationMatcher.groupsOf p names = .ok groups := by
  induction names with
  | nil => exact ⟨[], rfl⟩
  | cons v names ih =>
    obtain ⟨⟨n, g, rfl, hlookup⟩, hrest⟩ := List.forall_mem_cons.mp h
    obtain ⟨groups, hgroups⟩ := ih hrest
    refine ⟨(n, g) :: groups, ?_⟩
    rw [AnnotationMatcher.groupsOf, AnnotationMatcher.groupOf?, hlookup, hgroups]
    rfl

/-- Every kind with a valid name has a group of its name in the pattern of all kinds. -/
theorem groupsOf_combinedKinds {drafts : List KindDraft} (hdrafts : ∀ d ∈ drafts, d.Checked)
    {groups : List String}
    (hgroups : kindGroups (drafts.map fun k => (k.name, k.pattern)) = .ok groups) {p : Pattern}
    (hp : Pattern.compile (combinedKinds groups) = .ok p) :
    ∃ gs, AnnotationMatcher.groupsOf p
      ((drafts.map fun k => (k.name, k.pattern)).map Prod.fst) = .ok gs := by
  have hkinds : ∀ k ∈ drafts.map fun k => (k.name, k.pattern),
      ∃ n : String, k.1 = .str n ∧ isName n.toList = true := by
    rw [List.forall_mem_map]
    intro d hd
    obtain ⟨n, _, hname, hvalid, -⟩ := hdrafts d hd
    exact ⟨n, hname, hvalid⟩
  generalize drafts.map (fun k => (k.name, k.pattern)) = kinds at hgroups hkinds
  obtain ⟨es, rfl, hes⟩ := kindGroups_ok hgroups
  -- A valid name is written into the pattern as it is, so its group is known by that name.
  have hvalid : ∀ e ∈ es, e.Valid := by
    refine forall_mem_of_forall₂ hes hkinds fun k e ⟨n, hn, hname⟩ he => ?_
    have hsame : n = e.name := by
      have := he.name
      rwa [hn] at this
    subst hsame
    exact ⟨not_mem_of_isName hname (by decide +kernel), not_mem_of_isName hname (by decide +kernel),
      he.fragment.compiles⟩
  obtain rfl | hne := eq_or_ne es []
  · cases hes
    exact ⟨[], rfl⟩
  obtain ⟨parts, -, -, -, -, hplaced⟩ := compile_combinedKinds hne hvalid hp
  have hnumbers : ∀ e ∈ es, ∃ g, p.names.lookup e.name = some g :=
    forall_mem_of_forall₂ hplaced.flip (fun _ _ => trivial) fun part e _ h => ⟨part.1, h.lookup⟩
  have hlookup : ∀ k ∈ kinds, ∃ g, p.names.lookup k.1.text = some g :=
    forall_mem_of_forall₂ hes.flip hnumbers fun e k hg he => he.name ▸ hg
  refine groupsOf_of_lookup (List.forall_mem_map.mpr fun k hk => ?_)
  obtain ⟨n, hn, -⟩ := hkinds k hk
  obtain ⟨g, hg⟩ := hlookup k hk
  rw [hn] at hg ⊢
  exact ⟨n, g, rfl, hg⟩

/-- Kinds are compiled one by one, and then all together. -/
theorem traced_ofKinds {drafts : List KindDraft} (hdrafts : ∀ d ∈ drafts, d.Checked) :
    Traced shown (kindTexts drafts)
      (AnnotationMatcher.ofKinds (drafts.map fun k => (k.name, k.pattern))) := by
  have hfragments : (drafts.map fun k => (k.name, k.pattern)).map Prod.snd =
      drafts.map (·.pattern) := by
    rw [List.map_map]
    rfl
  have htexts : AllTexts (drafts.map (·.pattern)) := by
    refine List.forall_mem_map.mpr fun d hd => ?_
    obtain ⟨_, p, -, -, hp⟩ := hdrafts d hd
    exact ⟨p, hp⟩
  rw [kindTexts, compileTogether_eq, ← hfragments]
  refine ((traced_kindGroups (hfragments ▸ htexts)).map combinedKinds).bind fun source hsource => ?_
  rw [annotationPattern, hsource]
  obtain ⟨groups, hgroups, hcombined⟩ := bind_eq_ok.mp hsource
  cases hcombined
  have hgood : inTurn (compileInTurn [some (combinedKinds groups)]) ([], true) =
      compileInTurn [some (combinedKinds groups)] := inTurn_nil _
  refine hgood ▸ (traced_compileFor .allKinds _ _).bind fun p hp => ?_
  -- What is left is to look up the groups, which cannot fail.
  obtain ⟨gs, hgs⟩ := groupsOf_combinedKinds hdrafts hgroups (compileFor_ok hp)
  rw [hgs]
  exact .ok _

end Kinds

/-! ## Registries -/

/-- A section of tables, as a file gives it. -/
def Section.ofTables {α : Type} (entry : Value → α) (ts : List (List (String × Value))) :
    Section α := .entries (ts.map fun t => entry (.table t))

/-- The values that a refusal can show: the names of the kinds, and the items of the lists in a
language. -/
def Shown (kinds languages : List (List (String × Value))) (v : Value) : Prop :=
  (∃ t ∈ kinds, t.lookup "name" = some v) ∨ ∃ t ∈ languages, ItemOf t v

/-- A plan from tables has no entries of other sorts. -/
theorem Plan.of_tables (kinds languages : List (List (String × Value))) :
    Plan.of (.ofTables .value kinds) (.ofTables .value languages) = (do
      let drafts ← draftsFrom [] (kinds.map fun t => .value (.table t))
      let m ← AnnotationMatcher.ofKinds (drafts.map fun k => (k.name, k.pattern))
      return ⟨(drafts.zip m.kinds).map fun (k, name) => k.named name, m,
        ← compileLanguages m (languages.map fun t => .value (.table t))⟩) := rfl

/-- If the kinds cannot be read then no text is compiled. -/
theorem compiledTexts_error {kinds : List (List (String × Value))} {e : RebuildError}
    (h : draftsFrom [] (kinds.map fun t => .value (.table t)) = .error e)
    (languages : List (List (String × Value))) :
    compiledTexts (.ofTables .value kinds) (.ofTables .value languages) = [] := by
  unfold compiledTexts Section.ofTables
  dsimp only
  rw [h]

/-- Otherwise texts of kinds come before those of languages. -/
theorem compiledTexts_ok {kinds languages : List (List (String × Value))} {drafts : List KindDraft}
    (h : draftsFrom [] (kinds.map fun t => .value (.table t)) = .ok drafts)
    {c : List String × Bool} (hc : c.1 = languageTexts (languages.map fun t => .value (.table t))) :
    (inTurn (kindTexts drafts) c).1 =
      compiledTexts (.ofTables .value kinds) (.ofTables .value languages) := by
  unfold compiledTexts Section.ofTables
  dsimp only
  rw [h]
  dsimp only
  obtain ⟨texts, good⟩ := kindTexts drafts
  cases good with
  | false => rfl
  | true => exact congrArg (texts ++ ·) hc

/-- Building from tables is followed through all texts that it compiles. -/
theorem traced_plan (kinds languages : List (List (String × Value))) :
    ∃ c : List String × Bool,
      c.1 = compiledTexts (.ofTables .value kinds) (.ofTables .value languages) ∧
      Traced (Shown kinds languages) c
        (Plan.of (.ofTables .value kinds) (.ofTables .value languages)) := by
  have hdrafts := @draftsFrom_tables kinds [] nofun
  rw [Plan.of_tables]
  cases hd : draftsFrom [] (kinds.map fun t => .value (.table t)) with
  | error e =>
    refine ⟨([], false), (compiledTexts_error hd languages).symm, ?_⟩
    refine Traced.bind_error (.of_errors fun e' he => ?_) _
    refine (hdrafts.1 e' (hd.trans he)).imp_right ?_
    rintro ⟨h, v, hv, hlong⟩
    exact ⟨h, v, .inl hv, hlong⟩
  | ok drafts =>
    have hitems : ∀ t ∈ languages, ∀ v, ItemOf t v → Shown kinds languages v :=
      fun t ht v hv => .inr ⟨t, ht, hv⟩
    obtain ⟨c, hc, hlanguages⟩ := traced_compileLanguages hitems
    exact ⟨_, compiledTexts_ok hd hc,
      (traced_ofKinds (hdrafts.2 drafts hd)).bind fun m _ => (hlanguages m).map _⟩

/-- A sink that refuses nothing has a style for each kind. -/
theorem allocateStyles_of_accepting {specs : List KindSpec} {s : Sink} (hs : s.refused = [])
    (done : List Nat) : ∃ handles t, allocateStyles done specs s = (.ok handles, t) := by
  induction specs generalizing done s with
  | nil => exact ⟨done, s, rfl⟩
  | cons k specs ih =>
    have hcreate : ∃ h t, s.create k.name k.style = .ok (h, t) ∧ t.refused = [] := by
      unfold Sink.create
      rw [hs]
      exact ⟨_, _, rfl, rfl⟩
    obtain ⟨h, t, hcreate, ht⟩ := hcreate
    rw [allocateStyles, hcreate]
    exact ih ht _

/-- With such a sink, or without one, a registry cannot be built only if there is no plan. -/
theorem rebuild_error_iff {annotations : Section AnnotationEntry}
    {languages : Section LanguageEntry} {sink : Option Sink}
    (hsink : ∀ s ∈ sink, s.refused = []) (previous : Option Registry) (e : RebuildError) :
    (rebuild annotations languages sink previous).result = .error e ↔
      Plan.of annotations languages = .error e := by
  unfold rebuild
  cases hplan : Plan.of annotations languages with
  | error e' =>
    exact ⟨fun h => congrArg _ (Except.error.inj h), fun h => congrArg _ (Except.error.inj h)⟩
  | ok plan =>
    refine ⟨fun h => ?_, nofun⟩
    cases sink with
    | none => cases h
    | some s =>
      obtain ⟨handles, t, hstyles⟩ := @allocateStyles_of_accepting plan.specs s (hsink s rfl) []
      simp only [hstyles] at h
      cases previous <;> cases h

/-- What building a registry from two sections of tables comes to. -/
inductive Built (kinds languages : List (List (String × Value))) :
    Except RebuildError Registry → Prop
  | registry (r : Registry) : Built kinds languages (.ok r)
  | refused (reason : RegistryError) : Built kinds languages (.error (.rejected reason))
  | limit {source : String} {e : Pattern.Error}
      (hmem : source ∈ compiledTexts (.ofTables .value kinds) (.ofTables .value languages))
      (hlimit : HitsLimit source e) : Built kinds languages (.error (.patternLimit e))
  | tooLong {v : Value} (hshown : Shown kinds languages v) (hlong : v.isTooLong = true) :
      Built kinds languages (.error .tooLongToWrite)

section Tables

variable (kinds languages : List (List (String × Value)))

/-- Building from tables comes to one of the four. -/
theorem built_of_tables {sink : Option Sink} (hsink : ∀ s ∈ sink, s.refused = [])
    (previous : Option Registry) : Built kinds languages
      (rebuild (.ofTables .value kinds) (.ofTables .value languages) sink previous).result := by
  obtain ⟨c, hc, htraced⟩ := traced_plan kinds languages
  cases hr : (rebuild (.ofTables .value kinds) (.ofTables .value languages) sink
    previous).result with
  | ok r => exact .registry r
  | error e =>
    have hplan := (rebuild_error_iff hsink previous e).mp hr
    obtain ⟨reason, rfl⟩ | ⟨l, rfl⟩ | ⟨rfl, v, hv, hlong⟩ := htraced.declared e hplan
    · exact .refused reason
    · obtain ⟨source, hmem, hlimit⟩ := (htraced.limit l).mp hplan
      exact .limit (hc ▸ hmem) hlimit
    · exact .tooLong hv hlong

/-- Building fails for a limit if and only if a text that is compiled hits it. -/
theorem rebuild_patternLimit_iff {sink : Option Sink} (hsink : ∀ s ∈ sink, s.refused = [])
    (previous : Option Registry) (e : Pattern.Error) :
    (rebuild (.ofTables .value kinds) (.ofTables .value languages) sink previous).result =
        .error (.patternLimit e) ↔
      ∃ source ∈ compiledTexts (.ofTables .value kinds) (.ofTables .value languages),
        HitsLimit source e := by
  obtain ⟨c, hc, htraced⟩ := traced_plan kinds languages
  rw [rebuild_error_iff hsink, htraced.limit e, hc]

/-- A reload succeeds when no text hits a limit and every value can be shown. -/
theorem reload_ok_of_tables {s : Session} {path : Option Path}
    (hsource : s.source = .ok ⟨.ofTables .value kinds, .ofTables .value languages, path⟩)
    (hsink : ∀ t ∈ some s.sink, t.refused = [])
    (hlimit : ∀ text ∈ compiledTexts (.ofTables .value kinds) (.ofTables .value languages),
      ∀ e, ¬ HitsLimit text e)
    (hlong : ∀ v, Shown kinds languages v → v.isTooLong = false) :
    ∃ outcome, s.reload.result = .ok outcome := by
  cases hr : s.reload.result with
  | ok outcome => exact ⟨outcome, rfl⟩
  | error e =>
    obtain ⟨_, h, -⟩ | ⟨c, e', h, -, hb, hne, -⟩ := (s.reload_eq_error_iff e).mp hr
    · cases hsource.symm.trans h
    cases hsource.symm.trans h
    have hbuilt := built_of_tables kinds languages hsink s.registry
    rw [hb] at hbuilt
    cases hbuilt with
    | refused reason => exact absurd rfl (hne reason)
    | limit hmem h => exact absurd h (hlimit _ hmem _)
    | tooLong hshown h => exact absurd (h.symm.trans (hlong _ hshown)) nofun

/-- Building a registry from two sections of tables that are nested no deeper than the limit, with a
sink that refuses no style, ends in a registry or in a refusal, unless a text that is compiled hits a
limit of patterns or a number in a value that would be shown is too long.  If there is neither, a
reload of a session with these sections never ends in an error, provided that extraction ends on the
open documents; and whenever the sections are refused, it leaves everything as it was.  A limit ends
a reload.

Nothing in the proof rests on the bound on the nesting: it keeps to tables that a machine can deal
with. -/
theorem rebuild_of_tables (_ : Value.tablesAreShallow kinds = true)
    (_ : Value.tablesAreShallow languages = true) :
    (∀ (sink : Option Sink) (previous : Option Registry), (∀ s ∈ sink, s.refused = []) →
      Built kinds languages
        (rebuild (.ofTables .value kinds) (.ofTables .value languages) sink previous).result ∧
      ∀ e, (rebuild (.ofTables .value kinds) (.ofTables .value languages) sink previous).result =
          .error (.patternLimit e) ↔
        ∃ source ∈ compiledTexts (.ofTables .value kinds) (.ofTables .value languages),
          HitsLimit source e) ∧
    ∀ (documents : List (Option Document)) (workspace : Workspace)
        (source : Except LoadError Config) (es : List Session.Event) (path : Option Path),
      let s := (Session.new documents workspace source).run es
      s.source = .ok ⟨.ofTables .value kinds, .ofTables .value languages, path⟩ →
      s.sink.refused = [] →
      (∀ reason, (rebuild (.ofTables .value kinds) (.ofTables .value languages) (some s.sink)
          s.registry).result = .error (.rejected reason) →
        s.reload.result = .ok (.generation s.generation) ∧
        Session.Keeps s s.reload.session (some (.registry reason))) ∧
      ((∀ text ∈ compiledTexts (.ofTables .value kinds) (.ofTables .value languages),
          ∀ e, ¬ HitsLimit text e) →
        (∀ v, Shown kinds languages v → v.isTooLong = false) →
        (∀ r, (rebuild (.ofTables .value kinds) (.ofTables .value languages) (some s.sink)
          s.registry).result = .ok r → ∀ v ∈ s.visible, r.EndsOn v.2) →
        ∃ outcome, s.reload.result = .ok outcome) ∧
      ∀ text ∈ compiledTexts (.ofTables .value kinds) (.ofTables .value languages),
        ∀ e, HitsLimit text e → s.reload.result = .error (.rebuild (.patternLimit e)) := by
  refine ⟨fun sink previous hsink => ⟨built_of_tables kinds languages hsink previous,
    rebuild_patternLimit_iff kinds languages hsink previous⟩, ?_⟩
  intro documents workspace source es path s hsource hrefused
  have hs : s.Sound := (Session.new_sound documents workspace source).run es
  have hsink : ∀ t ∈ some s.sink, t.refused = [] := by
    rintro t ⟨⟩
    exact hrefused
  -- In turn: a refusal, no limit and no long number, and a limit.
  refine ⟨fun reason h => ?_, fun hlimit hlong _ => ?_, fun text hmem e hlimit => ?_⟩
  · obtain ⟨hresult, -, hkeeps⟩ := (Session.Refuses.registry hsource rfl h).reload hs
    exact ⟨hresult, hkeeps⟩
  · exact reload_ok_of_tables kinds languages hsource hsink hlimit hlong
  · have hresult := (rebuild_patternLimit_iff kinds languages hsink s.registry e).mpr
      ⟨text, hmem, hlimit⟩
    exact (s.reload_eq_error_iff _).mpr (.inr ⟨_, _, hsource, rfl, hresult, nofun, rfl⟩)

end Tables

/-- A table of a kind with the given fragment. -/
def kindTable (fragment : String) : List (String × Value) :=
  [("name", .str "A"), ("pattern", .str fragment)]

/-- A session whose configuration has one kind, with the given fragment, and no languages. -/
def sessionWith (fragment : String) : Session :=
  .new [] ⟨[], none⟩ (.ok ⟨.ofTables .value [kindTable fragment], .ofTables .value [], none⟩)

/-- One letter as a fragment is accepted. -/
theorem rebuild_of_tables_letter :
    Value.tablesAreShallow [kindTable "x"] = true ∧ Value.tablesAreShallow [] = true ∧
    Built [kindTable "x"] [] (rebuild (.ofTables .value [kindTable "x"]) (.ofTables .value [])
      (some {}) none).result ∧
    ∃ outcome, (sessionWith "x").reload.result = .ok outcome := by
  have hshallow : Value.tablesAreShallow [kindTable "x"] = true := by decide +kernel
  obtain ⟨hbuilt, hsessions⟩ := rebuild_of_tables [kindTable "x"] [] hshallow rfl
  have hnone : (sessionWith "x").visible = [] := rfl
  refine ⟨hshallow, rfl, (hbuilt (some {}) none ?_).1,
    (hsessions [] ⟨[], none⟩ _ [] none rfl rfl).2.1 ?_ ?_ fun r _ v hv => ?_⟩
  · rintro s ⟨⟩
    rfl
  · have htexts : compiledTexts (.ofTables .value [kindTable "x"]) (.ofTables .value []) =
        ["x", "(?P<A>x)"] := by decide +kernel
    have hcompile : ∀ text ∈ ["x", "(?P<A>x)"], (Pattern.compile text).toBool = true := by
      decide +kernel
    rintro text hmem e ⟨⟨r, hr, -⟩, -⟩
    have hok := hcompile text (htexts ▸ hmem)
    rw [hr] at hok
    cases hok
  · rintro v (⟨t, ht, hv⟩ | ⟨t, ht, -⟩)
    · rw [List.mem_singleton.mp ht] at hv
      cases hv
      rfl
    · cases ht
  · exact absurd hv (hnone ▸ List.not_mem_nil)

/-- A repetition count that is too large: there is no registry, and the error is no refusal. -/
theorem rebuild_repetitionTooLarge :
    (∀ sink previous, (rebuild (.ofTables .value [kindTable "x\x7b4294967295\x7d"])
      (.ofTables .value []) sink previous).result = .error (.patternLimit .repetitionTooLarge)) ∧
    (sessionWith "x\x7b4294967295\x7d").reload.result =
      .error (.rebuild (.patternLimit .repetitionTooLarge)) := by
  have hplan : Plan.of (.ofTables .value [kindTable "x\x7b4294967295\x7d"])
      (.ofTables .value []) = .error (.patternLimit .repetitionTooLarge) := rfl
  have hresult (sink : Option Sink) (previous : Option Registry) :
      (rebuild (.ofTables .value [kindTable "x\x7b4294967295\x7d"]) (.ofTables .value []) sink
        previous).result = .error (.patternLimit .repetitionTooLarge) := by
    rw [rebuild, hplan]
  exact ⟨hresult, (Session.reload_eq_error_iff _ _).mpr
    (.inr ⟨_, _, rfl, rfl, hresult _ _, nofun, rfl⟩)⟩

end Marginalia
