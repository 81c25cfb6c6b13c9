import Marginalia.Proofs.Registry.Refusals

/-!
# The checks of a configuration, in order

A configuration of two sections of tables is refused for the first rule that it breaks.  The rules
are listed here one by one, as data (`checks`): what each asks of which entry, and the error if the
entry breaks it (`Check.failure?`).  First come the entries of the kinds, one after the other, then
their fragments, then the combined pattern of all kinds, and then the languages one after the other,
each with the shape of its entry, its fragments and its combined pattern.

Building a registry ends in the failure of the first check that fails, and if none fails in a
registry that has what the tables say (`rebuild_first_failure`).  `Performs` is the statement form:
a computation makes the given checks, and what it returns if all of them pass has a property.
-/

namespace Marginalia

/-! ## What a table says -/

/-- The text that a value is. -/
def Value.str? : Value → Option String
  | .str s => some s
  | _ => none

namespace Entry

/-- The name in the table of a kind. -/
def name (t : List (String × Value)) : String := ((t.lookup "name").bind Value.str?).getD ""

/-- The fragment in the table of a kind. -/
def pattern (t : List (String × Value)) : String := ((t.lookup "pattern").bind Value.str?).getD ""

/-- The markdown flag in the table of a kind, if there is one; the first spelling comes first. -/
def markdown? (t : List (String × Value)) : Option Value :=
  (t.lookup "isMarkdown").or (t.lookup "is_markdown")

/-- The texts in a list of the table of a language, under one of two spellings of its key. -/
def texts (key other : String) (t : List (String × Value)) : List String :=
  ((Language.field? t key other).elements?.getD []).filterMap Value.str?

/-- The kind that a table describes. -/
def kind (t : List (String × Value)) : KindSpec where
  name := name t
  pattern := .text (pattern t)
  style := .ofTable (t.filter fun e => e.1 ∉ ["name", "pattern", "isMarkdown", "is_markdown"])
  markdown := match markdown? t with
    | some (.bool b) => b
    | _ => false

/-- The language that a table describes. -/
def language (t : List (String × Value)) : Language where
  ids := Language.idSet (texts "languageIds" "language_ids" t)
  lineComments := (texts "lineComments" "line_comments" t).map .text
  blockComments := (texts "blockComments" "block_comments" t).map .text
  skippedBlocks := (texts "skippedBlocks" "skipped_blocks" t).map .text

end Entry

/-! ## Checks -/

/-- A rule for a configuration of tables. -/
inductive Check
  /-- The kind has a valid name. -/
  | name (t : List (String × Value))
  /-- The kind has a fragment. -/
  | pattern (t : List (String × Value))
  /-- The markdown flag of the kind is a truth value. -/
  | markdown (t : List (String × Value))
  /-- No kind before has the name. -/
  | unused (before : List (List (String × Value))) (t : List (String × Value))
  /-- The pattern compiles. -/
  | compiles (owner : PatternOwner) (shown source : String)
  /-- The value under the key, in one of two spellings, is a list of texts, or missing. -/
  | texts (key other : String) (t : List (String × Value))
  /-- The language has an identifier. -/
  | someId (t : List (String × Value))

namespace Check

/-- The error for an entry that breaks the rule, given that it kept the rules before. -/
def failure? : Check → Option RebuildError
  | .name t =>
    match t.lookup "name" with
    | some (.str n) => if isName n.toList then none else some (.rejected (.invalidName (.str n)))
    | v => some (.showing (v.getD .null) (.invalidName (v.getD .null)))
  | .pattern t =>
    match t.lookup "pattern" with
    | some (.str _) => none
    | _ => some (.rejected (.badKind (.noPattern (Entry.name t))))
  | .markdown t =>
    match Entry.markdown? t with
    | none => none
    | some (.bool _) => none
    | _ => some (.rejected (.badKind (.markdownNotBool (Entry.name t))))
  | .unused before t =>
    if Entry.name t ∈ before.map Entry.name then some (.rejected (.duplicateName (Entry.name t)))
    else none
  | .compiles owner shown source =>
    match Pattern.compile source with
    | .ok _ => none
    | .error e => some (refusal owner shown source e.error)
  | .texts key other t =>
    match Language.field? t key other with
    | .null => none
    | .list items =>
      (items.find? (·.str?.isNone)).map fun v => .showing v (.grammar (.notText key v))
    | .table _ => none
    | _ => some (.rejected (.grammar (.notList key)))
  | .someId t =>
    if Entry.texts "languageIds" "language_ids" t = [] then some (.rejected (.grammar .noIds))
    else none

/-- A fragment has to compile on its own, in its normalised spelling. -/
def fragment (owner : PatternOwner) (s : String) : Check :=
  .compiles owner s (Fragment.normalise s)

end Check

/-- The checks of the entries of kinds, after those of the entries `before`. -/
def entryChecks (before : List (List (String × Value))) :
    List (List (String × Value)) → List Check
  | [] => []
  | t :: ts => [.name t, .pattern t, .markdown t, .unused before t] ++ entryChecks (before ++ [t]) ts

/-- The combined pattern of the kinds of the tables. -/
def kindSource (kinds : List (List (String × Value))) : String :=
  combinedKinds (kinds.map fun t =>
    kindGroup (Entry.name t) (Fragment.normalise (Entry.pattern t)))

/-- The checks of the patterns of the kinds. -/
def kindChecks (kinds : List (List (String × Value))) : List Check :=
  kinds.map (fun t => .fragment (.kind (Entry.name t)) (Entry.pattern t)) ++
    [.compiles .allKinds (kindSource kinds) (kindSource kinds)]

/-- The checks of the shape of a language. -/
def shapeChecks (t : List (String × Value)) : List Check :=
  [.texts "languageIds" "language_ids" t, .someId t, .texts "lineComments" "line_comments" t,
    .texts "blockComments" "block_comments" t, .texts "skippedBlocks" "skipped_blocks" t]

/-- The combined pattern of the language of a table. -/
def commentSource (t : List (String × Value)) : String :=
  combinedComments
    ((Entry.texts "lineComments" "line_comments" t ++
      Entry.texts "blockComments" "block_comments" t).map Fragment.normalise)
    ((Entry.texts "skippedBlocks" "skipped_blocks" t).map Fragment.normalise)

/-- The checks of the patterns of a language. -/
def commentChecks (t : List (String × Value)) : List Check :=
  let owner := (Entry.language t).owner
  (Entry.texts "lineComments" "line_comments" t ++ Entry.texts "blockComments" "block_comments" t ++
      Entry.texts "skippedBlocks" "skipped_blocks" t).map (.fragment owner) ++
    [.compiles owner (commentSource t) (commentSource t)]

/-- All checks of a configuration, in the order in which they are made. -/
def checks (kinds languages : List (List (String × Value))) : List Check :=
  entryChecks [] kinds ++ kindChecks kinds ++
    languages.flatMap fun t => shapeChecks t ++ commentChecks t

/-! ## Making checks -/

/-- The computation makes the checks, in order: it ends in the failure of the first one that fails,
and if none fails it returns something with the property. -/
structure Performs {α : Type} (cs : List Check) (x : Except RebuildError α) (P : α → Prop) :
    Prop where
  outcome : match cs.findSome? Check.failure? with
    | some e => x = .error e
    | none => ∃ a, x = .ok a ∧ P a

/-- The first check fails, or one of the rest. -/
theorem findSome?_checks (c : Check) (cs : List Check) :
    (c :: cs).findSome? Check.failure? = c.failure?.or (cs.findSome? Check.failure?) := by
  rw [List.findSome?_cons]
  cases c.failure? <;> rfl

namespace Performs

variable {α β : Type} {c : Check} {cs ds : List Check} {x : Except RebuildError α}
  {f : α → Except RebuildError β} {P : α → Prop} {Q : β → Prop}

/-- Without checks there is only a result. -/
theorem ok {a : α} (h : P a) : Performs [] (.ok a) P := ⟨a, rfl, h⟩

/-- The first check fails. -/
theorem failed {e : RebuildError} (hc : c.failure? = some e) (hx : x = .error e) :
    Performs (c :: cs) x P := by
  constructor
  rwa [findSome?_checks, hc]

/-- The first check is passed, and the rest decide. -/
theorem passed (hc : c.failure? = none) (hx : Performs cs x P) : Performs (c :: cs) x P := by
  constructor
  rw [findSome?_checks, hc, Option.none_or]
  exact hx.outcome

/-- The checks of the second step come behind those of the first. -/
theorem bind (hx : Performs cs x P) (hf : ∀ a, P a → Performs ds (f a) Q) :
    Performs (cs ++ ds) (x >>= f) Q := by
  have houtcome := hx.outcome
  constructor
  rw [List.findSome?_append]
  cases hcs : cs.findSome? Check.failure? with
  | some e =>
    rw [hcs] at houtcome
    cases houtcome
    rfl
  | none =>
    rw [hcs] at houtcome
    obtain ⟨a, rfl, ha⟩ := houtcome
    exact (hf a ha).outcome

/-- One check, and then the others. -/
theorem cons (hx : Performs [c] x P) (hf : ∀ a, P a → Performs cs (f a) Q) :
    Performs (c :: cs) (x >>= f) Q :=
  hx.bind hf

/-- What is returned has the property. -/
theorem of_ok {a : α} (hx : Performs cs x P) (h : x = .ok a) : P a := by
  have houtcome := hx.outcome
  split at houtcome
  · cases houtcome.symm.trans h
  · obtain ⟨b, hb, hPb⟩ := houtcome
    cases hb.symm.trans h
    exact hPb

/-- What is returned is known to be returned. -/
theorem returns (hx : Performs cs x P) : Performs cs x fun a => x = .ok a ∧ P a := by
  have houtcome := hx.outcome
  constructor
  split at houtcome
  · exact houtcome
  · obtain ⟨a, hxa, ha⟩ := houtcome
    exact ⟨a, hxa, hxa, ha⟩

/-- What comes after a computation and cannot fail makes no check. -/
theorem bind_ok (hx : Performs cs x P) (hf : ∀ a, P a → ∃ b, f a = .ok b ∧ Q b) :
    Performs cs (x >>= f) Q := by
  have hbind : Performs (cs ++ []) (x >>= f) Q := hx.bind fun a ha => ⟨hf a ha⟩
  rwa [List.append_nil] at hbind

/-- What is made of the result has what follows from its property. -/
theorem map (hx : Performs cs x P) (g : α → β) (h : ∀ a, P a → Q (g a)) :
    Performs cs (do return g (← x)) Q :=
  hx.bind_ok fun a ha => ⟨g a, rfl, h a ha⟩

end Performs

/-! ## Entries of kinds -/

/-- The name of the table is valid. -/
def Entry.Named (t : List (String × Value)) : Prop :=
  t.lookup "name" = some (.str (Entry.name t)) ∧ isName (Entry.name t).toList = true

/-- The markdown flag in either spelling, the first one first. -/
theorem markdownField_eq (t : List (String × Value)) :
    markdownField t = (Entry.markdown? t).getD (.bool false) := by
  unfold markdownField Entry.markdown?
  cases t.lookup "isMarkdown" <;> rfl

/-- All other fields are for styles. -/
theorem styleFields_eq (t : List (String × Value)) : styleFields t =
    t.filter fun e => e.1 ∉ ["name", "pattern", "isMarkdown", "is_markdown"] := by
  unfold styleFields reservedKeys
  congr 1
  funext e
  rw [List.contains_eq_mem, Bool.eq_iff_iff]
  simp

/-- A table of a kind is checked for its name, its pattern and its flag. -/
theorem performs_ofFields (t : List (String × Value)) :
    Performs [.name t, .pattern t, .markdown t] (KindDraft.ofFields t) fun d =>
      d = (Entry.kind t).draft ∧ Entry.Named t := by
  -- The fields are looked at in the order of the checks; a field that passes leads to the next one.
  unfold KindDraft.ofFields
  cases hn : t.lookup "name" with
  | none => exact .failed (by rw [Check.failure?, hn]) rfl
  | some v =>
    cases v with
    | str n =>
      have hname : Entry.name t = n := by simp [Entry.name, hn, Value.str?]
      dsimp only [Option.getD_some]
      cases hvalid : isName n.toList with
      | false => exact .failed (by simp [Check.failure?, hn, hvalid]) rfl
      | true =>
        refine .passed (by simp [Check.failure?, hn, hvalid]) ?_
        cases hp : t.lookup "pattern" with
        | none => exact .failed (by rw [Check.failure?, hp, hname]) rfl
        | some w =>
          cases w with
          | str p =>
            have hpattern : Entry.pattern t = p := by simp [Entry.pattern, hp, Value.str?]
            have hnamed : Entry.Named t := ⟨hname ▸ hn, hname ▸ hvalid⟩
            refine .passed (by rw [Check.failure?, hp]) ?_
            rw [markdownField_eq, styleFields_eq]
            -- What is returned if the flag is one, with the value of the flag.
            have hreturned {b : Bool} (hb : (Entry.kind t).markdown = b) :
                (⟨.str n, .text p, .ofTable (t.filter fun e =>
                  e.1 ∉ ["name", "pattern", "isMarkdown", "is_markdown"]), b⟩ : KindDraft) =
                  (Entry.kind t).draft := by
              rw [KindSpec.draft, hb, ← hname, ← hpattern]
              rfl
            cases hm : Entry.markdown? t with
            | none =>
              refine .passed (by rw [Check.failure?, hm]) (.ok ⟨hreturned ?_, hnamed⟩)
              simp only [Entry.kind, hm]
            | some u =>
              cases u with
              | bool b =>
                refine .passed (by rw [Check.failure?, hm]) (.ok ⟨hreturned ?_, hnamed⟩)
                simp only [Entry.kind, hm]
              | _ => exact .failed (by rw [Check.failure?, hm, hname]) rfl
          | _ => exact .failed (by rw [Check.failure?, hp, hname]) rfl
    | _ => exact .failed (by rw [Check.failure?, hn]) rfl

/-- Tables of kinds are checked one after the other, each against those before it. -/
theorem performs_draftsFrom (before ts : List (List (String × Value)))
    (hbefore : ∀ t ∈ before, Entry.Named t) :
    Performs (entryChecks before ts)
      (draftsFrom (before.map fun t => (Entry.kind t).draft) (ts.map fun t => .value (.table t)))
      fun drafts => drafts = (before ++ ts).map (fun t => (Entry.kind t).draft) ∧
        ∀ t ∈ before ++ ts, Entry.Named t := by
  induction ts generalizing before with
  | nil =>
    rw [entryChecks, List.append_nil]
    exact .ok ⟨rfl, hbefore⟩
  | cons t ts ih =>
    have hchecks : entryChecks before (t :: ts) =
        [.name t, .pattern t, .markdown t] ++ ([.unused before t] ++ entryChecks (before ++ [t]) ts) :=
      rfl
    rw [hchecks, List.map_cons, draftsFrom]
    refine (performs_ofFields t).bind ?_
    rintro _ ⟨rfl, hnamed⟩
    have hall : ∀ u ∈ before ++ [t], Entry.Named u :=
      List.forall_mem_append.mpr ⟨hbefore, List.forall_mem_singleton.mpr hnamed⟩
    have hrest := ih (before ++ [t]) hall
    rw [List.map_append, List.map_singleton, List.append_assoc, List.singleton_append] at hrest
    -- The names before are texts, so comparing keys is comparing texts.
    have hsame : (before.map fun t => (Entry.kind t).draft).any
          (·.name.sameKey (Entry.kind t).draft.name) = true ↔
        Entry.name t ∈ before.map Entry.name := by
      rw [List.any_map, List.any_eq_true, List.mem_map]
      refine exists_congr fun u => and_congr_right fun _ => ?_
      exact beq_iff_eq
    have hkey : (Entry.kind t).draft.name.unusableKey? = none := rfl
    simp only [hkey]
    by_cases hused : Entry.name t ∈ before.map Entry.name
    · rw [if_pos (hsame.mpr hused)]
      exact .failed (if_pos hused) rfl
    · rw [if_neg (mt hsame.mp hused)]
      exact .passed (if_neg hused) hrest

/-! ## Patterns -/

/-- A pattern that an owner needs is checked by compiling it. -/
theorem performs_compileFor (owner : PatternOwner) (shown source : String) :
    Performs [.compiles owner shown source] (compileFor owner shown source)
      fun p => Pattern.compile source = .ok p := by
  unfold compileFor
  cases hp : Pattern.compile source with
  | ok p => exact .passed (by rw [Check.failure?, hp]) (.ok rfl)
  | error r => exact .failed (by rw [Check.failure?, hp]) rfl

/-- A fragment is checked in its normalised spelling. -/
theorem performs_checkFragment (owner : PatternOwner) (s : String) :
    Performs [.fragment owner s] (checkFragment owner (.text s)) (· = Fragment.normalise s) := by
  rw [Check.fragment, checkFragment]
  exact (performs_compileFor owner s (Fragment.normalise s)).map _ fun _ _ => rfl

/-- Fragments are checked one after the other. -/
theorem performs_checkFragments (owner : PatternOwner) (ss : List String) :
    Performs (ss.map (.fragment owner)) (checkFragments owner (ss.map .text))
      (· = ss.map Fragment.normalise) := by
  induction ss with
  | nil => exact .ok rfl
  | cons s ss ih =>
    rw [List.map_cons, List.map_cons, checkFragments]
    refine (performs_checkFragment owner s).cons ?_
    rintro _ rfl
    refine ih.map _ ?_
    rintro _ rfl
    rfl

/-! ## Kinds -/

/-- So are the fragments of kinds, each of which becomes a group. -/
theorem performs_kindGroups (kinds : List (List (String × Value))) :
    Performs (kinds.map fun t => .fragment (.kind (Entry.name t)) (Entry.pattern t))
      (kindGroups (kinds.map fun t => ((Entry.kind t).draft.name, (Entry.kind t).draft.pattern)))
      (· = kinds.map fun t => kindGroup (Entry.name t) (Fragment.normalise (Entry.pattern t))) := by
  induction kinds with
  | nil => exact .ok rfl
  | cons t kinds ih =>
    rw [List.map_cons, List.map_cons, kindGroups]
    refine (performs_checkFragment (.kind (Entry.name t)) (Entry.pattern t)).cons ?_
    rintro _ rfl
    refine ih.map _ ?_
    rintro _ rfl
    rfl

/-- A table with a valid name gives a draft that can be checked. -/
theorem Entry.Named.checked {t : List (String × Value)} (h : Entry.Named t) :
    (Entry.kind t).draft.Checked :=
  ⟨Entry.name t, Entry.pattern t, rfl, h.2, rfl⟩

/-- Kinds are checked one by one and then together. -/
theorem performs_ofKinds {kinds : List (List (String × Value))}
    (hkinds : ∀ t ∈ kinds, Entry.Named t) :
    Performs (kindChecks kinds) (AnnotationMatcher.ofKinds
      ((kinds.map fun t => (Entry.kind t).draft).map fun k => (k.name, k.pattern)))
      fun m => m.kinds = kinds.map Entry.name ∧
        Pattern.compile (kindSource kinds) = .ok m.pattern := by
  have hdrafts : ∀ d ∈ kinds.map fun t => (Entry.kind t).draft, d.Checked :=
    List.forall_mem_map.mpr fun t ht => (hkinds t ht).checked
  have hpairs : (kinds.map fun t => (Entry.kind t).draft).map (fun k => (k.name, k.pattern)) =
      kinds.map fun t => ((Entry.kind t).draft.name, (Entry.kind t).draft.pattern) := by
    rw [List.map_map]
    rfl
  have hsource : Performs (kinds.map fun t => .fragment (.kind (Entry.name t)) (Entry.pattern t))
      (annotationPattern ((kinds.map fun t => (Entry.kind t).draft).map fun k =>
        (k.name, k.pattern)))
      fun source => source = kindSource kinds ∧ ∃ groups, source = combinedKinds groups ∧
        kindGroups ((kinds.map fun t => (Entry.kind t).draft).map fun k =>
          (k.name, k.pattern)) = .ok groups := by
    rw [hpairs]
    refine (performs_kindGroups kinds).returns.map combinedKinds ?_
    rintro groups ⟨hgroups, rfl⟩
    exact ⟨rfl, _, rfl, hgroups⟩
  refine hsource.bind ?_
  rintro _ ⟨rfl, groups, hcombined, hgroups⟩
  refine (performs_compileFor .allKinds _ _).bind_ok fun p hp => ?_
  -- What is left is to look up the groups, which cannot fail.
  obtain ⟨gs, hgs⟩ := groupsOf_combinedKinds hdrafts hgroups (hcombined ▸ hp)
  refine ⟨⟨p, gs⟩, by rw [hgs]; rfl, ?_, hp⟩
  have hnames := groupsOf_names hgs
  rw [hpairs, List.map_map] at hnames
  have hstrings : (kinds.map Entry.name).map Value.str = (gs.map Prod.fst).map Value.str := by
    rw [List.map_map, List.map_map]
    exact hnames
  exact (List.map_injective_iff.mpr fun _ _ => Value.str.inj) hstrings.symm

/-! ## Languages -/

/-- An error of either step is turned into a refusal. -/
theorem mapError_bind {ε ε' α β : Type} (g : ε → ε') (x : Except ε α) (f : α → Except ε β) :
    (x >>= f).mapError g = x.mapError g >>= fun a => (f a).mapError g := by
  cases x <;> rfl

/-- A list of texts fails at its first item that is not a text. -/
theorem textItems_of_find? (key : String) (items : List Value) :
    Language.textItems key items = match items.find? (·.str?.isNone) with
      | some v => .error (.notText key v)
      | none => .ok (items.filterMap Value.str?) := by
  induction items with
  | nil => rfl
  | cons v items ih =>
    cases v with
    | str s =>
      have hfind : (Value.str s :: items).find? (·.str?.isNone) = items.find? (·.str?.isNone) := rfl
      rw [Language.textItems, ih, hfind]
      cases items.find? (·.str?.isNone) <;> rfl
    | _ => rfl

/-- A list of texts is checked under the key that it has. -/
theorem performs_texts (key other : String) (t : List (String × Value)) :
    Performs [.texts key other t]
      ((Language.texts key (Language.field? t key other)).mapError GrammarError.refusal)
      (· = Entry.texts key other t) := by
  unfold Entry.texts
  cases hfield : Language.field? t key other with
  | null => exact .passed (by rw [Check.failure?, hfield]) (.ok rfl)
  | list items =>
    have hitems : Language.texts key (.list items) = Language.textItems key items := rfl
    rw [hitems, textItems_of_find?]
    cases hfind : items.find? (·.str?.isNone) with
    | some v =>
      refine .failed (e := .showing v (.grammar (.notText key v))) ?_ rfl
      simp only [Check.failure?, hfield, hfind, Option.map_some]
    | none =>
      exact .passed (by simp only [Check.failure?, hfield, hfind, Option.map_none]) (.ok rfl)
  | table entries =>
    have hkeys : Language.texts key (.table entries) =
        Language.textItems key (entries.map fun e => .str e.1) := rfl
    have hall : (entries.map fun e => Value.str e.1).find? (·.str?.isNone) = none := by
      rw [List.find?_map, List.find?_eq_none.mpr fun _ _ => by simp [Value.str?]]
      rfl
    rw [hkeys, textItems_of_find?, hall]
    exact .passed (by rw [Check.failure?, hfield]) (.ok rfl)
  | _ => exact .failed (e := .rejected (.grammar (.notList key))) (by rw [Check.failure?, hfield]) rfl

/-- A table of a language is checked for its shape. -/
theorem performs_grammar (t : List (String × Value)) :
    Performs (shapeChecks t) (LanguageEntry.value (.table t)).grammar (· = Entry.language t) := by
  have hgrammar : (LanguageEntry.value (.table t)).grammar =
      (Language.ofConfig (.table t)).mapError GrammarError.refusal := rfl
  rw [hgrammar, shapeChecks, Language.ofConfig, mapError_bind]
  refine (performs_texts _ _ t).cons ?_
  rintro _ rfl
  by_cases hids : Entry.texts "languageIds" "language_ids" t = []
  · refine .failed (if_pos hids) ?_
    rw [hids]
    rfl
  · refine .passed (if_neg hids) ?_
    have hsome : (Entry.texts "languageIds" "language_ids" t).isEmpty = false := by
      simpa using hids
    simp only [hsome, Bool.false_eq_true, if_false, mapError_bind]
    refine (performs_texts _ _ t).cons ?_
    rintro _ rfl
    refine (performs_texts _ _ t).cons ?_
    rintro _ rfl
    refine (performs_texts _ _ t).bind_ok ?_
    rintro _ rfl
    exact ⟨_, rfl, rfl⟩

/-- The language of the table, compiled, with the matcher of all kinds. -/
structure CompiledFrom (m : AnnotationMatcher) (t : List (String × Value)) (d : Descriptor) :
    Prop where
  language : d.language = Entry.language t
  comments : ∃ c, d.commentMatcher = some c ∧ d.language.commentMatcher = .ok c ∧
    Pattern.compile (commentSource t) = .ok c.pattern
  annotations : d.annotationMatcher = some m

/-- The fragments of a language are checked one by one and then together. -/
theorem performs_commentMatcher (t : List (String × Value)) :
    Performs (commentChecks t) (Entry.language t).commentMatcher
      fun c => Pattern.compile (commentSource t) = .ok c.pattern := by
  have hpattern : Performs ((Entry.texts "lineComments" "line_comments" t ++
      Entry.texts "blockComments" "block_comments" t ++
      Entry.texts "skippedBlocks" "skipped_blocks" t).map (.fragment (Entry.language t).owner))
      (Entry.language t).commentPattern (· = commentSource t) := by
    rw [List.map_append, List.map_append, List.append_assoc]
    refine (performs_checkFragments _ _).bind ?_
    rintro _ rfl
    refine (performs_checkFragments _ _).bind ?_
    rintro _ rfl
    refine (performs_checkFragments _ _).map _ ?_
    rintro _ rfl
    rw [commentSource, List.map_append]
  refine hpattern.bind ?_
  rintro _ rfl
  exact (performs_compileFor _ _ _).map CommentMatcher.mk fun p hp => hp

/-- A language is checked by compiling its patterns. -/
theorem performs_compileLanguage (m : AnnotationMatcher) (t : List (String × Value)) :
    Performs (commentChecks t) (compileLanguage m (Entry.language t)) (CompiledFrom m t) := by
  have hmap : compileLanguage m (Entry.language t) = (do
      return (⟨Entry.language t, some (← (Entry.language t).commentMatcher), some m⟩ :
        Descriptor)) := by
    unfold compileLanguage
    cases (Entry.language t).commentMatcher <;> rfl
  rw [hmap]
  exact (performs_commentMatcher t).returns.map _ fun c hc => ⟨rfl, ⟨c, rfl, hc⟩, rfl⟩

/-- Languages are checked one after the other, each for its shape first. -/
theorem performs_compileLanguages (m : AnnotationMatcher)
    (languages : List (List (String × Value))) :
    Performs (languages.flatMap fun t => shapeChecks t ++ commentChecks t)
      (compileLanguages m (languages.map fun t => .value (.table t)))
      (List.Forall₂ (CompiledFrom m) languages) := by
  induction languages with
  | nil => exact .ok .nil
  | cons t languages ih =>
    rw [List.flatMap_cons, List.append_assoc, List.map_cons, compileLanguages]
    refine (performs_grammar t).bind ?_
    rintro _ rfl
    exact (performs_compileLanguage m t).bind fun d hd => ih.map _ fun ds hds => .cons hd hds

/-! ## Whole configurations -/

/-- A plan makes all checks of the two sections, in order. -/
theorem performs_plan (kinds languages : List (List (String × Value))) :
    Performs (checks kinds languages)
      (Plan.of (.ofTables .value kinds) (.ofTables .value languages)) fun plan =>
        plan.specs = kinds.map Entry.kind ∧ (∀ t ∈ kinds, Entry.Named t) ∧
        plan.matcher.kinds = kinds.map Entry.name ∧
        Pattern.compile (kindSource kinds) = .ok plan.matcher.pattern ∧
        List.Forall₂ (CompiledFrom plan.matcher) languages plan.languages := by
  rw [Plan.of_tables, checks, List.append_assoc]
  refine (performs_draftsFrom [] kinds nofun).bind ?_
  rintro _ ⟨rfl, hnamed⟩
  rw [List.nil_append] at hnamed ⊢
  refine (performs_ofKinds hnamed).bind ?_
  rintro m ⟨hm, hpattern⟩
  refine (performs_compileLanguages m languages).map _ fun ds hds =>
    ⟨?_, hnamed, hm, hpattern, hds⟩
  dsimp only
  rw [hm, List.zip_map', List.map_map]
  rfl

/-- A registry that has what the tables say: the kinds with the configured names, which are distinct
and valid, in order, and the languages in order, with the one matcher of these kinds. -/
structure AsConfigured (kinds languages : List (List (String × Value))) (r : Registry) : Prop where
  names : kinds.map (·.lookup "name") = r.kindNames.map fun n => some (.str n)
  distinct : r.kindNames.Nodup
  valid : ∀ n ∈ r.kindNames, ∃ c cs, n.toList = c :: cs ∧ (c.isAlpha = true ∨ c = '_') ∧
    ∀ d ∈ cs, d.isAlphanum = true ∨ d = '_'
  specs : r.kinds.map (·.spec) = kinds.map Entry.kind
  matcher : r.matcher.kinds = r.kindNames
  pattern : Pattern.compile (kindSource kinds) = .ok r.matcher.pattern
  languages : List.Forall₂ (CompiledFrom r.matcher) languages r.languages

/-- Names are made of letters, digits and underscores. -/
theorem isAsciiWord_iff (c : Char) :
    Text.isAsciiWord c.toNat = true ↔ c.isAlphanum = true ∨ c = '_' := by
  have hunderscore : c = '_' ↔ c.toNat = 0x5f :=
    ⟨fun h => h ▸ rfl, fun h => Char.toNat_inj.mp h⟩
  delta Char.isAlphanum Char.isAlpha Char.isUpper Char.isLower Char.isDigit
  simp only [Text.isAsciiWord, Bool.or_eq_true, Bool.and_eq_true, decide_eq_true_eq, beq_iff_eq, hunderscore,
    ge_iff_le, UInt32.le_iff_toNat_le, Char.toNat]
  simp only [Char.reduceVal, UInt32.reduceToNat]
  omega

/-- They do not begin with a digit. -/
theorem isNameStart_iff (c : Char) : isNameStart c = true ↔ c.isAlpha = true ∨ c = '_' := by
  have hunderscore : c = '_' ↔ c.toNat = 0x5f :=
    ⟨fun h => h ▸ rfl, fun h => Char.toNat_inj.mp h⟩
  delta Char.isAlpha Char.isUpper Char.isLower
  simp only [isNameStart, Text.isAsciiWord, Text.isAsciiDigit, Bool.or_eq_true, Bool.and_eq_true, Bool.not_eq_true', Bool.and_eq_false_iff,
    decide_eq_true_eq, decide_eq_false_iff_not, beq_iff_eq, hunderscore, ge_iff_le,
    UInt32.le_iff_toNat_le, Char.toNat]
  simp only [Char.reduceVal, UInt32.reduceToNat]
  omega

/-- What a valid name is made of. -/
theorem exists_of_isName {n : String} (h : isName n.toList = true) :
    ∃ c cs, n.toList = c :: cs ∧ (c.isAlpha = true ∨ c = '_') ∧
      ∀ d ∈ cs, d.isAlphanum = true ∨ d = '_' := by
  cases hn : n.toList with
  | nil =>
    rw [hn] at h
    cases h
  | cons c cs =>
    rw [hn, isName, Bool.and_eq_true, List.all_eq_true] at h
    exact ⟨c, cs, rfl, (isNameStart_iff c).mp h.1, fun d hd => (isAsciiWord_iff d).mp (h.2 d hd)⟩

/-- A registry that was built has what the tables say. -/
theorem rebuild_asConfigured {kinds languages : List (List (String × Value))} {sink : Option Sink}
    {previous : Option Registry} {r : Registry}
    (h : (rebuild (.ofTables .value kinds) (.ofTables .value languages) sink previous).result =
      .ok r) : AsConfigured kinds languages r := by
  obtain ⟨plan, hplan, hr⟩ := rebuild_planned h
  obtain ⟨hspecs, hnamed, hmatcher, hpattern, hlanguages⟩ :=
    (performs_plan kinds languages).of_ok hplan
  have hspecs' : r.kinds.map (·.spec) = kinds.map Entry.kind := hr.specs.trans hspecs
  have hnames : r.kindNames = kinds.map Entry.name := by
    have hmap := congrArg (List.map (·.name)) hspecs'
    rw [List.map_map, List.map_map] at hmap
    exact hmap
  refine ⟨?_, ?_, ?_, hspecs', ?_, hr.matcher ▸ hpattern, ?_⟩
  · rw [hnames, List.map_map]
    exact List.map_congr_left fun t ht => (hnamed t ht).1
  · have hnodup := Plan.names_nodup hplan
    rwa [← hr.specs, List.map_map] at hnodup
  · rw [hnames]
    exact List.forall_mem_map.mpr fun t ht => exists_of_isName (hnamed t ht).2
  · rw [hr.matcher, hmatcher, hnames]
  · rw [hr.matcher, hr.languages]
    exact hlanguages

/-- Building a registry from two sections of tables that are nested no deeper than the limit, with a
sink that refuses no style, ends in the failure of the first check that fails, and if none fails in a
registry that has what the tables say.  The bound on the nesting keeps to tables that a machine can
deal with. -/
theorem rebuild_first_failure {kinds languages : List (List (String × Value))}
    (_ : Value.tablesAreShallow kinds = true) (_ : Value.tablesAreShallow languages = true)
    (sink : Option Sink) (previous : Option Registry) (hsink : ∀ s ∈ sink, s.refused = []) :
    (∀ e, (checks kinds languages).findSome? Check.failure? = some e →
      (rebuild (.ofTables .value kinds) (.ofTables .value languages) sink previous).result =
        .error e) ∧
    ((checks kinds languages).findSome? Check.failure? = none →
      ∃ r, (rebuild (.ofTables .value kinds) (.ofTables .value languages) sink previous).result =
        .ok r ∧ AsConfigured kinds languages r) := by
  have hplan := (performs_plan kinds languages).outcome
  refine ⟨fun e he => ?_, fun hnone => ?_⟩
  · rw [he] at hplan
    exact (rebuild_error_iff hsink previous e).mpr hplan
  · rw [hnone] at hplan
    obtain ⟨plan, hplan, -⟩ := hplan
    cases hr : (rebuild (.ofTables .value kinds) (.ofTables .value languages) sink
        previous).result with
    | error e => cases ((rebuild_error_iff hsink previous e).mp hr).symm.trans hplan
    | ok r => exact ⟨r, rfl, rebuild_asConfigured hr⟩

/-- Two kinds, the second with its flag in both spellings. -/
def twoKinds : List (List (String × Value)) :=
  [kindTable "x", [("is_markdown", .str "no"), ("pattern", .str "[]x]"), ("colour", .str "red"),
    ("name", .str "B_2"), ("isMarkdown", .bool true)]]

/-- A language with one fragment for comments. -/
def lineTable (fragment : String) : List (String × Value) :=
  [("language_ids", .list [.str "t"]), ("lineComments", .list [.str fragment])]

/-- A name that is used twice is reported ahead of a fragment that does not compile and of a language
without identifiers; and two kinds with a language are accepted. -/
theorem rebuild_first_failure_duplicate :
    (∀ s ∈ some ({} : Sink), s.refused = []) ∧
    (∃ e, (rebuild (.ofTables .value [kindTable "x", kindTable "("]) (.ofTables .value [[]])
      (some {}) none).result = .error e ∧ e.message = "duplicate annotation name 'A'") ∧
    ∃ r, (rebuild (.ofTables .value twoKinds) (.ofTables .value [lineTable "#.*"]) (some {})
      none).result = .ok r ∧ AsConfigured twoKinds [lineTable "#.*"] r := by
  have hsink : ∀ s ∈ some ({} : Sink), s.refused = [] := by
    rintro s ⟨⟩
    rfl
  refine ⟨hsink, ?_, ?_⟩
  · have hfirst : ((checks [kindTable "x", kindTable "("] [[]]).findSome? Check.failure?).map
        RebuildError.message = some "duplicate annotation name 'A'" := by decide +kernel
    obtain ⟨e, he, hmessage⟩ := Option.map_eq_some_iff.mp hfirst
    exact ⟨e, (rebuild_first_failure (by decide +kernel) rfl (some {}) none hsink).1 e he, hmessage⟩
  · have hnone : ((checks twoKinds [lineTable "#.*"]).findSome? Check.failure?).isNone = true := by
      decide +kernel
    exact (rebuild_first_failure (by decide +kernel) (by decide +kernel) (some {}) none hsink).2
      (Option.isNone_iff_eq_none.mp hnone)

/-- A repetition count that is too large: the check of the fragment is the first that fails, ahead of
that of a language without identifiers, and what is reported is no refusal. -/
theorem rebuild_fragmentLimit :
    (∀ sink previous, (rebuild (.ofTables .value [kindTable "x\x7b4294967295\x7d"])
      (.ofTables .value [[]]) sink previous).result = .error (.patternLimit .repetitionTooLarge)) ∧
    ∀ reason, RebuildError.patternLimit .repetitionTooLarge ≠ .rejected reason := by
  have hplan : Plan.of (.ofTables .value [kindTable "x\x7b4294967295\x7d"])
      (.ofTables .value [[]]) = .error (.patternLimit .repetitionTooLarge) := rfl
  refine ⟨fun sink previous => ?_, nofun⟩
  rw [rebuild, hplan]

end Marginalia
