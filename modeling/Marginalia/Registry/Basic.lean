import Marginalia.Extraction
import Marginalia.Sink.Basic

/-!
# Registries

A registry is one generation of a configuration: the annotation kinds with their styles, and the
languages with their matchers.  It is built as a whole.  Everything that can be wrong with the
configuration is checked first (`Plan.of`); then one style is allocated for each kind, and if one is
refused those already allocated are taken back; and only then the styles of the generation before
are released.
-/

namespace Marginalia

/-- A kind of annotation as it is configured. -/
structure KindSpec where
  name : String
  pattern : Fragment
  style : Style.Options := []
  markdown : Bool := false
deriving Repr

/-- A kind of annotation that is still to be compiled: whether its name is a text that can name a
group of a pattern is not yet known. -/
structure KindDraft where
  name : Value
  pattern : Fragment
  style : Style.Options := []
  markdown : Bool := false
deriving Repr

/-- The draft of a kind of a registry. -/
def KindSpec.draft (k : KindSpec) : KindDraft := { k with name := .str k.name }

/-- The kind of a draft under the name of its group. -/
def KindDraft.named (d : KindDraft) (name : String) : KindSpec := { d with name }

/-- A kind of annotation in a registry, with the style allocated for it. -/
structure Kind where
  spec : KindSpec
  handle : Option Nat := none
deriving Repr

/-- How diagnostics call a kind that stands where it should not. -/
def Kind.typeName : String := "AnnotationKind"

/-- An entry of the annotations section. -/
inductive AnnotationEntry
  /-- Configuration data. -/
  | value (v : Value)
  /-- A kind of another registry. -/
  | kind (k : KindSpec)
  /-- A kind that the host made by itself, of which nothing has been checked. -/
  | made (name : Value) (pattern : Fragment) (style : Value) (markdown : Bool)
  /-- A language, which is out of place here. -/
  | language
deriving Repr

/-- An entry of the languages section. -/
inductive LanguageEntry
  /-- Configuration data. -/
  | value (v : Value)
  /-- A language of another registry, or one that the host made by itself. -/
  | language (l : Language)
  /-- A kind of annotation, which is out of place here. -/
  | kind
deriving Repr

/-- A section of a configuration. -/
inductive Section (α : Type)
  | missing
  | entries (items : List α)
  | notIterable (kind : String)
deriving Repr

namespace Section

/-- The section that a value gives. -/
def ofValue (entry : Value → α) (v : Value) : Section α :=
  match v with
  | .null => .missing
  | v =>
    match v.elements? with
    | some items => .entries (items.map entry)
    | none => .notIterable v.kindName

/-- The entries of a section with the given name. -/
def items (name : String) : Section α → Except RebuildError (List α)
  | .missing => .error (.rejected (.sectionMissing name))
  | .entries items => .ok items
  | .notIterable kind => .error (.notIterable kind)

/-- Is the section there? -/
def isPresent : Section α → Bool
  | .missing => false
  | _ => true

end Section

/-! ## Annotation entries -/

/-- Is the character an ASCII letter or the underscore? -/
def isNameStart (c : Char) : Bool := Text.isAsciiWord c.toNat && !Text.isAsciiDigit c.toNat

/-- Is the text a name that a group of a pattern can have: ASCII letters, digits and underscores,
and no digit first? -/
def isName : List Char → Bool
  | [] => false
  | c :: cs => isNameStart c && cs.all fun d => Text.isAsciiWord d.toNat

/-- Can the value be used as the name of a kind? -/
def isValidName : Value → Bool
  | .str s => isName s.toList
  | _ => false

/-- The keys of an annotation entry that do not belong to its style. -/
def reservedKeys : List String := ["name", "pattern", "isMarkdown", "is_markdown"]

/-- The value of the markdown flag of an entry, under either of its two keys. -/
def markdownField (entries : List (String × Value)) : Value :=
  match entries.lookup "isMarkdown" with
  | some v => v
  | none => (entries.lookup "is_markdown").getD (.bool false)

/-- The keys of an entry that make up its style. -/
def styleFields (entries : List (String × Value)) : List (String × Value) :=
  entries.filter fun e => !reservedKeys.contains e.1

/-- The kind that the fields of an entry describe. -/
def KindDraft.ofFields (entries : List (String × Value)) : Except RebuildError KindDraft :=
  let name := (entries.lookup "name").getD .null
  match name with
  | .str n =>
    if !isName n.toList then .error (.rejected (.invalidName name))
    else match entries.lookup "pattern" with
      | some (.str p) =>
        match markdownField entries with
        | .bool markdown =>
          .ok { name, pattern := .text p, style := .ofTable (styleFields entries), markdown }
        | _ => .error (.rejected (.badKind (.markdownNotBool n)))
      | _ => .error (.rejected (.badKind (.noPattern n)))
  | _ => .error (.showing name (.invalidName name))

/-- The kind of an entry.  A kind of another registry is taken as it is. -/
def AnnotationEntry.draft : AnnotationEntry → Except RebuildError KindDraft
  | .kind k => .ok k.draft
  | .made name pattern style markdown => do
    let style ← (Style.Options.ofValue style).mapError .badOptions
    return { name, pattern, style, markdown }
  | .value (.table entries) => KindDraft.ofFields entries
  | .value v => .error (.rejected (.badKind (.notTable v.kindName)))
  | .language => .error (.rejected (.badKind (.notTable Language.typeName)))

/-- The kinds of the entries after those in `done`; no two may have the same name. -/
def draftsFrom (done : List KindDraft) :
    List AnnotationEntry → Except RebuildError (List KindDraft)
  | [] => .ok done
  | e :: es => do
    let k ← e.draft
    match k.name.unusableKey? with
    | some kind => throw (.unusableName kind)
    | none =>
      if done.any (·.name.sameKey k.name) then throw (.rejected (.duplicateName k.name.text))
      else draftsFrom (done ++ [k]) es

/-! ## Language entries -/

/-- The language that an entry describes as configuration data. -/
def LanguageEntry.configured : LanguageEntry → Except GrammarError Language
  | .value v => Language.ofConfig v
  | .language _ => .error (.notTable Language.typeName)
  | .kind => .error (.notTable Kind.typeName)

/-- The refusal of a configuration for a language entry. -/
def GrammarError.refusal : GrammarError → RebuildError
  | .notText key item => .showing item (.grammar (.notText key item))
  | e => .rejected (.grammar e)

/-- The language of an entry. -/
def LanguageEntry.grammar : LanguageEntry → Except RebuildError Language
  | .language l => .ok l
  | e => e.configured.mapError GrammarError.refusal

/-- Compiles a language, to be used with the matcher of all kinds. -/
def compileLanguage (m : AnnotationMatcher) (l : Language) : Except RebuildError Descriptor :=
  match l.commentMatcher with
  | .ok c => .ok { language := l, commentMatcher := some c, annotationMatcher := some m }
  | .error e => .error e

/-- Compiles the languages of the entries, in order. -/
def compileLanguages (m : AnnotationMatcher) :
    List LanguageEntry → Except RebuildError (List Descriptor)
  | [] => .ok []
  | e :: es => do
    let l ← e.grammar
    let d ← compileLanguage m l
    return d :: (← compileLanguages m es)

/-! ## Building a registry -/

/-- A configuration that passed every check. -/
structure Plan where
  specs : List KindSpec
  matcher : AnnotationMatcher
  languages : List Descriptor
deriving Repr

/-- Checks and compiles the two sections of a configuration. -/
def Plan.of (annotations : Section AnnotationEntry) (languages : Section LanguageEntry) :
    Except RebuildError Plan := do
  if !annotations.isPresent then throw (.rejected (.sectionMissing "annotations"))
  if !languages.isPresent then throw (.rejected (.sectionMissing "languages"))
  let entries ← annotations.items "annotations"
  let drafts ← draftsFrom [] entries
  let matcher ← AnnotationMatcher.ofKinds (drafts.map fun k => (k.name, k.pattern))
  let specs := (drafts.zip matcher.kinds).map fun (k, name) => k.named name
  let descriptors ← compileLanguages matcher (← languages.items "languages")
  return { specs, matcher, languages := descriptors }

/-- One generation of a configuration. -/
structure Registry where
  kinds : List Kind
  languages : List Descriptor
  matcher : AnnotationMatcher
  generation : Nat := 1
  released : Bool := false
deriving Repr

/-- Takes styles back, in order. -/
def Sink.disposeAll (s : Sink) (idents : List Nat) : Sink := idents.foldl Sink.dispose s

/-- Allocates a style for each kind, after those numbered in `done`.  If one is refused, those
allocated are taken back. -/
def allocateStyles (done : List Nat) :
    List KindSpec → Sink → Except RebuildError (List Nat) × Sink
  | [], s => (.ok done, s)
  | k :: ks, s =>
    match s.create k.name k.style with
    | .ok (h, s) => allocateStyles (done ++ [h.ident]) ks s
    | .error e => (.error e, s.disposeAll done)

namespace Registry

/-- The names of the kinds, in order. -/
def kindNames (r : Registry) : List String := r.kinds.map (·.spec.name)

/-- The kind with a name. -/
def kind? (r : Registry) (name : String) : Option Kind := r.kinds.find? (·.spec.name == name)

/-- The languages that go by a tag. -/
def languagesFor (r : Registry) (tag : String) : List Descriptor :=
  r.languages.filter (·.language.hasTag tag)

/-- The styles of the kinds. -/
def idents (r : Registry) : List Nat := r.kinds.filterMap (·.handle)

/-- Takes back the styles of a registry, unless they were taken back before. -/
def release (r : Registry) (s : Sink) : Registry × Sink :=
  if r.released then (r, s) else ({ r with released := true }, s.disposeAll r.idents)

end Registry

/-- What an attempt to build a registry leaves: the new registry or the reason why there is none,
and the sink and the previous registry, if there are any. -/
structure Rebuilt where
  result : Except RebuildError Registry
  sink : Option Sink
  previous : Option Registry

/-- The registry of a plan, with the given styles. -/
def Plan.registry (p : Plan) (handles : List (Option Nat)) (previous : Option Registry) :
    Registry where
  kinds := (p.specs.zip handles).map fun (k, h) => ⟨k, h⟩
  languages := p.languages
  matcher := p.matcher
  generation := match previous with
    | some r => r.generation + 1
    | none => 1

/-- Builds a registry.  With a sink, styles are allocated for its kinds and those of the previous
registry are released. -/
def rebuild (annotations : Section AnnotationEntry) (languages : Section LanguageEntry)
    (sink : Option Sink) (previous : Option Registry) : Rebuilt :=
  match Plan.of annotations languages with
  | .error e => ⟨.error e, sink, previous⟩
  | .ok plan =>
    match sink with
    | none => ⟨.ok (plan.registry (plan.specs.map fun _ => none) previous), none, previous⟩
    | some s =>
      match allocateStyles [] plan.specs s with
      | (.error e, s) => ⟨.error e, some s, previous⟩
      | (.ok handles, s) =>
        let new := plan.registry (handles.map some) previous
        match previous with
        | none => ⟨.ok new, some s, none⟩
        | some old =>
          let (old, s) := old.release s
          ⟨.ok new, some s, some old⟩

end Marginalia
