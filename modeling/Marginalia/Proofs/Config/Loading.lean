import Marginalia.Files.Tree
import Marginalia.Proofs.Command.Reporting
import Marginalia.Proofs.Config.Depth
import Marginalia.Proofs.Session.Rollback
import Marginalia.Proofs.Text.Utf8
import Marginalia.Proofs.Toml.Digits

/-!
# What a configuration file can come to

A file is meant to hold a configuration or to be refused with a reason that names it
(`ConfigError`).  Two kinds of content are neither: bytes that are no text, and a whole number with
too many digits.  The errors of these go through whoever reads the file, a session or a command,
while every other content is dealt with there (`Config.load_of_file`).
-/

namespace Marginalia

namespace Config

/-- The section of a configuration is missing if the data do not have its key, and holds tables if
they do. -/
structure Holds {α : Type} (entry : Value → α) (data : Toml.Table) (key : String) (s : Section α) :
    Prop where
  missing : s = .missing ↔ data.lookup key = none
  tables : ∀ v, data.lookup key = some v → ∃ ts : List (List (String × Value)),
    v = .list (ts.map .table) ∧ s = .entries (ts.map fun t => entry (.table t))

/-- A list of tables, from the check that it has nothing else. -/
theorem exists_tables {items : List Value} (h : items.findIdx? (fun v => !isTable v) = none) :
    ∃ ts : List (List (String × Value)), items = ts.map .table := by
  rw [List.findIdx?_eq_none_iff] at h
  induction items with
  | nil => exact ⟨[], rfl⟩
  | cons v items ih =>
    obtain ⟨hv, hitems⟩ := List.forall_mem_cons.mp h
    obtain ⟨ts, rfl⟩ := ih hitems
    cases v with
    | table t => exact ⟨t :: ts, rfl⟩
    | _ => cases hv

/-- A section that is read holds what the file says. -/
theorem holds_of_entriesOf {α : Type} {entry : Value → α} {path : Path} {key : String}
    {data : Toml.Table} {vs : Option (List Value)} (h : entriesOf path key data = .ok vs) :
    Holds entry data key (sectionOf entry vs) := by
  unfold entriesOf at h
  split at h
  · rename_i hlookup
    cases h
    refine ⟨⟨fun _ => hlookup, fun _ => rfl⟩, fun v hv => ?_⟩
    cases hlookup.symm.trans hv
  · rename_i items hlookup
    split at h
    · cases h
    · rename_i htables
      cases h
      obtain ⟨ts, rfl⟩ := exists_tables htables
      refine ⟨⟨fun hmissing => ?_, fun hnone => ?_⟩, fun v hv => ?_⟩
      · cases hmissing
      · cases hlookup.symm.trans hnone
      · cases hlookup.symm.trans hv
        exact ⟨ts, rfl, by simp [sectionOf]⟩
  · cases h

/-- The document is refused for the error: it is no TOML, or one of its sections is no list, or has
something else than a table in it. -/
inductive Refused (path : Path) (document : List Char) : ConfigError → Prop
  | toml {e : Toml.Error} (hread : Toml.read document = .error e) :
      Refused path document (.toml path document e)
  | notArray {data : Toml.Table} {key : String} {v : Value} (hread : Toml.read document = .ok data)
      (hkey : key = "annotations" ∨ key = "languages") (hlookup : data.lookup key = some v)
      (hlist : ∀ items, v ≠ .list items) : Refused path document (.notArray path key)
  | notTable {data : Toml.Table} {key : String} {items : List Value} {i : Nat} {v : Value}
      (hread : Toml.read document = .ok data) (hkey : key = "annotations" ∨ key = "languages")
      (hlookup : data.lookup key = some (.list items)) (hitem : items[i]? = some v)
      (htable : ∀ t, v ≠ .table t) : Refused path document (.notTable path key i)

/-- A section that is not a list is refused. -/
theorem refused_of_entriesOf {path : Path} {document : List Char} {data : Toml.Table}
    (hread : Toml.read document = .ok data) {key : String}
    (hkey : key = "annotations" ∨ key = "languages") {e : ConfigError}
    (h : entriesOf path key data = .error e) : Refused path document e := by
  unfold entriesOf at h
  split at h
  · cases h
  · rename_i items hlookup
    split at h
    · rename_i i hfirst
      cases h
      obtain ⟨hlt, hitem, -⟩ := List.findIdx?_eq_some_iff_getElem.mp hfirst
      refine .notTable hread hkey hlookup (List.getElem?_eq_getElem hlt) fun t ht => ?_
      rw [ht] at hitem
      cases hitem
    · cases h
  · rename_i v hlist hlookup
    cases h
    refine .notArray hread hkey hlookup fun items hitems => ?_
    exact hlist items hitems

/-- A document that is no TOML is refused, but for a number with too many digits. -/
theorem tomlError_cases (path : Path) (document : List Char) (e : Toml.Error) :
    (∃ n, e = .tooManyDigits n ∧ tomlError path document e = .tooManyDigits n) ∨
      tomlError path document e = .invalid (.toml path document e) := by
  cases e with
  | found p n => exact .inr rfl
  | tooManyDigits n => exact .inl ⟨n, rfl, rfl⟩

/-- What the bytes of a file come to: a configuration, a refusal, no text, or a number with too many
digits. -/
inductive Outcome (path : Path) (bytes : List UInt8) : Except LoadError Config → Prop
  | read {text : List Char} {data : Toml.Table} {c : Config} (htext : bytes = Text.utf8 text)
      (hdata : Toml.read (Toml.joinLineEnds text) = .ok data) (hpath : c.path = some path)
      (hannotations : Holds .value data "annotations" c.annotations)
      (hlanguages : Holds .value data "languages" c.languages) : Outcome path bytes (.ok c)
  | invalid {text : List Char} (htext : bytes = Text.utf8 text) {e : ConfigError}
      (hrefused : Refused path (Toml.joinLineEnds text) e) :
      Outcome path bytes (.error (.invalid e))
  | notText (hnone : ∀ text, bytes ≠ Text.utf8 text) (e : Text.DecodeError) :
      Outcome path bytes (.error (.notText e))
  | tooManyDigits {text : List Char} (htext : bytes = Text.utf8 text) {n : Nat}
      (hlimit : Text.digitLimit < n) (hdigits : Toml.HasDigits n (Toml.joinLineEnds text)) :
      Outcome path bytes (.error (.tooManyDigits n))

/-- Every file comes to one of these outcomes. -/
theorem outcome_ofBytes (path : Path) (bytes : List UInt8) :
    Outcome path bytes (ofBytes path bytes) := by
  unfold ofBytes
  -- The first of decoding, reading and the two sections that fails decides.
  cases hdecode : Text.decode bytes with
  | error e =>
    refine .notText (fun text htext => ?_) e
    rw [Text.decode_eq_ok_iff.mpr htext] at hdecode
    cases hdecode
  | ok text =>
    have htext := Text.decode_eq_ok_iff.mp hdecode
    cases hread : Toml.read (Toml.joinLineEnds text) with
    | error e =>
      simp only [Except.mapError, bind, Except.bind, hread]
      obtain ⟨n, rfl, heq⟩ | heq := tomlError_cases path (Toml.joinLineEnds text) e
      · obtain ⟨hlimit, hdigits⟩ := Toml.read_tooManyDigits hread
        rw [heq]
        exact .tooManyDigits htext hlimit hdigits
      · rw [heq]
        exact .invalid htext (.toml hread)
    | ok data =>
      simp only [Except.mapError, bind, Except.bind, hread]
      cases hannotations : entriesOf path "annotations" data with
      | error e => exact .invalid htext (refused_of_entriesOf hread (.inl rfl) hannotations)
      | ok annotations =>
        cases hlanguages : entriesOf path "languages" data with
        | error e => exact .invalid htext (refused_of_entriesOf hread (.inr rfl) hlanguages)
        | ok languages =>
          exact .read htext hread rfl (holds_of_entriesOf hannotations)
            (holds_of_entriesOf hlanguages)

/-- The configuration file that is found from the working directory on. -/
def find? (fs : Files) : Option Path := (findFrom fs fs.cwd).toOption.join

/-- The file that is found is the first from the working directory up. -/
theorem findFrom_of_find? {fs : Files} {path : Path} (h : find? fs = some path) :
    findFrom fs fs.cwd = .ok (some path) := by
  unfold find? at h
  cases hsearch : findFrom fs fs.cwd with
  | error e => simp [hsearch, Except.toOption] at h
  | ok found => simpa [hsearch, Except.toOption] using h

/-- The file at the path is the one that is read: it is asked for, or it is the nearest one and none
is asked for. -/
def Chosen (fs : Files) (asked : Option Path) (path : Path) : Prop :=
  asked = some path ∨ asked = none ∧ find? fs = some path

/-- The chosen file is loaded. -/
theorem load_of_chosen {fs : Files} {asked : Option Path} {path : Path} {bytes : List UInt8}
    (hchosen : Chosen fs asked path) (hfile : fs.look path = .file bytes) :
    load fs asked = ofBytes path bytes := by
  have hofFile : ofFile fs path = ofBytes path bytes := by rw [ofFile, hfile]
  obtain rfl | ⟨rfl, hfind⟩ := hchosen
  · exact hofFile
  · rw [load, findFrom_of_find? hfind]
    exact hofFile

/-- The errors that whoever reads the file does not deal with. -/
def Escapes (r : Except LoadError Config) : Prop :=
  (∃ e, r = .error (.notText e)) ∨ ∃ n, r = .error (.tooManyDigits n)

/-- A file is not a text if its bytes encode none. -/
theorem Outcome.notText_iff {path : Path} {bytes : List UInt8} {r : Except LoadError Config}
    (h : Outcome path bytes r) :
    (∃ e, r = .error (.notText e)) ↔ ∀ text, bytes ≠ Text.utf8 text := by
  cases h with
  | read htext => exact ⟨nofun, fun hnone => absurd htext (hnone _)⟩
  | invalid htext => exact ⟨nofun, fun hnone => absurd htext (hnone _)⟩
  | notText hnone e => exact ⟨fun _ => hnone, fun _ => ⟨e, rfl⟩⟩
  | tooManyDigits htext => exact ⟨nofun, fun hnone => absurd htext (hnone _)⟩

/-- What is no refusal escapes. -/
theorem isRefusal_eq_false_iff (e : LoadError) : e.isRefusal = false ↔ Escapes (.error e) := by
  constructor
  · intro h
    cases e with
    | notText e => exact .inl ⟨e, rfl⟩
    | tooManyDigits n => exact .inr ⟨n, rfl⟩
    | _ => cases h
  · rintro (⟨_, h⟩ | ⟨_, h⟩) <;> cases h <;> rfl

/-- What a command makes of the file: the configuration, or its end with the code of an error,
unless the error escapes. -/
theorem run_loadConfig {fs : Files} {asked : Option Path} {a : Command.Arguments}
    (hasked : (a.value? Command.configOption.key).map Path.ofString = asked) {path : Path}
    {bytes : List UInt8} (h : Outcome path bytes (load fs asked)) (o : Command.Output) :
    (¬ Escapes (load fs asked) →
      (∃ c, load fs asked = .ok c ∧ (Command.loadConfig fs a).run o = (.ok c, o)) ∨
      ∃ o', (Command.loadConfig fs a).run o = (.error (.exit Command.errorCode), o')) ∧
    ∀ e, load fs asked = .error e → Escapes (.error e) →
      (Command.loadConfig fs a).run o = (.error (.failed (.load e)), o) := by
  unfold Command.loadConfig
  rw [hasked]
  generalize load fs asked = r at h
  cases h with
  | @read _ _ c => exact ⟨fun _ => .inl ⟨c, rfl, rfl⟩, nofun⟩
  | invalid =>
    refine ⟨fun _ => .inr (Command.run_errorExit _ _ o), fun e' he hescapes => ?_⟩
    cases he
    obtain ⟨_, h⟩ | ⟨_, h⟩ := hescapes <;> cases h
  | notText _ e =>
    refine ⟨fun h => absurd (.inl ⟨e, rfl⟩) h, fun e' he _ => ?_⟩
    cases he
    rfl
  | @tooManyDigits _ _ n =>
    refine ⟨fun h => absurd (.inr ⟨n, rfl⟩) h, fun e' he _ => ?_⟩
    cases he
    rfl

/-- What a configuration file comes to, whatever its bytes are, if they are nested no deeper than the
limit: a configuration, or a refusal, unless the bytes are no text or a whole number has too many
digits.  A session and a command deal with the first two, and let the other errors through.  The bound
on the nesting keeps to files that a machine can deal with. -/
theorem load_of_file {fs : Files} {asked : Option Path} {path : Path} {bytes : List UInt8}
    (hchosen : Chosen fs asked path) (hfile : fs.look path = .file bytes)
    (_ : isShallow bytes = true) :
    Outcome path bytes (load fs asked) ∧
    ((∃ e, load fs asked = .error (.notText e)) ↔ ∀ text, bytes ≠ Text.utf8 text) ∧
    (∀ s : Session, s.source = load fs asked → ∀ e, s.reload.result = .error e ↔
      (∃ e', load fs asked = .error e' ∧ Escapes (.error e') ∧ e = .load e') ∨
      ∃ c e', load fs asked = .ok c ∧ c.isComplete = true ∧
        (rebuild c.annotations c.languages (some s.sink) s.registry).result = .error e' ∧
          (∀ reason, e' ≠ .rejected reason) ∧ e = .rebuild e') ∧
    ∀ (a : Command.Arguments) (o : Command.Output),
      (a.value? Command.configOption.key).map Path.ofString = asked →
      (¬ Escapes (load fs asked) →
        (∃ c, load fs asked = .ok c ∧ (Command.loadConfig fs a).run o = (.ok c, o)) ∨
        ∃ o', (Command.loadConfig fs a).run o = (.error (.exit Command.errorCode), o')) ∧
      ∀ e, load fs asked = .error e → Escapes (.error e) →
        (Command.loadConfig fs a).run o = (.error (.failed (.load e)), o) := by
  have houtcome : Outcome path bytes (load fs asked) :=
    load_of_chosen hchosen hfile ▸ outcome_ofBytes path bytes
  refine ⟨houtcome, houtcome.notText_iff, fun s hs e => ?_,
    fun a o ha => run_loadConfig ha houtcome o⟩
  simp only [s.reload_eq_error_iff, hs, isRefusal_eq_false_iff]

/-- A configuration with a kind and a language. -/
def bothSections : String :=
  "annotations=[\x7bname=\"A\",pattern=\"(a)\"\x7d]\n" ++
  "languages=[\x7blanguageIds=[\"t\"],lineComments=[\"#.*\"]\x7d]"

/-- A directory in which a file with the given bytes is the configuration. -/
def configured (bytes : List UInt8) : Files :=
  FileTree.toFiles { root := "/", files := [([fileName], bytes)] }

/-- The file is found and read, and no session fails to load it. -/
theorem load_of_file_both_sections :
    let fs := configured bothSections.toUTF8.toList
    Chosen fs none ⟨"/", [fileName]⟩ ∧ isShallow bothSections.toUTF8.toList = true ∧
      (∃ c, load fs none = .ok c ∧ c.isComplete = true) ∧
      ∀ s : Session, s.source = load fs none → ∀ e, s.reload.result ≠ .error (.load e) := by
  intro fs
  have hchosen : Chosen fs none ⟨"/", [fileName]⟩ := .inr ⟨rfl, by decide +kernel⟩
  have hfile : fs.look ⟨"/", [fileName]⟩ = .file bothSections.toUTF8.toList := by decide +kernel
  have hshallow : isShallow bothSections.toUTF8.toList = true := by decide +kernel
  have hcomplete : (load fs none).toOption.map isComplete = some true := by decide +kernel
  obtain ⟨c, hload, hcomplete⟩ := Option.map_eq_some_iff.mp hcomplete
  have hload := eq_ok_of_toOption hload
  obtain ⟨-, -, hsessions, -⟩ := load_of_file hchosen hfile hshallow
  refine ⟨hchosen, hshallow, ⟨c, hload, hcomplete⟩, fun s hs e h => ?_⟩
  obtain ⟨e', he', -, -⟩ | ⟨_, _, -, -, -, -, h⟩ := (hsessions s hs _).mp h
  · exact absurd (hload.symm.trans he') nofun
  · cases h

/-- The same configuration with the byte 255 in a comment behind it, which is no text. -/
def brokenSections : List UInt8 := (bothSections ++ "\n# ").toUTF8.toList ++ [0xff]

/-- The error is that of no text, and neither a session nor a command deals with it. -/
theorem load_of_no_text :
    ∃ e, load (configured brokenSections) none = .error (.notText e) ∧
      (∀ s : Session, s.source = load (configured brokenSections) none →
        s.reload.result = .error (.load (.notText e))) ∧
      ∀ o, (Command.loadConfig (configured brokenSections) {}).run o =
        (.error (.failed (.load (.notText e))), o) := by
  obtain ⟨e, he⟩ : ∃ e, load (configured brokenSections) none = .error (.notText e) := by
    have hchosen : Chosen (configured brokenSections) none ⟨"/", [fileName]⟩ :=
      .inr ⟨rfl, by decide +kernel⟩
    have hfile : (configured brokenSections).look ⟨"/", [fileName]⟩ = .file brokenSections := by
      decide +kernel
    have hdecoded : (Text.decode brokenSections).toBool = false := by decide +kernel
    rw [load_of_chosen hchosen hfile]
    refine (outcome_ofBytes _ _).notText_iff.mpr fun text htext => ?_
    rw [Text.decode_eq_ok_iff.mpr htext] at hdecoded
    cases hdecoded
  refine ⟨e, he, fun s hs => ?_, fun o => ?_⟩
  · rw [Session.reload, hs, he]
    rfl
  · have hload : load (configured brokenSections)
        ((({} : Command.Arguments).value? Command.configOption.key).map Path.ofString) =
          .error (.notText e) := he
    rw [Command.loadConfig, hload]
    rfl

end Config

end Marginalia
