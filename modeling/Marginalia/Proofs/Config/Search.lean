import Marginalia.Files.Tree
import Marginalia.Proofs.Config.Loading
import Mathlib.Algebra.Ring.Nat
import Mathlib.Data.List.Induction
import Mathlib.Data.List.Infix

/-!
# The nearest configuration file

The search for a configuration file goes up from a directory to the root.  In a tree whose parts
stand in directories it finds the file of the closest directory that has one, and passes over
directories with the name of the file (`Config.findFrom_nearest`).

The system does not say what stands at a path that is too long.  Such a path ends the search with an
error, even if no directory has a configuration file.  Paths get shorter on the way up, so that the
one below the first directory decides.
-/

namespace Marginalia

/-! ## Walking down a tree -/

namespace FileTree

/-- The parts of all that is listed in a tree. -/
def entries (t : FileTree) : List (List String) := t.directories ++ t.files.map Prod.fst

/-- A tree as a file system can have it: its root has a name, all that is listed stands in a
directory, and its parts are names that the system takes. -/
structure Sound (t : FileTree) : Prop where
  rooted : t.root ≠ ""
  parents : ∀ parts ∈ t.entries, t.lookParts parts.dropLast = .directory
  names : ∀ parts ∈ t.entries, ∀ part ∈ parts, part ≠ ".." ∧ isPartTooLong part = false

/-- A file stands at the parts. -/
def HasFile (t : FileTree) (parts : List String) : Prop := ∃ bytes, t.lookParts parts = .file bytes

section

variable {t : FileTree} {dir up : List String}

/-- A directory other than the root is listed. -/
theorem mem_entries_of_directory (h : t.lookParts dir = .directory) (hne : dir ≠ []) :
    dir ∈ t.entries := by
  unfold lookParts at h
  split at h
  · cases h
  · have hlisted : dir.isEmpty = true ∨ t.directories.contains dir = true := by
      rw [← Bool.or_eq_true]
      by_contra hnot
      rw [if_neg hnot] at h
      cases h
    rw [List.isEmpty_iff, List.contains_iff_mem] at hlisted
    exact List.mem_append_left _ (hlisted.resolve_left hne)

/-- A tree has nothing else than files and directories. -/
theorem lookParts_cases (t : FileTree) (parts : List String) : t.HasFile parts ∨
    t.lookParts parts = .directory ∨ t.lookParts parts = .missing := by
  unfold HasFile lookParts
  split
  · exact .inl ⟨_, rfl⟩
  · split
    · exact .inr (.inl rfl)
    · exact .inr (.inr rfl)

/-- What is above a directory is a directory. -/
theorem Sound.directory_above (ht : t.Sound) (hdir : t.lookParts dir = .directory)
    (hup : up <+: dir) : t.lookParts up = .directory := by
  induction dir using List.reverseRecOn with
  | nil => rwa [List.prefix_nil.mp hup]
  | append_singleton dir part ih =>
    obtain rfl | hup := List.prefix_concat_iff.mp hup
    · exact hdir
    · have hparent := ht.parents _ (mem_entries_of_directory hdir (by simp))
      rw [List.dropLast_concat] at hparent
      exact ih hparent hup

/-- The parts of a directory are proper names. -/
theorem Sound.names_of_directory (ht : t.Sound) (hdir : t.lookParts dir = .directory) :
    ∀ part ∈ dir, part ≠ ".." ∧ isPartTooLong part = false := by
  intro part hpart
  exact ht.names dir (mem_entries_of_directory hdir (List.ne_nil_of_mem hpart)) part hpart

/-- A walk through directories gets to what stands at its parts. -/
theorem walk_eq_lookParts (here parts : List String)
    (hdirectories : ∀ up, up <+: parts → up ≠ parts → t.lookParts (here ++ up) = .directory)
    (hnames : ∀ part ∈ parts, part ≠ ".." ∧ isPartTooLong part = false) :
    t.walk here parts = t.lookParts (here ++ parts) := by
  induction parts generalizing here with
  | nil => rw [walk, List.append_nil]
  | cons part parts ih =>
    obtain ⟨⟨hdots, hshort⟩, hnames⟩ := List.forall_mem_cons.mp hnames
    have hhere : t.lookParts here = .directory := by
      simpa using hdirectories [] List.nil_prefix (by simp)
    have hrest := ih (here ++ [part]) (fun up hup hne => by
      have hpart : part :: up ≠ part :: parts := fun heq => hne (List.cons.inj heq).2
      have hbelow := hdirectories (part :: up) (List.prefix_cons_inj part |>.mpr hup) hpart
      rwa [List.append_cons] at hbelow) hnames
    rw [walk, hhere]
    simp only [hdots, hshort, if_false, Bool.false_eq_true]
    rw [hrest, List.append_assoc, List.singleton_append]

/-- What the system says of a name in a directory. -/
theorem Sound.look_child (ht : t.Sound) (hdir : t.lookParts dir = .directory) {name : String}
    (hdots : name ≠ "..") (hshort : isPartTooLong name = false) :
    t.look (Path.child ⟨t.root, dir⟩ name) =
      if t.isTooLong (Path.child ⟨t.root, dir⟩ name) then .tooLong
      else t.lookParts (dir ++ [name]) := by
  have hwalk : t.walk [] (dir ++ [name]) = t.lookParts (dir ++ [name]) := by
    refine walk_eq_lookParts [] (dir ++ [name]) (fun up hup hne => ?_) fun part hpart => ?_
    · exact ht.directory_above hdir ((List.prefix_concat_iff.mp hup).resolve_left hne)
    · obtain hpart | rfl := (List.mem_append.mp hpart).imp_right List.mem_singleton.mp
      · exact ht.names_of_directory hdir part hpart
      · exact ⟨hdots, hshort⟩
  have hrooted : ¬ (Path.child ⟨t.root, dir⟩ name).root.isEmpty = true :=
    fun h => ht.rooted (String.isEmpty_iff.mp h)
  have hroot : (Path.child ⟨t.root, dir⟩ name).root = t.root := rfl
  rw [look, if_neg hrooted, if_pos hroot]
  exact congrArg (if t.isTooLong _ = true then Look.tooLong else ·) hwalk

end

/-! ### The length of a path -/

/-- The length of a path is that of its parts, with a slash each. -/
theorem utf8ByteSize_intercalate {parts : List String} (h : parts ≠ []) :
    ("/".intercalate parts).utf8ByteSize + 1 = (parts.map fun p => 1 + p.utf8ByteSize).sum := by
  induction parts with
  | nil => exact absurd rfl h
  | cons part parts ih =>
    cases parts with
    | nil => simp [String.intercalate_singleton, Nat.add_comm]
    | cons next parts =>
      have hslash : ("/" : String).utf8ByteSize = 1 := rfl
      have hrest := ih (List.cons_ne_nil next parts)
      rw [String.intercalate_cons_of_ne_nil (List.cons_ne_nil next parts), List.map_cons,
        List.sum_cons, ← hrest, String.utf8ByteSize_append, String.utf8ByteSize_append, hslash]
      omega

/-- A directory further up has shorter paths below it. -/
theorem isTooLong_above {t : FileTree} {dir up : List String} (hup : up <+: dir) {name : String}
    (h : t.isTooLong (Path.child ⟨t.root, dir⟩ name) = false) :
    t.isTooLong (Path.child ⟨t.root, up⟩ name) = false := by
  have hsize (parts : List String) : (Path.child ⟨t.root, parts⟩ name).text.utf8ByteSize + 1 =
      t.root.utf8ByteSize + ((parts ++ [name]).map fun p => 1 + p.utf8ByteSize).sum := by
    have hne : parts ++ [name] ≠ [] := List.append_ne_nil_of_right_ne_nil parts (by simp)
    have hempty : ¬ (t.root.isEmpty && (parts ++ [name]).isEmpty) = true := by simp
    rw [← utf8ByteSize_intercalate hne, Path.text, Path.child, if_neg hempty,
      String.utf8ByteSize_append, Nat.add_assoc]
  obtain ⟨below, rfl⟩ := hup
  have hup := hsize up
  have hdir := hsize (up ++ below)
  simp only [isTooLong, decide_eq_false_iff_not, Nat.not_le, Path.child] at h ⊢
  simp only [Path.child, List.map_append, List.sum_append] at hup hdir
  omega

end FileTree

/-! ## Searching -/

namespace Config

open FileTree

/-- The configuration file of the directory `up` is the nearest one, seen from `dir`. -/
structure Nearest (t : FileTree) (dir up : List String) : Prop where
  above : up <+: dir
  file : t.HasFile (up ++ [fileName])
  closest : ∀ closer, up <+: closer → closer <+: dir → closer ≠ up →
    ¬ t.HasFile (closer ++ [fileName])

/-- What a search from a directory finds. -/
inductive Finds (t : FileTree) (dir : List String) : Option Path → Prop
  | nearest {up : List String} (h : Nearest t dir up) :
      Finds t dir (some (Path.child ⟨t.root, up⟩ fileName))
  | nowhere (h : ∀ up, up <+: dir → ¬ t.HasFile (up ++ [fileName])) : Finds t dir none

/-- There is one nearest file. -/
theorem Nearest.unique {t : FileTree} {dir up up' : List String} (h : Nearest t dir up)
    (h' : Nearest t dir up') : up = up' := by
  by_contra hne
  obtain hup | hup := List.prefix_or_prefix_of_prefix h.above h'.above
  · exact h.closest up' hup h'.above (Ne.symm hne) h'.file
  · exact h'.closest up hup h.above hne h.file

/-- A step of the search: the file of the directory itself, or else the search from the directory
above. -/
theorem findFrom_concat (fs : Files) (root : String) (dir : List String) (part : String) :
    findFrom fs ⟨root, dir ++ [part]⟩ = (do
      if ← fs.isFile (Path.child ⟨root, dir ++ [part]⟩ fileName)
      then return some (Path.child ⟨root, dir ++ [part]⟩ fileName)
      else findFrom fs ⟨root, dir⟩) := by
  simp [findFrom, nearest, Path.child]

section

variable {t : FileTree} {dir : List String}

/-- The file is looked up in its directory, unless its path is too long. -/
theorem look_fileName (ht : t.Sound) (hdir : t.lookParts dir = .directory) :
    t.toFiles.look (Path.child ⟨t.root, dir⟩ fileName) =
      if t.isTooLong (Path.child ⟨t.root, dir⟩ fileName) then .tooLong
      else t.lookParts (dir ++ [fileName]) :=
  ht.look_child hdir (by decide) (by decide)

/-- Is the name of a configuration file in a directory that of a file? -/
theorem isFile_fileName (ht : t.Sound) (hdir : t.lookParts dir = .directory)
    (hshort : t.isTooLong (Path.child ⟨t.root, dir⟩ fileName) = false) :
    ∃ found, t.toFiles.isFile (Path.child ⟨t.root, dir⟩ fileName) = .ok found ∧
      (found = true ↔ t.HasFile (dir ++ [fileName])) := by
  have hlook : t.toFiles.look (Path.child ⟨t.root, dir⟩ fileName) =
      t.lookParts (dir ++ [fileName]) := by
    rw [look_fileName ht hdir, hshort, if_neg Bool.false_ne_true]
  obtain ⟨bytes, hfile⟩ | hnone := t.lookParts_cases (dir ++ [fileName])
  · refine ⟨true, ?_, iff_of_true rfl ⟨bytes, hfile⟩⟩
    rw [Files.isFile, hlook, hfile]
  · refine ⟨false, ?_, iff_of_false Bool.false_ne_true ?_⟩
    · obtain hnone | hnone := hnone <;> rw [Files.isFile, hlook, hnone]
    · rintro ⟨bytes, hfile⟩
      rw [hfile] at hnone
      obtain h | h := hnone <;> cases h

/-- A file in the directory itself is the nearest. -/
theorem nearest_self (h : t.HasFile (dir ++ [fileName])) : Nearest t dir dir where
  above := List.prefix_rfl
  file := h
  closest := fun _ hup hcloser hne => absurd (hcloser.eq_of_length_le hup.length_le) hne

/-- The search finds the nearest file, by induction on the directories above. -/
theorem finds_findFrom (ht : t.Sound) (hdir : t.lookParts dir = .directory)
    (hshort : t.isTooLong (Path.child ⟨t.root, dir⟩ fileName) = false) :
    ∃ found, findFrom t.toFiles ⟨t.root, dir⟩ = .ok found ∧ Finds t dir found := by
  obtain ⟨found, hfound, hfile⟩ := isFile_fileName ht hdir hshort
  induction dir using List.reverseRecOn generalizing found with
  | nil =>
    have hstep : findFrom t.toFiles ⟨t.root, []⟩ =
        .ok (if found then some (Path.child ⟨t.root, []⟩ fileName) else none) := by
      simp only [Path.child, List.nil_append] at hfound
      simp [findFrom, nearest, hfound, Path.child, bind, Except.bind, pure, Except.pure]
    refine ⟨_, hstep, ?_⟩
    cases found with
    | true => exact .nearest (nearest_self (hfile.mp rfl))
    | false =>
      refine .nowhere fun up hup hup' => ?_
      rw [List.prefix_nil.mp hup] at hup'
      cases hfile.mpr hup'
  | append_singleton dir part ih =>
    have hstep := findFrom_concat t.toFiles t.root dir part
    rw [hfound] at hstep
    cases found with
    | true => exact ⟨_, hstep, .nearest (nearest_self (hfile.mp rfl))⟩
    | false =>
      -- The name stands for no file here, so that what is found further up is the nearest.
      have hnone : ¬ t.HasFile (dir ++ [part] ++ [fileName]) := fun h => by cases hfile.mpr h
      have hup : dir <+: dir ++ [part] := List.prefix_append dir [part]
      have hparent := ht.directory_above hdir hup
      have hshort' := isTooLong_above hup hshort
      obtain ⟨found', hfound', hfile'⟩ := isFile_fileName ht hparent hshort'
      obtain ⟨result, hresult, hfinds⟩ := ih hparent hshort' found' hfound' hfile'
      refine ⟨result, hstep.trans hresult, ?_⟩
      cases hfinds with
      | nearest h =>
        refine .nearest ⟨h.above.trans hup, h.file, fun closer hcloser hbelow hne => ?_⟩
        obtain rfl | hbelow := List.prefix_concat_iff.mp hbelow
        · exact hnone
        · exact h.closest closer hcloser hbelow hne
      | nowhere h =>
        refine .nowhere fun up hup => ?_
        obtain rfl | hup := List.prefix_concat_iff.mp hup
        · exact hnone
        · exact h up hup

/-- A path that is too long ends the search where it starts. -/
theorem findFrom_of_isTooLong (ht : t.Sound) (hdir : t.lookParts dir = .directory)
    (hlong : t.isTooLong (Path.child ⟨t.root, dir⟩ fileName) = true) :
    findFrom t.toFiles ⟨t.root, dir⟩ =
      .error ⟨.tooLong, Path.child ⟨t.root, dir⟩ fileName⟩ := by
  have hfile : t.toFiles.isFile (Path.child ⟨t.root, dir⟩ fileName) =
      .error ⟨.tooLong, Path.child ⟨t.root, dir⟩ fileName⟩ := by
    rw [Files.isFile, look_fileName ht hdir, if_pos hlong]
  obtain rfl | ⟨above, part, rfl⟩ := List.eq_nil_or_concat dir
  · simp only [Path.child, List.nil_append] at hfile ⊢
    simp [findFrom, nearest, hfile, bind, Except.bind]
  · rw [List.concat_eq_append] at hfile ⊢
    rw [findFrom_concat, hfile]
    rfl

/-- Loading without a path: what the search from the working directory comes to. -/
theorem load_none (t : FileTree) : load t.toFiles none =
    match findFrom t.toFiles ⟨t.root, t.cwd⟩ with
    | .ok (some p) => ofFile t.toFiles p
    | .ok none => .ok builtin
    | .error e => .error (.unreachable e) := rfl

/-- A search that fails makes loading fail. -/
theorem load_of_error {e : FileError} (hcwd : t.cwd = dir)
    (hfind : findFrom t.toFiles ⟨t.root, dir⟩ = .error e) :
    load t.toFiles none = .error (.unreachable e) := by
  rw [load_none, hcwd, hfind]

/-- The nearest file is loaded. -/
theorem load_of_nearest {up : List String} (ht : t.Sound) (hcwd : t.lookParts t.cwd = .directory)
    (hshort : t.isTooLong (Path.child ⟨t.root, t.cwd⟩ fileName) = false)
    (hup : Nearest t t.cwd up) {bytes : List UInt8}
    (hfile : t.lookParts (up ++ [fileName]) = .file bytes)
    (hfind : findFrom t.toFiles ⟨t.root, t.cwd⟩ = .ok (some (Path.child ⟨t.root, up⟩ fileName))) :
    load t.toFiles none = ofBytes (Path.child ⟨t.root, up⟩ fileName) bytes := by
  have hlook := look_fileName ht (ht.directory_above hcwd hup.above)
  rw [isTooLong_above hup.above hshort, if_neg Bool.false_ne_true, hfile] at hlook
  rw [load_none, hfind]
  simp only [ofFile, hlook]

/-- The built-in configuration comes from no file. -/
theorem ofBytes_ne_builtin (path : Path) (bytes : List UInt8) :
    ofBytes path bytes ≠ .ok builtin := by
  intro h
  have houtcome := outcome_ofBytes path bytes
  rw [h] at houtcome
  cases houtcome with
  | read _ _ hpath => cases hpath

/-- From any directory of a tree, the search ends at once with an error if the path below the
directory is too long.  Otherwise it finds the configuration file of the closest directory, among
the first one and those above it, in which the name is that of a file, and nothing exactly if there
is none.  The configuration that is loaded from the working directory is that of the file found, and
it is the built-in one exactly if nothing is found. -/
theorem findFrom_nearest {t : FileTree} (ht : t.Sound) {dir : List String}
    (hdir : t.lookParts dir = .directory) :
    (t.isTooLong (Path.child ⟨t.root, dir⟩ fileName) = true →
      findFrom t.toFiles ⟨t.root, dir⟩ =
        .error ⟨.tooLong, Path.child ⟨t.root, dir⟩ fileName⟩ ∧
      (t.cwd = dir → load t.toFiles none =
        .error (.unreachable ⟨.tooLong, Path.child ⟨t.root, dir⟩ fileName⟩))) ∧
    (t.isTooLong (Path.child ⟨t.root, dir⟩ fileName) = false →
      (∀ p, findFrom t.toFiles ⟨t.root, dir⟩ = .ok (some p) ↔
        ∃ up, Nearest t dir up ∧ p = Path.child ⟨t.root, up⟩ fileName) ∧
      (findFrom t.toFiles ⟨t.root, dir⟩ = .ok none ↔
        ∀ up, up <+: dir → ¬ t.HasFile (up ++ [fileName])) ∧
      (t.cwd = dir →
        (∀ up bytes, Nearest t dir up → t.lookParts (up ++ [fileName]) = .file bytes →
          load t.toFiles none = ofBytes (Path.child ⟨t.root, up⟩ fileName) bytes) ∧
        (load t.toFiles none = .ok builtin ↔
          ∀ up, up <+: dir → ¬ t.HasFile (up ++ [fileName])))) := by
  refine ⟨fun hlong => ?_, fun hshort => ?_⟩
  · have hfind := findFrom_of_isTooLong ht hdir hlong
    exact ⟨hfind, fun hcwd => load_of_error hcwd hfind⟩
  obtain ⟨found, hfind, hfinds⟩ := finds_findFrom ht hdir hshort
  cases hfinds with
  | @nearest up hup =>
    -- Some file is found, so the defaults are not used.
    have hsome : ¬ ∀ up, up <+: dir → ¬ t.HasFile (up ++ [fileName]) :=
      fun h => h up hup.above hup.file
    refine ⟨fun p => ⟨fun hp => ?_, ?_⟩, iff_of_false (by rw [hfind]; nofun) hsome, ?_⟩
    · cases hfind.symm.trans hp
      exact ⟨up, hup, rfl⟩
    · rintro ⟨up', hup', rfl⟩
      rw [hup'.unique hup, hfind]
    · rintro rfl
      have hload {bytes : List UInt8} (hfile : t.lookParts (up ++ [fileName]) = .file bytes) :=
        load_of_nearest ht hdir hshort hup hfile hfind
      refine ⟨fun up' bytes hup' hfile => ?_, iff_of_false ?_ hsome⟩
      · obtain rfl := hup'.unique hup
        exact hload hfile
      · obtain ⟨bytes, hfile⟩ := hup.file
        rw [hload hfile]
        exact ofBytes_ne_builtin _ _
  | nowhere hnone =>
    refine ⟨fun p => iff_of_false (by rw [hfind]; nofun) ?_, iff_of_true hfind hnone, ?_⟩
    · rintro ⟨up, hup, -⟩
      exact hnone up hup.above hup.file
    · rintro rfl
      refine ⟨fun up bytes hup => absurd hup.file (hnone up hup.above), iff_of_true ?_ hnone⟩
      rw [load_none, hfind]

end

/-- A tree in which the name of the configuration file is that of a file at the root, and that of a
directory further down. -/
def twoNames : FileTree where
  root := "/"
  directories := [["a"], ["a", "b"], ["a", "b", fileName]]
  files := [([fileName], [])]

/-- The directory is passed over, and the file at the root is found. -/
theorem findFrom_nearest_twoNames :
    twoNames.Sound ∧ twoNames.lookParts ["a", "b"] = .directory ∧
      findFrom twoNames.toFiles ⟨"/", ["a", "b"]⟩ = .ok (some ⟨"/", [fileName]⟩) := by
  have hsound : twoNames.Sound := ⟨by decide, by decide +kernel, by decide +kernel⟩
  have hdir : twoNames.lookParts ["a", "b"] = .directory := by decide +kernel
  have hnearest : Nearest twoNames ["a", "b"] [] := by
    refine ⟨List.nil_prefix, ⟨[], by decide +kernel⟩, fun closer _ hcloser hne => ?_⟩
    have hmem : closer ∈ [[], ["a"], ["a", "b"]] := List.mem_inits _ _ |>.mpr hcloser
    simp only [List.mem_cons, List.not_mem_nil, hne, or_false, false_or] at hmem
    rintro ⟨bytes, hfile⟩
    obtain rfl | rfl := hmem <;> cases hfile
  have hfound := ((findFrom_nearest hsound hdir).2 (by decide +kernel)).1 ⟨"/", [fileName]⟩
  exact ⟨hsound, hdir, hfound.mpr ⟨[], hnearest, rfl⟩⟩

/-- A directory that is eighteen levels down, each with a name of 226 bytes. -/
def deepDirectory : List String := List.replicate 18 (String.ofList (List.replicate 226 'd'))

/-- A tree that has nothing else than a directory far down. -/
def deepTree : FileTree := FileTree.addDirectory { root := "/", cwd := deepDirectory } deepDirectory

/-- From that directory the search fails, and so does loading, although no configuration file stands
in the way and the path of the directory itself is not too long. -/
theorem findFrom_fails_in_deep_directory :
    deepTree.Sound ∧ deepTree.lookParts deepDirectory = .directory ∧
      deepTree.isTooLong ⟨"/", deepDirectory⟩ = false ∧
      (∀ up, up <+: deepDirectory → ¬ deepTree.HasFile (up ++ [fileName])) ∧
      findFrom deepTree.toFiles ⟨"/", deepDirectory⟩ =
        .error ⟨.tooLong, Path.child ⟨"/", deepDirectory⟩ fileName⟩ ∧
      load deepTree.toFiles none =
        .error (.unreachable ⟨.tooLong, Path.child ⟨"/", deepDirectory⟩ fileName⟩) := by
  have hsound : deepTree.Sound := ⟨by decide, by decide +kernel, by decide +kernel⟩
  have hdir : deepTree.lookParts deepDirectory = .directory := by decide +kernel
  have hfind := findFrom_of_isTooLong hsound hdir (by decide +kernel)
  refine ⟨hsound, hdir, by decide +kernel, fun up _ => ?_, hfind, load_of_error rfl hfind⟩
  rintro ⟨bytes, hfile⟩
  have hnone : deepTree.files.lookup (up ++ [fileName]) = none := rfl
  rw [lookParts, hnone] at hfile
  dsimp only at hfile
  split at hfile <;> cases hfile

end Config

end Marginalia
