import Marginalia.Command.Scan
import Marginalia.Proofs.Command.Reporting
import Marginalia.Proofs.Report.Rows

/-!
# The places of findings in their table

The table of findings has a row for each of them, in their order (`tableShows_of_render`).  The place
of a finding is printed as markup, so it is shown literally if it has no markup in it: no tag, no
backslash before a bracket, and no name of a pictograph between colons (`Markup.Literal.render`).  The
line of a finding stands between two colons.  For a path without brackets and colons that makes the
difference in two lines only, which have pictographs for their numbers (`render_location`).
-/

namespace Marginalia

namespace Markup

variable {cs : List Char}

/-- A text without any markup in it. -/
structure Literal (cs : List Char) : Prop where
  tagless : Tagless cs []
  unslashed : ¬ ['\\', '['] <:+: cs
  unnamed : Unnamed cs

/-- There is nothing to unescape in it. -/
theorem Literal.unescapeBrackets (h : Literal cs) : unescapeBrackets cs = cs := by
  have hread := reread_append h.tagless fun hne => absurd rfl hne
  rw [List.append_nil, reread, List.append_nil] at hread
  rw [← hread, reread_eq_self_iff]
  intro before after heq
  exact absurd ⟨before, after, by rw [heq]; simp⟩ h.unslashed

/-- A text without markup and control characters is shown as it is. -/
theorem Literal.render (h : Literal cs) (hchars : ∀ c ∈ cs, Text.isDropped c = false) :
    render cs = .ok ⟨cs, []⟩ := by
  have hpieces : pieces cs = textPiece cs := by
    have hfrom := piecesFrom_tagless h.tagless 0 0 []
    rwa [Nat.zero_add, List.append_nil, piecesFrom_nil, List.append_nil, List.reverse_reverse]
      at hfrom
  obtain ⟨ps, hps, hread⟩ := textPiece_texts cs
  have hshown : (ps.map Markup.unescapeBrackets).flatMap shownText = cs := by
    have hflat : (ps.map Markup.unescapeBrackets).flatten = cs := hread.trans h.unescapeBrackets
    rw [shownTexts_of_unnamed (hflat.symm ▸ h.unnamed) (hflat.symm ▸ hchars), hflat]
  unfold Markup.render
  split
  · rw [hpieces, hps, renderPieces_texts, hshown]
    rfl
  · rw [shownText_of_unnamed h.unnamed hchars]

/-- Cells without tags are shown as they are rendered. -/
theorem shownCells_of_render {α : Type} {xs : List α} {cell text : α → List Char}
    (h : ∀ x ∈ xs, Markup.render (cell x) = .ok ⟨text x, []⟩) :
    shownCells (xs.map cell) = .ok (xs.map fun x => ⟨text x, []⟩) := by
  have hrendered : (xs.map cell).mapM Markup.render = .ok (xs.map fun x => ⟨text x, []⟩) := by
    induction xs with
    | nil => rfl
    | cons x xs ih =>
      obtain ⟨hx, hxs⟩ := List.forall_mem_cons.mp h
      rw [List.map_cons, List.mapM_cons, hx, ih hxs]
      rfl
  have hchecked : (xs.map fun x => (⟨text x, []⟩ : Rendered)).forM Rendered.checkStyles = .ok () := by
    clear h hrendered
    induction xs with
    | nil => rfl
    | cons x xs ih =>
      rw [List.map_cons, List.forM, ih, Rendered.checkStyles, Rendered.ordered, List.reverse_nil,
        List.mergeSort_nil]
      rfl
  rw [shownCells, hrendered]
  simp only [bind, Except.bind, hchecked]
  rfl

/-! ## Numbers between colons -/

/-- The characters of numerals. -/
def digits : List Char := ['0', '1', '2', '3', '4', '5', '6', '7', '8', '9']

/-- Numerals are made of digits. -/
theorem toDigits_subset (n : Nat) : ∀ c ∈ Nat.toDigits 10 n, c ∈ digits := by
  have hchars : ∀ k < 58, 48 ≤ k → Char.ofNat k ∈ digits := by decide
  intro c hc
  have hdigit := Nat.isDigit_of_mem_toDigits (b := 10) (by decide) (by decide) hc
  rw [Char.isDigit, Bool.and_eq_true, decide_eq_true_iff, decide_eq_true_iff] at hdigit
  rw [← Char.ofNat_toNat c]
  exact hchars c.toNat (Nat.lt_succ_of_le hdigit.2) hdigit.1

/-- Digits have no case. -/
theorem lowerText_digits {cs : List Char} (h : ∀ c ∈ cs, c ∈ digits) : Text.lowerText cs = cs := by
  have hlower : ∀ c ∈ digits, c ≠ Text.capitalSigma ∧ Text.lowerChar c = [c] :=
    Text.forall_of_all (by decide)
  have hfrom (before : List Char) : Text.lowerFrom before cs = cs := by
    induction cs generalizing before with
    | nil => rfl
    | cons c cs ih =>
      obtain ⟨hc, hcs⟩ := List.forall_mem_cons.mp h
      obtain ⟨hsigma, hlow⟩ := hlower c hc
      rw [Text.lowerFrom, if_neg hsigma, hlow, ih hcs, List.singleton_append]
  exact hfrom []

/-- Different numbers have different numerals. -/
theorem toDigits_inj {m n : Nat} (h : Nat.toDigits 10 m = Nat.toDigits 10 n) : m = n := by
  have hread := congrArg (fun ds => Nat.ofDigitChars 10 ds 0) h
  simpa using hread

/-- Only two names are numerals. -/
theorem filter_listedEntries : listedEntries.filter (fun e => e.1.all digits.contains) =
    [(Nat.toDigits 10 100, ['💯']), (Nat.toDigits 10 1234, ['🔢'])] := by
  decide +kernel

/-- The entries of other names do not matter for what a name stands for. -/
theorem lookup_filter (p : List Char → Bool) {name : List Char} (h : p name = true)
    (es : List (List Char × List Char)) :
    (es.filter fun e => p e.1).lookup name = es.lookup name := by
  induction es with
  | nil => rfl
  | cons e es ih =>
    rw [List.filter_cons]
    by_cases hname : name = e.1
    · rw [← hname, h, if_pos rfl, List.lookup_cons, List.lookup_cons, ← hname, beq_self_eq_true]
    · have hnext : (e :: es).lookup name = es.lookup name := by
        rw [List.lookup_cons, beq_eq_false_iff_ne.mpr hname]
      rw [hnext, ← ih]
      split
      · rw [List.lookup_cons, beq_eq_false_iff_ne.mpr hname]
      · rfl

/-- The only numbers that are names of pictographs. -/
theorem pictograph?_toDigits (n : Nat) :
    pictograph? (Nat.toDigits 10 n) =
      if n = 100 then some "💯" else if n = 1234 then some "🔢" else none := by
  have hdigits := toDigits_subset n
  have hnumeral : (Nat.toDigits 10 n).all digits.contains = true :=
    List.all_eq_true.mpr fun c hc => List.contains_iff_mem.mpr (hdigits c hc)
  have hsame (m : Nat) : (Nat.toDigits 10 n == Nat.toDigits 10 m) = decide (n = m) := by
    rw [beq_eq_decide]
    exact decide_eq_decide.mpr ⟨toDigits_inj, congrArg (Nat.toDigits 10)⟩
  have hlisted : listedEntries.lookup (Nat.toDigits 10 n) =
      if n = 100 then some ['💯'] else if n = 1234 then some ['🔢'] else none := by
    rw [← lookup_filter (·.all digits.contains) hnumeral, filter_listedEntries, List.lookup_cons,
      List.lookup_cons, hsame, hsame]
    by_cases h100 : n = 100
    · simp [h100]
    · by_cases h1234 : n = 1234 <;> simp [h100, h1234]
  -- No digit is a letter, so there is nothing to look for in the packed names.
  cases hds : Nat.toDigits 10 n with
  | nil => exact absurd hds Nat.toDigits_ne_nil
  | cons d ds =>
    have hlower : ∀ d ∈ digits, d.isLower = false := Text.forall_of_all (by decide)
    rw [hds] at hdigits hlisted
    rw [pictograph?, hlisted, hlower d (hdigits d List.mem_cons_self), if_neg Bool.false_ne_true,
      Option.or_none]
    by_cases h100 : n = 100
    · simp [h100]
    · by_cases h1234 : n = 1234 <;> simp [h100, h1234]

/-- A number between two colons as it is shown. -/
def numberShown (n : Nat) : List Char :=
  if n = 100 then ['💯'] else if n = 1234 then ['🔢'] else ':' :: Nat.toDigits 10 n ++ [':']

/-- All but two numbers are shown as they are. -/
theorem numberShown_eq_iff {n : Nat} :
    numberShown n = ':' :: (toString (n : Int)).toList ++ [':'] ↔ n ≠ 100 ∧ n ≠ 1234 := by
  have hnumeral : (toString (n : Int)).toList = Nat.toDigits 10 n := Nat.toList_repr
  rw [hnumeral, numberShown]
  by_cases h100 : n = 100
  · simp [h100]
  · by_cases h1234 : n = 1234 <;> simp [h100, h1234]

/-- A numeral names no variant. -/
theorem splitVariant_toDigits (n : Nat) :
    splitVariant (Nat.toDigits 10 n) = (Nat.toDigits 10 n, "") := by
  have hnone : (variants.find? fun v => v.1.isSuffixOf (Nat.toDigits 10 n)) = none := by
    rw [List.find?_eq_none]
    intro v hv hsuffix
    have hminus : ∀ v ∈ variants, '-' ∈ v.1 := by decide
    have hmem := (List.isSuffixOf_iff_suffix.mp hsuffix).subset (hminus v hv)
    exact absurd (toDigits_subset n '-' hmem) (by decide)
  rw [splitVariant, hnone]

/-- A numeral between colons as it is shown. -/
theorem pictographFor_toDigits (n : Nat) : pictographFor (Nat.toDigits 10 n) = numberShown n := by
  rw [pictographFor, splitVariant_toDigits]
  dsimp only
  rw [lowerText_digits (toDigits_subset n), pictograph?_toDigits, numberShown]
  by_cases h100 : n = 100
  · simp [h100]
  · by_cases h1234 : n = 1234 <;> simp [h100, h1234]

/-- A text without colons is left as it is. -/
theorem replaceNames_append {word : List Char} (h : ∀ c ∈ word, c ≠ ':') (m : Nat)
    (rest : List Char) :
    replaceNames (m + word.length) (word ++ rest) = word ++ replaceNames m rest := by
  induction word with
  | nil => rfl
  | cons c word ih =>
    obtain ⟨hc, hword⟩ := List.forall_mem_cons.mp h
    rw [List.length_cons, ← Nat.add_assoc, List.cons_append, replaceNames, if_neg hc, ih hword,
      List.cons_append]

/-- A text with a single numeral between colons. -/
theorem withPictographs_number {before after : List Char} (hbefore : ∀ c ∈ before, c ≠ ':')
    (hafter : ∀ c ∈ after, c ≠ ':') (n : Nat) :
    withPictographs (before ++ ':' :: (Nat.toDigits 10 n ++ ':' :: after)) =
      before ++ (numberShown n ++ after) := by
  have hnamed : named? (Nat.toDigits 10 n ++ ':' :: after) = some (Nat.toDigits 10 n, after) := by
    have hword : ∀ c ∈ Nat.toDigits 10 n, (c != ':' && !Text.isBlank c.toNat) = true := by
      have hdigits : ∀ c ∈ digits, (c != ':' && !Text.isBlank c.toNat) = true :=
        List.all_eq_true.mp (by decide)
      exact fun c hc => hdigits c (toDigits_subset n c hc)
    simp only [named?, drop_length_takeWhile]
    rw [List.takeWhile_append_of_pos hword, List.dropWhile_append_of_pos hword]
    simp
  have hrest (m : Nat) : replaceNames (m + after.length) after = after := by
    have hreplaced := replaceNames_append hafter m []
    cases m <;> simpa [replaceNames] using hreplaced
  have hlength : (before ++ ':' :: (Nat.toDigits 10 n ++ ':' :: after)).length =
      (Nat.toDigits 10 n).length + 1 + after.length + 1 + before.length := by
    simp only [List.length_append, List.length_cons]
    omega
  rw [withPictographs, hlength, replaceNames_append hbefore, replaceNames, if_pos rfl, hnamed]
  dsimp only
  rw [hrest, pictographFor_toDigits]

/-- A text up to its first colon. -/
theorem takeWhile_colon {word : List Char} (h : ':' ∉ word) (rest : List Char) :
    (word ++ ':' :: rest).takeWhile (· != ':') = word ∧
      (word ++ ':' :: rest).dropWhile (· != ':') = ':' :: rest := by
  have hword : ∀ c ∈ word, (c != ':') = true := fun c hc => by
    simpa using fun hcolon : c = ':' => h (hcolon ▸ hc)
  rw [List.takeWhile_append_of_pos hword, List.dropWhile_append_of_pos hword]
  simp

/-- There is no name between two colons with a number between them, but for two numbers. -/
theorem unnamed_number {before after : List Char} (hbefore : ':' ∉ before) (hafter : ':' ∉ after)
    {n : Nat} (hn : n ≠ 100 ∧ n ≠ 1234) :
    Unnamed (before ++ ':' :: (Nat.toDigits 10 n ++ ':' :: after)) := by
  rintro body ⟨-, hname⟩ ⟨p, q, heq⟩
  have hdigits : ':' ∉ Nat.toDigits 10 n := fun hc =>
    absurd (toDigits_subset n ':' hc) (by decide)
  -- There are no more than two colons, so the body is the number.
  have hcount := congrArg (List.count ':') heq
  simp only [List.count_append, List.count_cons, beq_self_eq_true, if_true, List.count_nil,
    List.count_eq_zero.mpr hbefore, List.count_eq_zero.mpr hafter,
    List.count_eq_zero.mpr hdigits] at hcount
  have hp : ':' ∉ p := List.count_eq_zero.mp (by omega)
  have hbody : ':' ∉ body := List.count_eq_zero.mp (by omega)
  have hrest := congrArg (List.dropWhile (· != ':')) heq
  rw [List.append_assoc, List.cons_append, List.append_assoc, (takeWhile_colon hp _).2,
    (takeWhile_colon hbefore _).2, List.cons_inj_right] at hrest
  have hnumber := congrArg (List.takeWhile (· != ':')) hrest
  rw [List.singleton_append, (takeWhile_colon hbody _).1, (takeWhile_colon hdigits _).1] at hnumber
  rw [hnumber, splitVariant_toDigits, lowerText_digits (toDigits_subset n), pictograph?_toDigits,
    if_neg hn.1, if_neg hn.2] at hname
  exact hname rfl

end Markup

namespace Command

open Markup Report

/-! ## The table of findings -/

/-- The table of findings, with a text for the place of each. -/
def findingTable (text : Finding → List Char) (fs : List Finding) : Grid :=
  { columns := findingColumns, rows := fs.map fun f => findingRow ⟨text f, []⟩ f }

/-- The table of findings is printed with a text for the place of each finding, if their styles can be
read.  On a console that is wide enough there is a row for each finding, in their order, that shows
the text. -/
structure TableShows (text : Finding → List Char) (fs : List Finding) : Prop where
  printed (sink : Sink) (hstyles : ∀ h ∈ sink.live, ∃ s, Style.ofOptions h.options = .ok s)
    (o : Output) : (printFindings sink fs).run o =
      (.ok (), { o with stdout := o.stdout ++ (findingTable text fs).plain consoleWidth })
  rows {size : Nat} (hfits : (findingTable text fs).Fits size) : ∃ w header rows,
    (findingTable text fs).plain size = String.join ((header ++ rows.flatten).map textLine) ∧
      Shows w "Location".toList header ∧ List.Forall₂ (fun f lines => Shows w (text f) lines) fs rows

/-- A text without styles has no seams. -/
theorem seamed_of_nil (cs : List Char) : Console.seamed ⟨cs, []⟩ = ⟨cs, []⟩ := by
  simp [Console.seamed, Rendered.ends]

/-- The table shows texts that are one line each. -/
theorem tableShows_of_render {text : Finding → List Char} {fs : List Finding}
    (h : ∀ f ∈ fs, render f.location.toList = .ok ⟨text f, []⟩ ∧ OneLine (text f)) :
    TableShows text fs where
  printed sink hstyles o := by
    have hlive : (sink.live.forM fun h => do
        let _ ← orFail (Style.ofOptions h.options) fun e => .display (.style e) :
          Action PUnit) = pure () := by
      generalize sink.live = live at hstyles
      induction live with
      | nil => rfl
      | cons handle live ih =>
        obtain ⟨⟨s, hs⟩, hlive⟩ := List.forall_mem_cons.mp hstyles
        rw [List.forM, ih hlive, orFail_ok _ hs]
        rfl
    have hplaces := shownCells_of_render fun f hf => (h f hf).1
    have hpairs : (fs.map fun f => (⟨text f, []⟩ : Rendered)).zip fs =
        fs.map fun f => (⟨text f, []⟩, f) := by
      simpa using List.zip_map' (f := fun f => (⟨text f, []⟩ : Rendered)) (g := id) (l := fs)
    rw [printFindings, hlive, hplaces]
    simp only [rendered, orFail, pure_bind, hpairs, List.map_map]
    rfl
  rows hfits := by
    have hheader : OneLine "Location".toList :=
      ⟨Text.forall_of_all (by decide), 'n', by decide⟩
    have hrows : (findingTable text fs).rows = fs.map fun f => ⟨text f, []⟩ ::
        [⟨Text.sanitize f.kind.toList, []⟩, ⟨Text.sanitize f.text.toList, []⟩] := by
      simp only [findingTable, findingRow, seamed_of_nil]
    have hcolumns : (findingTable text fs).columns = { header := "Location", wrap := false } ::
        { header := "Kind", wrap := false } :: [{ header := "Text" }] := rfl
    exact Grid.plain_shows hrows (fun f hf => (h f hf).2) hcolumns rfl rfl hheader
      (by decide +kernel) hfits

/-! ## Places -/

/-- The characters that stand in places beside those of the path. -/
def marks : List Char := ':' :: '-' :: '💯' :: '🔢' :: digits

/-- A number is shown by the marks of places. -/
theorem numberShown_subset (n : Nat) : ∀ c ∈ numberShown n, c ∈ marks := by
  have hdigits : digits ⊆ marks := by decide
  unfold numberShown
  split
  · exact Text.forall_of_all (by decide)
  split
  · exact Text.forall_of_all (by decide)
  · refine List.forall_mem_append.mpr ⟨List.forall_mem_cons.mpr ⟨by decide, ?_⟩,
      Text.forall_of_all (by decide)⟩
    exact fun c hc => hdigits (toDigits_subset n c hc)

/-- A numeral has digits, and may have a minus sign before them. -/
theorem toString_toList (i : Int) : ∃ sign n, (toString i).toList = sign ++ Nat.toDigits 10 n ∧
    ∀ c ∈ sign, c = '-' := by
  cases i with
  | ofNat n => exact ⟨[], n, Nat.toList_repr, nofun⟩
  | negSucc n =>
    have hrepr : toString (Int.negSucc n) = "-" ++ Nat.repr (n + 1) := rfl
    exact ⟨['-'], n + 1, by rw [hrepr, String.toList_append, Nat.toList_repr]; rfl, by simp⟩

/-- An integer has digits and perhaps a sign. -/
theorem toString_subset (i : Int) : ∀ c ∈ (toString i).toList, c ∈ '-' :: digits := by
  obtain ⟨sign, n, hnumeral, hsign⟩ := toString_toList i
  rw [hnumeral]
  exact List.forall_mem_append.mpr ⟨fun c hc => hsign c hc ▸ List.mem_cons_self,
    fun c hc => List.mem_cons_of_mem _ (toDigits_subset n c hc)⟩

section

variable {path middle : List Char} (hmiddle : ∀ c ∈ middle, c ∈ marks) (i : Int)

include hmiddle

/-- Characters of a place are those of its path or marks. -/
theorem forall_mem_place {P : Char → Prop} (hpath : ∀ c ∈ path, P c) (hmarks : ∀ c ∈ marks, P c) :
    ∀ c ∈ path ++ (middle ++ (toString i).toList), P c := by
  have hnumeral : '-' :: digits ⊆ marks := by decide
  exact List.forall_mem_append.mpr ⟨hpath, List.forall_mem_append.mpr
    ⟨fun c hc => hmarks c (hmiddle c hc), fun c hc => hmarks c (hnumeral (toString_subset i c hc))⟩⟩

/-- A place stands in one line if its path does. -/
theorem oneLine_place
    (hpath : ∀ c ∈ path, Text.staysInLine c = true ∧ isLineBoundary c = false) :
    OneLine (path ++ (middle ++ (toString i).toList)) := by
  have hlast : ∀ c ∈ digits, Text.isBlankChar c = false ∧ c ≠ Text.joiner :=
    Text.forall_of_all (by decide)
  obtain ⟨sign, n, hnumeral, -⟩ := toString_toList i
  have hne : Nat.toDigits 10 n ≠ [] := Nat.toDigits_ne_nil
  refine ⟨forall_mem_place hmiddle i hpath (Text.forall_of_all (by decide)),
    (Nat.toDigits 10 n).getLast hne, ?_, hlast _ (toDigits_subset n _ (List.getLast_mem hne))⟩
  rw [hnumeral]
  simp only [List.getLast?_append, List.getLast?_eq_getLast_of_ne_nil hne, Option.some_or]

end

/-- The number of a line between its colons. -/
def lineMark (i : Int) : List Char := ':' :: (toString i).toList ++ [':']

/-- A line is written with the marks of places. -/
theorem lineMark_subset (i : Int) : ∀ c ∈ lineMark i, c ∈ marks := by
  have hnumeral : '-' :: digits ⊆ marks := by decide
  exact List.forall_mem_append.mpr ⟨List.forall_mem_cons.mpr
    ⟨by decide, fun c hc => hnumeral (toString_subset i c hc)⟩,
    Text.forall_of_all (by decide)⟩

/-- A place is its path, its line and its column. -/
theorem location_toList (f : Finding) :
    f.location.toList = f.path.toList ++ (lineMark f.line ++ (toString f.column).toList) := by
  simp [Finding.location, lineMark]

/-- The place of a finding with a path without brackets and colons, as it is shown. -/
def placeShown (f : Finding) : List Char :=
  f.path.toList ++ (numberShown f.line.toNat ++ (toString f.column).toList)

/-- The place of a finding is shown with its number. -/
theorem render_location {f : Finding} (hline : 0 ≤ f.line)
    (hpath : ∀ c ∈ f.path.toList, Text.isDropped c = false ∧ c ≠ '[' ∧ c ≠ ':') :
    render f.location.toList = .ok ⟨placeShown f, []⟩ := by
  obtain ⟨n, hn⟩ := Int.eq_ofNat_of_zero_le hline
  have hcolon : ∀ c ∈ '-' :: digits, c ≠ ':' := Text.forall_of_all (by decide)
  have hbracket : ∀ c ∈ f.location.toList, c ≠ '[' := by
    rw [location_toList]
    exact forall_mem_place (lineMark_subset _) _ (fun c hc => (hpath c hc).2.1)
      (Text.forall_of_all (by decide))
  have hkept : ∀ c ∈ placeShown f, Text.isDropped c = false :=
    forall_mem_place (numberShown_subset _) _ (fun c hc => (hpath c hc).1)
      (Text.forall_of_all (by decide))
  have hshown : withPictographs f.location.toList = placeShown f := by
    have hnumeral : (toString (n : Int)).toList = Nat.toDigits 10 n := Nat.toList_repr
    have hplaced := withPictographs_number (fun c hc => (hpath c hc).2.2)
      (fun c hc => hcolon c (toString_subset f.column c hc)) n
    rw [location_toList, placeShown, lineMark, hn, hnumeral, Int.toNat_natCast, ← hplaced]
    simp
  rw [render, if_neg fun h => hbracket _ (List.contains_iff_mem.mp h) rfl, shownText, hshown,
    Text.sanitize, List.filter_eq_self.mpr fun c hc => by rw [hkept c hc]; rfl]

/-- What the table of findings shows for their places, for paths without control characters and line
boundaries of any kind.

Places without markup are shown as they are.  If no path has a bracket or a colon in it, only the
lines 100 and 1234 are shown in another way. -/
theorem printFindings_locations (fs : List Finding)
    (hpaths : ∀ f ∈ fs, ∀ c ∈ f.path.toList,
      Text.staysInLine c = true ∧ isLineBoundary c = false) :
    ((∀ f ∈ fs, Literal f.location.toList) → TableShows (fun f => f.location.toList) fs) ∧
    ((∀ f ∈ fs, 0 ≤ f.line ∧ ∀ c ∈ f.path.toList, c ≠ '[' ∧ c ≠ ':') →
      TableShows placeShown fs) ∧
    ∀ f : Finding, 0 ≤ f.line →
      (placeShown f = f.location.toList ↔ f.line ≠ 100 ∧ f.line ≠ 1234) := by
  have hdropped {f : Finding} (hf : f ∈ fs) : ∀ c ∈ f.path.toList, Text.isDropped c = false :=
    fun c hc => Text.isDropped_of_staysInLine (hpaths f hf c hc).1
  refine ⟨fun hliteral => ?_, fun hplain => ?_, fun f hline => ?_⟩
  · refine tableShows_of_render fun f hf => ⟨(hliteral f hf).render ?_, ?_⟩
    · rw [location_toList]
      exact forall_mem_place (lineMark_subset _) _ (hdropped hf)
        (Text.forall_of_all (by decide))
    · rw [location_toList]
      exact oneLine_place (lineMark_subset _) _ (hpaths f hf)
  · refine tableShows_of_render fun f hf => ⟨render_location (hplain f hf).1 fun c hc => ?_, ?_⟩
    · exact ⟨hdropped hf c hc, (hplain f hf).2 c hc⟩
    · exact oneLine_place (numberShown_subset _) _ (hpaths f hf)
  · obtain ⟨n, hn⟩ := Int.eq_ofNat_of_zero_le hline
    rw [location_toList, placeShown, List.append_cancel_left_eq, List.append_cancel_right_eq, hn,
      Int.toNat_natCast, lineMark, numberShown_eq_iff]
    omega

/-- A file with brackets in its name, which open no tag. -/
theorem printFindings_locations_brackets :
    TableShows (fun f => f.location.toList) [⟨"a[0].c", "TODO", 2, 4, "TODO", none⟩] := by
  have hlocation : (⟨"a[0].c", "TODO", 2, 4, "TODO", none⟩ : Finding).location.toList =
      "a[0].c".toList ++ ':' :: (Nat.toDigits 10 2 ++ ':' :: ['4']) := by
    decide +kernel
  refine (printFindings_locations _ ?_).1 ?_
  · simp only [List.forall_mem_singleton]
    exact Text.forall_of_all (by decide +kernel)
  · simp only [List.forall_mem_singleton]
    rw [hlocation]
    exact ⟨by decide +kernel, by decide +kernel,
      unnamed_number (by decide +kernel) (by decide +kernel) (by decide)⟩

/-- Paths with a tag in them and the numbers of some lines are not shown. -/
theorem printFindings_not_literal :
    (printFindings {} [⟨"[id].tsx", "TODO", 1, 4, "TODO", none⟩]).run {} =
      (.ok (), { stdout := "Location  Kind  Text\n.tsx:1:4  TODO  TODO\n" }) ∧
    (printFindings {} [⟨"a.c", "TODO", 100, 4, "TODO", none⟩]).run {} =
      (.ok (), { stdout := "Location  Kind  Text\na.c💯4    TODO  TODO\n" }) := by
  constructor
  · have hrender : render "[id].tsx:1:4".toList =
        .ok ⟨".tsx:1:4".toList, [⟨0, 8, some "id".toList⟩]⟩ :=
      eq_ok_of_toOption (by decide +kernel)
    have hcells : shownCells ["[id].tsx:1:4".toList] =
        .ok [⟨".tsx:1:4".toList, [⟨0, 8, some "id".toList⟩]⟩] := by
      rw [shownCells, List.mapM_cons, hrender]
      simp only [List.mapM_nil, bind, Except.bind, pure, Except.pure, List.forM, Rendered.checkStyles,
        Rendered.ordered, List.reverse_singleton, List.mergeSort_singleton]
      decide +kernel
    have hseamed : Console.seamed ⟨".tsx:1:4".toList, [⟨0, 8, some "id".toList⟩]⟩ =
        ⟨".tsx:1:4".toList, [0, 8]⟩ := by
      have hends : Rendered.ends ⟨".tsx:1:4".toList, [⟨0, 8, some "id".toList⟩]⟩ = [0, 8] := by
        decide +kernel
      rw [Console.seamed, hends, List.mergeSort_of_pairwise (by decide)]
    have htable : (⟨findingColumns, [findingRow ⟨".tsx:1:4".toList, [⟨0, 8, some "id".toList⟩]⟩
        ⟨"[id].tsx", "TODO", 1, 4, "TODO", none⟩]⟩ : Grid).plain consoleWidth =
        "Location  Kind  Text\n.tsx:1:4  TODO  TODO\n" := by
      rw [findingRow, hseamed]
      decide +kernel
    have hlocation : (⟨"[id].tsx", "TODO", 1, 4, "TODO", none⟩ : Finding).location =
        "[id].tsx:1:4" := by
      decide +kernel
    rw [printFindings, List.map_singleton, hlocation, hcells]
    simp only [rendered, orFail, pure_bind, List.zip_cons_cons, List.zip_nil_left,
      List.map_singleton, htable]
    rfl
  · have hrender : render "a.c:100:4".toList = .ok ⟨"a.c💯4".toList, []⟩ :=
      eq_ok_of_toOption (by decide +kernel)
    have hshows : TableShows (fun _ => "a.c💯4".toList) [⟨"a.c", "TODO", 100, 4, "TODO", none⟩] :=
      tableShows_of_render (by
        simp only [List.forall_mem_singleton]
        exact ⟨hrender, Text.forall_of_all (by decide +kernel), '4', by decide +kernel⟩)
    have htable : (findingTable (fun _ => "a.c💯4".toList)
        [⟨"a.c", "TODO", 100, 4, "TODO", none⟩]).plain consoleWidth =
        "Location  Kind  Text\na.c💯4    TODO  TODO\n" := by
      simp only [findingTable, List.map_cons, List.map_nil, findingRow, seamed_of_nil]
      decide +kernel
    rw [hshows.printed {} (by simp [Sink.live]) {}, htable, String.empty_append]

end Command

end Marginalia
