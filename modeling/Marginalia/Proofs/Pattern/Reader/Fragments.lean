import Marginalia.Pattern.Basic
import Marginalia.Proofs.Pattern.Priority
import Marginalia.Proofs.Pattern.Reader.Lockstep
import Mathlib.Data.List.Forall2

/-!
# Fragments in a longer pattern

A fragment that compiles on its own is put into a longer text, before a bar, a closing parenthesis or
the end.  Whatever is in it, the reader of the whole text comes to the end of the fragment and has
read some alternatives by then (`fragment_ok`).  If the fragment refers to no group by number they
are the alternatives of the fragment's own pattern, numbered behind the groups before it.  Fragments
with bars between them are read one after the other (`fragments_ok`).
-/

namespace Marginalia.Pattern

/-! ## The tokens of a text that is put together -/

/-- The tokens of a text, apart from where they stand. -/
def faces (cs : List Char) : List (Char × Bool) := (tokens 0 cs).map Token.face

/-- The tokens of a text have the faces of the text, wherever it starts. -/
theorem map_face_tokens (p : Nat) (cs : List Char) : (tokens p cs).map Token.face = faces cs := by
  suffices h : ∀ q, (tokens p cs).map Token.face = (tokens q cs).map Token.face from h 0
  intro q
  fun_induction tokens p cs generalizing q with
  | case1 | case2 => rfl
  | case3 p c cs ih => simp [tokens, Token.face, ih (q + 2)]
  | case4 p c cs h₁ h₂ ih => simp [tokens, Token.face, ih (q + 1)]

/-- A character that is not a backslash is a token of its own. -/
private theorem tokens_cons_of_ne {c : Char} (hc : c ≠ '\\') (p : Nat) (cs : List Char) :
    tokens p (c :: cs) = ⟨c, false, p⟩ :: tokens (p + 1) cs := by
  rw [tokens]
  · exact fun h _ => hc h
  · exact fun _ _ h _ => hc h

/-- A character that neither escapes nor dangles is not a backslash. -/
private theorem ne_backslash {c : Char} {cs : List Char} (h₁ : c = '\\' → cs = [] → False)
    (h₂ : ∀ d ds, c = '\\' → cs = d :: ds → False) : c ≠ '\\' := by
  rintro rfl
  cases cs with
  | nil => exact h₁ rfl rfl
  | cons d ds => exact h₂ d ds rfl rfl

/-- The tokens of two texts in a row, the first of which does not end in a backslash that escapes
nothing. -/
theorem faces_append {cs : List Char} (h : endsDangling cs = false) (ds : List Char) :
    faces (cs ++ ds) = faces cs ++ faces ds := by
  suffices h : ∀ p, (tokens p (cs ++ ds)).map Token.face = (tokens p cs).map Token.face ++ faces ds
    from h 0
  intro p
  fun_induction endsDangling cs generalizing p with
  | case1 => exact map_face_tokens p ds
  | case2 => cases h
  | case3 c cs ih => simp [tokens, ih h (p + 2)]
  | case4 c cs h₁ h₂ ih =>
    simp [tokens_cons_of_ne (ne_backslash h₁ h₂), ih h (p + 1)]

/-- A backslash that is left dangling by two texts in a row is left so by the second one. -/
theorem endsDangling_append {cs : List Char} (h : endsDangling cs = false) (ds : List Char) :
    endsDangling (cs ++ ds) = endsDangling ds := by
  fun_induction endsDangling cs with
  | case1 => rfl
  | case2 => cases h
  | case3 c cs ih => exact ih h
  | case4 c cs h₁ h₂ ih =>
    have hc := ne_backslash h₁ h₂
    rw [← ih h, List.cons_append, endsDangling]
    · exact fun h _ => hc h
    · exact fun _ _ h _ => hc h

/-- A text without backslashes has a face for each character. -/
theorem faces_of_not_mem (cs : List Char) (h : '\\' ∉ cs) (ds : List Char) :
    faces (cs ++ ds) = cs.map (·, false) ++ faces ds := by
  induction cs with
  | nil => rfl
  | cons c cs ih =>
    rw [List.mem_cons, not_or] at h
    rw [List.cons_append, List.map_cons, List.cons_append, ← ih h.2, faces, faces,
      tokens_cons_of_ne (Ne.symm h.1), List.map_cons, map_face_tokens, map_face_tokens]
    rfl

/-! ## A fragment's own pattern -/

namespace Reader

/-- The reader at the start of a text, behind groups of another one. -/
def behind (cs : List Char) (groups : List (Option Width)) : Reader :=
  { rest := tokens 0 cs, dangling := endsDangling cs, size := cs.length, groups }

end Reader

open Reader

/-- What compiling a text comes to: the nodes and the reader at the end of the text. -/
structure Compiled (source : String) (p : Pattern) (ns : List Node) (r : Reader) : Prop where
  read : readAlternatives (3 * (tokens 0 source.toList).length + 3) false true []
    (.behind source.toList []) = .ok (ns, r)
  ended : r.rest = []
  solid : endsDangling source.toList = false
  root : p.root = Node.sequence ns
  flags : p.flags = ({} : Flags).scoped r.globals []
  names : p.names = r.names
  least : p.least = (p.root.width r.widthOf).cut.least
  prospect : p.prospect = if p.least = 0 then .unknown else p.root.prospect p.flags

/-- A pattern that is read does not end in a backslash, and is read to its end. -/
theorem readAll_ok {cs : List Char} {root : Node} {r : Reader}
    (h : readAll cs = .ok (root, r)) :
    endsDangling cs = false ∧ r.rest = [] ∧ ∃ ns, root = Node.sequence ns ∧
      readAlternatives (3 * (tokens 0 cs).length + 3) false true [] (.behind cs []) =
        .ok (ns, r) := by
  simp only [readAll, throw_bind] at h
  obtain ⟨r₀, hstart, h⟩ := bind_eq_ok.mp h
  obtain ⟨⟨ns, r₁⟩, hns, h⟩ := bind_eq_ok.mp h
  obtain ⟨-, h⟩ | ⟨-, h⟩ := ite_eq_iff.mp h
  · cases h
  obtain ⟨-, h⟩ | ⟨hrest, h⟩ := ite_eq_iff.mp h
  · cases h
  split at h
  · cases h
  cases h
  unfold Reader.start at hstart
  obtain ⟨-, hstart⟩ | ⟨hempty, hstart⟩ := ite_eq_iff.mp hstart
  · cases hstart
  cases hstart
  have hend : r₁.rest = [] := by simpa using hrest
  refine ⟨?_, hend, ns, rfl, hns⟩
  cases hdangling : endsDangling cs with
  | false => rfl
  | true =>
    have hahead : Reader.Dangles (.behind cs []) := ⟨hdangling, by simpa [hdangling, behind] using hempty⟩
    exact absurd hend ((readAlternatives_grows hns).reads.dangles hahead).2

/-- A pattern that compiles was read. -/
theorem compile_ok {source : String} {p : Pattern} (h : compile source = .ok p) :
    ∃ ns r, Compiled source p ns r := by
  simp only [compile, throw_bind] at h
  obtain ⟨⟨root, r⟩, hread, h⟩ := bind_eq_ok.mp h
  obtain ⟨hsolid, hend, ns, rfl, hns⟩ := readAll_ok hread
  split at h
  · cases h
  obtain ⟨-, h⟩ | ⟨-, h⟩ := ite_eq_iff.mp h
  · cases h
  cases h
  exact ⟨ns, r, hns, hend, hsolid, rfl, rfl, rfl, rfl, rfl⟩

/-- The names of groups are identifiers. -/
theorem isIdentifier_of_mem_names {source : String} {p : Pattern} (hp : compile source = .ok p) :
    ∀ e ∈ p.names, Text.isIdentifier e.1.toList = true := by
  obtain ⟨ns, r, hcompiled⟩ := compile_ok hp
  rw [hcompiled.names]
  exact (readAlternatives_grows hcompiled.read).reads.named nofun

/-! ## References by number -/

/-- Does the text refer to no group by number?  It is read as if it stood inside of as many groups as
a number in a reference can count.  There every such reference is to a group that is still open, and
is refused; a condition that tests a number is noted. -/
def isNumberless (source : String) : Bool :=
  match readAlternatives (3 * (tokens 0 source.toList).length + 3) false false []
    (.behind source.toList (List.replicate Setting.opened none)) with
  | .ok (_, r) => r.rest.isEmpty && r.tested.isEmpty
  | .error _ => false

example : isNumberless "(?P<q>a)(?P=q)[\\1]\\101" = true ∧ isNumberless "(a)\\1" = false ∧
    isNumberless "(a)?(?(1)b|c)" = false := by decide +kernel

/-- A fragment without numbers can be read behind open groups. -/
private theorem isNumberless_ok {source : String} (h : isNumberless source = true) :
    ∃ ns r, readAlternatives (3 * (tokens 0 source.toList).length + 3) false false []
      (.behind source.toList (List.replicate Setting.opened none)) = .ok (ns, r) ∧
      r.rest = [] ∧ r.tested = [] := by
  unfold isNumberless at h
  split at h
  · rename_i ns r hread
    rw [Bool.and_eq_true, List.isEmpty_iff, List.isEmpty_iff] at h
    exact ⟨ns, r, hread, h⟩
  · cases h

/-- The nodes of a text that is read behind other groups, of which only the first may be closed and
then has the given width.  Such a text refers to no other group by number. -/
def readBehind (first : Option Width) (source : String) : Option (List Node) :=
  match readAlternatives (3 * (tokens 0 source.toList).length + 3) false false []
    (.behind source.toList (Setting.ahead first)) with
  | .ok (ns, r) => if r.rest.isEmpty && r.tested.isEmpty then some ns else none
  | .error _ => none

/-- A fragment that is read behind groups is read to its end. -/
private theorem readBehind_ok {first : Option Width} {source : String} {ns : List Node}
    (h : readBehind first source = some ns) :
    ∃ r, readAlternatives (3 * (tokens 0 source.toList).length + 3) false false []
      (.behind source.toList (Setting.ahead first)) = .ok (ns, r) ∧ r.rest = [] ∧ r.tested = [] := by
  unfold readBehind at h
  split at h
  · rename_i ns' r hread
    split at h
    · rename_i hends
      rw [Bool.and_eq_true, List.isEmpty_iff, List.isEmpty_iff] at hends
      cases h
      exact ⟨r, hread, hends⟩
    · cases h
  · cases h

/-- A text whose references by number are to the first group, if to any, is read alike behind any
groups of which the first is the same. -/
private theorem twin_behind (first : Option Width) {B : Reader} {cs : List Char}
    {tail : List (Char × Bool)} (hd : Delimits tail)
    (hrest : B.rest.map Token.face = faces cs ++ tail) (hglobals : B.globals = [])
    (hfirst : ∀ w, first = some w → B.groups.head? = some (some w)) :
    Twin ⟨tail, hd, first, B.groups, B.names, true, hfirst⟩ (.behind cs (Setting.ahead first)) B where
  rest := hrest
  left := rfl
  right := hglobals
  groups _ := ⟨[], (List.append_nil _).symm, (List.append_nil _).symm⟩
  names _ := ⟨(List.append_nil _).symm, by simp [behind]⟩

/-- The pattern of a text without references by number sets no flags, and its tree is the one that
is read behind other groups, numbered from one. -/
private theorem own_eq {source : String} {p : Pattern} {ns ms : List Node} {r r' : Reader}
    (hp : Compiled source p ns r)
    (hread : readAlternatives (3 * (tokens 0 source.toList).length + 3) false false []
      (.behind source.toList (List.replicate Setting.opened none)) = .ok (ms, r'))
    (hend : r'.rest = []) (htested : r'.tested = []) :
    p.flags = {} ∧ p.root = (Node.sequence ms).renumber (· - Setting.opened) ∧
      (Node.sequence ms).Indexed Setting.Own Setting.Own := by
  have htwin := twin_behind none (B := .behind source.toList []) delimits_nil
    (List.append_nil _).symm rfl nofun
  obtain ⟨alts, alts', B, -, rfl, halts, hB, -, calls, hdone⟩ :=
    readAlternatives_twin htwin (.inl rfl) hread hend (fun _ => htested) hp.read
  have hrest : B.rest = [] := by simpa [hend] using hB.rest
  rw [accept_of_nil hrest] at hdone
  cases hdone
  obtain ⟨hroot, hindexed⟩ := halts.choice.sequence rfl
  have hown : (Node.sequence (Node.choice alts)).Indexed Setting.Own Setting.Own :=
    hindexed.mono (fun _ => id) fun _ hg => hg.resolve_right nofun
  refine ⟨?_, hp.root.trans (hroot.trans (Node.renumber_congr hown ?_ ?_)), hown⟩
  · rw [hp.flags, hB.right]
    exact Flags.scoped_nil {}
  all_goals exact fun g hg => Setting.shift_own _ hg

/-- What a fragment `source` with the pattern `p` of its own becomes behind `before` groups, of which
the first has the width `first` if it is known to be closed. -/
structure Spliced (first : Option Width) (source : String) (p : Pattern) (before : Nat)
    (alts : List (List Node)) : Prop where
  ne : alts ≠ []
  indexed : ∀ ns ∈ alts, ∀ n ∈ ns, n.Indexed (before < ·) fun _ => True
  own : isNumberless source = true → p.flags = {} ∧ p.root.Indexed (1 ≤ ·) (1 ≤ ·) ∧
    Node.sequence (Node.choice alts) = p.root.renumber (· + before)
  numbered : isNumberless source = false → ∀ ns, readBehind first source = some ns →
    Node.sequence (Node.choice alts) = (Node.sequence ns).renumber (Setting.renumbering before)

/-- One fragment among others is read as it is on its own, with its groups renumbered. -/
theorem fragment_ok {source : String} {p : Pattern} (hp : compile source = .ok p) {calls : Nat}
    {done : List (List Node)} {ns : List Node} {B B' : Reader} {tail : List (Char × Bool)}
    (hd : Delimits tail) (hrest : B.rest.map Token.face = faces source.toList ++ tail)
    (hglobals : B.globals = []) {first : Option Width}
    (hfirst : ∀ w, first = some w → B.groups.head? = some (some w))
    (h : readAlternatives calls false false done B = .ok (ns, B')) :
    ∃ alts B₁, Spliced first source p B.groups.length alts ∧ B₁.rest.map Token.face = tail ∧
      B₁.globals = [] ∧ Grows B [] B₁ alts.flatten ∧ ∃ calls, (B₁.accept '|' >>= fun x =>
        if x.1 then readAlternatives calls false false (done ++ alts) x.2
        else pure (Node.choice (done ++ alts), x.2)) = .ok (ns, B') := by
  obtain ⟨own, r, hown⟩ := compile_ok hp
  cases hnumberless : isNumberless source with
  | true =>
    -- The tree is that of the fragment on its own, with its groups shifted.
    obtain ⟨ms, r', hread, hend, htested⟩ := isNumberless_ok hnumberless
    obtain ⟨hflags, hroot, hindexed⟩ := own_eq hown hread hend htested
    obtain ⟨alts₀, alts, B₁, hne, rfl, halts, hB₁, hgrows, calls, hdone⟩ :=
      readAlternatives_twin (twin_behind none hd hrest hglobals nofun) (.inl rfl) hread
        hend (fun _ => htested) h
    refine ⟨alts, B₁, ⟨hne, ?_, fun _ => ⟨hflags, ?_, ?_⟩, fun h => ?_⟩, ?_, hB₁.right, hgrows,
      calls, hdone⟩
    · exact List.forall_mem_flatten.mp hgrows.indexed
    · rw [hroot, Node.indexed_renumber]
      exact hindexed.mono (fun _ => Nat.sub_pos_of_lt) fun _ => Nat.sub_pos_of_lt
    · rw [(halts.choice.sequence rfl).1, hroot, Node.renumber_renumber]
      refine Node.renumber_congr hindexed ?_ ?_
      all_goals exact fun g hg => Setting.shift_own _ hg
    · rw [hnumberless] at h
      cases h
    · simpa [hend] using hB₁.rest
  | false =>
    have hown' : isNumberless source ≠ true := by simp [hnumberless]
    cases hread : readBehind first source with
    | none =>
      -- Nothing is said of the tree, so that the readers need not agree on groups.
      have htwin : Twin ⟨tail, hd, none, B.groups, B.names, false, nofun⟩
          (.behind source.toList []) B := ⟨hrest, rfl, hglobals, nofun, nofun⟩
      obtain ⟨_, alts, B₁, hne, -, -, hB₁, hgrows, calls, hdone⟩ :=
        readAlternatives_twin htwin (.inr rfl) hown.read hown.ended nofun h
      refine ⟨alts, B₁, ⟨hne, ?_, fun h => absurd h hown', fun _ ns hns => ?_⟩, ?_, hB₁.right, hgrows,
        calls, hdone⟩
      · exact List.forall_mem_flatten.mp hgrows.indexed
      · rw [hread] at hns
        cases hns
      · simpa [hown.ended] using hB₁.rest
    | some ms =>
      obtain ⟨r', hleft, hend, htested⟩ := readBehind_ok hread
      obtain ⟨alts₀, alts, B₁, hne, rfl, halts, hB₁, hgrows, calls, hdone⟩ :=
        readAlternatives_twin (twin_behind first hd hrest hglobals hfirst) (.inl rfl) hleft hend
          (fun _ => htested) h
      refine ⟨alts, B₁, ⟨hne, ?_, fun h => absurd h hown', fun _ ns hns => ?_⟩, ?_, hB₁.right, hgrows,
        calls, hdone⟩
      · exact List.forall_mem_flatten.mp hgrows.indexed
      · rw [hread] at hns
        cases hns
        exact (halts.choice.sequence rfl).1
      · simpa [hend] using hB₁.rest

/-! ## Steps on known tokens -/

namespace Reader

variable {r r' : Reader} {c : Char} {escaped : Bool} {xs : List (Char × Bool)}

/-- A face ahead is that of a token ahead. -/
theorem exists_of_faces (hr : r.rest.map Token.face = (c, escaped) :: xs) :
    ∃ p ts, r.rest = ⟨c, escaped, p⟩ :: ts ∧ ts.map Token.face = xs := by
  cases hrest : r.rest with
  | nil =>
    rw [hrest] at hr
    cases hr
  | cons t ts =>
    obtain ⟨d, e, p⟩ := t
    rw [hrest, List.map_cons] at hr
    cases hr
    exact ⟨p, ts, rfl, rfl⟩

/-- To advance is to drop the face ahead. -/
theorem advance_of_faces (hr : r.rest.map Token.face = (c, escaped) :: xs)
    (h : r.advance = .ok r') : r'.rest.map Token.face = xs := by
  obtain ⟨p, ts, hrest, hts⟩ := exists_of_faces hr
  rw [advance_of_cons hrest h]
  exact hts

/-- The token that is taken has the face ahead. -/
theorem take_of_faces {t : Token} (hr : r.rest.map Token.face = (c, escaped) :: xs)
    (h : r.take = .ok (t, r')) : t.face = (c, escaped) ∧ r'.rest.map Token.face = xs := by
  obtain ⟨p, ts, hrest, -⟩ := exists_of_faces hr
  simp only [take, hrest] at h
  obtain ⟨r₁, hadvance, h⟩ := bind_eq_ok.mp h
  cases h
  exact ⟨rfl, advance_of_faces hr hadvance⟩

/-- What is next depends on the face ahead. -/
theorem nextIs_eq_decide (r : Reader) (c : Char) :
    r.nextIs c = decide ((c, false) ∈ (r.rest.map Token.face).head?) := by
  unfold Reader.nextIs
  cases r.rest with
  | nil => rfl
  | cons t ts =>
    obtain ⟨d, escaped, p⟩ := t
    cases escaped <;> simp [Token.is, Token.face, beq_eq_decide, eq_comm]

/-- A character ahead is accepted. -/
theorem accept_of_face {more : Bool} (hr : r.rest.map Token.face = (c, false) :: xs)
    (h : r.accept c = .ok (more, r')) : more = true ∧ r'.rest.map Token.face = xs := by
  have hnext : r.nextIs c = true := by simp [nextIs_eq_decide, hr]
  unfold accept at h
  rw [if_pos hnext] at h
  obtain ⟨r₁, hadvance, h⟩ := bind_eq_ok.mp h
  cases h
  exact ⟨rfl, advance_of_faces hr hadvance⟩

/-- Another character is not. -/
theorem accept_of_not_face (hr : (c, false) ∉ (r.rest.map Token.face).head?) :
    r.accept c = .ok (false, r) := by
  have hnext : r.nextIs c = false := (nextIs_eq_decide r c).trans (decide_eq_false hr)
  simp [accept, hnext]

/-- A name is taken up to its stop. -/
private theorem takeName_of_faces {stop : Char} {what : String} {calls : Nat}
    {name done cs : List Char} (hname : stop ∉ name)
    (hr : r.rest.map Token.face = name.map (·, false) ++ (stop, false) :: xs)
    (h : takeName stop what calls done r = .ok (cs, r')) :
    cs = done ++ name ∧ r'.rest.map Token.face = xs := by
  induction name generalizing calls done r with
  | nil =>
    cases calls with
    | zero => cases h
    | succ calls =>
      obtain ⟨p, ts, hrest, -⟩ := exists_of_faces hr
      have hstop : Token.is ⟨stop, false, p⟩ stop = true := by simp [Token.is]
      simp only [takeName, hrest, hstop, if_true] at h
      obtain ⟨r₁, hadvance, h⟩ := bind_eq_ok.mp h
      obtain ⟨-, h⟩ | ⟨-, h⟩ := ite_eq_iff.mp h
      · cases h
      cases h
      exact ⟨(List.append_nil _).symm, advance_of_faces hr hadvance⟩
  | cons d name ih =>
    rw [List.mem_cons, not_or] at hname
    cases calls with
    | zero => cases h
    | succ calls =>
      obtain ⟨p, ts, hrest, -⟩ := exists_of_faces hr
      have hstop : Token.is ⟨d, false, p⟩ stop = false := by
        simpa [Token.is] using Ne.symm hname.1
      simp only [takeName, hrest, hstop] at h
      obtain ⟨r₁, hadvance, h⟩ := bind_eq_ok.mp h
      obtain ⟨rfl, hxs⟩ := ih hname.2 (advance_of_faces hr hadvance) h
      exact ⟨by simp [Token.text], hxs⟩

/-- The opening of a named group. -/
theorem opening_of_named {start : Nat} {o : Opening} {name : List Char} (hname : '>' ∉ name)
    (hr : r.rest.map Token.face = ('?', false) :: ('P', false) :: ('<', false) ::
      (name.map (·, false) ++ ('>', false) :: xs))
    (h : opening start r = .ok (o, r')) :
    o = .capture (some name) ∧ r'.rest.map Token.face = xs := by
  simp only [opening, throw_bind] at h
  obtain ⟨⟨extended, r₁⟩, hextended, h⟩ := bind_eq_ok.mp h
  obtain ⟨rfl, hr₁⟩ := accept_of_face hr hextended
  obtain ⟨⟨⟨d, escaped, p⟩, r₂⟩, htake, h⟩ := bind_eq_ok.mp h
  obtain ⟨ht, hr₂⟩ := take_of_faces hr₁ htake
  cases ht
  simp only [namedForm] at h
  obtain ⟨⟨named, r₃⟩, hnamed, h⟩ := bind_eq_ok.mp h
  obtain ⟨rfl, hr₃⟩ := accept_of_face hr₂ hnamed
  obtain ⟨⟨cs, r₄⟩, hcs, h⟩ := bind_eq_ok.mp h
  obtain ⟨rfl, hr₄⟩ := takeName_of_faces hname hr₃ hcs
  obtain ⟨_, -, h⟩ := bind_eq_ok.mp h
  cases h
  exact ⟨rfl, hr₄⟩

/-- The opening of a group without a number. -/
theorem opening_of_plain {start : Nat} {o : Opening}
    (hr : r.rest.map Token.face = ('?', false) :: (':', false) :: xs)
    (h : opening start r = .ok (o, r')) : o = .plain ∧ r'.rest.map Token.face = xs := by
  simp only [opening, throw_bind] at h
  obtain ⟨⟨extended, r₁⟩, hextended, h⟩ := bind_eq_ok.mp h
  obtain ⟨rfl, hr₁⟩ := accept_of_face hr hextended
  obtain ⟨⟨⟨d, escaped, p⟩, r₂⟩, htake, h⟩ := bind_eq_ok.mp h
  obtain ⟨ht, hr₂⟩ := take_of_faces hr₁ htake
  cases ht
  cases h
  exact ⟨rfl, hr₂⟩

/-- A group at the start of a sequence: its opening, what `readGroup` makes of it, and the rest. -/
theorem readSequence_of_paren {calls : Nat} {first : Bool} {ns : List Node}
    (hr : r.rest.map Token.face = ('(', false) :: xs)
    (h : readSequence calls false first [] r = .ok (ns, r')) :
    ∃ calls start r₁ o r₂, r.Moves r₁ ∧ r₁.rest.map Token.face = xs ∧
      opening start r₁ = .ok (o, r₂) ∧ (o ≠ .comment → o ≠ .globals →
        ∃ p r₃, readGroup calls false start o r₂ = .ok (p, r₃) ∧
          readSequence calls false first [p] r₃ = .ok (ns, r')) := by
  cases calls with
  | zero => cases h
  | succ calls =>
    obtain ⟨p, ts, hrest, -⟩ := exists_of_faces hr
    have hbar : (Token.is ⟨'(', false, p⟩ '|' || Token.is ⟨'(', false, p⟩ ')') = false := rfl
    have hsign : isRepeatSign '(' = false := rfl
    simp only [readSequence, throw_bind, hrest, hbar, hsign, Bool.false_and, Bool.false_eq_true,
      if_false] at h
    obtain ⟨r₁, hadvance, h⟩ := bind_eq_ok.mp h
    rw [if_neg (by decide), if_neg (by decide), if_neg (by decide), if_neg (by decide),
      if_pos (by decide)] at h
    obtain ⟨⟨o, r₂⟩, ho, h⟩ := bind_eq_ok.mp h
    refine ⟨calls, p, r₁, o, r₂, advance_moves hadvance, advance_of_faces hr hadvance, ho,
      fun hcomment hglobals => ?_⟩
    dsimp only at h
    split at h
    · exact absurd rfl hcomment
    · exact absurd rfl hglobals
    · obtain ⟨⟨q, r₃⟩, hq, h⟩ := bind_eq_ok.mp h
      exact ⟨q, r₃, hq, h⟩

/-- A closing parenthesis ahead is dropped. -/
theorem close_of_faces {start : Nat} (hr : r.rest.map Token.face = (')', false) :: xs)
    (h : r.close start = .ok r') : r'.rest.map Token.face = xs := by
  simp only [close] at h
  obtain ⟨⟨closed, r₁⟩, hclosed, h⟩ := bind_eq_ok.mp h
  obtain ⟨rfl, hr₁⟩ := accept_of_face hr hclosed
  cases h
  exact hr₁

end Reader

/-! ## Fragments with bars between them -/

/-- The first of several fragments is followed by a bar. -/
private theorem faces_intercalate {source source' : String} {sources : List String}
    (h : endsDangling source.toList = false) :
    faces ("|".intercalate (source :: source' :: sources)).toList =
      faces source.toList ++ ('|', false) :: faces ("|".intercalate (source' :: sources)).toList := by
  rw [String.intercalate_cons_of_ne_nil (List.cons_ne_nil _ _), String.toList_append,
    String.toList_append, List.append_assoc, faces_append h]
  exact congrArg _ (faces_of_not_mem ['|'] (by decide) _)

/-- Fragments with bars between them do not end in a backslash if none of them does. -/
theorem endsDangling_intercalate {sources : List String}
    (h : ∀ s ∈ sources, endsDangling s.toList = false) :
    endsDangling ("|".intercalate sources).toList = false := by
  induction sources with
  | nil => rfl
  | cons source sources ih =>
    obtain ⟨hsource, hsources⟩ := List.forall_mem_cons.mp h
    cases sources with
    | nil => exact hsource
    | cons source' sources =>
      rw [String.intercalate_cons_of_ne_nil (List.cons_ne_nil _ _), String.toList_append,
        String.toList_append, List.append_assoc, endsDangling_append hsource]
      exact ih hsources

/-- The fragments as they stand in a longer pattern, behind at least `lower` groups. -/
def SplicedAll (first : Option Width) (lower : Nat) (fragments : List (String × Pattern))
    (parts : List (List (List Node))) : Prop :=
  List.Forall₂ (fun f alts => ∃ before, lower ≤ before ∧ Spliced first f.1 f.2 before alts) fragments
    parts

/-- Fragments behind more groups are behind fewer too. -/
theorem SplicedAll.mono {first : Option Width} {lower lower' : Nat} (hle : lower ≤ lower')
    {fragments : List (String × Pattern)} {parts : List (List (List Node))}
    (h : SplicedAll first lower' fragments parts) : SplicedAll first lower fragments parts :=
  h.imp fun _ _ ⟨before, hbefore, halts⟩ => ⟨before, Nat.le_trans hle hbefore, halts⟩

/-- Fragments with bars between them are read one after the other, by induction on them. -/
theorem fragments_ok {fragments : List (String × Pattern)} (hne : fragments ≠ [])
    (hcompile : ∀ f ∈ fragments, compile f.1 = .ok f.2) {calls : Nat} {done : List (List Node)}
    {ns : List Node} {B B' : Reader} {tail : List (Char × Bool)}
    (hd : ∀ x ∈ tail.head?, x = (')', false))
    (hrest : B.rest.map Token.face =
      faces ("|".intercalate (fragments.map Prod.fst)).toList ++ tail)
    (hglobals : B.globals = []) {first : Option Width}
    (hfirst : ∀ w, first = some w → B.groups.head? = some (some w))
    (h : readAlternatives calls false false done B = .ok (ns, B')) :
    ∃ parts, ns = Node.choice (done ++ parts.flatten) ∧ B'.rest.map Token.face = tail ∧
      B'.globals = [] ∧ SplicedAll first B.groups.length fragments parts := by
  induction fragments generalizing calls done B with
  | nil => exact absurd rfl hne
  | cons f fs ih =>
    obtain ⟨source, p⟩ := f
    have hp := hcompile (source, p) List.mem_cons_self
    obtain ⟨_, _, hown⟩ := compile_ok hp
    cases fs with
    | nil =>
      obtain ⟨alts, B₁, halts, hB₁, hglobals₁, -, calls, hdone⟩ :=
        fragment_ok hp (fun x hx => .inr (hd x hx)) hrest hglobals hfirst h
      -- What follows the last fragment is no bar.
      have hbar : ('|', false) ∉ (B₁.rest.map Token.face).head? := by
        rw [hB₁]
        intro hmem
        cases hd _ hmem
      rw [accept_of_not_face hbar] at hdone
      cases hdone
      exact ⟨[alts], by simp, hB₁, hglobals₁, .cons ⟨_, Nat.le_refl _, halts⟩ .nil⟩
    | cons f' fs =>
      rw [List.map_cons, List.map_cons, faces_intercalate hown.solid, List.append_assoc,
        List.cons_append] at hrest
      obtain ⟨alts, B₁, halts, hB₁, hglobals₁, hgrows, calls, hdone⟩ :=
        fragment_ok hp (by rintro x ⟨⟩; exact .inl rfl) hrest hglobals hfirst h
      obtain ⟨⟨more, B₂⟩, hmore, hdone⟩ := bind_eq_ok.mp hdone
      obtain ⟨rfl, hB₂⟩ := accept_of_face hB₁ hmore
      have hmoves := accept_moves hmore
      -- The width of the first group stays on record.
      have hfirst₂ : ∀ w, first = some w → B₂.groups.head? = some (some w) := by
        intro w hw
        obtain ⟨ws, hws⟩ := (hgrows.moves hmoves).reads.groups
        rw [hws, List.head?_append, hfirst w hw]
        rfl
      obtain ⟨parts, rfl, hB', hglobals', hparts⟩ := ih (List.cons_ne_nil _ _)
        (fun g hg => hcompile g (List.mem_cons_of_mem _ hg)) hB₂ (hmoves.globals.trans hglobals₁)
        hfirst₂ hdone
      have hle : B.groups.length ≤ B₂.groups.length := by
        have := (hgrows.moves hmoves).reads.le
        unfold nextGroup at this
        omega
      refine ⟨alts :: parts, by simp, hB', hglobals', .cons ⟨_, Nat.le_refl _, halts⟩ ?_⟩
      exact hparts.mono hle

/-! ## Groups around fragments -/

/-- What may follow a group: nothing, or a bar. -/
private theorem readSequence_of_bar {r : Reader} {xs : List (Char × Bool)} {calls : Nat}
    {first : Bool} {done : List Piece} {ns : List Node} {r' : Reader}
    (hxs : ∀ x ∈ xs.head?, x = ('|', false))
    (h : readSequence calls false first done r = .ok (ns, r'))
    (hr : r.rest.map Token.face = xs) : ns = Piece.nodes done ∧ r' = r := by
  cases calls with
  | zero => cases h
  | succ calls =>
    have hends : ∀ t ∈ r.rest.head?, t.is '|' || t.is ')' := by
      intro t ht
      have hface := hxs t.face (by rw [← hr, List.head?_map]; exact Option.mem_map_of_mem _ ht)
      obtain ⟨c, escaped, p⟩ := t
      cases hface
      rfl
    rw [readSequence_of_ends hends] at h
    cases h
    exact ⟨rfl, rfl⟩

/-- Names that come later do not hide a name. -/
theorem lookup_of_isPrefix {names names' : List (String × Nat)} (h : names <+: names')
    {name : String} {g : Nat} (hg : names.lookup name = some g) : names'.lookup name = some g := by
  obtain ⟨more, rfl⟩ := h
  rw [List.lookup_append, hg, Option.some_or]

/-- A named group with fragments in it. -/
theorem named_ok {fragments : List (String × Pattern)} (hne : fragments ≠ [])
    (hcompile : ∀ f ∈ fragments, compile f.1 = .ok f.2) (name : List Char) (hname : '>' ∉ name)
    {calls : Nat} {first : Bool} {ns : List Node} {B B' : Reader}
    (h : readSequence calls false first [] B = .ok (ns, B')) {xs : List (Char × Bool)}
    (hrest : B.rest.map Token.face = ('(', false) :: ('?', false) :: ('P', false) :: ('<', false) ::
      (name.map (·, false) ++ ('>', false) ::
        (faces ("|".intercalate (fragments.map Prod.fst)).toList ++ (')', false) :: xs)))
    (hxs : ∀ x ∈ xs.head?, x = ('|', false)) (hglobals : B.globals = []) {first' : Option Width}
    (hfirst : ∀ w, first' = some w → B.groups.head? = some (some w)) :
    ∃ parts, ns = [.group B.nextGroup (.sequence (Node.choice parts.flatten))] ∧
      B'.rest.map Token.face = xs ∧ B'.globals = [] ∧
      B'.names.lookup (String.ofList name) = some B.nextGroup ∧
      SplicedAll first' B.nextGroup fragments parts := by
  obtain ⟨calls, start, B₁, o, B₂, hmoves₁, hB₁, ho, hgroup⟩ := readSequence_of_paren hrest h
  obtain ⟨rfl, hB₂⟩ := opening_of_named hname hB₁ ho
  have hopens := opening_ok ho
  obtain ⟨p, B₃, hp, hend⟩ := hgroup nofun nofun
  cases calls with
  | zero => cases hp
  | succ calls =>
    simp only [readGroup] at hp
    obtain ⟨⟨g, B₄⟩, hopen, hp⟩ := bind_eq_ok.mp hp
    obtain ⟨⟨ms, B₅⟩, hms, hp⟩ := bind_eq_ok.mp hp
    obtain ⟨B₆, hclose, hp⟩ := bind_eq_ok.mp hp
    cases hp
    obtain ⟨rfl, hfree, hB₄⟩ := openGroup_ok hopen
    -- The opening has no groups, so the group is the next one.
    have hnext : B₂.nextGroup = B.nextGroup := by
      unfold nextGroup
      rw [hopens.groups, hmoves₁.groups]
    have hglobals₄ : B₄.globals = [] := by
      rw [hB₄, hopens.globals nofun, hmoves₁.globals, hglobals]
    have hlength : B₄.groups.length = B.nextGroup := by
      rw [hB₄, List.length_append, ← hnext]
      rfl
    have hrest₄ : B₄.rest = B₂.rest := by rw [hB₄]
    rw [← hrest₄] at hB₂
    have hfirst₄ : ∀ w, first' = some w → B₄.groups.head? = some (some w) := by
      intro w hw
      rw [hB₄, List.head?_append, hopens.groups, hmoves₁.groups, hfirst w hw]
      rfl
    -- Its body is the fragments, up to the closing parenthesis.
    obtain ⟨parts, rfl, hB₅, hglobals₅, hparts⟩ :=
      fragments_ok hne hcompile (by rintro x ⟨⟩; rfl) hB₂ hglobals₄ hfirst₄ hms
    have hmoves₆ := close_moves hclose
    have hB₆ := close_of_faces hB₅ hclose
    obtain ⟨rfl, rfl⟩ := readSequence_of_bar hxs hend hB₆
    refine ⟨parts, ?_, hB₆, hmoves₆.globals.trans hglobals₅, ?_, ?_⟩
    · rw [← hnext]
      rfl
    · refine lookup_of_isPrefix (hmoves₆.names ▸ (readAlternatives_grows hms).reads.names) ?_
      simp [hB₄, List.lookup_append, hfree name rfl, hnext]
    · rw [hlength] at hparts
      exact hparts

/-- A group without a number, with fragments in it. -/
theorem plain_ok {fragments : List (String × Pattern)} (hne : fragments ≠ [])
    (hcompile : ∀ f ∈ fragments, compile f.1 = .ok f.2) {calls : Nat} {first : Bool}
    {ns : List Node} {B B' : Reader} (h : readSequence calls false first [] B = .ok (ns, B'))
    {xs : List (Char × Bool)}
    (hrest : B.rest.map Token.face = ('(', false) :: ('?', false) :: (':', false) ::
      (faces ("|".intercalate (fragments.map Prod.fst)).toList ++ (')', false) :: xs))
    (hxs : ∀ x ∈ xs.head?, x = ('|', false)) (hglobals : B.globals = []) {first' : Option Width}
    (hfirst : ∀ w, first' = some w → B.groups.head? = some (some w)) :
    ∃ parts, ns = Node.choice parts.flatten ∧ B'.rest.map Token.face = xs ∧ B'.globals = [] ∧
      SplicedAll first' B.groups.length fragments parts := by
  obtain ⟨calls, start, B₁, o, B₂, hmoves₁, hB₁, ho, hgroup⟩ := readSequence_of_paren hrest h
  obtain ⟨rfl, hB₂⟩ := opening_of_plain hB₁ ho
  have hopens := opening_ok ho
  obtain ⟨p, B₃, hp, hend⟩ := hgroup nofun nofun
  cases calls with
  | zero => cases hp
  | succ calls =>
    simp only [readGroup] at hp
    obtain ⟨⟨ms, B₄⟩, hms, hp⟩ := bind_eq_ok.mp hp
    obtain ⟨B₅, hclose, hp⟩ := bind_eq_ok.mp hp
    cases hp
    have hglobals₂ : B₂.globals = [] := by rw [hopens.globals nofun, hmoves₁.globals, hglobals]
    have hfirst₂ : ∀ w, first' = some w → B₂.groups.head? = some (some w) := by
      rw [hopens.groups, hmoves₁.groups]
      exact hfirst
    obtain ⟨parts, rfl, hB₄, hglobals₄, hparts⟩ :=
      fragments_ok hne hcompile (by rintro x ⟨⟩; rfl) hB₂ hglobals₂ hfirst₂ hms
    obtain ⟨rfl, rfl⟩ := readSequence_of_bar hxs hend (close_of_faces hB₄ hclose)
    rw [hopens.groups, hmoves₁.groups] at hparts
    exact ⟨parts, by simp [Piece.nodes], close_of_faces hB₄ hclose,
      (close_moves hclose).globals.trans hglobals₄, hparts⟩

/-! ## Alternatives of a whole pattern -/

/-- One alternative of a whole pattern, and what comes after it: nothing, or a bar. -/
theorem readAlternatives_of_top {calls : Nat} {done : List (List Node)} {ns : List Node}
    {B B' : Reader} (h : readAlternatives calls false true done B = .ok (ns, B')) :
    ∃ calls first ms B₁, readSequence calls false first [] B = .ok (ms, B₁) ∧
      (B₁.rest = [] → ns = Node.choice (done ++ [ms]) ∧ B' = B₁) ∧
      ∀ xs, B₁.globals = [] → B₁.rest.map Token.face = ('|', false) :: xs →
        ∃ B₂, B₁.Moves B₂ ∧ B₂.rest.map Token.face = xs ∧
          readAlternatives calls false true (done ++ [ms]) B₂ = .ok (ns, B') := by
  cases calls with
  | zero => cases h
  | succ calls =>
    simp only [readAlternatives] at h
    obtain ⟨⟨ms, B₁⟩, hms, h⟩ := bind_eq_ok.mp h
    refine ⟨calls, _, ms, B₁, hms, fun hnil => ?_, fun xs hglobals hbar => ?_⟩
    · rw [accept_of_nil hnil] at h
      cases h
      exact ⟨rfl, rfl⟩
    · obtain ⟨⟨more, B₂⟩, hmore, h⟩ := bind_eq_ok.mp h
      obtain ⟨rfl, hB₂⟩ := accept_of_face hbar hmore
      have hmoves := accept_moves hmore
      have hverbose : B₂.globals.contains 'x' = false := by
        rw [hmoves.globals, hglobals]
        rfl
      simp only [if_true, hverbose] at h
      exact ⟨B₂, hmoves, hB₂, h⟩

end Marginalia.Pattern
