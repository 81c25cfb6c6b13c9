import Mathlib.Logic.Basic
import Marginalia.Proofs.Pattern.Numbering
import Marginalia.Proofs.Pattern.Reader.Beside

/-!
# What reading leaves in the tree

Reading a part of a pattern opens groups and closes them again.  When it is done, the groups on
record are those from before and, behind them, the new ones with their widths (`Reader.Reads`), and
the tree that was read has its groups numbered in that order (`Reader.readAlternatives_numbered`).
Both are shown for the three readers that call each other by one induction on the number of calls.
-/

namespace Marginalia.Pattern.Reader

/-! ## One reader -/

theorem delimits_nil : Delimits [] := fun _ h => by cases h

/-- A reader is side by side with itself. -/
theorem Beside.self (r : Reader) : Beside [] r r r r := ⟨by simp, .refl r, .refl r⟩

/-- What holds of a reader beside itself says that it moves on. -/
private theorem moves_of_like {α : Type} {r r' : Reader} {a : α}
    {x : Except Rejection (α × Reader)} (h : Both x x (Like [] r r)) (hx : x = .ok (a, r')) :
    r.Moves r' :=
  (h _ _ hx hx).2.left

/-- No more characters are taken than may be, and all are of the kind. -/
theorem takeWhile_ok {kind : Char → Bool} {limit : Nat} {r r' : Reader} {cs : List Char}
    (h : takeWhile kind limit r = .ok (cs, r')) : cs.length ≤ limit ∧ ∀ c ∈ cs, kind c = true := by
  induction limit generalizing r cs with
  | zero =>
    cases h
    simp
  | succ limit ih =>
    unfold takeWhile at h
    split at h
    · rename_i t _ _
      split at h
      · rename_i hkind
        obtain ⟨r₁, -, h⟩ := bind_eq_ok.mp h
        obtain ⟨⟨ds, r₂⟩, hds, h⟩ := bind_eq_ok.mp h
        cases h
        obtain ⟨hlength, hall⟩ := ih hds
        simp only [Bool.and_eq_true] at hkind
        exact ⟨Nat.succ_le_succ hlength, List.forall_mem_cons.mpr ⟨hkind.2, hall⟩⟩
      · cases h
        simp
    · cases h
      simp

/-- To advance is to move on. -/
theorem advance_moves {r r' : Reader} (h : r.advance = .ok r') : r.Moves r' := by
  cases hr : r.rest with
  | nil =>
    unfold advance at h
    rw [hr] at h
    cases h
    exact .refl r
  | cons t ts => exact (advance_both (.self r) hr _ _ h h).2.left

/-- To accept a character, or not to, is to move on. -/
theorem accept_moves {r r' : Reader} {c : Char} {found : Bool}
    (h : r.accept c = .ok (found, r')) : r.Moves r' := by
  unfold accept at h
  split at h
  · obtain ⟨r₁, hr₁, h⟩ := bind_eq_ok.mp h
    cases h
    exact advance_moves hr₁
  · cases h
    exact .refl r

/-! ## Escapes -/

/-- Decimal digits stand for numbers up to nine. -/
private theorem hexValue?_le {c : Char} (h : Text.isAsciiDigit c.toNat = true) :
    (Text.hexValue? c).getD 0 ≤ 9 := by
  simp only [Text.isAsciiDigit, Bool.and_eq_true, decide_eq_true_eq] at h
  have hrange : '0' ≤ c ∧ c ≤ '9' := by
    rw [Char.le_def, Char.le_def, UInt32.le_iff_toNat_le, UInt32.le_iff_toNat_le]
    exact h
  rw [Text.hexValue?, if_pos hrange, Option.getD_some]
  omega

/-- A number of one or two digits. -/
private theorem numeral_le {c : Char} {ds : List Char} (hc : Text.isAsciiDigit c.toNat = true)
    (hlength : ds.length ≤ 1) (hds : ∀ d ∈ ds, Text.isAsciiDigit d.toNat = true) :
    Text.numeral 10 (c :: ds) ≤ 99 := by
  have := hexValue?_le hc
  match ds with
  | [] =>
    simp only [Text.numeral, List.foldl_cons, List.foldl_nil]
    omega
  | [d] =>
    have := hexValue?_le (hds d (List.mem_singleton_self d))
    simp only [Text.numeral, List.foldl_cons, List.foldl_nil]
    omega
  | _ :: _ :: _ =>
    simp only [List.length_cons] at hlength
    omega

/-- Which groups are closed depends on the groups on record. -/
theorem isClosed_congr {r r' : Reader} (h : r'.groups = r.groups) (g : Nat) :
    r'.isClosed g = r.isClosed g := by
  unfold isClosed
  rw [h]

/-- What an escape outside a class stands for: a step, and if that refers to a group by number, then
to one of the first hundred that is closed. -/
structure Escaped (r : Reader) (n : Node) : Prop where
  step : n.IsStep
  closed {g : Nat} : n = .backref g → g ≤ 99 ∧ r.isClosed g = true

/-- A literal refers to no group. -/
private theorem escaped_literal (r : Reader) (c : Nat) : Escaped r (.single (.literal c)) :=
  ⟨trivial, fun h => by cases h⟩

/-- An escape by digits is a literal or refers to a closed group. -/
private theorem digitEscape_ok {t : Token} {r r' : Reader} {n : Node}
    (ht : Text.isAsciiDigit t.char.toNat = true) (h : digitEscape t r = .ok (n, r')) :
    Escaped r n := by
  simp only [digitEscape, throw_bind] at h
  split at h
  · obtain ⟨⟨ds, r₁⟩, -, h⟩ := bind_eq_ok.mp h
    cases h
    exact escaped_literal r _
  · obtain ⟨⟨ds, r₁⟩, hds, h⟩ := bind_eq_ok.mp h
    split at h
    · obtain ⟨⟨third, r₂⟩, -, h⟩ := bind_eq_ok.mp h
      split at h
      · cases h
      · cases h
        exact escaped_literal r _
    · obtain ⟨rfl, rfl, hclosed⟩ := reference_ok h
      obtain ⟨hlength, hall⟩ := takeWhile_ok hds
      have hmoves : r.Moves r' :=
        moves_of_like (takeWhile_both delimits_nil ⟨rfl, rfl⟩ (.self r) (.inl rfl)) hds
      refine ⟨trivial, fun hg => ?_⟩
      cases hg
      exact ⟨numeral_le ht hlength hall, isClosed_congr hmoves.groups _ ▸ hclosed⟩

/-- An escape is a step and opens no group. -/
theorem escape_ok {t : Token} {r r' : Reader} {n : Node} (h : escape t r = .ok (n, r')) :
    r.Moves r' ∧ Escaped r n := by
  refine ⟨moves_of_like (escape_both delimits_nil (.self r) t t.position) h, ?_⟩
  have hmap : ∀ {x : Except Rejection (Nat × Reader)},
      x.map (fun p => (Node.single (.literal p.1), p.2)) = .ok (n, r') → Escaped r n := by
    intro x hx
    cases x with
    | error e => cases hx
    | ok p =>
      cases hx
      exact escaped_literal r _
  unfold escape at h
  dsimp only at h
  split at h
  · cases h
    exact ⟨trivial, fun h => by cases h⟩
  · split at h
    · cases h
      exact ⟨trivial, fun h => by cases h⟩
    · split at h
      · cases h
        exact escaped_literal r _
      · split at h
        · exact hmap h
        · split at h
          · exact digitEscape_ok ‹_› h
          · exact hmap h

/-! ## Openings of groups -/

/-- An opening that stands where it may: a reference is to a group that is closed, and the name of a
group is an identifier. -/
structure Fits (r : Reader) (o : Opening) : Prop where
  closed {g : Nat} : o = .reference g → r.isClosed g = true
  named {cs : List Char} : o = .capture (some cs) → Text.isIdentifier cs = true

/-- Whether an opening fits depends on the groups on record. -/
theorem Fits.congr {r r' : Reader} {o : Opening} (h : Fits r o) (hgroups : r'.groups = r.groups) :
    Fits r' o :=
  ⟨fun hg => (isClosed_congr hgroups _).trans (h.closed hg), h.named⟩

/-- What reading the opening of a group leaves alone.  Conditions that test a number are noted, and
global flags are added. -/
structure Opens (r : Reader) (o : Opening) (r' : Reader) : Prop where
  groups : r'.groups = r.groups
  names : r'.names = r.names
  floor : r'.floor = r.floor
  tested : r'.tested = [] → r.tested = []
  globals : o ≠ .globals → r'.globals = r.globals
  dangles : r.Dangles → r'.Dangles
  fits : Fits r o

/-- An opening that is read without noting anything. -/
private theorem Opens.of_moves {r r' : Reader} {o : Opening} (h : r.Moves r') (ho : Fits r o) :
    Opens r o r' :=
  ⟨h.groups, h.names, h.floor, fun ht => h.tested ▸ ht, fun _ => h.globals, h.dangles, ho⟩

/-- A reference by name is to a closed group. -/
private theorem namedReference_ok {r r' : Reader} {o : Opening}
    (h : namedReference r = .ok (o, r')) :
    r.Moves r' ∧ ∃ g, o = .reference g ∧ r.isClosed g = true := by
  simp only [namedReference, throw_bind] at h
  obtain ⟨⟨cs, r₁⟩, hcs, h⟩ := bind_eq_ok.mp h
  have hmoves : r.Moves r₁ := moves_of_like (name_both _ _ (.self r)) hcs
  obtain ⟨_, -, h⟩ := bind_eq_ok.mp h
  obtain ⟨g, -, h⟩ := bind_eq_ok.mp h
  split at h
  · cases h
  · rename_i hclosed
    obtain ⟨_, -, h⟩ := bind_eq_ok.mp h
    cases h
    refine ⟨hmoves, g, rfl, ?_⟩
    rw [← isClosed_congr hmoves.groups]
    simpa using hclosed

/-- A number that a condition tests is noted. -/
theorem conditionNumber_ok {cs : List Char} {r r' : Reader} {g : Nat}
    (h : conditionNumber cs r = .ok (g, r')) :
    ∃ tested warnings, tested ≠ [] ∧ r' = { r with tested, warnings } := by
  simp only [conditionNumber, throw_bind] at h
  split at h
  · cases h
  · split at h
    · cases h
    · cases h
      have hlookup : (r.tested.lookup g).isSome = true → r.tested ≠ [] := by
        intro hsome hnil
        rw [hnil] at hsome
        cases hsome
      have hnoted : r.tested ++ [(g, r.tell - (cs.length + 1))] ≠ [] :=
        List.append_ne_nil_of_right_ne_nil _ (List.cons_ne_nil _ _)
      split <;> split
      · exact ⟨_, _, hlookup ‹_›, rfl⟩
      · exact ⟨_, _, hnoted, rfl⟩
      · exact ⟨_, _, hlookup ‹_›, rfl⟩
      · exact ⟨_, _, hnoted, rfl⟩
  · cases h

/-- A condition tests a group, and what it tests may be noted. -/
private theorem condition_ok {r r' : Reader} {o : Opening} (h : condition r = .ok (o, r')) :
    ∃ g, o = .conditional g ∧ Opens r o r' := by
  simp only [condition] at h
  obtain ⟨⟨cs, r₁⟩, hcs, h⟩ := bind_eq_ok.mp h
  have hmoves : r.Moves r₁ := moves_of_like (name_both _ _ (.self r)) hcs
  obtain ⟨⟨g, r₂⟩, hg, h⟩ := bind_eq_ok.mp h
  obtain ⟨_, -, h⟩ := bind_eq_ok.mp h
  cases h
  refine ⟨g, rfl, ?_⟩
  unfold conditionGroup at hg
  split at hg
  · obtain ⟨_, -, hg⟩ := map_eq_ok hg
    cases hg
    exact .of_moves hmoves ⟨nofun, nofun⟩
  · obtain ⟨tested, warnings, htested, rfl⟩ := conditionNumber_ok hg
    exact ⟨hmoves.groups, hmoves.names, hmoves.floor, fun ht => absurd ht htested,
      fun _ => hmoves.globals, hmoves.dangles, nofun, nofun⟩

/-- The forms of a group that begin with the letter P. -/
private theorem namedForm_ok {r r' : Reader} {o : Opening} (h : namedForm r = .ok (o, r')) :
    Opens r o r' := by
  simp only [namedForm] at h
  obtain ⟨⟨named, r₁⟩, hnamed, h⟩ := bind_eq_ok.mp h
  have hmoves₁ := accept_moves hnamed
  split at h
  · obtain ⟨⟨cs, r₂⟩, hcs, h⟩ := bind_eq_ok.mp h
    obtain ⟨_, hcheck, h⟩ := bind_eq_ok.mp h
    cases h
    have hmoves₂ : r₁.Moves r₂ := moves_of_like (name_both _ _ (.self r₁)) hcs
    refine .of_moves (hmoves₁.trans hmoves₂) ⟨nofun, fun hname => ?_⟩
    cases hname
    unfold checkName at hcheck
    split at hcheck
    · assumption
    · cases hcheck
  · obtain ⟨⟨refers, r₂⟩, hrefers, h⟩ := bind_eq_ok.mp h
    have hmoves₂ := accept_moves hrefers
    split at h
    · obtain ⟨hmoves, g, rfl, hclosed⟩ := namedReference_ok h
      have hall := hmoves₁.trans (hmoves₂.trans hmoves)
      refine ⟨hall.groups, hall.names, hall.floor, fun ht => hall.tested ▸ ht,
        fun _ => hall.globals, hall.dangles, fun hg => ?_, nofun⟩
      cases hg
      rw [← isClosed_congr (hmoves₁.trans hmoves₂).groups]
      exact hclosed
    · obtain ⟨⟨t, r₃⟩, -, h⟩ := bind_eq_ok.mp h
      cases h

/-- Moving on first does not matter for what opening a group leaves alone. -/
private theorem Opens.trans {r r' r'' : Reader} {o : Opening} (h : r.Moves r')
    (h' : Opens r' o r'') : Opens r o r'' :=
  ⟨h'.groups.trans h.groups, h'.names.trans h.names, h'.floor.trans h.floor,
    fun ht => h.tested ▸ h'.tested ht, fun ho => (h'.globals ho).trans h.globals,
    fun hd => h'.dangles (h.dangles hd), h'.fits.congr h.groups.symm⟩

/-- Every opening leaves groups and names alone. -/
theorem opening_ok {start : Nat} {r r' : Reader} {o : Opening}
    (h : opening start r = .ok (o, r')) : Opens r o r' := by
  simp only [opening, throw_bind] at h
  obtain ⟨⟨extended, r₁⟩, hextended, h⟩ := bind_eq_ok.mp h
  have hmoves₁ := accept_moves hextended
  -- A question mark makes all the difference; without it the group captures.
  refine .trans hmoves₁ ?_
  split at h
  · cases h
    exact .of_moves (.refl _) ⟨by simp, by simp⟩
  · obtain ⟨⟨t, r₂⟩, ht, h⟩ := bind_eq_ok.mp h
    have hmoves₂ : r₁.Moves r₂ := by
      obtain ⟨_, _, hbeside⟩ := take_both (.self r₁) _ _ ht ht
      exact hbeside.left
    refine .trans hmoves₂ ?_
    split at h
    · cases h
    · split at h
      · exact namedForm_ok h
      · cases h
        exact .of_moves (.refl _) ⟨by simp, by simp⟩
      · obtain ⟨r₃, hr₃, h⟩ := bind_eq_ok.mp h
        cases h
        refine .of_moves ?_ ⟨by simp, by simp⟩
        exact (skipComment_both _ _ _ _ (.self r₂) _ _ hr₃ hr₃).left
      · cases h
        exact .of_moves (.refl _) ⟨by simp, by simp⟩
      · cases h
        exact .of_moves (.refl _) ⟨by simp, by simp⟩
      · -- A lookbehind, which leaves no trace but its floor.
        have hbehind : ∃ negated, o = .behind negated := by
          simp only [lookbehind] at h
          obtain ⟨⟨u, r₃⟩, -, h⟩ := bind_eq_ok.mp h
          split at h
          · cases h
            exact ⟨false, rfl⟩
          · split at h
            · cases h
              exact ⟨true, rfl⟩
            · cases h
        obtain ⟨negated, rfl⟩ := hbehind
        exact .of_moves (moves_of_like (lookbehind_both (.self r₂)) h) ⟨by simp, by simp⟩
      · obtain ⟨g, rfl, hopens⟩ := condition_ok h
        exact hopens
      · cases h
        exact .of_moves (.refl _) ⟨by simp, by simp⟩
      · split at h
        · obtain ⟨⟨scope, r₃⟩, hscope, h⟩ := bind_eq_ok.mp h
          obtain ⟨-, hmoves, hbeside⟩ := flags_both _ (.self r₂) _ _ hscope hscope
          cases scope with
          | none =>
            cases h
            exact ⟨hmoves.groups, hmoves.names, hmoves.floor, fun ht => hmoves.tested ▸ ht,
              fun ho => absurd rfl ho, hmoves.dangles, by simp, by simp⟩
          | some scope =>
            cases h
            exact .of_moves (hbeside (Option.some_ne_none _)).left ⟨by simp, by simp⟩
        · cases h

/-! ## Groups on record -/

/-- The group is open. -/
def isOpen (r : Reader) (g : Nat) : Prop := 0 < g ∧ r.groups[g - 1]? = some none

/-- `W` has the widths that are on record. -/
def Agrees (W : Nat → Width) (r : Reader) : Prop :=
  ∀ g w, r.groups[g]? = some (some w) → W (g + 1) = w

/-- All names on record are identifiers. -/
def AllNamed (r : Reader) : Prop := ∀ e ∈ r.names, Text.isIdentifier e.1.toList = true

/-- What reading a part of a pattern does to the reader: new groups come behind the old ones and are
closed, new names come behind the old ones, and numbers that conditions test are noted. -/
structure Reads (r r' : Reader) : Prop where
  groups : ∃ ws : List Width, r'.groups = r.groups ++ ws.map some
  names : r.names <+: r'.names
  named : r.AllNamed → r'.AllNamed
  tested : r'.tested = [] → r.tested = []
  dangles : r.Dangles → r'.Dangles

/-- Moving on adds no groups. -/
theorem Moves.reads {r r' : Reader} (h : r.Moves r') : Reads r r' where
  groups := ⟨[], by simp [h.groups]⟩
  names := h.names ▸ List.prefix_rfl
  named hr := by
    unfold AllNamed
    rwa [h.names]
  tested ht := h.tested ▸ ht
  dangles := h.dangles

/-- Opening adds no groups. -/
theorem Opens.reads {r r' : Reader} {o : Opening} (h : Opens r o r') : Reads r r' where
  groups := ⟨[], by simp [h.groups]⟩
  names := h.names ▸ List.prefix_rfl
  named hr := by
    unfold AllNamed
    rwa [h.names]
  tested := h.tested
  dangles := h.dangles

namespace Reads

variable {r r' r'' : Reader}

/-- Two parts that are read one after the other. -/
theorem trans (h : Reads r r') (h' : Reads r' r'') : Reads r r'' := by
  obtain ⟨ws, hws⟩ := h.groups
  obtain ⟨ws', hws'⟩ := h'.groups
  exact ⟨⟨ws ++ ws', by rw [hws', hws, List.map_append, List.append_assoc]⟩,
    h.names.trans h'.names, fun hr => h'.named (h.named hr), fun ht => h.tested (h'.tested ht),
    fun hd => h'.dangles (h.dangles hd)⟩

/-- Groups are added and never removed. -/
theorem le (h : Reads r r') : r.nextGroup ≤ r'.nextGroup := by
  obtain ⟨ws, hws⟩ := h.groups
  unfold nextGroup
  rw [hws, List.length_append]
  omega

/-- The groups that are open are the same before and after. -/
theorem isOpen_eq (h : Reads r r') : r'.isOpen = r.isOpen := by
  obtain ⟨ws, hws⟩ := h.groups
  funext g
  refine propext (and_congr_right fun _ => ?_)
  rw [hws, List.getElem?_append]
  split
  · rfl
  · rename_i hge
    have hnone : r.groups[g - 1]? = none := List.getElem?_eq_none (by omega)
    rw [hnone, List.getElem?_map]
    cases ws[g - 1 - r.groups.length]? <;> simp

/-- Widths on record stay on record. -/
theorem agrees (h : Reads r r') {W : Nat → Width} (hW : Agrees W r') : Agrees W r := by
  obtain ⟨ws, hws⟩ := h.groups
  intro g w hg
  refine hW g w ?_
  rw [hws, List.getElem?_append_left (List.getElem?_eq_some_iff.mp hg).1, hg]

end Reads

/-- Reading has added to the nodes `done`, whose groups were numbered so far, and come to the nodes
`ns`. -/
structure Grows (r : Reader) (done : List Node) (r' : Reader) (ns : List Node) : Prop where
  reads : Reads r r'
  numbered (W : Nat → Width) (lo : Nat) : Agrees W r' →
    Node.AllNumbered W r.isOpen done lo r.nextGroup → Node.AllNumbered W r.isOpen ns lo r'.nextGroup

namespace Grows

variable {r r' r'' : Reader} {done ns ms : List Node}

theorem refl (r : Reader) (ns : List Node) : Grows r ns r ns :=
  ⟨(Moves.refl r).reads, fun _ _ _ h => h⟩

/-- Two parts that are read one after the other, with their nodes. -/
theorem trans (h : Grows r done r' ns) (h' : Grows r' ns r'' ms) : Grows r done r'' ms := by
  refine ⟨h.reads.trans h'.reads, fun W lo hW hdone => ?_⟩
  have hns := h.numbered W lo (h'.reads.agrees hW) hdone
  rw [← h.reads.isOpen_eq] at hns ⊢
  exact h'.numbered W lo hW hns

/-- What is read from scratch can stand behind what was read before. -/
theorem append (h : Grows r [] r' ns) : Grows r done r' (done ++ ns) :=
  ⟨h.reads, fun W _ hW hdone =>
    Node.allNumbered_append.mpr ⟨r.nextGroup, hdone, h.numbered W r.nextGroup hW rfl⟩⟩

/-- Nodes that need no group: only tokens are taken for them. -/
theorem of_reads (h : Reads r r') (hgroups : r'.groups = r.groups)
    (hn : ∀ W lo hi, Node.AllNumbered W r.isOpen done lo hi → hi = r.nextGroup →
      Node.AllNumbered W r.isOpen ns lo hi) : Grows r done r' ns := by
  refine ⟨h, fun W lo _ hdone => ?_⟩
  have hnext : r'.nextGroup = r.nextGroup := by
    unfold nextGroup
    rw [hgroups]
  rw [hnext]
  exact hn W lo _ hdone rfl

/-- A reader agrees with the widths that it has on record. -/
private theorem agrees_widthOf (r : Reader) : Agrees r.widthOf r := by
  intro g w hg
  simp [widthOf, hg]

/-- What was read is numbered from the next group on, with the widths that are on record then. -/
theorem numbered_widthOf (h : Grows r [] r' ns) :
    Node.AllNumbered r'.widthOf r.isOpen ns r.nextGroup r'.nextGroup :=
  h.numbered r'.widthOf r.nextGroup (agrees_widthOf r') rfl

/-- The groups of what was read come behind those that were there before. -/
theorem indexed (h : Grows r [] r' ns) :
    ∀ n ∈ ns, n.Indexed (r.groups.length < ·) fun _ => True :=
  fun n hn => (h.numbered_widthOf.indexed n hn).mono (fun _ hg => hg.1) fun _ => id

/-- A group that was read is on record. -/
theorem lt_nextGroup {g : Nat} {body : Node} (h : Grows r [] r' [.group g body]) :
    g < r'.nextGroup := by
  obtain ⟨rfl, hbody, -⟩ := Node.allNumbered_singleton.mp h.numbered_widthOf
  exact hbody.le

end Grows

/-- A closed group has a number, and it is not open. -/
theorem lt_nextGroup_of_isClosed {r : Reader} {g : Nat} (h : r.isClosed g = true) :
    0 < g ∧ g < r.nextGroup ∧ ¬r.isOpen g := by
  cases g with
  | zero => cases h
  | succ g =>
    unfold isClosed at h
    dsimp only at h
    cases hg : r.groups[g]? with
    | none => simp [hg] at h
    | some w =>
      refine ⟨Nat.succ_pos g, Nat.succ_lt_succ (List.getElem?_eq_some_iff.mp hg).1, ?_⟩
      rintro ⟨-, hopen⟩
      rw [Nat.add_sub_cancel, hg] at hopen
      cases hopen
      simp [hg] at h

/-- A step is numbered wherever the group that it refers to is closed. -/
theorem numbered_step {r : Reader} {n : Node} (hn : n.IsStep)
    (hclosed : ∀ g, n = .backref g → r.isClosed g = true) (W : Nat → Width) :
    n.Numbered W r.isOpen r.nextGroup r.nextGroup := by
  cases n with
  | single _ | anchor _ => rfl
  | backref g =>
    obtain ⟨hpos, hlt, hopen⟩ := lt_nextGroup_of_isClosed (hclosed g rfl)
    exact ⟨rfl, hpos, hlt, hopen⟩
  | empty | group _ _ | «scoped» _ _ _ | atomic _ | rounds _ _ _ _ | ahead _ _ | behind _ _ _
  | conditional _ _ _ | either _ _ | both _ _ => exact hn.elim

/-- One more node that has no nodes in it. -/
theorem Grows.step {r r' : Reader} {n : Node} (h : r.Moves r') (hn : n.IsStep)
    (hclosed : ∀ g, n = .backref g → r.isClosed g = true) : Grows r [] r' [n] := by
  refine .of_reads h.reads h.groups fun W lo hi hdone hnext => ?_
  cases hdone
  subst hnext
  exact Node.allNumbered_singleton.mpr (numbered_step hn hclosed W)

/-! ## Parts of a sequence -/

/-- The nodes of pieces one after the other. -/
theorem Piece.nodes_append (ps qs : List Piece) :
    Piece.nodes (ps ++ qs) = Piece.nodes ps ++ Piece.nodes qs := by
  induction ps with
  | nil => rfl
  | cons p ps ih => cases p <;> simp [Piece.nodes, ih]

/-- The body of a repeat has the groups of the part that is repeated. -/
private theorem numbered_body {W : Nat → Width} {isOpen : Nat → Prop} {lo hi : Nat} {p : Piece}
    {body : Node} (hbody : Piece.body? (some p) = .ok body)
    (h : Node.AllNumbered W isOpen (Piece.nodes [p]) lo hi) : body.Numbered W isOpen lo hi := by
  unfold Piece.body? at hbody
  split at hbody
  · cases hbody
  · cases hbody
  · cases hbody
  · rename_i n _ _ heq
    cases heq
    cases hbody
    exact Node.allNumbered_singleton.mp h
  · rename_i ns heq
    cases heq
    cases hbody
    rw [Piece.nodes, Piece.nodes, List.append_nil] at h
    exact Node.numbered_sequence.mpr h

/-- A repeat takes the place of the last node and keeps its groups. -/
theorem repeated_ok {t : Token} {done done' : List Piece} {r r' : Reader}
    (h : repeated t done r = .ok (done', r')) :
    Grows r (Piece.nodes done) r' (Piece.nodes done') := by
  simp only [repeated] at h
  obtain ⟨⟨found, r₁⟩, hfound, h⟩ := bind_eq_ok.mp h
  have hmoves₁ : r.Moves r₁ := moves_of_like (repeatBounds_both delimits_nil _ (.self r)) hfound
  cases found with
  | none =>
    cases h
    rw [Piece.nodes_append]
    exact .append (.step hmoves₁ trivial fun _ h => by cases h)
  | some bounds =>
    dsimp only at h
    split at h
    · cases h
    · rename_i body hbody
      obtain ⟨⟨greed, r₂⟩, hgreed, h⟩ := bind_eq_ok.mp h
      have hmoves := hmoves₁.trans (moves_of_like (greed_both delimits_nil (.self r₁)) hgreed)
      cases h
      obtain ⟨before, p, rfl⟩ : ∃ before p, done = before ++ [p] := by
        cases hdone : done.getLast? with
        | none =>
          rw [hdone] at hbody
          cases hbody
        | some p =>
          obtain ⟨before, rfl⟩ := List.getLast?_eq_some_iff.mp hdone
          exact ⟨before, p, rfl⟩
      rw [List.getLast?_concat] at hbody
      rw [List.dropLast_concat, Piece.nodes_append, Piece.nodes_append]
      refine .of_reads hmoves.reads hmoves.groups fun W lo hi hdone _ => ?_
      obtain ⟨mid, hbefore, hp⟩ := Node.allNumbered_append.mp hdone
      refine Node.allNumbered_append.mpr ⟨mid, hbefore, Node.allNumbered_singleton.mpr ?_⟩
      exact (numbered_body hbody hp : body.Numbered W r.isOpen mid hi)

/-! ## Opening and closing a group -/

/-- A new group gets the next number, and its name is new. -/
theorem openGroup_ok {r r' : Reader} {name : Option (List Char)} {g : Nat}
    (h : r.openGroup name = .ok (g, r')) :
    g = r.nextGroup ∧ (∀ cs ∈ name, r.names.lookup (String.ofList cs) = none) ∧
      r' = { r with
        groups := r.groups ++ [none]
        names := r.names ++ (name.map fun cs => (String.ofList cs, r.nextGroup)).toList } := by
  unfold openGroup at h
  dsimp only at h
  split at h
  · cases h
    exact ⟨rfl, by simp, by simp⟩
  · split at h
    · cases h
    · rename_i hfree
      cases h
      refine ⟨rfl, ?_, rfl⟩
      rintro _ ⟨⟩
      exact hfree

/-- To close a group is to move on. -/
theorem close_moves {start : Nat} {r r' : Reader} (h : r.close start = .ok r') :
    r.Moves r' :=
  (close_both start start (.self r) _ _ h h).left

/-- Opening a group adds it to those that are open. -/
private theorem isOpen_of_opened {r r₁ : Reader} (h : r₁.groups = r.groups ++ [none]) :
    r₁.isOpen = fun g => g = r.nextGroup ∨ r.isOpen g := by
  funext g
  unfold isOpen nextGroup
  rw [h, eq_iff_iff, List.getElem?_append]
  split
  · constructor
    · exact .inr
    · rintro (rfl | hopen)
      · omega
      · exact hopen
  · rename_i hge
    have hnone : r.groups[g - 1]? = none := List.getElem?_eq_none (by omega)
    rw [hnone, List.getElem?_singleton]
    constructor
    · rintro ⟨hpos, hlast⟩
      split at hlast
      · exact .inl (by omega)
      · cases hlast
    · rintro (rfl | ⟨-, hopen⟩)
      · exact ⟨Nat.succ_pos _, if_pos (by omega)⟩
      · cases hopen

/-- The width on record for a group that is not open. -/
private theorem Agrees.widthOf_eq {W : Nat → Width} {r : Reader} (hW : Agrees W r) {g : Nat}
    (hpos : 0 < g) (hlt : g < r.nextGroup) (hopen : ¬r.isOpen g) : r.widthOf g = W g := by
  obtain ⟨g, rfl⟩ : ∃ n, g = n + 1 := ⟨g - 1, by omega⟩
  have hsome := List.getElem?_eq_getElem (show g < r.groups.length by
    unfold nextGroup at hlt
    omega)
  unfold widthOf
  dsimp only
  cases hg : r.groups[g]? with
  | none => simp [hg] at hsome
  | some w =>
    cases w with
    | none => exact absurd ⟨hpos, by rw [Nat.add_sub_cancel, hg]⟩ hopen
    | some w => exact (hW g w hg).symm

/-- A group around what was read from the reader `r₁` on, in which the group is open, to the reader
`r₂`. -/
private theorem grows_group {r r₁ r₂ r₃ : Reader} {ns : List Node}
    (hopened : r₁.groups = r.groups ++ [none]) (hnames : r.names <+: r₁.names)
    (hnamed : r.AllNamed → r₁.AllNamed) (htested : r₁.tested = r.tested)
    (hdangles : r.Dangles → r₁.Dangles) (hbody : Grows r₁ [] r₂ ns) (hclosed : r₂.Moves r₃) :
    Grows r [] (r₃.closeGroup r.nextGroup ((Node.sequence ns).width r₃.widthOf))
      [.group r.nextGroup (.sequence ns)] := by
  obtain ⟨ws, hws⟩ := hbody.reads.groups
  have hgroups : r₃.groups = r.groups ++ none :: ws.map some := by
    rw [hclosed.groups, hws, hopened, List.append_assoc]
    rfl
  generalize hw : (Node.sequence ns).width r₃.widthOf = w
  have hset : (r₃.closeGroup r.nextGroup w).groups = r.groups ++ (w :: ws).map some := by
    unfold closeGroup nextGroup
    simp [hgroups]
  refine ⟨⟨⟨w :: ws, hset⟩, ?_, ?_, ?_, ?_⟩, fun W lo hW hdone => ?_⟩
  · exact hnames.trans (hclosed.names ▸ hbody.reads.names)
  · exact fun hr => hclosed.reads.named (hbody.reads.named (hnamed hr))
  · exact fun ht => htested ▸ hbody.reads.tested (hclosed.tested ▸ ht)
  · exact fun hd => hclosed.dangles (hbody.reads.dangles (hdangles hd))
  · -- What is on record in the body is on record in the end, the group itself apart.
    have hW₂ : Agrees W r₂ := by
      intro g w' hg
      refine hW g w' ?_
      rw [← hclosed.groups, hgroups, List.getElem?_append] at hg
      rw [hset, List.getElem?_append]
      split at hg
      · rw [if_pos ‹_›, hg]
      · rw [if_neg ‹_›, ← hg]
        cases hindex : g - r.groups.length with
        | zero =>
          rw [hindex] at hg
          cases hg
        | succ i => rfl
    have hnext : r₁.nextGroup = r.nextGroup + 1 := by
      unfold nextGroup
      rw [hopened, List.length_append]
      rfl
    have hlast : r₂.nextGroup = (r₃.closeGroup r.nextGroup w).nextGroup := by
      unfold nextGroup at hset ⊢
      rw [← hclosed.groups, hgroups, hset]
      simp
    have hns := Node.numbered_sequence.mpr (hbody.numbered W r₁.nextGroup hW₂ rfl)
    have hsame : ∀ g, 0 < g → g < r₂.nextGroup → ¬r₁.isOpen g → r₃.widthOf g = W g := by
      intro g hpos hlt hopen
      rw [← hbody.reads.isOpen_eq] at hopen
      rw [← hW₂.widthOf_eq hpos hlt hopen]
      unfold widthOf
      rw [hclosed.groups]
    have hW : w = W r.nextGroup := by
      refine (hW r.groups.length w ?_).symm
      rw [hset, List.getElem?_append_right (Nat.le_refl _), Nat.sub_self]
      rfl
    have hwidth := (hns.width_congr hsame).symm.trans (hw.trans hW)
    rw [hnext, hlast, isOpen_of_opened hopened] at hns
    cases hdone
    exact Node.allNumbered_singleton.mpr ⟨rfl, hns, hwidth⟩

/-! ## The three readers that call each other -/

private def AlternativesGrow (calls : Nat) : Prop :=
  ∀ ⦃verbose top done r ns r'⦄, readAlternatives calls verbose top done r = .ok (ns, r') →
    Grows r done.flatten r' ns

private def SequencesGrow (calls : Nat) : Prop :=
  ∀ ⦃verbose first done r ns r'⦄, readSequence calls verbose first done r = .ok (ns, r') →
    Grows r (Piece.nodes done) r' ns

private def GroupsGrow (calls : Nat) : Prop :=
  ∀ ⦃verbose start o r p r'⦄, Fits r o →
    readGroup calls verbose start o r = .ok (p, r') → Grows r [] r' (Piece.nodes [p])

/-- Moving on afterwards adds nothing. -/
theorem Grows.moves {r r' r'' : Reader} {done ns : List Node} (h : Grows r done r' ns)
    (h' : r'.Moves r'') : Grows r done r'' ns :=
  h.trans (.of_reads h'.reads h'.groups fun _ _ _ hns _ => hns)

/-- What the nodes that were read are made into has the same groups. -/
private theorem Grows.wrap {r r' : Reader} {ns ms : List Node} (h : Grows r [] r' ns)
    (hwrap : ∀ W isOpen lo hi, Node.AllNumbered W isOpen ns lo hi →
      Node.AllNumbered W isOpen ms lo hi) : Grows r [] r' ms :=
  ⟨h.reads, fun W lo hW hdone => hwrap W _ _ _ (h.numbered W lo hW hdone)⟩

/-- The floor of a lookbehind does not matter for numbers. -/
private theorem Grows.withFloor (r : Reader) (floor : Option Nat) (ns : List Node) :
    Grows r ns { r with floor } ns :=
  .of_reads ⟨⟨[], (List.append_nil _).symm⟩, List.prefix_rfl, id, id, id⟩ rfl fun _ _ _ h _ => h

/-- Moving on first adds nothing. -/
theorem Moves.grows {r r' r'' : Reader} {done ns : List Node} (h : r.Moves r')
    (h' : Grows r' done r'' ns) : Grows r done r'' ns :=
  .trans (.of_reads h.reads h.groups fun _ _ _ hdone _ => hdone) h'

/-- One more call of the reader of alternatives. -/
private theorem alternatives_grow {calls : Nat} (halternatives : AlternativesGrow calls)
    (hsequences : SequencesGrow calls) : AlternativesGrow (calls + 1) := by
  intro verbose top done r ns r' h
  simp only [readAlternatives] at h
  obtain ⟨⟨ms, r₁⟩, hms, h⟩ := bind_eq_ok.mp h
  obtain ⟨⟨more, r₂⟩, hmore, h⟩ := bind_eq_ok.mp h
  have hgrows : Grows r done.flatten r₂ (done ++ [ms]).flatten := by
    rw [List.flatten_append, List.flatten_singleton]
    exact (hsequences hms).append.moves (accept_moves hmore)
  split at h
  · exact hgrows.trans (halternatives h)
  · cases h
    refine ⟨hgrows.reads, fun W lo hW hdone => ?_⟩
    exact Node.numbered_choice (hgrows.numbered W lo hW hdone)

/-- A sequence that is put in one node keeps its numbers. -/
private theorem numbered_node {W : Nat → Width} {isOpen : Nat → Prop} {lo hi : Nat}
    {ns : List Node} {n : Node}
    (hn : (Node.sequence ns).Numbered W isOpen lo hi → n.Numbered W isOpen lo hi)
    (h : Node.AllNumbered W isOpen ns lo hi) : Node.AllNumbered W isOpen [n] lo hi :=
  Node.allNumbered_singleton.mpr (hn (Node.numbered_sequence.mpr h))

/-- The branches of a conditional, the second of which may be missing. -/
theorem conditional_ok {calls : Nat} {verbose : Bool} {start g : Nat} {r r' : Reader} {p : Piece}
    (h : readGroup (calls + 1) verbose start (.conditional g) r = .ok (p, r')) :
    ∃ yes r₁ more r₂ no r₃, readSequence calls verbose false [] r = .ok (yes, r₁) ∧
      r₁.accept '|' = .ok (more, r₂) ∧
      (more = true ∧ readSequence calls verbose false [] r₂ = .ok (no, r₃) ∨
        more = false ∧ no = [] ∧ r₃ = r₂) ∧
      r₃.close start = .ok r' ∧ p = .node (.conditional g (.sequence yes) (.sequence no)) := by
  simp only [readGroup, throw_bind] at h
  obtain ⟨⟨yes, r₁⟩, hyes, h⟩ := bind_eq_ok.mp h
  obtain ⟨⟨more, r₂⟩, hmore, h⟩ := bind_eq_ok.mp h
  have finish : ∀ {no : List Node} {r₃ : Reader},
      (if more && r₃.nextIs '|' then throw (r₃.fault .tooManyBranches)
        else do
          let r₄ ← r₃.close start
          pure (Piece.node (.conditional g (.sequence yes) (.sequence no)), r₄)) = .ok (p, r') →
      r₃.close start = .ok r' ∧ p = .node (.conditional g (.sequence yes) (.sequence no)) := by
    intro no r₃ h
    split at h
    · cases h
    · obtain ⟨r₄, hclose, h⟩ := bind_eq_ok.mp h
      cases h
      exact ⟨hclose, rfl⟩
  split at h
  · rename_i htrue
    obtain ⟨⟨no, r₃⟩, hno, h⟩ := bind_eq_ok.mp h
    exact ⟨yes, r₁, more, r₂, no, r₃, hyes, hmore, .inl ⟨htrue, hno⟩, finish h⟩
  · rename_i hfalse
    exact ⟨yes, r₁, more, r₂, [], r₂, hyes, hmore,
      .inr ⟨eq_false_of_ne_true hfalse, rfl, rfl⟩, finish h⟩

/-- One more call of the reader of groups, with a case for each opening. -/
private theorem groups_grow {calls : Nat} (halternatives : AlternativesGrow calls)
    (hsequences : SequencesGrow calls) : GroupsGrow (calls + 1) := by
  intro verbose start o r p r' hfits h
  simp only [readGroup, throw_bind] at h
  cases o with
  | reference g =>
    cases h
    refine .step (.refl r) trivial fun g' hg => ?_
    cases hg
    exact hfits.closed rfl
  | capture name =>
    obtain ⟨⟨g, r₁⟩, hopen, h⟩ := bind_eq_ok.mp h
    obtain ⟨⟨ns, r₂⟩, hns, h⟩ := bind_eq_ok.mp h
    obtain ⟨r₃, hclose, h⟩ := bind_eq_ok.mp h
    cases h
    obtain ⟨rfl, -, rfl⟩ := openGroup_ok hopen
    refine grows_group ?_ ?_ ?_ ?_ ?_ (halternatives hns) (close_moves hclose)
    · rfl
    · exact List.prefix_append _ _
    · intro hr e he
      obtain he | he := List.mem_append.mp he
      · exact hr e he
      · obtain ⟨cs, rfl, rfl⟩ := Option.map_eq_some_iff.mp (Option.mem_toList.mp he)
        rw [String.toList_ofList]
        exact hfits.named rfl
    · rfl
    · exact id
  | plain =>
    obtain ⟨⟨ns, r₁⟩, hns, h⟩ := bind_eq_ok.mp h
    obtain ⟨r₂, hclose, h⟩ := bind_eq_ok.mp h
    cases h
    rw [Piece.nodes, Piece.nodes, List.append_nil]
    exact (halternatives hns).moves (close_moves hclose)
  | atomic | «scoped» _ _ | ahead _ =>
    obtain ⟨⟨ns, r₁⟩, hns, h⟩ := bind_eq_ok.mp h
    obtain ⟨r₂, hclose, h⟩ := bind_eq_ok.mp h
    cases h
    exact ((halternatives hns).moves (close_moves hclose)).wrap fun _ _ _ _ => numbered_node id
  | behind negated =>
    obtain ⟨⟨ns, r₁⟩, hns, h⟩ := bind_eq_ok.mp h
    obtain ⟨r₂, hclose, h⟩ := bind_eq_ok.mp h
    cases h
    -- Only the outermost lookbehind sets the floor.
    have hbody : Grows r [] r₁ ns := by
      split at hns
      · exact (Grows.withFloor r _ []).trans (halternatives hns)
      · exact halternatives hns
    exact ((hbody.trans (.withFloor r₁ r.floor ns)).moves (close_moves hclose)).wrap
      fun _ _ _ _ => numbered_node id
  | conditional g =>
    obtain ⟨yes, r₁, more, r₂, no, r₃, hyes, hmore, hno, hclose, rfl⟩ := conditional_ok h
    -- The branch that is missing has no groups.
    have hyes' : Grows r [] r₂ yes := (hsequences hyes).moves (accept_moves hmore)
    have hno' : Grows r₂ [] r₃ no := by
      obtain ⟨-, hno⟩ | ⟨-, rfl, rfl⟩ := hno
      · exact hsequences hno
      · exact .refl r₃ []
    refine ((hyes'.trans hno'.append).moves (close_moves hclose)).wrap fun W isOpen lo hi h => ?_
    obtain ⟨mid, hyes, hno⟩ := Node.allNumbered_append.mp h
    exact Node.allNumbered_singleton.mpr
      ⟨mid, Node.numbered_sequence.mpr hyes, Node.numbered_sequence.mpr hno⟩
  | comment | globals =>
    cases h
    exact .refl r []

/-- To skip a line is to move on. -/
private theorem skipLine_moves {calls : Nat} {r r' : Reader} (h : skipLine calls r = .ok r') :
    r.Moves r' := by
  induction calls generalizing r with
  | zero =>
    cases h
    exact .refl _
  | succ calls ih =>
    unfold skipLine at h
    split at h
    · cases h
      exact .refl _
    · obtain ⟨r₁, hadvance, h⟩ := bind_eq_ok.mp h
      obtain ⟨-, h⟩ | ⟨-, h⟩ := ite_eq_iff.mp h
      · cases h
        exact advance_moves hadvance
      · exact (advance_moves hadvance).trans (ih h)

/-- A class is one character wide and opens no group. -/
theorem charClass_ok {start : Nat} {r r' : Reader} {n : Node}
    (h : charClass start r = .ok (n, r')) : r.Moves r' ∧ ∃ s, n = .single s := by
  refine ⟨moves_of_like (charClass_both delimits_nil start start (.self r)) h, ?_⟩
  simp only [charClass] at h
  obtain ⟨⟨negated, r₁⟩, -, h⟩ := bind_eq_ok.mp h
  obtain ⟨⟨items, r₂⟩, -, h⟩ := bind_eq_ok.mp h
  cases h
  unfold classNode
  split <;> exact ⟨_, rfl⟩

/-- One more call of the reader of sequences, with a case for each token. -/
private theorem sequences_grow {calls : Nat} (hsequences : SequencesGrow calls)
    (hgroups : GroupsGrow calls) : SequencesGrow (calls + 1) := by
  intro verbose first done r ns r' h
  simp only [readSequence, throw_bind] at h
  cases hr : r.rest with
  | nil =>
    rw [hr] at h
    cases h
    exact .refl _ _
  | cons t ts =>
    rw [hr] at h
    obtain ⟨-, h⟩ | ⟨-, h⟩ := ite_eq_iff.mp h
    · cases h
      exact .refl _ _
    obtain ⟨r₁, hadvance, h⟩ := bind_eq_ok.mp h
    refine (advance_moves hadvance).grows ?_
    -- A part that was read is put behind those before it.
    have next : ∀ {p : Piece} {r₂ : Reader},
        readSequence calls verbose first (done ++ [p]) r₂ = .ok (ns, r') →
        Grows r₁ [] r₂ (Piece.nodes [p]) → Grows r₁ (Piece.nodes done) r' ns := by
      intro p r₂ h hp
      have hrest := hsequences h
      rw [Piece.nodes_append] at hrest
      exact hp.append.trans hrest
    have step : ∀ {n : Node},
        readSequence calls verbose first (done ++ [.node n]) r₁ = .ok (ns, r') →
        n.IsStep → (∀ g, n ≠ .backref g) → Grows r₁ (Piece.nodes done) r' ns := fun h hn hne =>
      next h (.step (.refl r₁) hn fun g hg => absurd hg (hne g))
    obtain ⟨-, h⟩ | ⟨-, h⟩ := ite_eq_iff.mp h
    · exact hsequences h
    obtain ⟨-, h⟩ | ⟨-, h⟩ := ite_eq_iff.mp h
    · obtain ⟨r₂, hline, h⟩ := bind_eq_ok.mp h
      exact (skipLine_moves hline).grows (hsequences h)
    obtain ⟨-, h⟩ | ⟨-, h⟩ := ite_eq_iff.mp h
    · obtain ⟨⟨n, r₂⟩, hn, h⟩ := bind_eq_ok.mp h
      obtain ⟨hmoves, hescaped⟩ := escape_ok hn
      exact next h (.step hmoves hescaped.step fun g hg => (hescaped.closed hg).2)
    obtain ⟨-, h⟩ | ⟨-, h⟩ := ite_eq_iff.mp h
    · obtain ⟨⟨n, r₂⟩, hn, h⟩ := bind_eq_ok.mp h
      obtain ⟨hmoves, s, rfl⟩ := charClass_ok hn
      exact next h (.step hmoves trivial fun _ h => by cases h)
    obtain ⟨-, h⟩ | ⟨-, h⟩ := ite_eq_iff.mp h
    · obtain ⟨⟨done', r₂⟩, hdone, h⟩ := bind_eq_ok.mp h
      exact (repeated_ok hdone).trans (hsequences h)
    obtain ⟨-, h⟩ | ⟨-, h⟩ := ite_eq_iff.mp h
    · exact step h trivial fun _ h => by cases h
    obtain ⟨-, h⟩ | ⟨-, h⟩ := ite_eq_iff.mp h
    · exact step h trivial fun _ h => by cases h
    obtain ⟨-, h⟩ | ⟨-, h⟩ := ite_eq_iff.mp h
    · exact step h trivial fun _ h => by cases h
    obtain ⟨-, h⟩ | ⟨-, h⟩ := ite_eq_iff.mp h
    · obtain ⟨⟨o, r₂⟩, ho, h⟩ := bind_eq_ok.mp h
      have hopens := opening_ok ho
      have hstart : ∀ done, Grows r₁ done r₂ done := fun done =>
        .of_reads hopens.reads hopens.groups fun _ _ _ h _ => h
      dsimp only at h
      split at h
      · exact (hstart _).trans (hsequences h)
      · obtain ⟨-, h⟩ | ⟨-, h⟩ := ite_eq_iff.mp h
        · cases h
        · exact (hstart _).trans (hsequences h)
      · obtain ⟨⟨p, r₃⟩, hp, h⟩ := bind_eq_ok.mp h
        exact next h ((hstart []).trans (hgroups (hopens.fits.congr hopens.groups) hp))
    · exact step h trivial fun _ h => by cases h

/-- The three readers call one another, so the induction is on their calls together. -/
private theorem all_grow (calls : Nat) :
    AlternativesGrow calls ∧ SequencesGrow calls ∧ GroupsGrow calls := by
  induction calls with
  | zero =>
    refine ⟨?_, ?_, ?_⟩
    · rintro _ _ _ _ _ _ ⟨⟩
    · rintro _ _ _ _ _ _ ⟨⟩
    · rintro _ _ _ _ _ _ _ ⟨⟩
  | succ calls ih =>
    obtain ⟨halternatives, hsequences, hgroups⟩ := ih
    exact ⟨alternatives_grow halternatives hsequences, sequences_grow hsequences hgroups,
      groups_grow halternatives hsequences⟩

/-- Reading alternatives numbers their groups one after the other. -/
theorem readAlternatives_grows {calls : Nat} {verbose top : Bool} {done : List (List Node)}
    {r r' : Reader} {ns : List Node}
    (h : readAlternatives calls verbose top done r = .ok (ns, r')) : Grows r done.flatten r' ns :=
  (all_grow calls).1 h

/-- Reading a sequence numbers its groups one after the other. -/
theorem readSequence_grows {calls : Nat} {verbose first : Bool} {done : List Piece}
    {r r' : Reader} {ns : List Node}
    (h : readSequence calls verbose first done r = .ok (ns, r')) :
    Grows r (Piece.nodes done) r' ns :=
  (all_grow calls).2.1 h

/-- Reading a group numbers it before the groups within. -/
theorem readGroup_grows {calls : Nat} {verbose : Bool} {start : Nat} {o : Opening}
    {r r' : Reader} {p : Piece} (ho : Fits r o)
    (h : readGroup calls verbose start o r = .ok (p, r')) : Grows r [] r' (Piece.nodes [p]) :=
  (all_grow calls).2.2 ho h

end Marginalia.Pattern.Reader
