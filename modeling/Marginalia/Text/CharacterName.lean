import Marginalia.Text.Blank
import Marginalia.Text.Hex
import Marginalia.Text.Names
import Marginalia.Text.Packed
import Marginalia.Text.Ranges

/-!
# Characters by name

The names that the Unicode standard gives to characters, in its version 14, together with the
corrections and abbreviations that it lists as further names.  Names are written in letters, digits,
spaces and hyphens only.  A name is found in upper and lower case.

Names are kept in the order of their characters, one after the other, and packed.  What is written
starts with a mark.  A number sign is followed by how many code points have no name, in hexadecimal;
the names after it belong to the code points after those.  The marks from `:` to `@` stand in front
of a name, and count from none to six the words that it has in common with the name before it.  So
`:GREEK SIGMA;TAU` are the names `GREEK SIGMA` and `GREEK TAU`.  The marks from `$` to `*` count in
the same way, and what stands behind them takes the place of as many words, so `:GREEK SIGMA$COPTIC`
are the names `GREEK SIGMA` and `COPTIC SIGMA`.  A plus sign is the name in which the last character
of the one before it is counted up.

Ideographs and some other signs are named by their numbers, and Hangul syllables by their letters;
those names follow rules, and the rules for syllables and for unified ideographs know upper case
only.
-/

namespace Marginalia.Text

/-! ## Listed names -/

/-- All written names. -/
def writtenNames : Thunk (List (List Char)) :=
  .mk fun _ => (unpacked 276663 (unindented packedNames)).toList.splitBy fun _ c => !isNameMark c
where
  /-- Does the character stand in front of a name or a code point? -/
  isNameMark (c : Char) : Bool := ('#' ≤ c && c ≤ '+') || (':' ≤ c && c ≤ '@')

/-- Counts up the first of some characters.  A nine becomes zero, and the character after it is
counted up. -/
def countUp : List Char → List Char
  | [] => []
  | c :: cs => if c = '9' then '0' :: countUp cs else Char.ofNat (c.toNat + 1) :: cs

/-- The words of the name in which the last character is counted up. -/
def nextName (words : List String) : List String :=
  words.dropLast ++ words.getLast?.toList.map fun w =>
    String.ofList (countUp w.toList.reverse).reverse

/-- The words of a name with its mark, given the words of the name before it. -/
def markedName (previous : List String) (mark : Char) (written : List Char) : List String :=
  let words := (String.ofList written).splitOn " "
  if mark = '+' then nextName previous
  else if mark < '+' then
    let kept := mark.toNat - '$'.toNat
    previous.take kept ++ words ++ previous.drop (kept + words.length)
  else previous.take (mark.toNat - ':'.toNat) ++ words

/-- The code point of a name among what is written, given the code point of the first name and the
words of the name before it. -/
def findName (name : List String) (code : Nat) (previous : List String) :
    List (List Char) → Option Nat
  | [] => none
  | written :: rest =>
    match written with
    | [] => none
    | '#' :: digits => findName name (code + numeral 16 digits) previous rest
    | mark :: word =>
      let words := markedName previous mark word
      if words = name then some code else findName name (code + 1) words rest

/-- Further names of characters.  A number sign says by how much the code point of the names after it
is greater than that of the names before it, in hexadecimal. -/
def furtherNames : String :=
  ":NUL:NULL#1:SOH:START OF HEADING#1:START OF TEXT:STX#1:END OF TEXT:ETX#1:END OF TRANSMISSION:EOT#1
 :ENQ:ENQUIRY#1:ACK:ACKNOWLEDGE#1:ALERT:BEL#1:BACKSPACE:BS#1:CHARACTER TABULATION
 :HORIZONTAL TABULATION:HT:TAB#1:END OF LINE:EOL:LF:LINE FEED:NEW LINE:NL#1:LINE TABULATION
 :VERTICAL TABULATION:VT#1:FF:FORM FEED#1:CARRIAGE RETURN:CR#1:LOCKING-SHIFT ONE:SHIFT OUT:SO#1
 :LOCKING-SHIFT ZERO:SHIFT IN:SI#1:DATA LINK ESCAPE:DLE#1:DC1:DEVICE CONTROL ONE#1:DC2
 :DEVICE CONTROL TWO#1:DC3:DEVICE CONTROL THREE#1:DC4:DEVICE CONTROL FOUR#1:NAK
 :NEGATIVE ACKNOWLEDGE#1:SYN:SYNCHRONOUS IDLE#1:END OF TRANSMISSION BLOCK:ETB#1:CAN:CANCEL#1
 :END OF MEDIUM:EOM#1:SUB:SUBSTITUTE#1:ESC:ESCAPE#1:FILE SEPARATOR:FS:INFORMATION SEPARATOR FOUR#1
 :GROUP SEPARATOR:GS:INFORMATION SEPARATOR THREE#1:INFORMATION SEPARATOR TWO:RECORD SEPARATOR:RS#1
 :INFORMATION SEPARATOR ONE:UNIT SEPARATOR:US#1:SP#5f:DEL:DELETE#1:PAD:PADDING CHARACTER#1
 :HIGH OCTET PRESET:HOP#1:BPH:BREAK PERMITTED HERE#1:NBH:NO BREAK HERE#1:IND:INDEX#1:NEL
 :NEXT LINE#1:SSA:START OF SELECTED AREA#1:END OF SELECTED AREA:ESA#1:CHARACTER TABULATION SET
 :HORIZONTAL TABULATION SET:HTS#1:CHARACTER TABULATION WITH JUSTIFICATION
 :HORIZONTAL TABULATION WITH JUSTIFICATION:HTJ#1:LINE TABULATION SET:VERTICAL TABULATION SET:VTS#1
 :PARTIAL LINE DOWN:PARTIAL LINE FORWARD:PLD#1:PARTIAL LINE BACKWARD:PARTIAL LINE UP:PLU#1
 :REVERSE INDEX:REVERSE LINE FEED:RI#1:SINGLE SHIFT TWO:SINGLE-SHIFT-2:SS2#1:SINGLE SHIFT THREE
 :SINGLE-SHIFT-3:SS3#1:DCS:DEVICE CONTROL STRING#1:PRIVATE USE ONE:PRIVATE USE-1:PU1#1
 :PRIVATE USE TWO:PRIVATE USE-2:PU2#1:SET TRANSMIT STATE:STS#1:CANCEL CHARACTER:CCH#1
 :MESSAGE WAITING:MW#1:SPA:START OF GUARDED AREA:START OF PROTECTED AREA#1:END OF GUARDED AREA
 :END OF PROTECTED AREA:EPA#1:SOS:START OF STRING#1:SGC:SINGLE GRAPHIC CHARACTER INTRODUCER#1:SCI
 :SINGLE CHARACTER INTRODUCER#1:CONTROL SEQUENCE INTRODUCER:CSI#1:ST:STRING TERMINATOR#1
 :OPERATING SYSTEM COMMAND:OSC#1:PM:PRIVACY MESSAGE#1:APC:APPLICATION PROGRAM COMMAND#1:NBSP#d
 :SHY#f5:LATIN CAPITAL LETTER GHA#1:LATIN SMALL LETTER GHA#1ac:CGJ#2cd:ALM#ed
 :SYRIAC SUBLINEAR COLON SKEWED LEFT#5d5:KANNADA LETTER LLLA#1bf:LAO LETTER FO FON#2
 :LAO LETTER FO FAY#4:LAO LETTER RO#2:LAO LETTER LO#12b:TIBETAN MARK BKA- SHOG GI MGO RGYAN#21c
 :HANGUL JONGSEONG YESIEUNG-KIYEOK#1:HANGUL JONGSEONG YESIEUNG-SSANGKIYEOK#1
 :HANGUL JONGSEONG SSANGYESIEUNG#1:HANGUL JONGSEONG YESIEUNG-KHIEUKH#61c:FVS1#1:FVS2#1:FVS3#1:MVS#1
 :FVS4#7fc:ZWSP#1:ZWNJ#1:ZWJ#1:LRM#1:RLM#1b:LRE#1:RLE#1:PDF#1:LRO#1:RLO#1:NNBSP#30:MMSP#1:WJ#6
 :LRI#1:RLI#1:FSI#1:PDI#af:WEIERSTRASS ELLIPTIC FUNCTION#330:MICR ON US SYMBOL#1
 :MICR DASH SYMBOL#731:LEFTWARDS TRIANGLE-HEADED ARROW WITH DOUBLE VERTICAL STROKE#2
 :RIGHTWARDS TRIANGLE-HEADED ARROW WITH DOUBLE VERTICAL STROKE#7499:YI SYLLABLE ITERATION MARK#a59
 :MYANMAR LETTER KHAMTI LLA#53aa:PRESENTATION FORM FOR VERTICAL RIGHT WHITE LENTICULAR BRACKET#e7
 :BOM:BYTE ORDER MARK:ZWNBSP#23d5:CUNEIFORM SIGN NU11 TENU#1
 :CUNEIFORM SIGN NU11 OVER NU11 BUR OVER BUR#4b81:MEDEFAIDRIN CAPITAL LETTER H#1
 :MEDEFAIDRIN CAPITAL LETTER NG#1f:MEDEFAIDRIN SMALL LETTER H#1:MEDEFAIDRIN SMALL LETTER NG#418a
 :HENTAIGANA LETTER E-1#20c4:BYZANTINE MUSICAL SYMBOL FTHORA SKLIRON CHROMA VASIS"

/-- The code point of a further name among what is written. -/
def findFurtherFrom (name : List Char) (code : Nat) : List (List Char) → Option Nat
  | ('#' :: digits) :: rest => findFurtherFrom name (code + numeral 16 digits) rest
  | (_ :: word) :: rest => if word = name then some code else findFurtherFrom name code rest
  | _ => none

/-- The code point of a further name. -/
def findFurther (name : String) : Option Nat :=
  findFurtherFrom name.toList 0
    ((unindented furtherNames).splitBy fun _ c => c != '#' && c != ':')

/-! ## Names by rule -/

/-- What follows the given start of a name. -/
def afterStart? (start : String) (name : List Char) : Option (List Char) :=
  if start.toList.isPrefixOf name then some (name.drop start.length) else none

/-- The variation selector with an abbreviated name. -/
def selector? (name : List Char) : Option Nat := do
  let n ← (← afterStart? "VS" name |>.map String.ofList).toNat?
  if "VS" ++ toString n ≠ String.ofList name then none
  else if 1 ≤ n ∧ n ≤ 16 then some (0xfe00 + n - 1)
  else if 17 ≤ n ∧ n ≤ 256 then some (0xe0100 + n - 17)
  else none

/-- Boundaries of the unified ideographs. -/
def unifiedBounds : List Nat := [
  13312, 6592, 64, 20992, 90112, 42720, 32, 4153, 7, 222, 2, 5762, 14, 7473, 5151, 4939]

/-- Boundaries of the compatibility ideographs. -/
def compatibilityBounds : List Nat := [63744, 366, 2, 106, 130342, 542]

/-- Is the character a hexadecimal digit in upper case? -/
def isUpperHexDigit (c : Char) : Bool := isHexDigit c && !('a' ≤ c && c ≤ 'f')

/-- The number that upper-case hexadecimal digits write. -/
def upperHex? (ds : List Char) : Option Nat :=
  if ds.all isUpperHexDigit then some (numeral 16 ds) else none

/-- The unified ideograph with a name: four or five digits after the start of the name. -/
def unifiedIdeograph? (name : List Char) : Option Nat := do
  let ds ← afterStart? "CJK UNIFIED IDEOGRAPH-" name
  let n ← upperHex? ds
  if (ds.length = 4 ∨ ds.length = 5) ∧ inBounds unifiedBounds n then some n else none

/-- The compatibility ideograph with a name: as many digits as its number has. -/
def compatibilityIdeograph? (name : List Char) : Option Nat := do
  let ds ← afterStart? "CJK COMPATIBILITY IDEOGRAPH-" name
  let n ← upperHex? ds
  if ds.length = (Nat.toDigits 16 n).length ∧ inBounds compatibilityBounds n then some n else none

/-- Characters in a row whose names have the same start and end in consecutive numbers. -/
structure NumberedNames where
  start : String
  /-- The base in which the numbers are written, and how many digits they have at least. -/
  base : Nat
  width : Nat
  /-- The code point and the number of the first character. -/
  code : Nat
  number : Nat
  count : Nat

/-- All names of this kind. -/
def numberedNames : List NumberedNames :=
  [⟨"TANGUT COMPONENT-", 10, 3, 0x18800, 1, 768⟩,
   ⟨"KHITAN SMALL SCRIPT CHARACTER-", 16, 5, 0x18b00, 0x18b00, 470⟩,
   ⟨"NUSHU CHARACTER-", 16, 5, 0x1b170, 0x1b170, 396⟩,
   ⟨"VARIATION SELECTOR-", 10, 1, 0xfe00, 1, 16⟩,
   ⟨"VARIATION SELECTOR-", 10, 1, 0xe0100, 17, 240⟩]

/-- The digits of a number in such a name. -/
def NumberedNames.digits (s : NumberedNames) (n : Nat) : List Char :=
  let ds := (Nat.toDigits s.base n).map Char.toUpper
  List.replicate (s.width - ds.length) '0' ++ ds

/-- The character with such a name. -/
def numbered? (name : List Char) : Option Nat :=
  numberedNames.findSome? fun s => do
    let ds ← afterStart? s.start name
    let n := numeral s.base ds
    if ds = s.digits n ∧ s.number ≤ n ∧ n < s.number + s.count then some (s.code + (n - s.number))
    else none

/-- The short names of leading consonants. -/
def leadingJamo : List String :=
  ["G", "GG", "N", "D", "DD", "R", "M", "B", "BB", "S", "SS", "", "J", "JJ", "C", "K", "T", "P",
   "H"]

/-- The short names of vowels. -/
def vowelJamo : List String :=
  ["A", "AE", "YA", "YAE", "EO", "E", "YEO", "YE", "O", "WA", "WAE", "OE", "YO", "U", "WEO", "WE",
   "WI", "YU", "EU", "YI", "I"]

/-- The short names of trailing consonants. -/
def trailingJamo : List String :=
  ["", "G", "GG", "GS", "N", "NJ", "NH", "D", "L", "LG", "LM", "LB", "LS", "LT", "LP", "LH", "M",
   "B", "BS", "S", "SS", "NG", "J", "C", "K", "T", "P", "H"]

/-- The place of the longest of the short names with which a text begins, and what follows it. -/
def longestJamo? (jamo : List String) (cs : List Char) : Option (Nat × List Char) :=
  let fitting := jamo.zipIdx.filter fun (j, _) => j.toList.isPrefixOf cs
  let longest := fitting.foldl (fun best (j, i) =>
    match best with
    | some (b, k) => if b < j.length then some (j.length, i) else some (b, k)
    | none => some (j.length, i)) (none : Option (Nat × Nat))
  longest.map fun (size, i) => (i, cs.drop size)

/-- The Hangul syllable with a name. -/
def hangulSyllable? (name : List Char) : Option Nat := do
  let cs ← afterStart? "HANGUL SYLLABLE " name
  let (l, cs) ← longestJamo? leadingJamo cs
  let (v, cs) ← longestJamo? vowelJamo cs
  let (t, cs) ← longestJamo? trailingJamo cs
  if cs.isEmpty then some (0xac00 + (l * vowelJamo.length + v) * trailingJamo.length + t) else none

/-! ## All names -/

/-- The characters in which names are written. -/
def isNameCharacter (c : Char) : Bool := c.isAlphanum || c == ' ' || c == '-'

/-- The code point of the character with a name. -/
def characterNamed? (name : List Char) : Option Nat :=
  let upper := name.map Char.toUpper
  let text := String.ofList upper
  if !name.all isNameCharacter then none
  else (hangulSyllable? name).or <| (unifiedIdeograph? name).or <|
    (compatibilityIdeograph? upper).or <| (findFurther text).or <| (selector? upper).or <|
      (numbered? upper).or <| findName (text.splitOn " ") 0 [] writtenNames.get

/-- A text with any other character is no name. -/
theorem isNameCharacter_of_characterNamed? {name : List Char} {n : Nat}
    (h : characterNamed? name = some n) : ∀ c ∈ name, isNameCharacter c = true := by
  unfold characterNamed? at h
  dsimp only at h
  split at h
  · cases h
  · rename_i hall
    simpa using hall

end Marginalia.Text
