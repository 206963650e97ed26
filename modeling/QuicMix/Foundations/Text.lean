import Mathlib.Algebra.Group.Nat.Defs
import Mathlib.Data.List.Basic

namespace QuicMix
namespace Foundations

/-!
# Strings as lists of characters

The operations of the standard library on strings that configuration and
protocol headers are read with: trimming and splitting at Unicode white space,
lowering of ASCII letters, prefixes, and the reading of unsigned numbers.
-/

abbrev Text := List Char

namespace Text

/-- The characters with the Unicode property `White_Space`. -/
def isWhitespace (char : Char) : Bool :=
  let point := char.toNat
  (9 <= point && point <= 13) || point == 32 || point == 133 || point == 160 || point == 5760
    || (8192 <= point && point <= 8202) || point == 8232 || point == 8233 || point == 8239
    || point == 8287 || point == 12288

def trimStart (text : Text) : Text :=
  text.dropWhile isWhitespace

/-- Without the white space at both ends. -/
def trim (text : Text) : Text :=
  (trimStart (trimStart text).reverse).reverse

/-- With the ASCII letters lowered. -/
def lower (text : Text) : Text :=
  text.map Char.toLower

/-- Equal up to the case of ASCII letters. -/
def eqIgnoreCase (first second : Text) : Bool :=
  lower first == lower second

/-- The words of a text with the word that has been begun. -/
def wordsFrom (word : Text) : Text -> List Text
  | [] => if word.isEmpty then [] else [word]
  | char :: rest =>
      if isWhitespace char then
        if word.isEmpty then wordsFrom [] rest else word :: wordsFrom [] rest
      else wordsFrom (word ++ [char]) rest

def splitWhitespace (text : Text) : List Text :=
  wordsFrom [] text

/-- What follows the given beginning, if the text begins with it. -/
def stripStart (text start : Text) : Option Text :=
  if start.isPrefixOf text then some (text.drop start.length) else none

/-- The UTF-8 encoding. -/
def encode (text : Text) : List UInt8 :=
  text.flatMap String.utf8EncodeChar

/-- The text of a UTF-8 encoding. -/
def decode (bytes : List UInt8) : Option Text :=
  bytes.toByteArray.utf8Decode?.map Array.toList

/-- The number that a sequence of decimal digits denotes. -/
def digitsValue (digits : Text) : Nat :=
  digits.foldl (fun value digit => value * 10 + (digit.toNat - '0'.toNat)) 0

/-- Read a `u64`: digits behind at most one plus sign. -/
def parseU64 (text : Text) : Option Nat :=
  let digits := (text.stripStart ['+']).getD text
  if !digits.isEmpty && digits.all Char.isDigit && digitsValue digits < 2 ^ 64 then
    some (digitsValue digits)
  else none

/-- Read a `u16`. -/
def parseU16 (text : Text) : Option Nat :=
  let digits := (text.stripStart ['+']).getD text
  if !digits.isEmpty && digits.all Char.isDigit && digitsValue digits < 2 ^ 16 then
    some (digitsValue digits)
  else none

/-- The parts before and behind the first occurrence of a character. -/
def splitOnce (mark : Char) : Text -> Option (Text × Text)
  | [] => none
  | char :: rest =>
      if char = mark then some ([], rest)
      else (splitOnce mark rest).map (fun parts => (char :: parts.1, parts.2))

/-- The parts before and behind the last occurrence of a character. -/
def rsplitOnce (mark : Char) : Text -> Option (Text × Text)
  | [] => none
  | char :: rest =>
      match rsplitOnce mark rest with
      | some (before, after) => some (char :: before, after)
      | none => if char = mark then some ([], rest) else none

/-- The value of a hexadecimal digit, in either case. -/
def hexDigit (char : Char) : Option Nat :=
  if '0' <= char ∧ char <= '9' then some (char.toNat - '0'.toNat)
  else if 'a' <= char ∧ char <= 'f' then some (char.toNat - 'a'.toNat + 10)
  else if 'A' <= char ∧ char <= 'F' then some (char.toNat - 'A'.toNat + 10)
  else none

/-- The number of a sequence of hexadecimal digits, behind those that were read. -/
def hexFrom (value : Nat) : Text -> Option Nat
  | [] => some value
  | char :: rest =>
      match hexDigit char with
      | none => none
      | some digit => hexFrom (value * 16 + digit) rest

/-- Read a 64-bit `usize` in hexadecimal: digits behind at most one plus sign. -/
def parseHex (text : Text) : Option Nat :=
  let digits := (text.stripStart ['+']).getD text
  if digits.isEmpty then none
  else (hexFrom 0 digits).filter (· < 2 ^ 64)

/-! ## Splitting -/

theorem splitOnce_append {mark : Char} {before : Text} (absent : mark ∉ before) (after : Text) :
    splitOnce mark (before ++ mark :: after) = some (before, after) := by
  induction before with
  | nil => exact if_pos rfl
  | cons char rest inductionHypothesis =>
      rw [List.mem_cons, not_or] at absent
      rw [List.cons_append, splitOnce, if_neg (fun same => absent.1 same.symm),
        inductionHypothesis absent.2]
      rfl

theorem splitOnce_eq_some {mark : Char} {text before after : Text} :
    splitOnce mark text = some (before, after) <->
      text = before ++ mark :: after ∧ mark ∉ before := by
  constructor
  · intro split
    induction text generalizing before with
    | nil => cases split
    | cons char rest inductionHypothesis =>
        rw [splitOnce] at split
        by_cases same : char = mark
        · rw [if_pos same] at split
          cases split
          exact ⟨by rw [same]; rfl, List.not_mem_nil⟩
        · rw [if_neg same] at split
          rcases Option.map_eq_some_iff.mp split with ⟨parts, later, equal⟩
          cases equal
          rcases inductionHypothesis later with ⟨rfl, absent⟩
          refine ⟨rfl, ?_⟩
          rw [List.mem_cons, not_or]
          exact ⟨fun equal => same equal.symm, absent⟩
  · rintro ⟨rfl, absent⟩
    exact splitOnce_append absent after

theorem rsplitOnce_eq_none {mark : Char} {text : Text} :
    rsplitOnce mark text = none <-> mark ∉ text := by
  induction text with
  | nil => exact iff_of_true rfl List.not_mem_nil
  | cons char rest inductionHypothesis =>
      rw [List.mem_cons, not_or, ← inductionHypothesis, rsplitOnce]
      cases later : rsplitOnce mark rest with
      | some parts => exact iff_of_false nofun nofun
      | none =>
          rw [and_iff_left rfl]
          by_cases same : char = mark
          · exact iff_of_false (by rw [if_pos same]; exact nofun) (fun other => other same.symm)
          · exact iff_of_true (if_neg same) (fun equal => same equal.symm)

theorem rsplitOnce_append {mark : Char} {after : Text} (absent : mark ∉ after) (before : Text) :
    rsplitOnce mark (before ++ mark :: after) = some (before, after) := by
  induction before with
  | nil => rw [List.nil_append, rsplitOnce, rsplitOnce_eq_none.mpr absent]; exact if_pos rfl
  | cons char rest inductionHypothesis =>
      rw [List.cons_append, rsplitOnce, inductionHypothesis]

theorem exists_of_mem_last {mark : Char} {text : Text} (member : mark ∈ text) :
    exists before after, text = before ++ mark :: after ∧ mark ∉ after := by
  induction text with
  | nil => cases member
  | cons char rest inductionHypothesis =>
      by_cases later : mark ∈ rest
      · rcases inductionHypothesis later with ⟨before, after, rfl, absent⟩
        exact ⟨char :: before, after, rfl, absent⟩
      · rcases List.mem_cons.mp member with rfl | inside
        · exact ⟨[], rest, rfl, later⟩
        · exact absurd inside later

theorem rsplitOnce_eq_some {mark : Char} {text before after : Text} :
    rsplitOnce mark text = some (before, after) <->
      text = before ++ mark :: after ∧ mark ∉ after := by
  constructor
  · intro split
    have member : mark ∈ text := by
      by_contra absent
      rw [rsplitOnce_eq_none.mpr absent] at split
      cases split
    rcases exists_of_mem_last member with ⟨front, back, rfl, absent⟩
    rw [rsplitOnce_append absent] at split
    cases split
    exact ⟨rfl, absent⟩
  · rintro ⟨rfl, absent⟩
    exact rsplitOnce_append absent before

theorem parseHex_lt {text : Text} {value : Nat} (read : parseHex text = some value) :
    value < 2 ^ 64 := by
  unfold parseHex at read
  dsimp only at read
  split at read
  · cases read
  · exact of_decide_eq_true (Option.filter_eq_some_iff.mp read).2

theorem lower_eq_nil {text : Text} : lower text = [] <-> text = [] :=
  List.map_eq_nil_iff

theorem isWhitespace_eq_false {char : Char} (low : 33 <= char.toNat) (high : char.toNat <= 132) :
    isWhitespace char = false := by
  simp only [isWhitespace, Bool.or_eq_false_iff, Bool.and_eq_false_iff, decide_eq_false_iff_not,
    beq_eq_false_iff_ne]
  omega

theorem isUpper_iff {char : Char} :
    char.isUpper = true <-> 65 <= char.toNat ∧ char.toNat <= 90 :=
  decide_eq_true_iff

theorem toNat_toLower {char : Char} (upper : char.isUpper = true) :
    char.toLower.toNat = char.toNat + 32 := by
  have letter : char.val >= 'A'.val ∧ char.val <= 'Z'.val := of_decide_eq_true upper
  have high : char.toNat <= 90 := letter.2
  have lowered : char.toLower.val = char.val + ('a'.val - 'A'.val) :=
    congrArg Char.val (dif_pos letter)
  change char.toLower.val.toNat = char.toNat + 32
  rw [lowered, UInt32.toNat_add]
  exact Nat.mod_eq_of_lt (Nat.lt_of_le_of_lt (Nat.add_le_add_right high 32) (by decide))

/-- Lowering changes the upper-case letters. -/
theorem toLower_eq_self {char : Char} : char.toLower = char <-> char.isUpper = false := by
  constructor
  · intro same
    cases upper : char.isUpper with
    | false => rfl
    | true =>
        have moved := toNat_toLower upper
        rw [same] at moved
        omega
  · intro upper
    exact dif_neg (of_decide_eq_false upper)

/-- A letter is not white space, in either case. -/
theorem isWhitespace_toLower (char : Char) :
    isWhitespace char.toLower = isWhitespace char := by
  cases upper : char.isUpper with
  | false => rw [toLower_eq_self.mpr upper]
  | true =>
      have range := isUpper_iff.mp upper
      have moved := toNat_toLower upper
      rw [isWhitespace_eq_false (by omega) (by omega), isWhitespace_eq_false (by omega) (by omega)]

theorem trimStart_lower (text : Text) : trimStart (lower text) = lower (trimStart text) := by
  unfold trimStart lower
  rw [List.dropWhile_map]
  congr 1
  apply congrArg (fun keep => List.dropWhile keep text)
  funext char
  exact isWhitespace_toLower char

/-- Trimming and lowering can be exchanged. -/
theorem trim_lower (text : Text) : trim (lower text) = lower (trim text) := by
  have reversed : forall text : Text, (lower text).reverse = lower text.reverse := by
    intro text
    rw [lower, lower, List.map_reverse]
  rw [trim, trim, trimStart_lower, reversed, trimStart_lower, reversed]

theorem eqIgnoreCase_iff {first second : Text} :
    eqIgnoreCase first second = true <-> lower first = lower second := by
  rw [eqIgnoreCase, beq_iff_eq]

/-! ## Decimal numbers -/

theorem isWhitespace_of_mem_toDigits {number : Nat} {char : Char}
    (member : char ∈ Nat.toDigits 10 number) : isWhitespace char = false := by
  have digit : char.val >= 48 ∧ char.val <= 57 := by
    have digit := Nat.isDigit_of_mem_toDigits (by decide) (by decide) member
    rwa [Char.isDigit, Bool.and_eq_true, decide_eq_true_iff, decide_eq_true_iff] at digit
  exact isWhitespace_eq_false (Nat.le_trans (by decide) digit.1)
    (Nat.le_trans digit.2 (by decide))

theorem newline_not_mem_toDigits (number : Nat) : '\n' ∉ Nat.toDigits 10 number :=
  fun member => nomatch isWhitespace_of_mem_toDigits member

theorem toDigits_inj {number other : Nat}
    (same : Nat.toDigits 10 number = Nat.toDigits 10 other) : number = other := by
  have read := congrArg (fun digits => Nat.ofDigitChars 10 digits 0) same
  rwa [Nat.ofDigitChars_ten_toDigits, Nat.ofDigitChars_ten_toDigits] at read

/-! ## Hexadecimal numbers -/

/-- A digit with its spelling. -/
structure HexDigit where
  value : Fin 16
  upper : Bool
  deriving DecidableEq, Repr

def HexDigit.char (digit : HexDigit) : Char :=
  if digit.value.val < 10 then Char.ofNat ('0'.toNat + digit.value.val)
  else if digit.upper then Char.ofNat ('A'.toNat + digit.value.val - 10)
  else Char.ofNat ('a'.toNat + digit.value.val - 10)

/-- The number that digits denote. -/
def hexNumber (digits : List HexDigit) : Nat :=
  digits.foldl (fun number digit => number * 16 + digit.value.val) 0

theorem HexDigit.read (digit : HexDigit) :
    hexDigit digit.char = some digit.value.val ∧ isWhitespace digit.char = false ∧
      digit.char.toNat < 128 ∧ digit.char ≠ ';' ∧ digit.char ≠ '+' := by
  rcases digit with ⟨value, upper⟩
  revert value upper
  decide

theorem hexFrom_digits (value : Nat) (digits : List HexDigit) :
    hexFrom value (digits.map HexDigit.char) =
      some (digits.foldl (fun number digit => number * 16 + digit.value.val) value) := by
  induction digits generalizing value with
  | nil => rfl
  | cons digit rest inductionHypothesis =>
      simp only [List.map_cons, hexFrom, digit.read.1, inductionHypothesis, List.foldl_cons]

/-- Digits are read as the number that they denote. -/
theorem parseHex_digits {digits : List HexDigit} (nonempty : digits ≠ [])
    (small : hexNumber digits < 2 ^ 64) :
    parseHex (digits.map HexDigit.char) = some (hexNumber digits) := by
  have unsigned : stripStart (digits.map HexDigit.char) ['+'] = none := by
    cases digits with
    | nil => exact absurd rfl nonempty
    | cons digit rest =>
        apply if_neg
        rw [List.isPrefixOf_iff_prefix, List.map_cons, List.cons_prefix_cons]
        rintro ⟨plus, _⟩
        exact digit.read.2.2.2.2 plus.symm
  have some_digit : ¬ (digits.map HexDigit.char).isEmpty = true := by
    rw [List.isEmpty_iff, List.map_eq_nil_iff]
    exact nonempty
  rw [parseHex, unsigned, Option.getD_none]
  rw [if_neg some_digit, hexFrom_digits]
  exact Option.filter_eq_some_iff.mpr ⟨rfl, decide_eq_true small⟩

/-! ## Encoding -/

theorem decode_encode (text : Text) : decode (encode text) = some text := by
  have decoded : text.utf8Encode.utf8Decode? = some text.toArray := List.utf8Decode?_utf8Encode
  change text.utf8Encode.utf8Decode?.map Array.toList = some text
  rw [decoded]
  rfl

theorem encode_append (first second : Text) :
    encode (first ++ second) = encode first ++ encode second :=
  List.flatMap_append

theorem newline_eq_ofNat {value : Nat} (same : (10 : UInt8) = UInt8.ofNat value) :
    value % 256 = 10 := by
  have numbers := congrArg UInt8.toNat same
  rw [UInt8.toNat_ofNat'] at numbers
  exact numbers.symm

/-- The byte of a line feed encodes nothing but a line feed: the bytes of the
longer encodings are 128 at least. -/
theorem eq_newline_of_mem {char : Char} (member : 10 ∈ String.utf8EncodeChar char) :
    char = '\n' := by
  unfold String.utf8EncodeChar at member
  dsimp only at member
  split at member
  · rename_i ascii
    have value := newline_eq_ofNat (List.mem_singleton.mp member)
    apply Char.toNat_inj.mp
    change char.val.toNat = 10
    omega
  · exfalso
    split at member
    · simp only [List.mem_cons, List.not_mem_nil, or_false] at member
      rcases member with byte | byte <;> have value := newline_eq_ofNat byte <;> omega
    · split at member
      · simp only [List.mem_cons, List.not_mem_nil, or_false] at member
        rcases member with byte | byte | byte <;> have value := newline_eq_ofNat byte <;> omega
      · simp only [List.mem_cons, List.not_mem_nil, or_false] at member
        rcases member with byte | byte | byte | byte <;>
          have value := newline_eq_ofNat byte <;> omega

theorem newline_not_mem_encode {text : Text} (absent : '\n' ∉ text) : 10 ∉ encode text := by
  intro member
  rcases List.mem_flatMap.mp member with ⟨char, listed, byte⟩
  exact absent (eq_newline_of_mem byte ▸ listed)

/-! ## White space at the ends -/

/-- A text that trimming leaves as it is, and that is not empty. -/
structure Trimmed (text : Text) : Prop where
  nonempty : text ≠ []
  head : forall char, text.head? = some char -> isWhitespace char = false
  last : forall char, text.getLast? = some char -> isWhitespace char = false

theorem trimmed_iff {text : Text} :
    Trimmed text <-> text ≠ [] ∧ text.head?.any isWhitespace = false ∧
      text.getLast?.any isWhitespace = false := by
  have dark : forall end_ : Option Char, (forall char, end_ = some char ->
      isWhitespace char = false) <-> end_.any isWhitespace = false := by
    intro end_
    cases end_ with
    | none => exact iff_of_true nofun rfl
    | some char => exact ⟨fun all => all char rfl, fun white other same => by cases same; exact white⟩
  rw [← dark, ← dark]
  exact ⟨fun trimmed => ⟨trimmed.nonempty, trimmed.head, trimmed.last⟩,
    fun ends => ⟨ends.1, ends.2.1, ends.2.2⟩⟩

instance (text : Text) : Decidable (Trimmed text) :=
  decidable_of_iff _ trimmed_iff.symm

theorem trimStart_append {blank text : Text}
    (white : forall char, char ∈ blank -> isWhitespace char = true)
    (head : forall char, text.head? = some char -> isWhitespace char = false) :
    trimStart (blank ++ text) = text := by
  unfold trimStart
  rw [List.dropWhile_append_of_pos white]
  cases text with
  | nil => rfl
  | cons char rest =>
      apply List.dropWhile_cons_of_neg
      rw [head char rfl]
      exact Bool.false_ne_true

/-- Trimming finds the text between white space. -/
theorem trim_of_trimmed {before text after : Text} (trimmed : Trimmed text)
    (whiteBefore : forall char, char ∈ before -> isWhitespace char = true)
    (whiteAfter : forall char, char ∈ after -> isWhitespace char = true) :
    trim (before ++ text ++ after) = text := by
  have front : trimStart (before ++ text ++ after) = text ++ after := by
    rw [List.append_assoc]
    apply trimStart_append whiteBefore
    intro char first
    rw [List.head?_append_of_ne_nil _ trimmed.nonempty] at first
    exact trimmed.head char first
  have back : trimStart (after.reverse ++ text.reverse) = text.reverse := by
    apply trimStart_append
    · intro char member
      exact whiteAfter char (List.mem_reverse.mp member)
    · intro char first
      rw [List.head?_reverse] at first
      exact trimmed.last char first
  rw [trim, front, List.reverse_append, back, List.reverse_reverse]

theorem Trimmed.trim_append {text after : Text} (trimmed : Trimmed text)
    (white : forall char, char ∈ after -> isWhitespace char = true) :
    trim (text ++ after) = text :=
  trim_of_trimmed trimmed (fun _ member => absurd member List.not_mem_nil) white

/-- Two texts are trimmed where they begin and where they end. -/
theorem trimmed_append {front back : Text} (begins : front ≠ [])
    (head : forall char, front.head? = some char -> isWhitespace char = false) (ends : back ≠ [])
    (last : forall char, back.getLast? = some char -> isWhitespace char = false) :
    Trimmed (front ++ back) where
  nonempty := List.append_ne_nil_of_left_ne_nil begins back
  head := by
    intro char found
    rw [List.head?_append_of_ne_nil _ begins] at found
    exact head char found
  last := by
    intro char found
    rw [List.getLast?_append_of_ne_nil _ ends] at found
    exact last char found

theorem stripStart_append (start text : Text) : stripStart (start ++ text) start = some text := by
  rw [stripStart, if_pos (List.isPrefixOf_iff_prefix.mpr (List.prefix_append start text)),
    List.drop_left]

/-- White space at the start of a text. -/
theorem exists_trimStart (text : Text) :
    exists before, text = before ++ trimStart text ∧
      (forall char, char ∈ before -> isWhitespace char = true) ∧
      (forall char, (trimStart text).head? = some char -> isWhitespace char = false) := by
  refine ⟨text.takeWhile isWhitespace, List.takeWhile_append_dropWhile.symm, ?_, ?_⟩
  · exact List.all_eq_true.mp List.all_takeWhile
  · intro char first
    have visible := List.head?_dropWhile_not isWhitespace text
    rw [show text.dropWhile isWhitespace = trimStart text from rfl, first] at visible
    exact visible

/-- A text that is not blank is a trimmed one between white space. -/
theorem exists_trimmed {text : Text}
    (visible : exists char, char ∈ text ∧ isWhitespace char = false) :
    exists before core after, text = before ++ core ++ after ∧ Trimmed core ∧
      (forall char, char ∈ before -> isWhitespace char = true) ∧
      (forall char, char ∈ after -> isWhitespace char = true) := by
  rcases exists_trimStart text with ⟨before, split, whiteBefore, head⟩
  rcases exists_trimStart (trimStart text).reverse with ⟨after, splitBack, whiteAfter, last⟩
  have back := congrArg List.reverse splitBack
  rw [List.reverse_reverse, List.reverse_append] at back
  have whole : text = before ++ trim text ++ after.reverse := by
    rw [List.append_assoc]
    exact split.trans (congrArg (before ++ ·) back)
  have nonempty : trim text ≠ [] := by
    intro empty
    rw [empty, List.append_nil] at whole
    rcases visible with ⟨char, member, dark⟩
    rw [whole] at member
    have white : isWhitespace char = true := by
      rcases List.mem_append.mp member with early | late
      · exact whiteBefore char early
      · exact whiteAfter char (List.mem_reverse.mp late)
    rw [white] at dark
    cases dark
  refine ⟨before, trim text, after.reverse, whole, ⟨nonempty, ?_, ?_⟩, whiteBefore, ?_⟩
  · intro char first
    apply head
    rw [back]
    exact (List.head?_append_of_ne_nil _ nonempty).trans first
  · intro char final
    apply last
    rw [trim, List.getLast?_reverse] at final
    exact final
  · intro char member
    exact whiteAfter char (List.mem_reverse.mp member)

theorem trimmed_trim {text : Text}
    (visible : exists char, char ∈ text ∧ isWhitespace char = false) : Trimmed (trim text) := by
  rcases exists_trimmed visible with ⟨before, core, after, rfl, trimmed, white, whiteAfter⟩
  rw [trim_of_trimmed trimmed white whiteAfter]
  exact trimmed

/-- White space around a text that is not blank goes when the text is trimmed. -/
theorem trim_between {before text after : Text}
    (visible : exists char, char ∈ text ∧ isWhitespace char = false)
    (whiteBefore : forall char, char ∈ before -> isWhitespace char = true)
    (whiteAfter : forall char, char ∈ after -> isWhitespace char = true) :
    trim (before ++ text ++ after) = trim text := by
  rcases exists_trimmed visible with ⟨front, core, back, rfl, trimmed, whiteFront, whiteBack⟩
  have inner := trim_of_trimmed trimmed whiteFront whiteBack
  have outer := @trim_of_trimmed (before ++ front) core (back ++ after) trimmed
    (List.forall_mem_append.mpr ⟨whiteBefore, whiteFront⟩)
    (List.forall_mem_append.mpr ⟨whiteBack, whiteAfter⟩)
  simp only [List.append_assoc] at outer inner ⊢
  rw [inner, outer]

/-- A text that is not blank is left as it is by trimming and lowering only if there is
nothing to trim and nothing to lower. -/
theorem lower_trim_eq_self {text : Text}
    (visible : exists char, char ∈ text ∧ isWhitespace char = false) :
    lower (trim text) = text <-> Trimmed text ∧ lower text = text := by
  constructor
  · intro same
    rcases exists_trimmed visible with ⟨before, core, after, split, trimmed, white, whiteAfter⟩
    have inner : trim text = core := by
      rw [split]
      exact trim_of_trimmed trimmed white whiteAfter
    have lengths := congrArg List.length same
    rw [inner, lower, List.length_map] at lengths
    have whole := congrArg List.length split
    rw [List.length_append, List.length_append] at whole
    have front : before = [] := List.length_eq_zero_iff.mp (by omega)
    have back : after = [] := List.length_eq_zero_iff.mp (by omega)
    rw [front, back, List.nil_append, List.append_nil] at split
    rw [inner, ← split] at same
    exact ⟨split ▸ trimmed, same⟩
  · rintro ⟨trimmed, lowered⟩
    have kept := @Trimmed.trim_append text [] trimmed nofun
    rw [List.append_nil] at kept
    rw [kept, lowered]

/-- Text behind a trimmed one is kept up to its last visible character. -/
theorem exists_trim_append {before text : Text} (trimmed : Trimmed text)
    (white : forall char, char ∈ before -> isWhitespace char = true) (rest : Text) :
    exists kept, trim (before ++ (text ++ rest)) = text ++ kept := by
  by_cases visible : exists char, char ∈ rest ∧ isWhitespace char = false
  · rcases exists_trimmed visible with ⟨blank, core, after, rfl, dark, _, whiteAfter⟩
    refine ⟨blank ++ core, ?_⟩
    have longer : Trimmed (text ++ (blank ++ core)) := by
      refine trimmed_append trimmed.nonempty trimmed.head
        (List.append_ne_nil_of_right_ne_nil blank dark.nonempty) ?_
      intro char final
      rw [List.getLast?_append_of_ne_nil _ dark.nonempty] at final
      exact dark.last char final
    rw [← List.append_assoc text, ← List.append_assoc before]
    exact trim_of_trimmed longer white whiteAfter
  · refine ⟨[], ?_⟩
    rw [List.append_nil, ← List.append_assoc]
    apply trim_of_trimmed trimmed white
    intro char member
    cases dark : isWhitespace char with
    | true => rfl
    | false => exact absurd ⟨char, member, dark⟩ visible

end Text

end Foundations
end QuicMix
