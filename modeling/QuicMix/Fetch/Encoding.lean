import Mathlib.Data.List.TakeWhile
import QuicMix.Fetch.Chunked

namespace QuicMix
namespace Fetch

open Foundations

/-!
# Chunked encoding, undone

A server writes a body as chunks, each behind a line with its size and in front of
the end of a line, and closes it with a size of zero and whatever trailer it likes.
A size may be spelled in many ways.  The reader may be given all of the encoding or,
since a response is cut at a size limit or breaks off, any beginning of it.
-/

/-- An ASCII byte that is white space. -/
def blank (byte : UInt8) : Bool :=
  byte.toNat < 0x80 && Text.isWhitespace (Char.ofNat byte.toNat)

def digitByte (digit : Text.HexDigit) : UInt8 :=
  UInt8.ofNat digit.char.toNat

def sizeLine (before : List UInt8) (digits : List Text.HexDigit) (after : List UInt8)
    (extension : Option (List UInt8)) : List UInt8 :=
  before ++ digits.map digitByte ++ after ++ extension.elim [] (fun bytes => 59 :: bytes)

/-- A spelling of a size: digits between blanks, and an extension behind a
semicolon. -/
structure SizeLine (size : Nat) where
  before : List UInt8
  digits : List Text.HexDigit
  after : List UInt8
  extension : Option (List UInt8)
  blankBefore : forall byte, byte ∈ before -> blank byte = true
  blankAfter : forall byte, byte ∈ after -> blank byte = true
  nonempty : digits ≠ []
  number : Text.hexNumber digits = size
  unbroken : ¬ crlf <:+: sizeLine before digits after extension

namespace SizeLine

variable {size : Nat}

def bytes (line : SizeLine size) : List UInt8 :=
  sizeLine line.before line.digits line.after line.extension

theorem clear (line : SizeLine size) : ClearOf crlf line.bytes :=
  (clearOf_pair (by decide)).mpr line.unbroken

end SizeLine

structure Chunk where
  data : List UInt8
  nonempty : data ≠ []
  line : SizeLine data.length

def Chunk.bytes (chunk : Chunk) : List UInt8 :=
  chunk.line.bytes ++ crlf ++ (chunk.data ++ crlf)

/-- The body that a server writes. -/
def encoding (chunks : List Chunk) (last : SizeLine 0) (trailer : List UInt8) : List UInt8 :=
  chunks.flatMap Chunk.bytes ++ (last.bytes ++ crlf ++ trailer)

/-- What the body stands for. -/
def contents (chunks : List Chunk) : List UInt8 :=
  chunks.flatMap Chunk.data

/-! ## Sizes are read back -/

theorem blank_ascii {byte : UInt8} (white : blank byte = true) : byte.toNat < 0x80 :=
  of_decide_eq_true (Bool.and_eq_true_iff.mp white).1

theorem digitByte_toNat (digit : Text.HexDigit) : (digitByte digit).toNat = digit.char.toNat :=
  Text.toNat_ofNat_byte _ (Nat.lt_trans digit.read.2.2.1 (by decide))

theorem ascii_sizeLine {before after : List UInt8} {digits : List Text.HexDigit}
    (blankBefore : forall byte, byte ∈ before -> blank byte = true)
    (blankAfter : forall byte, byte ∈ after -> blank byte = true) :
    forall byte, byte ∈ before ++ digits.map digitByte ++ after -> byte.toNat < 0x80 := by
  intro byte member
  rcases List.mem_append.mp member with early | late
  · rcases List.mem_append.mp early with first | second
    · exact blank_ascii (blankBefore byte first)
    · rcases List.mem_map.mp second with ⟨digit, _, rfl⟩
      rw [digitByte_toNat]
      exact digit.read.2.2.1
  · exact blank_ascii (blankAfter byte late)

theorem ofAscii_digits (digits : List Text.HexDigit) :
    Text.ofAscii (digits.map digitByte) = digits.map Text.HexDigit.char := by
  rw [Text.ofAscii, List.map_map]
  apply List.map_congr_left
  intro digit _
  rw [Function.comp_apply, digitByte_toNat, Char.ofNat_toNat]

theorem white_ofAscii {bytes : List UInt8} (blanks : forall byte, byte ∈ bytes -> blank byte = true) :
    forall char, char ∈ Text.ofAscii bytes -> Text.isWhitespace char = true := by
  intro char member
  rcases List.mem_map.mp member with ⟨byte, listed, rfl⟩
  exact (Bool.and_eq_true_iff.mp (blanks byte listed)).2

theorem trimmed_digits {digits : List Text.HexDigit} (nonempty : digits ≠ []) :
    Text.Trimmed (digits.map Text.HexDigit.char) where
  nonempty := fun empty => nonempty (List.map_eq_nil_iff.mp empty)
  head := by
    intro char first
    rw [List.head?_map] at first
    rcases Option.map_eq_some_iff.mp first with ⟨digit, _, rfl⟩
    exact digit.read.2.1
  last := by
    intro char final
    rw [List.getLast?_map] at final
    rcases Option.map_eq_some_iff.mp final with ⟨digit, _, rfl⟩
    exact digit.read.2.1

/-- A line up to its extension. -/
theorem takeWhile_semicolon {text : Text} (absent : forall char, char ∈ text -> char ≠ ';')
    (rest : Text) : (text ++ ';' :: rest).takeWhile (· != ';') = text := by
  rw [List.takeWhile_append_of_pos]
  · exact List.append_nil text
  · intro char member
    exact bne_iff_ne.mpr (absent char member)

theorem digits_ne_semicolon (digits : List Text.HexDigit) :
    forall char, char ∈ digits.map Text.HexDigit.char -> char ≠ ';' := by
  intro char member
  rcases List.mem_map.mp member with ⟨digit, _, rfl⟩
  exact digit.read.2.2.2.1

theorem white_ne_semicolon {char : Char} (white : Text.isWhitespace char = true) : char ≠ ';' := by
  rintro rfl
  cases white

/-- What is left of a line when it is trimmed and cut at its extension. -/
theorem exists_size_text {before digits after : Text} {extension : Option Text}
    (trimmed : Text.Trimmed digits) (plain : forall char, char ∈ digits -> char ≠ ';')
    (whiteBefore : forall char, char ∈ before -> Text.isWhitespace char = true)
    (whiteAfter : forall char, char ∈ after -> Text.isWhitespace char = true) :
    exists blanks, (forall char, char ∈ blanks -> Text.isWhitespace char = true) ∧
      (Text.trim (before ++ (digits ++ after) ++
        extension.elim [] (fun text => ';' :: text))).takeWhile (· != ';') = digits ++ blanks := by
  cases extension with
  | none =>
      refine ⟨[], fun _ member => absurd member List.not_mem_nil, ?_⟩
      rw [Option.elim_none, List.append_nil, ← List.append_assoc,
        Text.trim_of_trimmed trimmed whiteBefore whiteAfter, List.append_nil]
      apply List.takeWhile_eq_self_iff.mpr
      intro char member
      exact bne_iff_ne.mpr (plain char member)
  | some text =>
      have longer : Text.Trimmed (digits ++ (after ++ [';'])) := by
        refine Text.trimmed_append trimmed.nonempty trimmed.head (List.concat_ne_nil _ _) ?_
        intro char final
        rw [List.getLast?_concat] at final
        cases final
        rfl
      rcases Text.exists_trim_append longer whiteBefore text with ⟨kept, found⟩
      refine ⟨after, whiteAfter, ?_⟩
      have line : before ++ (digits ++ after) ++ ';' :: text =
          before ++ (digits ++ (after ++ [';']) ++ text) := by
        simp only [List.append_assoc, List.cons_append, List.nil_append]
      have cut : digits ++ (after ++ [';']) ++ kept = (digits ++ after) ++ ';' :: kept := by
        simp only [List.append_assoc, List.cons_append, List.nil_append]
      rw [Option.elim_some, line, found, cut, takeWhile_semicolon]
      intro char member
      rcases List.mem_append.mp member with early | late
      · exact plain char early
      · exact white_ne_semicolon (whiteAfter char late)

/-- Every spelling is read as the size. -/
theorem SizeLine.read {size : Nat} (line : SizeLine size) (small : size < 2 ^ 64) :
    chunkSize line.bytes = size := by
  have ascii := @ascii_sizeLine _ _ line.digits line.blankBefore line.blankAfter
  have decoded : Text.decodeLossy line.bytes = Text.ofAscii line.before ++
      (line.digits.map Text.HexDigit.char ++ Text.ofAscii line.after) ++
        (line.extension.map Text.decodeLossy).elim [] (fun text => ';' :: text) := by
    rw [bytes, sizeLine, Text.decodeLossy_ascii ascii, Text.ofAscii, List.map_append,
      List.map_append, ← Text.ofAscii, ← Text.ofAscii, ← Text.ofAscii, ofAscii_digits,
      List.append_assoc (Text.ofAscii line.before)]
    apply congrArg
    cases line.extension with
    | none => rfl
    | some bytes => exact Text.decodeLossy_cons (by decide) bytes
  rcases @exists_size_text _ _ _ (line.extension.map Text.decodeLossy)
    (trimmed_digits line.nonempty) (digits_ne_semicolon line.digits)
    (white_ofAscii line.blankBefore) (white_ofAscii line.blankAfter) with ⟨blanks, white, text⟩
  have number : Text.hexNumber line.digits < 2 ^ 64 := by rwa [line.number]
  rw [chunkSize, decoded, text, (trimmed_digits line.nonempty).trim_append white,
    Text.parseHex_digits line.nonempty number, line.number]
  rfl

/-! ## Bodies are read back -/

theorem encoding_nil (last : SizeLine 0) (trailer : List UInt8) :
    encoding [] last trailer = last.bytes ++ crlf ++ trailer := rfl

theorem encoding_cons (chunk : Chunk) (chunks : List Chunk) (last : SizeLine 0)
    (trailer : List UInt8) :
    encoding (chunk :: chunks) last trailer =
      chunk.line.bytes ++ crlf ++ (chunk.data ++ crlf ++ encoding chunks last trailer) := by
  simp only [encoding, List.flatMap_cons, Chunk.bytes, List.append_assoc]

section Reading

variable {profile : Profile} {body : Buffer UInt8}

/-- The loop over what is left of a beginning of an encoding.  The induction is on the
chunks; the cut is inside the line, inside the data and the end of line behind it, or in
what follows. -/
theorem dechunkFrom_encoding {chunks : List Chunk} {last : SizeLine 0} {trailer : List UInt8}
    {fuel : Nat} {before part : List UInt8} (split : body.items = before ++ part)
    (cut : part <+: encoding chunks last trailer)
    (small : before.length + (encoding chunks last trailer).length < 2 ^ 63)
    (enough : part.length < fuel) (out : List UInt8) :
    exists data, dechunkFrom profile body fuel before.length out = some (.ok (out ++ data)) ∧
      data <+: contents chunks ∧
      (part = encoding chunks last trailer -> data = contents chunks) := by
  induction chunks generalizing fuel before part out with
  | nil =>
      rw [encoding_nil] at cut
      refine ⟨[], ?_, List.nil_prefix, fun _ => rfl⟩
      rw [List.append_nil]
      cases fuel with
      | zero => exact absurd enough (Nat.not_lt_zero _)
      | succ fuel =>
          rcases prefix_append_cases cut with ⟨short, _⟩ | ⟨rest, rfl, _⟩
          · exact dechunkFrom_unended split (last.clear.not_infix crlf_ne_nil short) out
          · have length := length_line split
            have zero := last.read (Nat.two_pow_pos 64)
            exact dechunkFrom_stopped (by omega) (dechunkRound_zero split last.clear zero) out
  | cons chunk chunks inductionHypothesis =>
      rw [encoding_cons] at cut small ⊢
      have lineEnd : crlf.length = 2 := rfl
      simp only [List.length_append, lineEnd] at small
      have size := chunk.line.read (by omega)
      have positive : chunkSize chunk.line.bytes ≠ 0 := by
        rw [size]
        exact (List.length_pos_iff.mpr chunk.nonempty).ne'
      cases fuel with
      | zero => exact absurd enough (Nat.not_lt_zero _)
      | succ fuel =>
          rcases prefix_append_cases cut with ⟨short, less⟩ | ⟨rest, rfl, cutRest⟩
          · refine ⟨[], ?_, List.nil_prefix, ?_⟩
            · rw [List.append_nil]
              exact dechunkFrom_unended split (chunk.line.clear.not_infix crlf_ne_nil short) out
            · intro whole
              rw [whole] at less
              exact absurd (List.prefix_append _ _).length_le (Nat.not_le.mpr less)
          · rcases prefix_append_cases cutRest with ⟨_, less⟩ | ⟨later, rfl, cutLater⟩
            · refine ⟨rest.take chunk.data.length, ?_, ?_, ?_⟩
              · cases fuel with
                | zero => simp only [List.length_append, lineEnd] at enough; omega
                | succ fuel =>
                    rw [List.length_append, lineEnd, ← size] at less
                    have cutShort := @dechunkFrom_cut profile body fuel _ _ _ split chunk.line.clear
                      positive (by omega) less out
                    rwa [size] at cutShort
              · have taken := cutRest.take chunk.data.length
                rw [List.append_assoc, List.take_left] at taken
                exact taken.trans (List.prefix_append _ _)
              · intro whole
                rw [List.append_cancel_left whole] at less
                exact absurd (List.prefix_append _ _).length_le (Nat.not_le.mpr less)
            · have resplit : body.items = before ++
                  (chunk.line.bytes ++ crlf ++ (chunk.data ++ crlf)) ++ later := by
                simp only [split, List.append_assoc]
              have consumed := length_chunk before chunk.line.bytes
                (rfl : chunk.data.length = _) lineEnd
              have room : later.length < fuel := by
                simp only [List.length_append, lineEnd] at enough
                omega
              rcases inductionHypothesis resplit cutLater (by omega) room (out ++ chunk.data) with
                ⟨data, returned, part, whole⟩
              refine ⟨chunk.data ++ data, ?_, ?_, ?_⟩
              · rw [dechunkFrom_chunk split chunk.line.clear size.symm chunk.nonempty lineEnd
                  (by omega), returned, List.append_assoc]
              · exact (List.prefix_append_right_inj chunk.data).mpr part
              · intro all
                rw [whole (List.append_cancel_left (List.append_cancel_left all))]
                rfl

end Reading

/-- Chunked encoding.  From any beginning of the encoding of a body a beginning of the
body is read, and from all of it the body. -/
theorem dechunk_encoding (profile : Profile) (chunks : List Chunk) (last : SizeLine 0)
    (trailer : List UInt8) (small : (encoding chunks last trailer).length < 2 ^ 63) :
    dechunk profile ⟨encoding chunks last trailer, small⟩ = some (.ok (contents chunks)) ∧
    forall body : Buffer UInt8, body.items <+: encoding chunks last trailer ->
      exists data, dechunk profile body = some (.ok data) ∧ data <+: contents chunks := by
  have read : forall body : Buffer UInt8, body.items <+: encoding chunks last trailer ->
      exists data, dechunk profile body = some (.ok data) ∧ data <+: contents chunks ∧
        (body.items = encoding chunks last trailer -> data = contents chunks) := by
    intro body cut
    exact @dechunkFrom_encoding profile body chunks last trailer _ [] body.items rfl cut
      (by rwa [List.length_nil, Nat.zero_add]) (Nat.lt_succ_self _) []
  constructor
  · rcases read ⟨encoding chunks last trailer, small⟩ (List.prefix_refl _) with
      ⟨data, returned, _, whole⟩
    rw [returned, whole rfl]
  · intro body cut
    rcases read body cut with ⟨data, returned, part, _⟩
    exact ⟨data, returned, part⟩

/-- The chunk `\r\n5`, spelled with a blank and a leading zero, and its end. -/
def sampleChunk : Chunk :=
  ⟨[13, 10, 53], by decide,
    ⟨[32], [⟨0, false⟩, ⟨3, true⟩], [], some [65], List.all_eq_true.mp rfl, nofun, by decide,
      by decide, by decide⟩⟩

def sampleEnd : SizeLine 0 :=
  ⟨[], [⟨0, false⟩], [9], none, nofun, List.all_eq_true.mp rfl, by decide, by decide, by decide⟩

theorem dechunk_sampleChunk :
    dechunk .debug ⟨encoding [sampleChunk] sampleEnd [88], by decide⟩ =
        some (.ok [13, 10, 53]) ∧
      exists data, dechunk .debug ⟨(encoding [sampleChunk] sampleEnd [88]).take 9, by decide⟩ =
        some (.ok data) ∧ data <+: [13, 10, 53] :=
  have read := dechunk_encoding .debug [sampleChunk] sampleEnd [88] (by decide)
  ⟨read.1, read.2 _ (List.take_prefix 9 _)⟩

end Fetch
end QuicMix
