import QuicMix.Gateway.Addresses
import Mathlib.Data.List.Induction

namespace QuicMix
namespace Gateway

open Foundations
open Text

/-!
# Addresses are read back

Every socket address is read back from its text, but for the flow label, which is
not written.  For IPv6 this has to follow the writer through its three forms: an
address that embeds an IPv4 address, one whose longest run of zero groups is left
out, and one in full.  In each of them the reader has to stop where the writer did:
behind the groups at the front it finds a second colon or an end, and what could
begin an IPv4 address is not one.
-/

/-! ## Hexadecimal groups -/

theorem digitIn_digitChar {radix digit : Nat} (small : digit < radix) (most : radix <= 16) :
    digitIn radix (Nat.digitChar digit) = some digit := by
  have known : forall digit, digit < 16 -> hexDigit (Nat.digitChar digit) = some digit := by decide
  rw [digitIn, known digit (Nat.lt_of_lt_of_le small most), Option.filter_some]
  rw [decide_eq_true small]
  rfl

/-- The spelling of a number in any radix up to sixteen consists of digits and is
read as the number. -/
theorem toDigits_read {radix : Nat} (least : 1 < radix) (most : radix <= 16) (number : Nat) :
    (forall char, char ∈ Nat.toDigits radix number -> isDigitIn radix char = true) ∧
      numeralFrom radix 0 (Nat.toDigits radix number) = number := by
  induction number using Nat.strongRecOn with
  | ind number inductionHypothesis =>
      by_cases small : number < radix
      · have digit := digitIn_digitChar small most
        rw [Nat.toDigits_of_lt_base small]
        constructor
        · intro char member
          rw [List.mem_singleton.mp member, isDigitIn, digit]
          rfl
        · simp only [numeralFrom, List.foldl_cons, List.foldl_nil, digit, Nat.zero_mul,
            Nat.zero_add, Option.getD_some]
      · have large : radix <= number := Nat.le_of_not_lt small
        have positive : 0 < radix := Nat.lt_of_succ_lt least
        have less : number / radix < number :=
          Nat.div_lt_self (Nat.lt_of_lt_of_le positive large) least
        have digit := digitIn_digitChar (Nat.mod_lt number positive) most
        rcases inductionHypothesis (number / radix) less with ⟨all, value⟩
        rw [Nat.toDigits_of_base_le least large]
        constructor
        · intro char member
          rcases List.mem_append.mp member with front | last
          · exact all char front
          · rw [List.mem_singleton.mp last, isDigitIn, digit]
            rfl
        · rw [numeralFrom] at value ⊢
          rw [List.foldl_append, value, List.foldl_cons, List.foldl_nil, digit, Option.getD_some,
            Nat.mul_comm, Nat.div_add_mod]

theorem readNumber_group {group : Nat} (small : group < 2 ^ 16) {rest : Text}
    (ends : Ends 16 rest) :
    readNumber groupBounds (Nat.toDigits 16 group ++ rest) = some (group, rest) := by
  rcases @toDigits_read 16 (by decide) (by decide) group with ⟨all, value⟩
  refine readNumber_eq_some.mpr ⟨Nat.toDigits 16 group, ?_, rfl, ends⟩
  refine ⟨Nat.toDigits_ne_nil, all, ?_, nofun, small, value⟩
  intro most same
  cases same
  exact (Nat.length_toDigits_le_iff (by decide) (by decide)).mpr small

/-! ## Where groups end -/

/-- No group, and no address in place of one, continues in front of the text. -/
structure Halts (rest : Text) : Prop where
  ends : Ends 16 rest
  dot : rest.head? ≠ some '.'
  group : readSeparator ':' false (readNumber groupBounds) rest = none
  embedded : readSeparator ':' false readIpv4Addr rest = none

/-- Without a digit in front there is no number. -/
theorem readNumber_none {bounds : NumberBounds} {rest : Text} (ends : Ends bounds.radix rest) :
    readNumber bounds rest = none := by
  have empty : rest.takeWhile (isDigitIn bounds.radix) = [] := by
    cases rest with
    | nil => rfl
    | cons char rest =>
        apply List.takeWhile_cons_of_neg
        rw [ends char rfl]
        exact Bool.false_ne_true
  rw [readNumber, empty]
  rfl

/-- Decimal digits are hexadecimal ones. -/
theorem isDigitIn_sixteen {char : Char} (decimal : isDigitIn 10 char = true) :
    isDigitIn 16 char = true := by
  rw [isDigitIn, digitIn] at decimal ⊢
  rcases Option.isSome_iff_exists.mp decimal with ⟨value, found⟩
  rcases Option.filter_eq_some_iff.mp found with ⟨read, less⟩
  rw [read, Option.filter_some]
  rw [decide_eq_true (Nat.lt_trans (of_decide_eq_true less) (by decide : 10 < 16))]
  rfl

theorem Ends.decimal {rest : Text} (ends : Ends 16 rest) : Ends 10 rest := by
  intro char begins
  cases digit : isDigitIn 10 char with
  | false => rfl
  | true =>
      exact absurd (isDigitIn_sixteen digit) (by rw [ends char begins]; exact Bool.false_ne_true)

theorem readIpv4Addr_none {rest : Text} (ends : Ends 10 rest) : readIpv4Addr rest = none := by
  have first : readOctet true rest = none := by
    rw [readOctet, readSeparator, if_pos rfl, @readNumber_none octetBounds rest ends]
    rfl
  rw [readIpv4Addr, first]
  rfl

/-- A group that is not followed by a dot begins no IPv4 address. -/
theorem readIpv4Addr_group (group : Nat) {rest : Text} (ends : Ends 16 rest)
    (dot : rest.head? ≠ some '.') : readIpv4Addr (Nat.toDigits 16 group ++ rest) = none := by
  cases read : readIpv4Addr (Nat.toDigits 16 group ++ rest) with
  | none => rfl
  | some result =>
      rcases result with ⟨octets, behind⟩
      have same := (readIpv4Addr_eq_some.mp read).1
      have split : octets.text ++ behind = Nat.toDigits 10 octets.first.toNat ++
          '.' :: (Nat.toDigits 10 octets.second.toNat ++ '.' ::
            (Nat.toDigits 10 octets.third.toNat ++ '.' ::
              (Nat.toDigits 10 octets.fourth.toNat ++ behind))) := by
        simp only [Octets.text, Ipv4Addr.text, List.append_assoc, List.cons_append]
      rw [split] at same
      -- the hexadecimal digits at the front end at the same place
      have left := takeWhile_digits (toDigits_read (by decide) (by decide) group).1 ends
      have right := @takeWhile_digits 16 (Nat.toDigits 10 octets.first.toNat) _
        (fun char member => isDigitIn_sixteen (isDigitIn_toDigits member))
        (@ends_cons 16 '.' (by decide) (Nat.toDigits 10 octets.second.toNat ++ '.' ::
          (Nat.toDigits 10 octets.third.toNat ++ '.' ::
            (Nat.toDigits 10 octets.fourth.toNat ++ behind))))
      rw [same] at left
      have behindDigits := left.2.symm.trans right.2
      rw [behindDigits] at dot
      exact absurd rfl dot

theorem halts_mark {mark : Char} (ends : EndMark mark) (rest : Text) : Halts (mark :: rest) where
  ends := ends_cons ends.hexadecimal rest
  dot := by
    intro same
    exact ends.dot (Option.some.inj same).symm
  group := by
    rw [separator_eq, readGivenChar, if_neg ends.colon.symm]
    rfl
  embedded := by
    rw [separator_eq, readGivenChar, if_neg ends.colon.symm]
    rfl

theorem halts_doubleColon (rest : Text) : Halts (':' :: ':' :: rest) := by
  have hexadecimal : Ends 16 (':' :: rest) := ends_cons (by decide) rest
  refine ⟨ends_cons (by decide) _, ?_, ?_, ?_⟩
  · intro same
    exact absurd (Option.some.inj same) (by decide)
  · rw [separator_eq, readGivenChar, if_pos rfl]
    exact @readNumber_none groupBounds _ hexadecimal
  · rw [separator_eq, readGivenChar, if_pos rfl]
    exact readIpv4Addr_none (Ends.decimal hexadecimal)

/-! ## Groups are read back -/

/-- Groups with a colon in front of each. -/
def laterGroups (groups : List Nat) : Text :=
  groups.flatMap (fun group => ':' :: Nat.toDigits 16 group)

theorem fmtSubslice_cons (group : Nat) (groups : List Nat) :
    fmtSubslice (group :: groups) = Nat.toDigits 16 group ++ laterGroups groups := by
  induction groups generalizing group with
  | nil => exact (List.append_nil _).symm
  | cons next groups inductionHypothesis =>
      rw [fmtSubslice, inductionHypothesis next, laterGroups, laterGroups, List.flatMap_cons,
        List.cons_append]
      exact nofun

/-- Every group fits. -/
def Fits (groups : List Nat) : Prop :=
  forall group, group ∈ groups -> group < 2 ^ 16

theorem laterGroups_ends (groups : List Nat) {rest : Text} (halts : Halts rest) :
    Ends 16 (laterGroups groups ++ rest) ∧ (laterGroups groups ++ rest).head? ≠ some '.' := by
  cases groups with
  | nil => exact ⟨halts.ends, halts.dot⟩
  | cons group groups => exact ⟨ends_cons (by decide) _, by simp [laterGroups]⟩

theorem readGroups_later {groups : List Nat} (fits : Fits groups) {left : Nat}
    (room : groups.length <= left) {rest : Text} (halts : Halts rest) :
    readGroups left false (laterGroups groups ++ rest) = (groups, false, rest) := by
  induction groups generalizing left with
  | nil =>
      cases left with
      | zero => rfl
      | succ left =>
          have none : (if 0 < left then readSeparator ':' false readIpv4Addr rest else none) =
              none := by
            split
            · exact halts.embedded
            · rfl
          change readGroups (left + 1) false rest = _
          rw [readGroups, none, halts.group]
  | cons group groups inductionHypothesis =>
      cases left with
      | zero => cases room
      | succ left =>
          have small := fits group List.mem_cons_self
          rcases laterGroups_ends groups halts with ⟨ends, dot⟩
          have text : laterGroups (group :: groups) ++ rest =
              ':' :: (Nat.toDigits 16 group ++ (laterGroups groups ++ rest)) := by
            rw [laterGroups, List.flatMap_cons, ← laterGroups]
            simp only [List.cons_append, List.append_assoc]
          have embedded : readSeparator ':' false readIpv4Addr
              (':' :: (Nat.toDigits 16 group ++ (laterGroups groups ++ rest))) = none := by
            rw [separator_eq, readGivenChar, if_pos rfl]
            exact readIpv4Addr_group group ends dot
          have read : readSeparator ':' false (readNumber groupBounds)
              (':' :: (Nat.toDigits 16 group ++ (laterGroups groups ++ rest))) =
              some (group, laterGroups groups ++ rest) := by
            rw [separator_eq, readGivenChar, if_pos rfl]
            exact readNumber_group small ends
          have later := inductionHypothesis
            (fun other member => fits other (List.mem_cons_of_mem group member))
            (Nat.le_of_succ_le_succ room)
          rw [text, readGroups, embedded, ite_self, read]
          simp only [later]

/-- The groups at the front of a text, or behind `::`, are read as they were
written. -/
theorem readGroups_fmt {groups : List Nat} (fits : Fits groups) {left : Nat}
    (room : groups.length <= left) {rest : Text} (halts : Halts rest) :
    readGroups left true (fmtSubslice groups ++ rest) = (groups, false, rest) := by
  cases groups with
  | nil =>
      cases left with
      | zero => rfl
      | succ left =>
          have embedded : readSeparator ':' true readIpv4Addr rest = none := by
            rw [readSeparator, if_pos rfl, readIpv4Addr_none (Ends.decimal halts.ends)]
          have group : readSeparator ':' true (readNumber groupBounds) rest = none := by
            rw [readSeparator, if_pos rfl, @readNumber_none groupBounds rest halts.ends]
          change readGroups (left + 1) true rest = _
          rw [readGroups, embedded, ite_self, group]
  | cons group groups =>
      cases left with
      | zero => cases room
      | succ left =>
          have small := fits group List.mem_cons_self
          rcases laterGroups_ends groups halts with ⟨ends, dot⟩
          have embedded : readSeparator ':' true readIpv4Addr
              (Nat.toDigits 16 group ++ (laterGroups groups ++ rest)) = none := by
            rw [readSeparator, if_pos rfl, readIpv4Addr_group group ends dot]
          have read : readSeparator ':' true (readNumber groupBounds)
              (Nat.toDigits 16 group ++ (laterGroups groups ++ rest)) =
              some (group, laterGroups groups ++ rest) := by
            rw [readSeparator, if_pos rfl, readNumber_group small ends]
          have later := readGroups_later
            (fun other member => fits other (List.mem_cons_of_mem group member))
            (Nat.le_of_succ_le_succ room) halts
          rw [fmtSubslice_cons, List.append_assoc, readGroups, embedded, ite_self, read]
          simp only [later]

/-! ## The longest run of zeros -/

/-- Both runs of the search behind the segments. -/
def spans (segments : List Nat) : Span × Span :=
  segments.zipIdx.foldl (fun spans entry => Span.next spans.1 spans.2 entry.2 entry.1)
    (⟨0, 0⟩, ⟨0, 0⟩)

theorem spans_append (segments : List Nat) (segment : Nat) :
    spans (segments ++ [segment]) =
      Span.next (spans segments).1 (spans segments).2 segments.length segment := by
  rw [spans, List.zipIdx_append, List.foldl_append, ← spans]
  simp only [List.zipIdx_singleton, List.foldl_cons, List.foldl_nil, Nat.zero_add]

/-- The span is a run of zeros with the rest of the segments around it. -/
def Span.Within (span : Span) (segments front back : List Nat) : Prop :=
  segments = front ++ List.replicate span.len 0 ++ back ∧
    (span.len ≠ 0 -> front.length = span.start)

theorem Span.Within.append {span : Span} {segments front back : List Nat}
    (within : span.Within segments front back) (segment : Nat) :
    span.Within (segments ++ [segment]) front (back ++ [segment]) := by
  refine ⟨?_, within.2⟩
  rw [within.1]
  simp only [List.append_assoc]

/-- A run at the end is one longer behind a further zero. -/
theorem Span.Within.grow {span : Span} {segments front : List Nat}
    (within : span.Within segments front []) :
    Span.Within ⟨if span.len = 0 then segments.length else span.start, span.len + 1⟩
      (segments ++ [0]) front [] := by
  rcases within with ⟨same, starts⟩
  rw [List.append_nil] at same
  constructor
  · rw [same, List.append_nil, List.append_assoc, List.replicate_succ']
  · intro _
    by_cases empty : span.len = 0
    · rw [empty, List.replicate_zero, List.append_nil] at same
      rw [if_pos empty, same]
    · rw [if_neg empty]
      exact starts empty

/-- The longest run lies within the segments, and the current one at their end. -/
theorem spans_within (segments : List Nat) :
    (exists front back, (spans segments).1.Within segments front back) ∧
      exists front, (spans segments).2.Within segments front [] := by
  induction segments using List.reverseRecOn with
  | nil =>
      exact ⟨⟨[], [], rfl, fun filled => absurd rfl filled⟩, [], rfl,
        fun filled => absurd rfl filled⟩
  | append_singleton segments segment inductionHypothesis =>
      rcases inductionHypothesis with ⟨⟨front, back, longest⟩, before, current⟩
      rw [spans_append, Span.next]
      by_cases zero : segment = 0
      · subst zero
        rw [if_pos rfl]
        refine ⟨?_, before, current.grow⟩
        dsimp only
        split
        · exact ⟨before, [], current.grow⟩
        · exact ⟨front, back ++ [0], longest.append 0⟩
      · rw [if_neg zero]
        refine ⟨⟨front, back ++ [segment], longest.append segment⟩, segments ++ [segment], ?_⟩
        exact ⟨by simp only [List.replicate_zero, List.append_nil], fun filled => absurd rfl filled⟩

theorem zeroes_within {segments : List Nat} (filled : 1 < (zeroes segments).len) :
    segments = segments.take (zeroes segments).start ++ List.replicate (zeroes segments).len 0 ++
      segments.drop ((zeroes segments).start + (zeroes segments).len) := by
  rcases (spans_within segments).1 with ⟨front, back, same, starts⟩
  change segments = front ++ List.replicate (zeroes segments).len 0 ++ back at same
  change (zeroes segments).len ≠ 0 -> front.length = (zeroes segments).start at starts
  have start := starts (Nat.ne_of_gt (Nat.lt_trans Nat.zero_lt_one filled))
  generalize zeroes segments = span at same start
  have ended : (front ++ List.replicate span.len 0).length = span.start + span.len := by
    rw [List.length_append, List.length_replicate, start]
  have taken : segments.take span.start = front := by
    rw [same, List.append_assoc]
    exact List.take_left' start
  have dropped : segments.drop (span.start + span.len) = back := by
    rw [same]
    exact List.drop_left' ended
  rw [taken, dropped]
  exact same

/-! ## Groups and bits -/

theorem extract_toNat (bits : BitVec 128) (offset width : Nat) :
    (bits.extractLsb' offset width).toNat = bits.toNat / 2 ^ offset % 2 ^ width := by
  rw [BitVec.extractLsb'_toNat, Nat.shiftRight_eq_div_pow]

theorem segments_length (bits : BitVec 128) : (segments bits).length = 8 := by
  rw [segments, List.length_map]
  rfl

theorem segments_fit (bits : BitVec 128) : Fits (segments bits) := by
  intro group member
  rcases List.mem_map.mp member with ⟨offset, _, rfl⟩
  exact (bits.extractLsb' offset 16).isLt

theorem ofGroups_segments (bits : BitVec 128) : ofGroups (segments bits) = bits := by
  have bound := bits.isLt
  apply BitVec.eq_of_toNat_eq
  simp only [ofGroups, segments, List.map_cons, List.map_nil, List.foldl_cons, List.foldl_nil,
    extract_toNat, BitVec.toNat_ofNat]
  omega

/-- An embedded IPv4 address stands for the groups at the back. -/
theorem ofGroups_mapped {bits : BitVec 128} (mapped : bits.extractLsb' 32 96 = 0xffff) :
    ofGroups (List.replicate 5 0 ++ 0xffff :: Octets.groups ⟨bits.extractLsb' 24 8,
      bits.extractLsb' 16 8, bits.extractLsb' 8 8, bits.extractLsb' 0 8⟩) = bits := by
  have bound := bits.isLt
  have upper := congrArg BitVec.toNat mapped
  rw [extract_toNat] at upper
  apply BitVec.eq_of_toNat_eq
  simp only [ofGroups, Octets.groups, List.replicate, List.cons_append, List.nil_append,
    List.foldl_cons, List.foldl_nil, extract_toNat, BitVec.toNat_ofNat]
  change bits.toNat / 2 ^ 32 % 2 ^ 96 = 65535 at upper
  omega

/-! ## Addresses are read back -/

theorem readIpv6Groups_of {groups : List Nat} {text rest : Text} {head : List Nat}
    {embedded : Bool} {behind : Text} (front : readGroups 8 true text = (head, embedded, behind))
    (back : readTail (head, embedded) behind = some (groups, rest)) :
    readIpv6Groups text = some (groups, rest) := by
  rw [readIpv6Groups, groupsReader, front]
  exact back

/-- Eight groups in full. -/
theorem readIpv6Groups_full {groups : List Nat} (fits : Fits groups) (eight : groups.length = 8)
    {rest : Text} (halts : Halts rest) :
    readIpv6Groups (fmtSubslice groups ++ rest) = some (groups, rest) := by
  refine readIpv6Groups_of (readGroups_fmt fits (Nat.le_of_eq eight) halts) ?_
  rw [readTail, if_pos eight]

/-- What stands behind `::`, read into the groups that are left. -/
theorem readTail_doubleColon {front back : List Nat} (room : front.length < 8) {embedded : Bool}
    {text rest : Text} (read : readGroups (8 - (front.length + 1)) true text =
      (back, embedded, rest)) :
    readTail (front, false) (':' :: ':' :: text) =
      some (front ++ List.replicate (8 - front.length - back.length) 0 ++ back, rest) := by
  have colons : readDoubleColon (':' :: ':' :: text) = some ((), text) := rfl
  rw [readTail, if_neg (Nat.ne_of_lt room), if_neg Bool.false_ne_true, colons, Option.bind_some,
    groupsReader, read]
  rfl

/-- Two groups or more left out. -/
theorem readIpv6Groups_compressed {front back : List Nat} {zeros : Nat}
    (fits : Fits (front ++ List.replicate zeros 0 ++ back))
    (eight : (front ++ List.replicate zeros 0 ++ back).length = 8) (several : 1 < zeros)
    {rest : Text} (halts : Halts rest) :
    readIpv6Groups (fmtSubslice front ++ ':' :: ':' :: fmtSubslice back ++ rest) =
      some (front ++ List.replicate zeros 0 ++ back, rest) := by
  rw [List.length_append, List.length_append, List.length_replicate] at eight
  have fitsFront : Fits front := fun group member =>
    fits group (List.mem_append_left back (List.mem_append_left _ member))
  have fitsBack : Fits back := fun group member => fits group (List.mem_append_right _ member)
  have zerosLeft : 8 - front.length - back.length = zeros := by omega
  rw [List.append_assoc, List.cons_append, List.cons_append]
  refine readIpv6Groups_of (readGroups_fmt fitsFront (by omega) (halts_doubleColon _)) ?_
  rw [readTail_doubleColon (by omega) (readGroups_fmt fitsBack (by omega) halts), zerosLeft]

/-- An IPv4 address behind `::ffff:`. -/
theorem readIpv6Groups_mapped (octets : Octets) {rest : Text} (halts : Halts rest) :
    readIpv6Groups (':' :: ':' :: 'f' :: 'f' :: 'f' :: 'f' :: ':' :: octets.text ++ rest) =
      some (List.replicate 5 0 ++ 0xffff :: octets.groups, rest) := by
  have written : Nat.toDigits 16 0xffff = ['f', 'f', 'f', 'f'] := by decide
  have text : 'f' :: 'f' :: 'f' :: 'f' :: ':' :: octets.text ++ rest =
      Nat.toDigits 16 0xffff ++ ':' :: (octets.text ++ rest) := by
    rw [written]
    rfl
  have colon : Ends 16 (':' :: (octets.text ++ rest)) := ends_cons (by decide) _
  have noDot : (':' :: (octets.text ++ rest)).head? ≠ some '.' := by
    intro same
    exact absurd (Option.some.inj same) (by decide)
  have noIpv4 : readSeparator ':' true readIpv4Addr
      (Nat.toDigits 16 0xffff ++ ':' :: (octets.text ++ rest)) = none := by
    rw [readSeparator, if_pos rfl, readIpv4Addr_group 0xffff colon noDot]
  have group : readSeparator ':' true (readNumber groupBounds)
      (Nat.toDigits 16 0xffff ++ ':' :: (octets.text ++ rest)) =
      some (0xffff, ':' :: (octets.text ++ rest)) := by
    rw [readSeparator, if_pos rfl, readNumber_group (by decide) colon]
  have ipv4 : readSeparator ':' false readIpv4Addr (':' :: (octets.text ++ rest)) =
      some (octets, rest) := by
    rw [separator_eq, readGivenChar, if_pos rfl]
    exact readIpv4Addr_eq_some.mpr ⟨rfl, Ends.decimal halts.ends⟩
  have back : readGroups 7 true (Nat.toDigits 16 0xffff ++ ':' :: (octets.text ++ rest)) =
      (0xffff :: octets.groups, true, rest) := by
    rw [readGroups, noIpv4, ite_self, group]
    dsimp only
    rw [readGroups, if_pos (by decide), ipv4]
  refine readIpv6Groups_of (@readGroups_fmt [] (List.forall_mem_nil _) 8 (Nat.zero_le 8) _
    (halts_doubleColon _)) ?_
  change readTail ([], false)
    (':' :: ':' :: ('f' :: 'f' :: 'f' :: 'f' :: ':' :: octets.text ++ rest)) = _
  rw [text]
  exact @readTail_doubleColon [] (0xffff :: octets.groups) (by decide) true _ rest back

/-- The text of an IPv6 address is read as the address, wherever it ends. -/
theorem readIpv6Groups_text (bits : BitVec 128) {rest : Text} (halts : Halts rest) :
    exists groups, readIpv6Groups (Ipv6Addr.text bits ++ rest) = some (groups, rest) ∧
      ofGroups groups = bits := by
  by_cases mapped : bits.extractLsb' 32 96 = 0xffff
  · rw [Ipv6Addr.text, if_pos mapped]
    exact ⟨_, readIpv6Groups_mapped ⟨_, _, _, _⟩ halts, ofGroups_mapped mapped⟩
  · refine ⟨segments bits, ?_, ofGroups_segments bits⟩
    have fits := segments_fit bits
    have eight := segments_length bits
    rw [Ipv6Addr.text, if_neg mapped]
    split
    case isTrue several =>
        have within := zeroes_within several
        rw [within] at fits eight
        have read := readIpv6Groups_compressed fits eight several halts
        rw [← within] at read
        exact read
    case isFalse => exact readIpv6Groups_full fits eight halts

/-- A number in decimal is read back in front of what is no digit. -/
theorem readNumber_decimal {bounds : NumberBounds} (decimal : bounds.radix = 10)
    (unlimited : bounds.maxDigits = none) {number : Nat} (small : number < bounds.limit)
    {rest : Text} (ends : Ends 10 rest) :
    readNumber bounds (Nat.toDigits 10 number ++ rest) = some (number, rest) := by
  refine readNumber_eq_some.mpr ⟨Nat.toDigits 10 number, ?_, rfl, decimal ▸ ends⟩
  refine numeral_toDigits decimal ?_ small
  intro most same
  rw [unlimited] at same
  cases same

theorem readPort_text (port : BitVec 16) {rest : Text} (ends : Ends 10 rest) :
    readPort (':' :: (Nat.toDigits 10 port.toNat ++ rest)) = some (port, rest) := by
  rw [readPort, readGivenChar, if_pos rfl, Option.bind_some,
    @readNumber_decimal portBounds rfl rfl _ port.isLt rest ends, Option.map_some,
    BitVec.ofNat_toNat, BitVec.setWidth_eq]

theorem readScopeId_text (scopeId : BitVec 32) {rest : Text} (ends : Ends 10 rest) :
    readScopeId ('%' :: (Nat.toDigits 10 scopeId.toNat ++ rest)) = some (scopeId, rest) := by
  rw [readScopeId, readGivenChar, if_pos rfl, Option.bind_some,
    @readNumber_decimal scopeBounds rfl rfl _ scopeId.isLt rest ends, Option.map_some,
    BitVec.ofNat_toNat, BitVec.setWidth_eq]

/-- A socket address without its flow label. -/
def SocketAddr.unlabelled : SocketAddr -> SocketAddr
  | .v4 first second third fourth port => .v4 first second third fourth port
  | .v6 bits port _ scopeId => .v6 bits port 0 scopeId

theorem readSocketAddrV4_text (first second third fourth : BitVec 8) (port : BitVec 16)
    {rest : Text} (ends : Ends 10 rest) :
    readSocketAddrV4 ((SocketAddr.v4 first second third fourth port).text ++ rest) =
      some (.v4 first second third fourth port, rest) := by
  have colon : Ends 10 (':' :: (Nat.toDigits 10 port.toNat ++ rest)) :=
    ends_cons (by decide) _
  have address : readIpv4Addr (Ipv4Addr.text first second third fourth ++
      ':' :: (Nat.toDigits 10 port.toNat ++ rest)) = some (⟨first, second, third, fourth⟩, _) :=
    readIpv4Addr_eq_some.mpr ⟨rfl, colon⟩
  rw [SocketAddr.text, List.append_assoc, List.cons_append, readSocketAddrV4, address]
  simp only [Option.bind_eq_bind, Option.bind_some, readPort_text port ends]
  rfl

/-- The scope behind an address in brackets, which is not written if it is zero. -/
def scopeText (scopeId : BitVec 32) : Text :=
  if scopeId = 0 then [] else '%' :: Nat.toDigits 10 scopeId.toNat

theorem text_v6 (bits : BitVec 128) (port : BitVec 16) (flowinfo scopeId : BitVec 32) :
    (SocketAddr.v6 bits port flowinfo scopeId).text =
      '[' :: (Ipv6Addr.text bits ++ (scopeText scopeId ++
        (']' :: ':' :: Nat.toDigits 10 port.toNat))) := by
  rw [SocketAddr.text, scopeText]
  split
  · rw [List.nil_append, List.cons_append]
  · simp only [List.cons_append, List.append_assoc]

theorem endMark_percent : EndMark '%' := by
  constructor
  · decide
  · decide
  · decide
  · decide

/-- What stands between the brackets. -/
theorem readScoped_text (bits : BitVec 128) (scopeId : BitVec 32) (rest : Text) :
    exists groups, ofGroups groups = bits ∧
      readScoped (Ipv6Addr.text bits ++ (scopeText scopeId ++ ']' :: rest)) =
        some ((groups, scopeId), ']' :: rest) := by
  by_cases zero : scopeId = 0
  · rcases readIpv6Groups_text bits (halts_mark endMark_bracket rest) with ⟨groups, read, same⟩
    refine ⟨groups, same, ?_⟩
    rw [scopeText, if_pos zero, List.nil_append, readScoped, read, zero]
    rfl
  · have digit : Ends 10 (']' :: rest) := ends_cons endMark_bracket.decimal rest
    rcases readIpv6Groups_text bits (halts_mark endMark_percent
      (Nat.toDigits 10 scopeId.toNat ++ ']' :: rest)) with ⟨groups, read, same⟩
    refine ⟨groups, same, ?_⟩
    rw [scopeText, if_neg zero, List.cons_append, readScoped, read, Option.bind_some,
      readScopeId_text scopeId digit]
    rfl

theorem readSocketAddrV6_text (bits : BitVec 128) (port : BitVec 16)
    (flowinfo scopeId : BitVec 32) {rest : Text} (ends : Ends 10 rest) :
    readSocketAddrV6 ((SocketAddr.v6 bits port flowinfo scopeId).text ++ rest) =
      some (.v6 bits port 0 scopeId, rest) := by
  have text : (SocketAddr.v6 bits port flowinfo scopeId).text ++ rest =
      '[' :: (Ipv6Addr.text bits ++ (scopeText scopeId ++
        (']' :: ':' :: (Nat.toDigits 10 port.toNat ++ rest)))) := by
    rw [text_v6]
    simp only [List.cons_append, List.append_assoc]
  rcases readScoped_text bits scopeId (':' :: (Nat.toDigits 10 port.toNat ++ rest)) with
    ⟨groups, same, read⟩
  rw [text, readSocketAddrV6, readGivenChar, if_pos rfl]
  simp only [Option.bind_eq_bind, Option.bind_some, read, readGivenChar, if_true,
    readPort_text port ends, same]
  rfl

/-- Every socket address is read back from its text, but for the flow label. -/
theorem parse_text (addr : SocketAddr) : SocketAddr.parse addr.text = some addr.unlabelled := by
  have ends : Ends 10 [] := nofun
  cases addr with
  | v4 first second third fourth port =>
      have read := readSocketAddrV4_text first second third fourth port ends
      rw [List.append_nil] at read
      rw [SocketAddr.parse, parseWith, read]
      rfl
  | v6 bits port flowinfo scopeId =>
      have read := readSocketAddrV6_text bits port flowinfo scopeId ends
      rw [List.append_nil] at read
      have noIpv4 : readSocketAddrV4 (SocketAddr.v6 bits port flowinfo scopeId).text = none := by
        rw [text_v6]
        rfl
      rw [SocketAddr.parse, parseWith, noIpv4, read]
      rfl

end Gateway
end QuicMix
