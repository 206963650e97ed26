import QuicMix.Foundations.Numerals
import QuicMix.Gateway.Directory
import Mathlib.Algebra.Group.Nat.Defs

namespace QuicMix
namespace Gateway

open Foundations
open Text

/-!
# Addresses as texts

The textual forms of addresses and of socket addresses, and the reading of such
texts, as the standard library has them.  An IPv4 address has one spelling.  An
IPv6 address is written with its longest run of zero groups left out, and is
read in every spelling; behind a port it stands in brackets.
-/

/-! ## Writing -/

def Ipv4Addr.text (first second third fourth : BitVec 8) : Text :=
  Nat.toDigits 10 first.toNat ++ '.' :: Nat.toDigits 10 second.toNat ++
    '.' :: Nat.toDigits 10 third.toNat ++ '.' :: Nat.toDigits 10 fourth.toNat

/-- The eight segments of an IPv6 address. -/
def segments (bits : BitVec 128) : List Nat :=
  [112, 96, 80, 64, 48, 32, 16, 0].map (fun offset => (bits.extractLsb' offset 16).toNat)

/-- A run of zero segments. -/
structure Span where
  start : Nat
  len : Nat
  deriving DecidableEq, Repr

/-- One segment of the search for the longest run; an equal run further behind
does not replace it. -/
def Span.next (longest current : Span) (index segment : Nat) : Span × Span :=
  if segment = 0 then
    let grown := ⟨if current.len = 0 then index else current.start, current.len + 1⟩
    (if longest.len < grown.len then grown else longest, grown)
  else (longest, ⟨0, 0⟩)

/-- The longest run of zero segments. -/
def zeroes (segments : List Nat) : Span :=
  (segments.zipIdx.foldl (fun spans entry => Span.next spans.1 spans.2 entry.2 entry.1)
    (⟨0, 0⟩, ⟨0, 0⟩)).1

/-- Segments in hexadecimal with colons between them. -/
def fmtSubslice : List Nat -> Text
  | [] => []
  | [segment] => Nat.toDigits 16 segment
  | segment :: rest => Nat.toDigits 16 segment ++ ':' :: fmtSubslice rest

def Ipv6Addr.text (bits : BitVec 128) : Text :=
  if bits.extractLsb' 32 96 = 0xffff then
    ':' :: ':' :: 'f' :: 'f' :: 'f' :: 'f' :: ':' ::
      Ipv4Addr.text (bits.extractLsb' 24 8) (bits.extractLsb' 16 8) (bits.extractLsb' 8 8)
        (bits.extractLsb' 0 8)
  else if 1 < (zeroes (segments bits)).len then
    fmtSubslice ((segments bits).take (zeroes (segments bits)).start) ++ ':' :: ':' ::
      fmtSubslice ((segments bits).drop
        ((zeroes (segments bits)).start + (zeroes (segments bits)).len))
  else fmtSubslice (segments bits)

def SocketAddr.port : SocketAddr -> BitVec 16
  | .v4 _ _ _ _ port => port
  | .v6 _ port _ _ => port

/-- `to_string` of a socket address. -/
def SocketAddr.text : SocketAddr -> Text
  | .v4 first second third fourth port =>
      Ipv4Addr.text first second third fourth ++ ':' :: Nat.toDigits 10 port.toNat
  | .v6 bits port _ scopeId =>
      if scopeId = 0 then '[' :: Ipv6Addr.text bits ++ ']' :: ':' :: Nat.toDigits 10 port.toNat
      else
        '[' :: Ipv6Addr.text bits ++ '%' :: Nat.toDigits 10 scopeId.toNat ++
          ']' :: ':' :: Nat.toDigits 10 port.toNat

/-! ## Reading -/

/-- Three decimal digits without zeros in front. -/
def octetBounds : NumberBounds := ⟨10, some 3, 2 ^ 8, false⟩

/-- Four hexadecimal digits. -/
def groupBounds : NumberBounds := ⟨16, some 4, 2 ^ 16, true⟩

def portBounds : NumberBounds := ⟨10, none, 2 ^ 16, true⟩

def scopeBounds : NumberBounds := ⟨10, none, 2 ^ 32, true⟩

def readGivenChar (target : Char) : Text -> Option Text
  | [] => none
  | char :: rest => if char = target then some rest else none

/-- A reader behind a separator; there is none in front of the first item. -/
def readSeparator {Value : Type} (separator : Char) (first : Bool)
    (inner : Text -> Option (Value × Text)) (text : Text) : Option (Value × Text) :=
  if first then inner text else (readGivenChar separator text).bind inner

def readOctet (first : Bool) (text : Text) : Option (BitVec 8 × Text) :=
  (readSeparator '.' first (readNumber octetBounds) text).map
    (fun read => (BitVec.ofNat 8 read.1, read.2))

/-- The four parts of an IPv4 address. -/
structure Octets where
  first : BitVec 8
  second : BitVec 8
  third : BitVec 8
  fourth : BitVec 8
  deriving DecidableEq, Repr

def Octets.text (octets : Octets) : Text :=
  Ipv4Addr.text octets.first octets.second octets.third octets.fourth

def readIpv4Addr (text : Text) : Option (Octets × Text) := do
  let (first, text) ← readOctet true text
  let (second, text) ← readOctet false text
  let (third, text) ← readOctet false text
  let (fourth, text) ← readOctet false text
  return (⟨first, second, third, fourth⟩, text)

/-- An IPv4 address as the last two groups of an IPv6 address. -/
def Octets.groups (octets : Octets) : List Nat :=
  [octets.first.toNat * 2 ^ 8 + octets.second.toNat,
    octets.third.toNat * 2 ^ 8 + octets.fourth.toNat]

/-- Read colon-separated groups as long as there are some and not more than
the given number.  At the end there may be an IPv4 address in place of two
groups; the flag tells. -/
def readGroups : Nat -> Bool -> Text -> List Nat × Bool × Text
  | 0, _, text => ([], false, text)
  | left + 1, first, text =>
      match if 0 < left then readSeparator ':' first readIpv4Addr text else none with
      | some (octets, rest) => (octets.groups, true, rest)
      | none =>
          match readSeparator ':' first (readNumber groupBounds) text with
          | none => ([], false, text)
          | some (group, rest) =>
              match readGroups left false rest with
              | (groups, embedded, behind) => (group :: groups, embedded, behind)

/-- Eight groups as an address. -/
def ofGroups (groups : List Nat) : BitVec 128 :=
  BitVec.ofNat 128 (groups.foldl (fun value group => value * 2 ^ 16 + group) 0)

/-- `readGroups` as a reader that always succeeds. -/
def groupsReader (left : Nat) (first : Bool) (text : Text) : Option ((List Nat × Bool) × Text) :=
  some (((readGroups left first text).1, (readGroups left first text).2.1),
    (readGroups left first text).2.2)

def readDoubleColon (text : Text) : Option (Unit × Text) :=
  ((readGivenChar ':' text).map (fun rest => ((), rest))).bind
    (fun read => (readGivenChar ':' read.2).map (fun rest => ((), rest)))

/-- What follows the groups at the front: nothing if they are eight, and else
`::` in place of at least one zero group and the groups at the back. -/
def readTail (head : List Nat × Bool) (text : Text) : Option (List Nat × Text) :=
  if head.1.length = 8 then some (head.1, text)
  else if head.2 then none
  else
    (readDoubleColon text).bind (fun read =>
      (groupsReader (8 - (head.1.length + 1)) true read.2).map (fun tail =>
        (head.1 ++ List.replicate (8 - head.1.length - tail.1.1.length) 0 ++ tail.1.1, tail.2)))

def readIpv6Groups (text : Text) : Option (List Nat × Text) :=
  (groupsReader 8 true text).bind (fun read => readTail read.1 read.2)

/-- The whole text has to be read. -/
def parseWith {Value : Type} (inner : Text -> Option (Value × Text)) (text : Text) :
    Option Value :=
  match inner text with
  | some (value, []) => some value
  | _ => none

def readIpAddr (text : Text) : Option (IpAddr × Text) :=
  match readIpv4Addr text with
  | some (octets, rest) =>
      some (.v4 octets.first octets.second octets.third octets.fourth, rest)
  | none => (readIpv6Groups text).map (fun read => (.v6 (ofGroups read.1), read.2))

/-- `parse::<IpAddr>`. -/
def IpAddr.parse (text : Text) : Option IpAddr :=
  parseWith readIpAddr text

def readPort (text : Text) : Option (BitVec 16 × Text) :=
  ((readGivenChar ':' text).bind (readNumber portBounds)).map
    (fun read => (BitVec.ofNat 16 read.1, read.2))

def readScopeId (text : Text) : Option (BitVec 32 × Text) :=
  ((readGivenChar '%' text).bind (readNumber scopeBounds)).map
    (fun read => (BitVec.ofNat 32 read.1, read.2))

def readSocketAddrV4 (text : Text) : Option (SocketAddr × Text) := do
  let (octets, text) ← readIpv4Addr text
  let (port, text) ← readPort text
  return (.v4 octets.first octets.second octets.third octets.fourth port, text)

/-- An IPv6 address and a scope, which is zero if there is none. -/
def readScoped (text : Text) : Option ((List Nat × BitVec 32) × Text) :=
  (readIpv6Groups text).bind (fun read =>
    ((readScopeId read.2).or (some (0, read.2))).map (fun scope => ((read.1, scope.1), scope.2)))

def readSocketAddrV6 (text : Text) : Option (SocketAddr × Text) := do
  let text ← readGivenChar '[' text
  let ((groups, scopeId), text) ← readScoped text
  let text ← readGivenChar ']' text
  let (port, text) ← readPort text
  return (.v6 (ofGroups groups) port 0 scopeId, text)

/-- `parse::<SocketAddr>`. -/
def SocketAddr.parse (text : Text) : Option SocketAddr :=
  parseWith (fun text => (readSocketAddrV4 text).or (readSocketAddrV6 text)) text

/-! ## IPv4 addresses have one spelling -/

theorem readNumber_octet {text rest : Text} {value : Nat} :
    readNumber octetBounds text = some (value, rest) <->
      value < 2 ^ 8 ∧ text = Nat.toDigits 10 value ++ rest ∧ Ends 10 rest := by
  rw [readNumber_eq_some]
  constructor
  · rintro ⟨digits, numeral, rfl, ends⟩
    refine ⟨numeral.small, ?_, ends⟩
    rw [numeral.eq_toDigits rfl rfl]
  · rintro ⟨small, rfl, ends⟩
    refine ⟨Nat.toDigits 10 value, numeral_toDigits rfl ?_ small, rfl, ends⟩
    intro most same
    cases same
    exact (Nat.length_toDigits_le_iff (by decide) (by decide)).mpr
      (Nat.lt_trans small (by decide))

theorem readOctet_first {text rest : Text} {octet : BitVec 8} :
    readOctet true text = some (octet, rest) <->
      text = Nat.toDigits 10 octet.toNat ++ rest ∧ Ends 10 rest := by
  rw [readOctet, Option.map_eq_some_iff]
  constructor
  · rintro ⟨⟨value, behind⟩, read, same⟩
    rcases readNumber_octet.mp read with ⟨small, begins, ends⟩
    cases same
    rw [BitVec.toNat_ofNat, Nat.mod_eq_of_lt small]
    exact ⟨begins, ends⟩
  · rintro ⟨begins, ends⟩
    refine ⟨(octet.toNat, rest), readNumber_octet.mpr ⟨octet.isLt, begins, ends⟩, ?_⟩
    rw [BitVec.ofNat_toNat, BitVec.setWidth_eq]

theorem readGivenChar_eq_some {target : Char} {text rest : Text} :
    readGivenChar target text = some rest <-> text = target :: rest := by
  cases text with
  | nil => exact iff_of_false (fun read => nomatch read) (List.cons_ne_nil target rest).symm
  | cons char behind =>
      rw [readGivenChar, List.cons.injEq]
      split
      case isTrue same => rw [Option.some.injEq, and_iff_right same]
      case isFalse other => exact iff_of_false (fun read => nomatch read) (fun both => other both.1)

theorem readOctet_later {text rest : Text} {octet : BitVec 8} :
    readOctet false text = some (octet, rest) <->
      text = '.' :: (Nat.toDigits 10 octet.toNat ++ rest) ∧ Ends 10 rest := by
  have skipped : readOctet false text = (readGivenChar '.' text).bind (readOctet true) := by
    simp only [readOctet, readSeparator, Bool.false_eq_true, if_false, Option.map_bind]
    rfl
  rw [skipped, Option.bind_eq_some_iff]
  constructor
  · rintro ⟨behind, dot, read⟩
    rcases readOctet_first.mp read with ⟨rfl, ends⟩
    exact ⟨readGivenChar_eq_some.mp dot, ends⟩
  · rintro ⟨begins, ends⟩
    exact ⟨_, readGivenChar_eq_some.mpr begins, readOctet_first.mpr ⟨rfl, ends⟩⟩

/-- No digit is in front of a text that begins with another character. -/
theorem ends_cons {radix : Nat} {char : Char} (other : isDigitIn radix char = false) (rest : Text) :
    Ends radix (char :: rest) := by
  intro first same
  cases same
  exact other

/-- Reading an IPv4 address undoes writing it, and nothing else is read as one. -/
theorem readIpv4Addr_eq_some {text rest : Text} {octets : Octets} :
    readIpv4Addr text = some (octets, rest) <-> text = octets.text ++ rest ∧ Ends 10 rest := by
  have dot : isDigitIn 10 '.' = false := by decide
  constructor
  · intro read
    rcases Option.bind_eq_some_iff.mp read with ⟨⟨first, text₁⟩, read₁, read⟩
    rcases Option.bind_eq_some_iff.mp read with ⟨⟨second, text₂⟩, read₂, read⟩
    rcases Option.bind_eq_some_iff.mp read with ⟨⟨third, text₃⟩, read₃, read⟩
    rcases Option.bind_eq_some_iff.mp read with ⟨⟨fourth, text₄⟩, read₄, read⟩
    cases read
    rcases readOctet_first.mp read₁ with ⟨rfl, _⟩
    rcases readOctet_later.mp read₂ with ⟨rfl, _⟩
    rcases readOctet_later.mp read₃ with ⟨rfl, _⟩
    rcases readOctet_later.mp read₄ with ⟨rfl, ends⟩
    refine ⟨?_, ends⟩
    simp only [Octets.text, Ipv4Addr.text, List.append_assoc, List.cons_append]
  · rintro ⟨rfl, ends⟩
    rcases octets with ⟨first, second, third, fourth⟩
    simp only [Octets.text, Ipv4Addr.text, List.append_assoc, List.cons_append]
    refine Option.bind_eq_some_iff.mpr ⟨_, readOctet_first.mpr ⟨rfl, ends_cons dot _⟩, ?_⟩
    refine Option.bind_eq_some_iff.mpr ⟨_, readOctet_later.mpr ⟨rfl, ends_cons dot _⟩, ?_⟩
    refine Option.bind_eq_some_iff.mpr ⟨_, readOctet_later.mpr ⟨rfl, ends_cons dot _⟩, ?_⟩
    exact Option.bind_eq_some_iff.mpr ⟨_, readOctet_later.mpr ⟨rfl, ends⟩, rfl⟩

theorem parse_ipv4 (first second third fourth : BitVec 8) :
    IpAddr.parse (Ipv4Addr.text first second third fourth) =
      some (.v4 first second third fourth) := by
  have read := (@readIpv4Addr_eq_some _ [] ⟨first, second, third, fourth⟩).mpr
    ⟨rfl, fun _ same => nomatch same⟩
  rw [List.append_nil] at read
  rw [IpAddr.parse, parseWith, readIpAddr]
  change readIpv4Addr (Ipv4Addr.text first second third fourth) = _ at read
  rw [read]

/-- What begins with a bracket is no address. -/
theorem parse_bracket (rest : Text) : IpAddr.parse ('[' :: rest) = none := by
  have v4 : readIpv4Addr ('[' :: rest) = none := by
    rfl
  have groups : readGroups 8 true ('[' :: rest) = ([], false, '[' :: rest) := by
    rfl
  rw [IpAddr.parse, parseWith, readIpAddr, v4, readIpv6Groups, groupsReader, groups]
  rfl

/-! ## Readers and what they look at -/

section Readers

variable {Value Other : Type}

/-- What is left is a rest of the text. -/
def Takes (reader : Text -> Option (Value × Text)) : Prop :=
  forall text value rest, reader text = some (value, rest) -> exists front, text = front ++ rest

/-- The reader does not pass the mark and does not look behind it. -/
def Stops (mark : Char) (reader : Text -> Option (Value × Text)) : Prop :=
  forall front behind behind',
    (reader (front ++ mark :: behind) = none ∧ reader (front ++ mark :: behind') = none) ∨
    exists value left, reader (front ++ mark :: behind) = some (value, left ++ mark :: behind) ∧
      reader (front ++ mark :: behind') = some (value, left ++ mark :: behind')

variable {mark : Char} {reader : Text -> Option (Value × Text)}
  {next : Value × Text -> Option (Other × Text)}

theorem takes_return (value : Value) : Takes (fun text => some (value, text)) := by
  intro text other rest read
  cases read
  exact ⟨[], rfl⟩

theorem stops_return (value : Value) : Stops mark (fun text => some (value, text)) :=
  fun front _ _ => .inr ⟨value, front, rfl, rfl⟩

theorem takes_bind (first : Takes reader)
    (second : forall value, Takes (fun text => next (value, text))) :
    Takes (fun text => (reader text).bind next) := by
  intro text value rest read
  rcases Option.bind_eq_some_iff.mp read with ⟨⟨middle, left⟩, readFirst, readSecond⟩
  rcases first text middle left readFirst with ⟨front, rfl⟩
  rcases second middle left value rest readSecond with ⟨more, rfl⟩
  exact ⟨front ++ more, (List.append_assoc front more rest).symm⟩

theorem stops_bind (first : Stops mark reader)
    (second : forall value, Stops mark (fun text => next (value, text))) :
    Stops mark (fun text => (reader text).bind next) := by
  intro front behind behind'
  rcases first front behind behind' with ⟨fails, fails'⟩ | ⟨value, left, reads, reads'⟩
  · exact .inl (by simp only [fails, fails', Option.bind_none, and_self])
  · simp only [reads, reads', Option.bind_some]
    exact second value left behind behind'

theorem takes_map (function : Value -> Other) (takes : Takes reader) :
    Takes (fun text => (reader text).map (fun read => (function read.1, read.2))) := by
  intro text value rest read
  rcases Option.map_eq_some_iff.mp read with ⟨⟨middle, left⟩, readFirst, same⟩
  cases same
  exact takes text middle _ readFirst

theorem stops_map (function : Value -> Other) (stops : Stops mark reader) :
    Stops mark (fun text => (reader text).map (fun read => (function read.1, read.2))) := by
  intro front behind behind'
  rcases stops front behind behind' with ⟨fails, fails'⟩ | ⟨value, left, reads, reads'⟩
  · exact .inl (by simp only [fails, fails', Option.map_none, and_self])
  · refine .inr ⟨function value, left, ?_⟩
    simp only [reads, reads', Option.map_some, and_self]

/-- A first choice and a second one. -/
theorem takes_or {second : Text -> Option (Value × Text)} (first : Takes reader)
    (other : Takes second) : Takes (fun text => (reader text).or (second text)) := by
  intro text value rest read
  rcases Option.or_eq_some_iff.mp read with some | ⟨_, some⟩
  · exact first text value rest some
  · exact other text value rest some

theorem stops_or {second : Text -> Option (Value × Text)} (first : Stops mark reader)
    (other : Stops mark second) : Stops mark (fun text => (reader text).or (second text)) := by
  intro front behind behind'
  rcases first front behind behind' with ⟨fails, fails'⟩ | ⟨value, left, reads, reads'⟩
  · simp only [fails, fails', Option.none_or]
    exact other front behind behind'
  · exact .inr ⟨value, left, by simp only [reads, reads', Option.some_or, and_self]⟩

theorem takes_given (target : Char) :
    Takes (fun text => (readGivenChar target text).map (fun rest => ((), rest))) := by
  intro text value rest read
  rcases Option.map_eq_some_iff.mp read with ⟨left, given, same⟩
  cases same
  exact ⟨[target], readGivenChar_eq_some.mp given⟩

theorem stops_given {target : Char} (other : target ≠ mark) :
    Stops mark (fun text => (readGivenChar target text).map (fun rest => ((), rest))) := by
  intro front behind behind'
  cases front with
  | nil =>
      refine .inl ?_
      simp only [List.nil_append, readGivenChar, if_neg other.symm, Option.map_none, and_self]
  | cons char front =>
      by_cases same : char = target
      · refine .inr ⟨(), front, ?_⟩
        simp only [List.cons_append, readGivenChar, if_pos same, Option.map_some, and_self]
      · refine .inl ?_
        simp only [List.cons_append, readGivenChar, if_neg same, Option.map_none, and_self]

theorem takes_number (bounds : NumberBounds) : Takes (readNumber bounds) := by
  intro text value rest read
  rcases readNumber_eq_some.mp read with ⟨digits, _, same, _⟩
  exact ⟨digits, same⟩

/-- Digits end at a mark that is none. -/
theorem cut_at_mark {isDigit : Char -> Bool} (other : isDigit mark = false) (front behind : Text) :
    (front ++ mark :: behind).takeWhile isDigit = front.takeWhile isDigit ∧
      (front ++ mark :: behind).dropWhile isDigit =
        front.dropWhile isDigit ++ mark :: behind := by
  have no : ¬ isDigit mark = true := by
    rw [other]
    exact Bool.false_ne_true
  induction front with
  | nil => exact ⟨List.takeWhile_cons_of_neg no, List.dropWhile_cons_of_neg no⟩
  | cons char rest inductionHypothesis =>
      rw [List.cons_append, List.takeWhile_cons, List.takeWhile_cons, List.dropWhile_cons,
        List.dropWhile_cons, inductionHypothesis.1, inductionHypothesis.2]
      split
      · exact ⟨rfl, rfl⟩
      · exact ⟨rfl, rfl⟩

theorem stops_number {bounds : NumberBounds} (other : isDigitIn bounds.radix mark = false) :
    Stops mark (readNumber bounds) := by
  intro front behind behind'
  simp only [readNumber, cut_at_mark other]
  split
  · exact .inl ⟨rfl, rfl⟩
  · split
    · exact .inl ⟨rfl, rfl⟩
    · split
      · exact .inl ⟨rfl, rfl⟩
      · split
        · exact .inr ⟨_, _, rfl, rfl⟩
        · exact .inl ⟨rfl, rfl⟩

/-- A reader behind a separator. -/
theorem separator_eq (separator : Char) (inner : Text -> Option (Value × Text)) (text : Text) :
    readSeparator separator false inner text =
      ((readGivenChar separator text).map (fun rest => ((), rest))).bind
        (fun read => inner read.2) := by
  rw [readSeparator, if_neg Bool.false_ne_true]
  cases readGivenChar separator text with
  | none => rfl
  | some rest => rfl

theorem takes_separator (separator : Char) (first : Bool) (takes : Takes reader) :
    Takes (readSeparator separator first reader) := by
  cases first with
  | true => exact takes
  | false =>
      rw [funext (separator_eq separator reader)]
      exact takes_bind (takes_given separator) (fun _ => takes)

theorem stops_separator {separator : Char} (other : separator ≠ mark) (first : Bool)
    (stops : Stops mark reader) : Stops mark (readSeparator separator first reader) := by
  cases first with
  | true => exact stops
  | false =>
      rw [funext (separator_eq separator reader)]
      exact stops_bind (stops_given other) (fun _ => stops)

end Readers

/-- A character that ends an address: no digit, no dot and no colon. -/
structure EndMark (mark : Char) : Prop where
  decimal : isDigitIn 10 mark = false
  hexadecimal : isDigitIn 16 mark = false
  dot : '.' ≠ mark
  colon : ':' ≠ mark

theorem stops_octet {mark : Char} (ends : EndMark mark) (first : Bool) :
    Stops mark (readOctet first) :=
  stops_map (BitVec.ofNat 8)
    (stops_separator ends.dot first (@stops_number mark octetBounds ends.decimal))

theorem takes_ipv4 : Takes readIpv4Addr := by
  intro text octets rest read
  exact ⟨octets.text, (readIpv4Addr_eq_some.mp read).1⟩

theorem stops_ipv4 {mark : Char} (ends : EndMark mark) : Stops mark readIpv4Addr := by
  refine stops_bind (stops_octet ends true) (fun first => ?_)
  refine stops_bind (stops_octet ends false) (fun second => ?_)
  refine stops_bind (stops_octet ends false) (fun third => ?_)
  refine stops_bind (stops_octet ends false) (fun fourth => ?_)
  exact stops_return (⟨first, second, third, fourth⟩ : Octets)

/-- An address in place of the last two groups. -/
def readEmbedded (left : Nat) (first : Bool) (text : Text) : Option ((List Nat × Bool) × Text) :=
  (if 0 < left then readSeparator ':' first readIpv4Addr text else none).map
    (fun read => ((read.1.groups, true), read.2))

/-- One round: an embedded address, or a group and the groups behind it, or
nothing. -/
theorem groupsReader_succ (left : Nat) (first : Bool) (text : Text) :
    groupsReader (left + 1) first text =
      ((readEmbedded left first text).or
        ((readSeparator ':' first (readNumber groupBounds) text).bind (fun read =>
          (groupsReader left false read.2).map (fun rest =>
            ((read.1 :: rest.1.1, rest.1.2), rest.2))))).or (some (([], false), text)) := by
  simp only [groupsReader, readEmbedded, readGroups]
  split
  case h_1 octets rest embedded =>
      simp only [embedded, Option.map_some, Option.some_or]
  case h_2 failed =>
      simp only [failed, Option.map_none, Option.none_or]
      cases readSeparator ':' first (readNumber groupBounds) text with
      | none => rfl
      | some read => rfl

theorem takes_embedded (left : Nat) (first : Bool) : Takes (readEmbedded left first) := by
  by_cases room : 0 < left
  · rw [funext (fun text => show readEmbedded left first text = _ from by
      rw [readEmbedded, if_pos room])]
    exact takes_map (fun octets => (octets.groups, true)) (takes_separator ':' first takes_ipv4)
  · intro text value rest read
    rw [readEmbedded, if_neg room] at read
    cases read

theorem stops_embedded {mark : Char} (ends : EndMark mark) (left : Nat) (first : Bool) :
    Stops mark (readEmbedded left first) := by
  by_cases room : 0 < left
  · rw [funext (fun text => show readEmbedded left first text = _ from by
      rw [readEmbedded, if_pos room])]
    exact stops_map (fun octets => (octets.groups, true))
      (stops_separator ends.colon first (stops_ipv4 ends))
  · intro front behind behind'
    refine .inl ?_
    simp only [readEmbedded, if_neg room, Option.map_none, and_self]

theorem takes_groups (left : Nat) (first : Bool) : Takes (groupsReader left first) := by
  induction left generalizing first with
  | zero => exact takes_return ([], false)
  | succ left inductionHypothesis =>
      rw [funext (groupsReader_succ left first)]
      refine takes_or (takes_or (takes_embedded left first) ?_) (takes_return ([], false))
      exact takes_bind (takes_separator ':' first (takes_number groupBounds))
        (fun group => takes_map (fun rest => (group :: rest.1, rest.2)) (inductionHypothesis false))

theorem stops_groups {mark : Char} (ends : EndMark mark) (left : Nat) (first : Bool) :
    Stops mark (groupsReader left first) := by
  induction left generalizing first with
  | zero => exact stops_return ([], false)
  | succ left inductionHypothesis =>
      rw [funext (groupsReader_succ left first)]
      refine stops_or (stops_or (stops_embedded ends left first) ?_) (stops_return ([], false))
      exact stops_bind (stops_separator ends.colon first (@stops_number mark groupBounds
        ends.hexadecimal)) (fun group =>
          stops_map (fun rest => (group :: rest.1, rest.2)) (inductionHypothesis false))

theorem takes_doubleColon : Takes readDoubleColon :=
  takes_bind (takes_given ':') (fun _ => takes_given ':')

theorem stops_doubleColon {mark : Char} (ends : EndMark mark) : Stops mark readDoubleColon :=
  stops_bind (stops_given ends.colon) (fun _ => stops_given ends.colon)

theorem takes_tail (head : List Nat × Bool) : Takes (readTail head) := by
  by_cases eight : head.1.length = 8
  · rw [funext (fun text => show readTail head text = _ from if_pos eight)]
    exact takes_return head.1
  · by_cases embedded : head.2 = true
    · intro text value rest read
      rw [readTail, if_neg eight, if_pos embedded] at read
      cases read
    · rw [funext (fun text => show readTail head text = _ from by
        rw [readTail, if_neg eight, if_neg embedded])]
      exact takes_bind takes_doubleColon (fun _ => takes_map (fun tail =>
        head.1 ++ List.replicate (8 - head.1.length - tail.1.length) 0 ++ tail.1)
        (takes_groups _ true))

theorem stops_tail {mark : Char} (ends : EndMark mark) (head : List Nat × Bool) :
    Stops mark (readTail head) := by
  by_cases eight : head.1.length = 8
  · rw [funext (fun text => show readTail head text = _ from if_pos eight)]
    exact stops_return head.1
  · by_cases embedded : head.2 = true
    · intro front behind behind'
      refine .inl ?_
      simp only [readTail, if_neg eight, if_pos embedded, and_self]
    · rw [funext (fun text => show readTail head text = _ from by
        rw [readTail, if_neg eight, if_neg embedded])]
      exact stops_bind (stops_doubleColon ends) (fun _ => stops_map (fun tail =>
        head.1 ++ List.replicate (8 - head.1.length - tail.1.length) 0 ++ tail.1)
        (stops_groups ends _ true))

theorem takes_ipv6 : Takes readIpv6Groups :=
  takes_bind (takes_groups 8 true) takes_tail

theorem stops_ipv6 {mark : Char} (ends : EndMark mark) : Stops mark readIpv6Groups :=
  stops_bind (stops_groups ends 8 true) (stops_tail ends)

theorem scopeId_eq (text : Text) :
    readScopeId text =
      (((readGivenChar '%' text).map (fun rest => ((), rest))).bind
        (fun read => readNumber scopeBounds read.2)).map
          (fun read => (BitVec.ofNat 32 read.1, read.2)) := by
  rw [readScopeId]
  cases readGivenChar '%' text with
  | none => rfl
  | some rest => rfl

theorem takes_scoped : Takes readScoped := by
  refine takes_bind takes_ipv6 (fun groups => takes_map (fun scope => (groups, scope)) ?_)
  refine takes_or ?_ (takes_return 0)
  rw [funext scopeId_eq]
  exact takes_map (BitVec.ofNat 32)
    (takes_bind (takes_given '%') (fun _ => takes_number scopeBounds))

theorem stops_scoped {mark : Char} (ends : EndMark mark) (percent : '%' ≠ mark) :
    Stops mark readScoped := by
  refine stops_bind (stops_ipv6 ends) (fun groups => stops_map (fun scope => (groups, scope)) ?_)
  refine stops_or ?_ (stops_return 0)
  rw [funext scopeId_eq]
  exact stops_map (BitVec.ofNat 32)
    (stops_bind (stops_given percent) (fun _ => @stops_number mark scopeBounds ends.decimal))

/-! ## Hosts of socket addresses -/

/-- The address that a host denotes: a literal, which for IPv6 may stand in
brackets with or without a scope. -/
def readHost (host : Text) : Option IpAddr :=
  match host with
  | '[' :: body =>
      match readScoped body with
      | some ((groups, _), [']']) => some (.v6 (ofGroups groups))
      | _ => none
  | _ => IpAddr.parse host

theorem endMark_bracket : EndMark ']' := by
  constructor
  · decide
  · decide
  · decide
  · decide

theorem colon_not_mem {digits : Text}
    (all : forall char, char ∈ digits -> isDigitIn 10 char = true) : ':' ∉ digits := by
  intro member
  exact absurd (all ':' member) (by decide)

/-- In front of the port at the end of a text there is one host. -/
theorem readPort_end {host front rest : Text} {port read : BitVec 16}
    (same : front ++ rest = host ++ ':' :: Nat.toDigits 10 port.toNat)
    (ended : readPort rest = some (read, [])) : front = host ∧ read = port := by
  rcases Option.map_eq_some_iff.mp ended with ⟨⟨value, left⟩, number, equal⟩
  cases equal
  rcases Option.bind_eq_some_iff.mp number with ⟨behind, colon, digits⟩
  cases readGivenChar_eq_some.mp colon
  rcases readNumber_eq_some.mp digits with ⟨text, numeral, spelled, _⟩
  rw [List.append_nil] at spelled
  subst spelled
  have written := rsplitOnce_append
    (colon_not_mem (fun _ member => @isDigitIn_toDigits port.toNat _ member)) host
  rw [← same, rsplitOnce_append (colon_not_mem numeral.all_digits)] at written
  cases written
  refine ⟨rfl, ?_⟩
  have value : numeralFrom 10 0 (Nat.toDigits 10 port.toNat) = _ := numeral.value_eq
  rw [← value, numeralFrom_toDigits, BitVec.ofNat_toNat, BitVec.setWidth_eq]

theorem readHost_literal {host : Text} {ip : IpAddr} (parsed : IpAddr.parse host = some ip) :
    readHost host = some ip := by
  unfold readHost
  split
  case h_1 body =>
      rw [parse_bracket] at parsed
      cases parsed
  case h_2 => exact parsed

theorem hostPort_v4 {host : Text} {port : BitVec 16} {addr : SocketAddr}
    (read : readSocketAddrV4 (host ++ ':' :: Nat.toDigits 10 port.toNat) = some (addr, [])) :
    readHost host = some addr.ip ∧ addr.port = port := by
  rcases Option.bind_eq_some_iff.mp read with ⟨⟨octets, left⟩, ipv4, read⟩
  rcases Option.bind_eq_some_iff.mp read with ⟨⟨number, ended⟩, readPort, read⟩
  cases read
  rcases readPort_end (readIpv4Addr_eq_some.mp ipv4).1.symm readPort with ⟨rfl, rfl⟩
  exact ⟨readHost_literal (parse_ipv4 _ _ _ _), rfl⟩

theorem hostPort_v6 {host : Text} {port : BitVec 16} {addr : SocketAddr}
    (read : readSocketAddrV6 (host ++ ':' :: Nat.toDigits 10 port.toNat) = some (addr, [])) :
    readHost host = some addr.ip ∧ addr.port = port := by
  rcases Option.bind_eq_some_iff.mp read with ⟨body, opened, read⟩
  rcases Option.bind_eq_some_iff.mp read with ⟨⟨⟨groups, scopeId⟩, left⟩, inside, read⟩
  rcases Option.bind_eq_some_iff.mp read with ⟨behind, closed, read⟩
  rcases Option.bind_eq_some_iff.mp read with ⟨⟨number, ended⟩, readPort, read⟩
  cases read
  cases readGivenChar_eq_some.mp closed
  rcases takes_scoped _ _ _ inside with ⟨front, rfl⟩
  have whole : ('[' :: (front ++ [']'])) ++ behind = host ++ ':' :: Nat.toDigits 10 port.toNat := by
    rw [readGivenChar_eq_some.mp opened]
    simp only [List.cons_append, List.append_assoc, List.nil_append]
  rcases readPort_end whole readPort with ⟨rfl, rfl⟩
  refine ⟨?_, rfl⟩
  rcases stops_scoped endMark_bracket (by decide) front behind [] with
    ⟨fails, _⟩ | ⟨value, more, reads, alone⟩
  · rw [fails] at inside
    cases inside
  · rw [reads] at inside
    rcases Prod.mk.inj (Option.some.inj inside) with ⟨rfl, rest⟩
    have nothing : more = [] := List.append_left_eq_self.mp rest
    subst nothing
    simp only [readHost, alone, List.nil_append]
    rfl

/-- A text of a host and a port that is read as a socket address gives the
address that the host denotes and the port. -/
theorem parse_hostPort {host : Text} {port : BitVec 16} {addr : SocketAddr}
    (parsed : SocketAddr.parse (host ++ ':' :: Nat.toDigits 10 port.toNat) = some addr) :
    readHost host = some addr.ip ∧ addr.port = port := by
  rw [SocketAddr.parse, parseWith] at parsed
  split at parsed
  case h_1 value read =>
      cases parsed
      rcases Option.or_eq_some_iff.mp read with v4 | ⟨_, v6⟩
      · exact hostPort_v4 v4
      · exact hostPort_v6 v6
  case h_2 => cases parsed

end Gateway
end QuicMix
