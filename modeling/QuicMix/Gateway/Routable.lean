import QuicMix.Foundations.Ranges
import QuicMix.Gateway.Directory

namespace QuicMix
namespace Gateway

open Foundations

/-!
# Which addresses the gate of auto-promotion admits

A node becomes a gateway if its address passes `qualifies_as_gateway`, which
asks for a public, routable address.  The ranges of addresses that are not
routable are written down here as tables, and the gate is compared with them.

An IPv4 address has a form among the IPv6 addresses.  The gate tests that form as
an IPv6 address, and none of its tests looks into it.
-/

/-! ## Reserved ranges -/

/-- The word of an IPv4 address. -/
def ipv4Word (first second third fourth : BitVec 8) : BitVec 32 :=
  first ++ second ++ third ++ fourth

/-- Loopback, unspecified, private, carrier-grade NAT, link-local, multicast,
broadcast and documentation. -/
def reserved4 : List (Range 32) :=
  [⟨ipv4Word 127 0 0 0, 8⟩, ⟨ipv4Word 0 0 0 0, 32⟩, ⟨ipv4Word 10 0 0 0, 8⟩,
    ⟨ipv4Word 172 16 0 0, 12⟩, ⟨ipv4Word 192 168 0 0, 16⟩, ⟨ipv4Word 100 64 0 0, 10⟩,
    ⟨ipv4Word 169 254 0 0, 16⟩, ⟨ipv4Word 224 0 0 0, 4⟩, ⟨ipv4Word 255 255 255 255, 32⟩,
    ⟨ipv4Word 192 0 2 0, 24⟩, ⟨ipv4Word 198 51 100 0, 24⟩, ⟨ipv4Word 203 0 113 0, 24⟩]

/-- Loopback, unspecified, unique-local and link-local. -/
def local6 : List (Range 128) :=
  [⟨1, 128⟩, ⟨0, 128⟩, ⟨(0xfc00 : BitVec 16) ++ (0 : BitVec 112), 7⟩,
    ⟨(0xfe80 : BitVec 16) ++ (0 : BitVec 112), 10⟩]

/-- Multicast, and the two ranges for documentation. -/
def nonlocal6 : List (Range 128) :=
  [⟨(0xff00 : BitVec 16) ++ (0 : BitVec 112), 8⟩,
    ⟨(0x20010db8 : BitVec 32) ++ (0 : BitVec 96), 32⟩,
    ⟨(0x3fff0 : BitVec 20) ++ (0 : BitVec 108), 20⟩]

/-! ## The IPv4-mapped form -/

def mappedBits (word : BitVec 32) : BitVec 128 :=
  (0xffff : BitVec 96) ++ word

/-- The IPv4 address whose mapped form an IPv6 address is. -/
def embedded (bits : BitVec 128) : Option (BitVec 32) :=
  if bits.extractLsb' 32 96 = 0xffff then some (bits.extractLsb' 0 32) else none

namespace IpAddr

/-- The mapped form of an IPv4 address, and an IPv6 address as it is. -/
def toMapped : IpAddr -> BitVec 128
  | .v4 first second third fourth => mappedBits (ipv4Word first second third fourth)
  | .v6 bits => bits

/-- Globally routable: in no reserved range, and not the mapped form of an
address in one. -/
def Routable : IpAddr -> Prop
  | .v4 first second third fourth => ¬ Covered reserved4 (ipv4Word first second third fourth)
  | .v6 bits => ¬ Covered (local6 ++ nonlocal6) bits ∧
      forall word, embedded bits = some word -> ¬ Covered reserved4 word

/-- One of the two forms passes the gate and should not: an IPv4 address in a
reserved range, the mapped form of one, a multicast or documentation address. -/
def Overlooked : IpAddr -> Prop
  | .v4 first second third fourth => Covered reserved4 (ipv4Word first second third fourth)
  | .v6 bits => Covered nonlocal6 bits ∨
      exists word, embedded bits = some word ∧ Covered reserved4 word

end IpAddr

/-- The gate is right about an address: it admits it only if it is routable, and
does with it as with its other form. -/
structure Gated (addr : SocketAddr) : Prop where
  routable : qualifiesAsGateway addr = true -> addr.ip.Routable
  mapped : forall other : SocketAddr, other.ip.toMapped = addr.ip.toMapped ->
    qualifiesAsGateway other = qualifiesAsGateway addr

/-! ## Words as numbers -/

theorem toNat_append {high low : Nat} (first : BitVec high) (second : BitVec low) :
    (first ++ second).toNat = first.toNat * 2 ^ low + second.toNat := by
  rw [BitVec.toNat_append, ← Nat.shiftLeft_add_eq_or_of_lt second.isLt, Nat.shiftLeft_eq]

theorem toNat_ipv4Word (first second third fourth : BitVec 8) :
    (ipv4Word first second third fourth).toNat =
      first.toNat * 2 ^ 24 + second.toNat * 2 ^ 16 + third.toNat * 2 ^ 8 + fourth.toNat := by
  rw [ipv4Word, toNat_append, toNat_append, toNat_append]
  omega

theorem toNat_mappedBits (word : BitVec 32) :
    (mappedBits word).toNat = 0xffff * 2 ^ 32 + word.toNat := by
  rw [mappedBits, toNat_append]
  rfl

/-- An address is the mapped form of the address that is embedded in it. -/
theorem embedded_eq_some_iff (bits : BitVec 128) (word : BitVec 32) :
    embedded bits = some word <-> bits = mappedBits word := by
  rw [embedded]
  constructor
  · intro found
    split at found
    case isTrue marked =>
        have whole := @BitVec.extractLsb'_append_extractLsb' 96 32 bits
        rw [marked, Option.some.inj found] at whole
        exact whole.symm
    case isFalse => cases found
  · intro same
    have high : bits.extractLsb' 32 96 = 0xffff := by
      rw [same]
      exact BitVec.extractLsb'_append_eq_left
    have low : bits.extractLsb' 0 32 = word := by
      rw [same]
      exact BitVec.extractLsb'_append_eq_right
    rw [if_pos high, low]

theorem mappedBits_inj {first second : BitVec 32} (same : mappedBits first = mappedBits second) :
    first = second := by
  have found := (embedded_eq_some_iff (mappedBits second) first).mpr same.symm
  rw [(embedded_eq_some_iff _ second).mpr rfl] at found
  exact (Option.some.inj found).symm

theorem toNat_firstSegment (bits : BitVec 128) :
    (IpAddr.firstSegment bits).toNat = bits.toNat / 2 ^ 112 := by
  have small := bits.isLt
  rw [IpAddr.firstSegment, BitVec.extractLsb'_toNat, Nat.shiftRight_eq_div_pow]
  omega

/-! ## What the gate tests -/

/-- A test on the leading bits puts an IPv4 address into a range. -/
theorem covered_of_div {word network : BitVec 32} {length quotient : Nat}
    (member : ⟨network, length⟩ ∈ reserved4)
    (leading : network.toNat / 2 ^ (32 - length) = quotient)
    (own : word.toNat / 2 ^ (32 - length) = quotient) : Covered reserved4 word :=
  ⟨⟨network, length⟩, member, (Range.covers_iff _ word).mpr (own.trans leading.symm)⟩

/-- The gate refuses an IPv4 address only if it is in a reserved range. -/
theorem covered_of_refused {first second third fourth : BitVec 8} {port : BitVec 16}
    (refused : qualifiesAsGateway (.v4 first second third fourth port) = false) :
    Covered reserved4 (ipv4Word first second third fourth) := by
  have number := toNat_ipv4Word first second third fourth
  have secondSmall : second.toNat < 256 := second.isLt
  have thirdSmall : third.toNat < 256 := third.isLt
  have fourthSmall : fourth.toNat < 256 := fourth.isLt
  simp only [qualifiesAsGateway, SocketAddr.ip, IpAddr.isLoopback, IpAddr.isUnspecified,
    IpAddr.isPrivate, Bool.not_eq_false', Bool.or_eq_true, Bool.and_eq_true, beq_iff_eq] at refused
  rcases refused with (loopback | unspecified) | ((ten | ⟨private12, masked⟩) | private16) | link
  · have leads : first.toNat = 127 := congrArg BitVec.toNat loopback
    exact @covered_of_div _ (ipv4Word 127 0 0 0) 8 127 (by decide) (by decide) (by omega)
  · rcases unspecified with ⟨⟨⟨rfl, rfl⟩, rfl⟩, rfl⟩
    exact @covered_of_div _ (ipv4Word 0 0 0 0) 32 0 (by decide) (by decide) (by decide)
  · have leads : first.toNat = 10 := congrArg BitVec.toNat ten
    exact @covered_of_div _ (ipv4Word 10 0 0 0) 8 10 (by decide) (by decide) (by omega)
  · have leads : first.toNat = 172 := congrArg BitVec.toNat private12
    have next : second.toNat / 2 ^ 4 = 1 := (@and_mask_eq_iff 8 4 second 16 (by decide)).mp masked
    exact @covered_of_div _ (ipv4Word 172 16 0 0) 12 2753 (by decide) (by decide) (by omega)
  · have leads : first.toNat = 192 := congrArg BitVec.toNat private16.1
    have next : second.toNat = 168 := congrArg BitVec.toNat private16.2
    exact @covered_of_div _ (ipv4Word 192 168 0 0) 16 49320 (by decide) (by decide) (by omega)
  · have leads : first.toNat = 169 := congrArg BitVec.toNat link.1
    have next : second.toNat = 254 := congrArg BitVec.toNat link.2
    exact @covered_of_div _ (ipv4Word 169 254 0 0) 16 43518 (by decide) (by decide) (by omega)

/-- The ranges that the gate tests, as numbers. -/
theorem covered_local6_iff (bits : BitVec 128) :
    Covered local6 bits <-> bits.toNat = 1 ∨ bits.toNat = 0 ∨ bits.toNat / 2 ^ 121 = 126 ∨
      bits.toNat / 2 ^ 118 = 1018 := by
  have uniqueLocal : ((0xfc00 : BitVec 16) ++ (0 : BitVec 112)).toNat / 2 ^ (128 - 7) = 126 := rfl
  have linkLocal : ((0xfe80 : BitVec 16) ++ (0 : BitVec 112)).toNat / 2 ^ (128 - 10) = 1018 := rfl
  simp only [Covered, local6, List.mem_cons, List.not_mem_nil, or_false, exists_eq_or_imp,
    exists_eq_left, Range.covers_iff, uniqueLocal, linkLocal, Nat.sub_self, Nat.pow_zero,
    Nat.div_one]
  rfl

/-- The ranges that it does not test. -/
theorem covered_nonlocal6_iff (bits : BitVec 128) :
    Covered nonlocal6 bits <-> bits.toNat / 2 ^ 120 = 255 ∨ bits.toNat / 2 ^ 96 = 0x20010db8 ∨
      bits.toNat / 2 ^ 108 = 0x3fff0 := by
  have multicast : ((0xff00 : BitVec 16) ++ (0 : BitVec 112)).toNat / 2 ^ (128 - 8) = 255 := rfl
  have documentation : ((0x20010db8 : BitVec 32) ++ (0 : BitVec 96)).toNat / 2 ^ (128 - 32) =
      0x20010db8 := rfl
  have examples : ((0x3fff0 : BitVec 20) ++ (0 : BitVec 108)).toNat / 2 ^ (128 - 20) =
      0x3fff0 := rfl
  simp only [Covered, nonlocal6, List.mem_cons, List.not_mem_nil, or_false, exists_eq_or_imp,
    exists_eq_left, Range.covers_iff, multicast, documentation, examples]

/-- The gate admits an IPv6 address exactly if it is in none of the ranges that
it tests. -/
theorem qualifies_v6_iff (bits : BitVec 128) (port : BitVec 16) (flowinfo scopeId : BitVec 32) :
    qualifiesAsGateway (.v6 bits port flowinfo scopeId) = true <-> ¬ Covered local6 bits := by
  have segment := toNat_firstSegment bits
  have one : bits = 1 <-> bits.toNat = 1 := BitVec.toNat_eq
  have zero : bits = 0 <-> bits.toNat = 0 := BitVec.toNat_eq
  have uniqueLocal : IpAddr.firstSegment bits &&& 0xfe00 = 0xfc00 <->
      bits.toNat / 2 ^ 121 = 126 := by
    refine (@and_mask_eq_iff 16 9 _ 0xfc00 (by decide)).trans ?_
    rw [segment, Nat.div_div_eq_div_mul]
    rfl
  have linkLocal : IpAddr.firstSegment bits &&& 0xffc0 = 0xfe80 <->
      bits.toNat / 2 ^ 118 = 1018 := by
    refine (@and_mask_eq_iff 16 6 _ 0xfe80 (by decide)).trans ?_
    rw [segment, Nat.div_div_eq_div_mul]
    rfl
  rw [covered_local6_iff]
  simp only [qualifiesAsGateway, SocketAddr.ip, IpAddr.isLoopback, IpAddr.isUnspecified,
    IpAddr.isPrivate, Bool.not_eq_true', Bool.or_eq_false_iff, beq_eq_false_iff_ne, ne_eq, one,
    zero, uniqueLocal, linkLocal, not_or, and_assoc]

/-! ## Where the gate is right -/

/-- The mapped form of any IPv4 address is admitted. -/
theorem qualifies_mappedBits (word : BitVec 32) (port : BitVec 16) (flowinfo scopeId : BitVec 32) :
    qualifiesAsGateway (.v6 (mappedBits word) port flowinfo scopeId) = true := by
  have number := toNat_mappedBits word
  have small := word.isLt
  rw [qualifies_v6_iff, covered_local6_iff]
  omega

/-- Multicast and documentation addresses are admitted. -/
theorem not_local_of_nonlocal {bits : BitVec 128} (covered : Covered nonlocal6 bits) :
    ¬ Covered local6 bits := by
  rw [covered_nonlocal6_iff] at covered
  rw [covered_local6_iff]
  omega

/-- Both forms of an IPv4 address outside the reserved ranges are admitted. -/
theorem qualifies_of_toMapped {addr : SocketAddr} {word : BitVec 32}
    (form : addr.ip.toMapped = mappedBits word) (free : ¬ Covered reserved4 word) :
    qualifiesAsGateway addr = true := by
  cases addr with
  | v4 first second third fourth port =>
      have same : ipv4Word first second third fourth = word := mappedBits_inj form
      apply Bool.not_eq_false _ |>.mp
      intro refused
      exact free (same ▸ covered_of_refused refused)
  | v6 bits port flowinfo scopeId =>
      have same : bits = mappedBits word := form
      rw [same]
      exact qualifies_mappedBits word port flowinfo scopeId

theorem gated_v4_iff (first second third fourth : BitVec 8) (port : BitVec 16) :
    Gated (.v4 first second third fourth port) <->
      ¬ Covered reserved4 (ipv4Word first second third fourth) := by
  constructor
  · intro gated reserved
    have form := gated.mapped (.v6 (mappedBits (ipv4Word first second third fourth)) port 0 0) rfl
    rw [qualifies_mappedBits] at form
    exact gated.routable form.symm reserved
  · intro free
    have admitted : qualifiesAsGateway (.v4 first second third fourth port) = true :=
      qualifies_of_toMapped rfl free
    refine ⟨fun _ => free, ?_⟩
    intro other form
    rw [admitted]
    exact qualifies_of_toMapped form free

theorem gated_v6_iff (bits : BitVec 128) (port : BitVec 16) (flowinfo scopeId : BitVec 32) :
    Gated (.v6 bits port flowinfo scopeId) <-> ¬ IpAddr.Overlooked (.v6 bits) := by
  constructor
  · intro gated overlooked
    rcases overlooked with nonlocal | ⟨word, found, reserved⟩
    · have admitted := (qualifies_v6_iff bits port flowinfo scopeId).mpr
        (not_local_of_nonlocal nonlocal)
      apply (gated.routable admitted).1
      rcases nonlocal with ⟨range, member, covers⟩
      exact ⟨range, List.mem_append_right local6 member, covers⟩
    · have same := (embedded_eq_some_iff bits word).mp found
      have admitted : qualifiesAsGateway (.v6 bits port flowinfo scopeId) = true := by
        rw [same]
        exact qualifies_mappedBits word port flowinfo scopeId
      exact (gated.routable admitted).2 word found reserved
  · intro sound
    have free : forall word, embedded bits = some word -> ¬ Covered reserved4 word :=
      fun word found reserved => sound (Or.inr ⟨word, found, reserved⟩)
    refine ⟨?_, ?_⟩
    · intro admitted
      refine ⟨?_, free⟩
      rintro ⟨range, member, covers⟩
      rcases List.mem_append.mp member with tested | untested
      · exact (qualifies_v6_iff bits port flowinfo scopeId).mp admitted ⟨range, tested, covers⟩
      · exact sound (Or.inl ⟨range, untested, covers⟩)
    · intro other form
      cases other with
      | v4 first second third fourth otherPort =>
          have mapped : bits = mappedBits (ipv4Word first second third fourth) := form.symm
          have unreserved := free _ ((embedded_eq_some_iff bits _).mpr mapped)
          rw [qualifies_of_toMapped rfl unreserved, mapped]
          exact (qualifies_mappedBits _ port flowinfo scopeId).symm
      | v6 otherBits otherPort otherFlow otherScope =>
          have same : otherBits = bits := form
          rw [same, Bool.eq_iff_iff, qualifies_v6_iff, qualifies_v6_iff]

/-- The gate is right about exactly the addresses that are not overlooked.  A
reserved IPv4 address that it refuses is among them, since it admits its mapped
form. -/
theorem gate_right_iff (addr : SocketAddr) : Gated addr <-> ¬ addr.ip.Overlooked := by
  cases addr with
  | v4 first second third fourth port => exact gated_v4_iff first second third fourth port
  | v6 bits port flowinfo scopeId => exact gated_v6_iff bits port flowinfo scopeId

/-- An address of carrier-grade NAT is admitted, and so is the mapped form of a
private address that is refused. -/
theorem gate_admits_unroutable :
    (qualifiesAsGateway (.v4 100 64 0 1 443) = true ∧ ¬ Gated (.v4 100 64 0 1 443)) ∧
      qualifiesAsGateway (.v4 10 0 0 1 443) = false ∧
      qualifiesAsGateway (.v6 (mappedBits (ipv4Word 10 0 0 1)) 443 0 0) = true ∧
      ¬ Gated (.v4 10 0 0 1 443) := by
  refine ⟨⟨by decide, ?_⟩, by decide, by decide, ?_⟩
  · intro gated
    apply gated.routable (by decide)
    exact ⟨⟨ipv4Word 100 64 0 0, 10⟩, by decide, by decide⟩
  · intro gated
    have form := gated.mapped (.v6 (mappedBits (ipv4Word 10 0 0 1)) 443 0 0) rfl
    exact absurd form (by decide)

end Gateway
end QuicMix
