import Mathlib.Algebra.Group.Nat.Defs
import Mathlib.Data.List.Basic

namespace QuicMix
namespace Foundations

/-!
# Length-prefixed frames

A frame is a payload behind four bytes that hold its length, most significant
byte first.  A byte string has at most one decomposition into frames, and so
what a reader has taken from the front of a stream of frames determines which
payloads it has completed.

A byte string is stuck, with respect to a limit on the length, if no frame
within the limit can be taken from its front: it is too short, or it begins with
a length that is too large.
-/

/-! ## Lengths -/

/-- The length as an unsigned number of 32 bits, most significant byte first. -/
def be32 (length : Nat) : List UInt8 :=
  [UInt8.ofNat (length / 2 ^ 24), UInt8.ofNat (length / 2 ^ 16), UInt8.ofNat (length / 2 ^ 8),
    UInt8.ofNat length]

/-- The number that the bytes hold. -/
def ofBe (bytes : List UInt8) : Nat :=
  bytes.foldl (fun value byte => value * 2 ^ 8 + byte.toNat) 0

theorem length_be32 (length : Nat) : (be32 length).length = 4 := rfl

theorem ofBe_be32 {length : Nat} (small : length < 2 ^ 32) : ofBe (be32 length) = length := by
  simp only [be32, ofBe, List.foldl_cons, List.foldl_nil, UInt8.toNat_ofNat']
  omega

theorem be32_ofBe {bytes : List UInt8} (four : bytes.length = 4) : be32 (ofBe bytes) = bytes := by
  match bytes, four with
  | [first, second, third, fourth], _ =>
      have firstBound := first.toNat_lt
      have secondBound := second.toNat_lt
      have thirdBound := third.toNat_lt
      have fourthBound := fourth.toNat_lt
      simp only [be32, ofBe, List.foldl_cons, List.foldl_nil, List.cons.injEq, and_true,
        ← UInt8.toNat_inj, UInt8.toNat_ofNat']
      omega

theorem ofBe_lt {bytes : List UInt8} (four : bytes.length = 4) : ofBe bytes < 2 ^ 32 := by
  match bytes, four with
  | [first, second, third, fourth], _ =>
      have firstBound := first.toNat_lt
      have secondBound := second.toNat_lt
      have thirdBound := third.toNat_lt
      have fourthBound := fourth.toNat_lt
      simp only [ofBe, List.foldl_cons, List.foldl_nil]
      omega

theorem be32_inj {first second : Nat} (firstSmall : first < 2 ^ 32) (secondSmall : second < 2 ^ 32)
    (same : be32 first = be32 second) : first = second := by
  rw [← ofBe_be32 firstSmall, ← ofBe_be32 secondSmall, same]

/-! ## Frames -/

def frame (payload : List UInt8) : List UInt8 :=
  be32 payload.length ++ payload

def frames (payloads : List (List UInt8)) : List UInt8 :=
  payloads.flatMap frame

theorem frames_nil : frames [] = [] := rfl

theorem frames_cons (payload : List UInt8) (payloads : List (List UInt8)) :
    frames (payload :: payloads) = be32 payload.length ++ (payload ++ frames payloads) := by
  rw [frames, List.flatMap_cons, frame, List.append_assoc]
  rfl

theorem frames_append (first second : List (List UInt8)) :
    frames (first ++ second) = frames first ++ frames second :=
  List.flatMap_append

theorem frames_concat (payloads : List (List UInt8)) (payload : List UInt8) :
    frames (payloads ++ [payload]) = frames payloads ++ be32 payload.length ++ payload := by
  rw [frames_append, frames_cons, frames_nil, List.append_nil, List.append_assoc]

/-- Every payload is within the limit. -/
def Within (limit : Nat) (payloads : List (List UInt8)) : Prop :=
  forall payload, payload ∈ payloads -> payload.length <= limit

instance (limit : Nat) (payloads : List (List UInt8)) : Decidable (Within limit payloads) :=
  inferInstanceAs (Decidable (forall payload, payload ∈ payloads -> payload.length <= limit))

theorem Within.concat {limit : Nat} {payloads : List (List UInt8)} (within : Within limit payloads)
    {payload : List UInt8} (fits : payload.length <= limit) :
    Within limit (payloads ++ [payload]) := by
  intro other member
  rcases List.mem_append.mp member with old | new
  · exact within other old
  · rw [List.mem_singleton.mp new]
    exact fits

/-- Two byte strings that begin with frames begin with the same one. -/
theorem frame_cancel {limit : Nat} (small : limit < 2 ^ 32) {first second : List UInt8}
    (firstFits : first.length <= limit) (secondFits : second.length <= limit)
    {firstRest secondRest : List UInt8}
    (same : be32 first.length ++ (first ++ firstRest) =
      be32 second.length ++ (second ++ secondRest)) :
    first = second ∧ firstRest = secondRest := by
  rcases List.append_inj same rfl with ⟨lengths, rest⟩
  have equal := be32_inj (by omega) (by omega) lengths
  exact List.append_inj rest equal

/-- Nothing within the limit can be taken from the front. -/
def Stuck (limit : Nat) (bytes : List UInt8) : Prop :=
  bytes.length < 4 ∨ limit < ofBe (bytes.take 4) ∨ bytes.length < 4 + ofBe (bytes.take 4)

theorem not_stuck_frame {limit : Nat} (small : limit < 2 ^ 32) {payload : List UInt8}
    (fits : payload.length <= limit) (rest : List UInt8) :
    ¬ Stuck limit (be32 payload.length ++ (payload ++ rest)) := by
  have header : (be32 payload.length ++ (payload ++ rest)).take 4 = be32 payload.length :=
    List.take_left' rfl
  unfold Stuck
  rw [header, ofBe_be32 (by omega)]
  simp only [List.length_append, length_be32]
  omega

/-- A decomposition that ends with stuck bytes extends every other one. -/
theorem prefix_of_stuck {limit : Nat} (small : limit < 2 ^ 32)
    {payloads others : List (List UInt8)} {tail rest : List UInt8}
    (within : Within limit payloads) (othersWithin : Within limit others)
    (stuck : Stuck limit tail) (same : frames payloads ++ tail = frames others ++ rest) :
    exists more, payloads = others ++ more ∧ rest = frames more ++ tail := by
  induction others generalizing payloads with
  | nil => exact ⟨payloads, rfl, same.symm⟩
  | cons other others inductionHypothesis =>
      have otherFits := othersWithin other List.mem_cons_self
      cases payloads with
      | nil =>
          rw [frames_nil, List.nil_append, frames_cons, List.append_assoc,
            List.append_assoc] at same
          rw [same] at stuck
          exact absurd stuck (not_stuck_frame small otherFits _)
      | cons payload payloads =>
          rw [frames_cons, frames_cons, List.append_assoc, List.append_assoc, List.append_assoc,
            List.append_assoc] at same
          rcases frame_cancel small (within payload List.mem_cons_self) otherFits same with
            ⟨equal, rest⟩
          rcases inductionHypothesis
            (fun member listed => within member (List.mem_cons_of_mem _ listed))
            (fun member listed => othersWithin member (List.mem_cons_of_mem _ listed)) rest with
            ⟨more, split, tailed⟩
          exact ⟨more, by rw [equal, split, List.cons_append], tailed⟩

end Foundations
end QuicMix
