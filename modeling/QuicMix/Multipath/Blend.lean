import QuicMix.Oracle.Transport
import Mathlib.Algebra.BigOperators.Group.List.Basic
import Mathlib.Algebra.Order.BigOperators.Group.List
import Mathlib.Algebra.Order.Field.Rat
import Mathlib.Data.List.Perm.Basic
import Mathlib.Data.List.Permutation
import Mathlib.Tactic.FieldSimp
import Mathlib.Tactic.NormNum
import Mathlib.Tactic.Positivity

namespace QuicMix
namespace Multipath

open Foundations
open Boundary
open Oracle

/-!
# The oracle of a striped path

`blend` makes one oracle of the oracles of several substrates.  The rates add up,
the delay is that of the longest path and the drop probability is the mean.  A
substrate without a rate limit counts for a fixed rate.  The size of a cell is
that of the first substrate.

Rates are exact here, where the code has floating point, and the slot that comes
of them is rounded to nanoseconds as `from_secs_f64` does.  Drop probabilities are
doubles, and their mean is computed in double precision, so that it may depend on
the order in which they are added.
-/

/-- Bytes in a second. -/
def pathRate (params : OracleParams) : Rat :=
  if params.slotInterval = 0 then giga else params.mtu / (params.slotInterval / giga)

/-- The variables of the loop. -/
structure Totals where
  rate : Rat
  maxPath : Duration
  dropSum : Rat
  deriving DecidableEq, Repr

/-- One round of the loop. -/
def Totals.add (totals : Totals) (params : OracleParams) : Option Totals :=
  (times params.meanHopDelay params.hops).map (fun path =>
    ⟨totals.rate + pathRate params, max totals.maxPath path,
      toDouble (totals.dropSum + params.dropProb)⟩)

def totalsFrom (totals : Option Totals) (subs : List OracleParams) : Option Totals :=
  subs.foldl (fun totals params => totals.bind (·.add params)) totals

/-- A sum over so many substrates, divided by their number. -/
def meanOf (count : Nat) (sum : Rat) : Rat :=
  toDouble (sum / toDouble count)

/-- The oracle of a striped path; `none` stands for a panic. -/
def blend (subs : List OracleParams) : Option OracleParams :=
  match subs with
  | [] => some ⟨1, 0, 0, 0, 1200⟩
  | first :: _ =>
      (totalsFrom (some ⟨0, 0, 0⟩) subs).bind (fun totals =>
        (if 0 < totals.rate then fromSecs (first.mtu / totals.rate) else some 0).map (fun slot =>
          ⟨1, totals.maxPath, meanOf subs.length totals.dropSum, slot, first.mtu⟩))

/-! ## What the oracle should be -/

/-- The blended oracle is sound for whichever path is picked: it does not depend
on the order of the substrates, a cell of it fits every path, its round-trip
time is as long as any, and it is the oracle of a single substrate. -/
structure Sound (subs : List OracleParams) (blended : OracleParams) : Prop where
  order : forall other : List OracleParams, other.Perm subs -> blend other = some blended
  mtu : forall params, params ∈ subs -> blended.mtu <= params.mtu
  rtt : forall params, params ∈ subs ->
    exists own whole, params.rtt = some own ∧ blended.rtt = some whole ∧ own <= whole
  single : forall params, subs = [params] ->
    blended.mtu = params.mtu ∧ blended.rtt = params.rtt ∧ blended.dropProb = params.dropProb ∧
      blended.slotInterval = params.slotInterval

/-- The fields are within the types of the source. -/
structure Typed (params : OracleParams) : Prop where
  hops : params.hops < 2 ^ 32
  meanHopDelay : params.meanHopDelay < durationLimit
  dropProb : toDouble params.dropProb = params.dropProb
  slotInterval : params.slotInterval < durationLimit
  mtu : params.mtu < 2 ^ 64

/-! ## The loop -/

/-- One way over a path. -/
def path (params : OracleParams) : Nat :=
  params.meanHopDelay * params.hops

/-- The longest way over one of the paths, or one that is given. -/
def longest (least : Nat) (subs : List OracleParams) : Nat :=
  subs.foldl (fun most params => max most (path params)) least

theorem rtt_eq_some_iff (params : OracleParams) (own : Duration) :
    params.rtt = some own <-> path params * 2 < durationLimit ∧ own = path params * 2 := by
  rw [OracleParams.rtt, Option.bind_eq_bind, Option.bind_eq_some_iff]
  constructor
  · rintro ⟨oneWay, first, second⟩
    rcases (times_eq_some_iff _ _ _).mp first with ⟨_, rfl⟩
    exact (times_eq_some_iff _ _ _).mp second
  · rintro ⟨fits, same⟩
    refine ⟨path params, times_eq ?_, (times_eq_some_iff _ _ _).mpr ⟨fits, same⟩⟩
    exact Nat.lt_of_le_of_lt (Nat.le_mul_of_pos_right _ (by decide)) fits

/-- The mean of the drop probabilities, in the order of the substrates. -/
def dropMean (subs : List OracleParams) : Rat :=
  meanOf subs.length (sumDouble (subs.map OracleParams.dropProb))

/-- The cells of all paths have one size, a single substrate has a rate limit if
its cells hold anything and only then, no round trip overflows, and the drop
probabilities have one mean in double precision, however they are ordered. -/
structure Uniform (subs : List OracleParams) : Prop where
  mtu : forall first second, first ∈ subs -> second ∈ subs -> first.mtu = second.mtu
  single : forall params, subs = [params] -> (params.slotInterval = 0 <-> params.mtu = 0)
  rtt : forall params, params ∈ subs -> path params * 2 < durationLimit
  drops : forall other : List OracleParams, other.Perm subs -> dropMean other = dropMean subs

/-- Equal drop probabilities have one mean. -/
theorem drops_of_equal {subs : List OracleParams} {probability : Rat}
    (equal : forall params, params ∈ subs -> params.dropProb = probability)
    (other : List OracleParams) (perm : other.Perm subs) : dropMean other = dropMean subs := by
  have repeated : forall list : List OracleParams, list.Perm subs ->
      list.map OracleParams.dropProb = List.replicate subs.length probability := by
    intro list same
    rw [← same.length_eq, List.map_eq_replicate_iff]
    exact fun params member => equal params (same.mem_iff.mp member)
  rw [dropMean, dropMean, repeated other perm, repeated subs (List.Perm.refl subs),
    perm.length_eq]

/-- So have two drop probabilities, because one rounded addition commutes. -/
theorem drops_of_pair {first second : OracleParams} (typed : Typed first ∧ Typed second)
    (other : List OracleParams) (perm : other.Perm [first, second]) :
    dropMean other = dropMean [first, second] := by
  rcases List.perm_pair.mp perm with rfl | rfl
  · rfl
  · simp only [dropMean, List.map_cons, List.map_nil, sumDouble, List.foldl_cons, List.foldl_nil,
      zero_add, typed.1.dropProb, typed.2.dropProb]
    rw [add_comm]
    rfl

/-- Drop probabilities that are multiples of one power of two, with a sum of 53
bits, have one mean. -/
theorem drops_of_multiples {exponent : Int} (normal : -1074 <= exponent)
    (multiple : OracleParams -> Nat) {subs : List OracleParams}
    (multiples : forall params, params ∈ subs ->
      params.dropProb = multiple params * (2 : Rat) ^ exponent)
    (short : (subs.map multiple).sum <= 2 ^ 53) (other : List OracleParams)
    (perm : other.Perm subs) : dropMean other = dropMean subs := by
  have added : forall list : List OracleParams, list.Perm subs ->
      sumDouble (list.map OracleParams.dropProb) =
        ((subs.map multiple).sum : Nat) * (2 : Rat) ^ exponent := by
    intro list same
    have sums : (list.map multiple).sum = (subs.map multiple).sum := (same.map multiple).sum_eq
    have each : list.map OracleParams.dropProb =
        (list.map multiple).map (fun value : Nat => value * (2 : Rat) ^ exponent) := by
      rw [List.map_map]
      exact List.map_congr_left (fun params member => multiples params (same.mem_iff.mp member))
    rw [each, sumDouble_eq normal (sums.trans_le short), sums]
  rw [dropMean, dropMean, added other perm, added subs (List.Perm.refl subs), perm.length_eq]

/-- A path that is paced at one cell in ten milliseconds. -/
def pacedPath (mtu : Nat) : OracleParams :=
  ⟨3, 5000000, 0, 10000000, mtu⟩

/-- Three paths that differ in the drop probability only: one, two and three tenths. -/
def lossyPath (tenths : Rat) : OracleParams :=
  { pacedPath 1200 with dropProb := toDouble (tenths / 10) }

/-- The last place of the blended drop probability depends on the order. -/
theorem not_uniform_tenths : ¬ Uniform [lossyPath 1, lossyPath 2, lossyPath 3] := by
  intro uniform
  have turned : [lossyPath 3, lossyPath 2, lossyPath 1].Perm
      [lossyPath 1, lossyPath 2, lossyPath 3] := List.reverse_perm [lossyPath 1, _, _]
  have same := uniform.drops _ turned
  exact absurd same (by decide +kernel)

end Multipath
end QuicMix
