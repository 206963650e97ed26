import QuicMix.Foundations.Checked
import QuicMix.Foundations.Lossy
import QuicMix.Foundations.Search

namespace QuicMix
namespace Fetch

open Foundations

/-!
# Chunked bodies

`dechunk` reads the body of a response that a web server has sent.  In each round it
looks for the end of a line, reads the line as the size of a chunk, copies that many
bytes, or what there is of them, and goes on two bytes behind them.  It stops at a
size that is zero or cannot be read, and where there is no line.

The sum of a position and a size is formed before it is limited to the length of the
body.  A size close to the largest word makes it overflow.
-/

def crlf : List UInt8 := [13, 10]

theorem crlf_ne_nil : crlf ≠ [] :=
  List.cons_ne_nil _ _

/-- The size that a line announces; zero where it cannot be read. -/
def chunkSize (line : List UInt8) : Nat :=
  let size : Text := (Text.decodeLossy line).trim.takeWhile (· != ';')
  (Text.parseHex size.trim).getD 0

theorem chunkSize_lt (line : List UInt8) : chunkSize line < 2 ^ 64 := by
  rw [chunkSize]
  cases read : Text.parseHex (Text.trim _) with
  | none => exact Nat.two_pow_pos 64
  | some size => exact Text.parseHex_lt read

inductive Round where
  | stopped
  | copied (data : List UInt8) (next : Nat)
  deriving DecidableEq, Repr

/-- One round of the loop, from the given position. -/
def dechunkRound (profile : Profile) (body : Buffer UInt8) (index : Nat) :
    Except Panic Round := do
  let rest <- slice body.items index body.items.length
  match position crlf rest with
  | none => return .stopped
  | some offset =>
      let lineEnd <- addWord profile index offset
      let line <- slice body.items index lineEnd
      if chunkSize line = 0 then return .stopped
      else
        let dataStart <- addWord profile lineEnd 2
        let sum <- addWord profile dataStart (chunkSize line)
        let dataEnd := min sum body.items.length
        let data <- slice body.items dataStart dataEnd
        let next <- addWord profile dataEnd 2
        return .copied data next

/-- The loop, for a number of rounds; `none` if it has not ended by then. -/
def dechunkFrom (profile : Profile) (body : Buffer UInt8) :
    (fuel : Nat) -> (index : Nat) -> (out : List UInt8) -> Option (Except Panic (List UInt8))
  | 0, _, _ => none
  | fuel + 1, index, out =>
      if index < body.items.length then
        match dechunkRound profile body index with
        | .error panic => some (.error panic)
        | .ok .stopped => some (.ok out)
        | .ok (.copied data next) => dechunkFrom profile body fuel next (out ++ data)
      else some (.ok out)

/-- Every round but the last goes forward, so the length of the body bounds their
number. -/
def dechunk (profile : Profile) (body : Buffer UInt8) : Option (Except Panic (List UInt8)) :=
  dechunkFrom profile body (body.items.length + 1) 0 []

/-! ## The outcomes of a round -/

section Rounds

variable {profile : Profile} {body : Buffer UInt8} {before line rest : List UInt8}

/-- There is no line, or a first one. -/
theorem exists_line (bytes : List UInt8) :
    ¬ crlf <:+: bytes ∨
      exists line rest, bytes = line ++ crlf ++ rest ∧ ClearOf crlf line := by
  cases found : position crlf bytes with
  | none => exact .inl (position_eq_none.mp found)
  | some offset =>
      rcases exists_of_position crlf_ne_nil found with ⟨line, rest, split, _, clear⟩
      exact .inr ⟨line, rest, split, clear⟩

theorem slice_rest {items : List UInt8} (split : items = before ++ rest) :
    slice items before.length items.length = .ok rest := by
  refine slice_append before rest [] ?_ rfl ?_
  · rw [List.append_nil]
    exact split
  · rw [split, List.length_append]

/-- Without a line the loop stops. -/
theorem dechunkRound_unended (split : body.items = before ++ rest) (unended : ¬ crlf <:+: rest) :
    dechunkRound profile body before.length = .ok .stopped := by
  simp only [dechunkRound, slice_rest split, position_eq_none.mpr unended, bind, Except.bind, pure,
    Except.pure]

theorem length_line (split : body.items = before ++ (line ++ crlf ++ rest)) :
    before.length + line.length + 2 + rest.length = body.items.length := by
  rw [split, List.length_append, List.length_append, List.length_append]
  have two : crlf.length = 2 := rfl
  omega

theorem slice_line {items : List UInt8} (split : items = before ++ (line ++ crlf ++ rest)) :
    slice items before.length (before.length + line.length) = .ok line := by
  refine slice_append before line (crlf ++ rest) ?_ rfl rfl
  rw [split, List.append_assoc]

/-- At the end of the sizes, or at one that cannot be read, the loop stops. -/
theorem dechunkRound_zero (split : body.items = before ++ (line ++ crlf ++ rest))
    (clear : ClearOf crlf line) (zero : chunkSize line = 0) :
    dechunkRound profile body before.length = .ok .stopped := by
  have length := length_line split
  have fits := body.fits
  have found := position_append crlf_ne_nil clear rest
  have lineEnd : addWord profile before.length line.length = .ok (before.length + line.length) :=
    addWord_ok (by omega)
  simp only [dechunkRound, slice_rest split, found, lineEnd, slice_line split, zero, bind,
    Except.bind, pure, Except.pure, if_true]

/-- A chunk is copied as far as the body goes. -/
theorem dechunkRound_copied (split : body.items = before ++ (line ++ crlf ++ rest))
    (clear : ClearOf crlf line) (positive : chunkSize line ≠ 0)
    (small : before.length + line.length + 2 + chunkSize line < 2 ^ 64) :
    dechunkRound profile body before.length =
      .ok (.copied (rest.take (chunkSize line))
        (before.length + line.length + 2 + min (chunkSize line) rest.length + 2)) := by
  have length := length_line split
  have fits := body.fits
  have found := position_append crlf_ne_nil clear rest
  have lineEnd : addWord profile before.length line.length = .ok (before.length + line.length) :=
    addWord_ok (by omega)
  have dataStart : addWord profile (before.length + line.length) 2 =
      .ok (before.length + line.length + 2) := addWord_ok (by omega)
  have sum : addWord profile (before.length + line.length + 2) (chunkSize line) =
      .ok (before.length + line.length + 2 + chunkSize line) := addWord_ok small
  have dataEnd : min (before.length + line.length + 2 + chunkSize line) body.items.length =
      before.length + line.length + 2 + min (chunkSize line) rest.length := by omega
  have data : slice body.items (before.length + line.length + 2)
      (before.length + line.length + 2 + min (chunkSize line) rest.length) =
        .ok (rest.take (chunkSize line)) := by
    refine slice_append (before ++ line ++ crlf) _ (rest.drop (chunkSize line)) ?_ ?_ ?_
    · rw [split, List.take_append_drop, List.append_assoc, List.append_assoc, List.append_assoc]
    · rw [List.length_append, List.length_append]
      rfl
    · rw [List.length_append, List.length_append, List.length_take]
      rfl
  have next : addWord profile (before.length + line.length + 2 +
      min (chunkSize line) rest.length) 2 =
        .ok (before.length + line.length + 2 + min (chunkSize line) rest.length + 2) :=
    addWord_ok (by omega)
  simp only [dechunkRound, slice_rest split, found, lineEnd, slice_line split, if_neg positive,
    dataStart, sum, dataEnd, data, next, bind, Except.bind, pure, Except.pure]

/-- A size that reaches beyond the largest word stops the program, with checks at the
sum and without them at the copy. -/
theorem dechunkRound_overflow (split : body.items = before ++ (line ++ crlf ++ rest))
    (clear : ClearOf crlf line)
    (large : 2 ^ 64 <= before.length + line.length + 2 + chunkSize line) :
    exists panic, dechunkRound profile body before.length = .error panic := by
  have length := length_line split
  have fits := body.fits
  have word := chunkSize_lt line
  have found := position_append crlf_ne_nil clear rest
  have positive : chunkSize line ≠ 0 := by omega
  have lineEnd : addWord profile before.length line.length = .ok (before.length + line.length) :=
    addWord_ok (by omega)
  have dataStart : addWord profile (before.length + line.length) 2 =
      .ok (before.length + line.length + 2) := addWord_ok (by omega)
  have exceeds : ¬ before.length + line.length + 2 + chunkSize line < 2 ^ 64 :=
    Nat.not_lt.mpr large
  cases profile with
  | debug =>
      have sum : addWord .debug (before.length + line.length + 2) (chunkSize line) =
          .error .overflow := if_neg exceeds
      refine ⟨.overflow, ?_⟩
      simp only [dechunkRound, slice_rest split, found, lineEnd, slice_line split, if_neg positive,
        dataStart, sum, bind, Except.bind]
  | release =>
      have sum : addWord .release (before.length + line.length + 2) (chunkSize line) =
          .ok ((before.length + line.length + 2 + chunkSize line) % 2 ^ 64) := if_neg exceeds
      have data : slice body.items (before.length + line.length + 2)
          (min ((before.length + line.length + 2 + chunkSize line) % 2 ^ 64) body.items.length) =
            .error .range := slice_reversed (by omega)
      refine ⟨.range, ?_⟩
      simp only [dechunkRound, slice_rest split, found, lineEnd, slice_line split, if_neg positive,
        dataStart, sum, data, bind, Except.bind]

/-- A round that copies goes forward. -/
theorem dechunkRound_forward {index next : Nat} {data : List UInt8}
    (inside : index < body.items.length)
    (copied : dechunkRound profile body index = .ok (.copied data next)) : index < next := by
  have length : (body.items.take index).length = index := List.length_take_of_le (by omega)
  have split : body.items = body.items.take index ++ body.items.drop index :=
    (List.take_append_drop index body.items).symm
  rw [← length] at copied
  rcases exists_line (body.items.drop index) with unended | ⟨line, rest, lines, clear⟩
  · rw [dechunkRound_unended split unended] at copied
    cases copied
  · rw [lines] at split
    by_cases zero : chunkSize line = 0
    · rw [dechunkRound_zero split clear zero] at copied
      cases copied
    · by_cases small : (body.items.take index).length + line.length + 2 + chunkSize line < 2 ^ 64
      · rw [dechunkRound_copied split clear zero small] at copied
        cases copied
        omega
      · rcases dechunkRound_overflow split clear (Nat.not_lt.mp small) with ⟨panic, stopped⟩
        rw [stopped] at copied
        cases copied

end Rounds

/-! ## When the loop returns -/

/-- From the given position on, the bytes hold complete chunks and then a size that
reaches beyond the largest word. -/
inductive Overflowing : (start : Nat) -> (bytes : List UInt8) -> Prop where
  | here {start : Nat} (line rest : List UInt8) (clear : ClearOf crlf line)
      (large : 2 ^ 64 <= start + line.length + 2 + chunkSize line) :
      Overflowing start (line ++ crlf ++ rest)
  | later {start : Nat} (line data skipped rest : List UInt8) (clear : ClearOf crlf line)
      (positive : chunkSize line ≠ 0) (size : data.length = chunkSize line)
      (two : skipped.length = 2)
      (overflowing : Overflowing (start + line.length + 2 + data.length + 2) rest) :
      Overflowing start (line ++ crlf ++ (data ++ skipped ++ rest))

/-- The program returns, with an output that is not longer than the body, and every
round goes forward. -/
structure Returns (profile : Profile) (body : Buffer UInt8) : Prop where
  returned : exists out, dechunk profile body = some (.ok out) ∧ out.length <= body.items.length
  forward : forall index data next, index < body.items.length ->
    dechunkRound profile body index = .ok (.copied data next) -> index < next

section Loop

variable {profile : Profile} {body : Buffer UInt8}

theorem Overflowing.has_line {start : Nat} {bytes : List UInt8}
    (overflowing : Overflowing start bytes) : crlf <:+: bytes := by
  cases overflowing with
  | here line rest clear large => exact ⟨line, rest, rfl⟩
  | later line data skipped rest clear positive size two overflowing =>
      exact ⟨line, data ++ skipped ++ rest, rfl⟩

/-- The bytes of a complete chunk. -/
theorem exists_chunk {size : Nat} {bytes : List UInt8} (complete : size + 2 <= bytes.length) :
    exists data skipped rest, bytes = data ++ skipped ++ rest ∧ data.length = size ∧
      skipped.length = 2 ∧ bytes.drop (size + 2) = rest := by
  refine ⟨bytes.take size, (bytes.drop size).take 2, bytes.drop (size + 2), ?_, ?_, ?_, rfl⟩
  · rw [← List.drop_drop, List.append_assoc, List.take_append_drop, List.take_append_drop]
  · exact List.length_take_of_le (by omega)
  · rw [List.length_take, List.length_drop]
    omega

/-- The first line of the bytes decides. -/
theorem overflowing_iff {start : Nat} {line rest : List UInt8} (clear : ClearOf crlf line) :
    Overflowing start (line ++ crlf ++ rest) <->
      2 ^ 64 <= start + line.length + 2 + chunkSize line ∨
      chunkSize line ≠ 0 ∧ chunkSize line + 2 <= rest.length ∧
        Overflowing (start + line.length + 2 + chunkSize line + 2)
          (rest.drop (chunkSize line + 2)) := by
  constructor
  · intro overflowing
    generalize same : line ++ crlf ++ rest = bytes at overflowing
    cases overflowing with
    | here other after clearOther large =>
        rcases position_split_unique crlf_ne_nil clear clearOther same with ⟨rfl, rfl⟩
        exact .inl large
    | later other data skipped after clearOther positive size two later =>
        rcases position_split_unique crlf_ne_nil clear clearOther same with ⟨rfl, rfl⟩
        have cut : (data ++ skipped).length = chunkSize line + 2 := by
          rw [List.length_append, size, two]
        refine .inr ⟨positive, ?_, ?_⟩
        · rw [List.length_append, cut]
          exact Nat.le_add_right _ _
        · rw [← cut, List.drop_left, ← size]
          exact later
  · rintro (large | ⟨positive, long, later⟩)
    · exact .here line rest clear large
    · rcases exists_chunk long with ⟨data, skipped, after, split, size, two, dropped⟩
      rw [dropped, ← size] at later
      rw [split]
      exact .later line data skipped after clear positive size two later

theorem dechunkFrom_end {fuel index : Nat} (outside : body.items.length <= index)
    (out : List UInt8) : dechunkFrom profile body (fuel + 1) index out = some (.ok out) :=
  if_neg (Nat.not_lt.mpr outside)

theorem dechunkFrom_stopped {fuel index : Nat} (inside : index < body.items.length)
    (stopped : dechunkRound profile body index = .ok .stopped) (out : List UInt8) :
    dechunkFrom profile body (fuel + 1) index out = some (.ok out) := by
  simp only [dechunkFrom, if_pos inside, stopped]

/-- Bytes without the end of a line. -/
theorem dechunkFrom_unended {fuel : Nat} {before part : List UInt8}
    (split : body.items = before ++ part) (unended : ¬ crlf <:+: part) (out : List UInt8) :
    dechunkFrom profile body (fuel + 1) before.length out = some (.ok out) := by
  by_cases inside : before.length < body.items.length
  · exact dechunkFrom_stopped inside (dechunkRound_unended split unended) out
  · exact dechunkFrom_end (Nat.not_lt.mp inside) out

theorem dechunkFrom_panicked {fuel index : Nat} {panic : Panic}
    (inside : index < body.items.length)
    (panicked : dechunkRound profile body index = .error panic) (out : List UInt8) :
    dechunkFrom profile body (fuel + 1) index out = some (.error panic) := by
  simp only [dechunkFrom, if_pos inside, panicked]

theorem dechunkFrom_copied {fuel index next : Nat} {data : List UInt8}
    (inside : index < body.items.length)
    (copied : dechunkRound profile body index = .ok (.copied data next)) (out : List UInt8) :
    dechunkFrom profile body (fuel + 1) index out =
      dechunkFrom profile body fuel next (out ++ data) := by
  simp only [dechunkFrom, if_pos inside, copied]

theorem length_chunk (before line : List UInt8) {data skipped : List UInt8} {size : Nat}
    (sized : data.length = size) (two : skipped.length = 2) :
    (before ++ (line ++ crlf ++ (data ++ skipped))).length =
      before.length + line.length + 2 + size + 2 := by
  have lineEnd : crlf.length = 2 := rfl
  simp only [List.length_append, lineEnd, sized, two]
  omega

/-- A complete chunk, with the two bytes behind it. -/
theorem dechunkFrom_chunk {fuel : Nat} {before line data skipped rest : List UInt8}
    (split : body.items = before ++ (line ++ crlf ++ (data ++ skipped ++ rest)))
    (clear : ClearOf crlf line) (size : data.length = chunkSize line) (nonempty : data ≠ [])
    (two : skipped.length = 2) (small : before.length + line.length + 2 + chunkSize line < 2 ^ 64)
    (out : List UInt8) :
    dechunkFrom profile body (fuel + 1) before.length out =
      dechunkFrom profile body fuel (before ++ (line ++ crlf ++ (data ++ skipped))).length
        (out ++ data) := by
  have length := length_line split
  have positive : chunkSize line ≠ 0 := by
    rw [← size]
    exact List.length_pos_iff.mpr nonempty |>.ne'
  have taken : (data ++ skipped ++ rest).take (chunkSize line) = data := by
    rw [← size, List.append_assoc, List.take_left]
  have next : before.length + line.length + 2 +
      min (chunkSize line) (data ++ skipped ++ rest).length + 2 =
        (before ++ (line ++ crlf ++ (data ++ skipped))).length := by
    rw [length_chunk before line size two, List.append_assoc, List.length_append]
    omega
  rw [dechunkFrom_copied (by omega) (dechunkRound_copied split clear positive small), taken, next]

/-- A chunk that the body does not hold to the end. -/
theorem dechunkFrom_cut {fuel : Nat} {before line rest : List UInt8}
    (split : body.items = before ++ (line ++ crlf ++ rest)) (clear : ClearOf crlf line)
    (positive : chunkSize line ≠ 0)
    (small : before.length + line.length + 2 + chunkSize line < 2 ^ 64)
    (cut : rest.length < chunkSize line + 2) (out : List UInt8) :
    dechunkFrom profile body (fuel + 2) before.length out =
      some (.ok (out ++ rest.take (chunkSize line))) := by
  have length := length_line split
  rw [dechunkFrom_copied (by omega) (dechunkRound_copied split clear positive small)]
  exact dechunkFrom_end (by omega) _

/-- The loop from a position inside the body.  The induction is on the rounds that are
left; each of them consumes what it copies and the two bytes behind it. -/
theorem dechunkFrom_returns_iff {fuel : Nat} {before rest : List UInt8}
    (split : body.items = before ++ rest) (enough : rest.length < fuel) (out : List UInt8)
    (bound : out.length <= before.length) :
    (exists result, dechunkFrom profile body fuel before.length out = some (.ok result) ∧
      result.length <= body.items.length) <-> ¬ Overflowing before.length rest := by
  induction fuel generalizing before rest out with
  | zero => exact absurd enough (Nat.not_lt_zero _)
  | succ fuel inductionHypothesis =>
      have total : before.length + rest.length = body.items.length := by
        rw [split, List.length_append]
      have short : out.length <= body.items.length := by omega
      rcases exists_line rest with unended | ⟨line, after, rfl, clear⟩
      · have safe : ¬ Overflowing before.length rest := fun large => unended large.has_line
        exact iff_of_true ⟨out, dechunkFrom_unended split unended out, short⟩ safe
      · have length := length_line split
        have inside : before.length < body.items.length := by omega
        rw [overflowing_iff clear]
        by_cases large : 2 ^ 64 <= before.length + line.length + 2 + chunkSize line
        · refine iff_of_false ?_ (fun safe => safe (.inl large))
          rintro ⟨result, returned, _⟩
          rcases dechunkRound_overflow split clear large with ⟨panic, panicked⟩
          rw [dechunkFrom_panicked inside panicked] at returned
          cases returned
        · by_cases zero : chunkSize line = 0
          · refine iff_of_true ⟨out, ?_, short⟩ ?_
            · exact dechunkFrom_stopped inside (dechunkRound_zero split clear zero) out
            · rintro (beyond | ⟨positive, _⟩)
              · exact large beyond
              · exact positive zero
          · have small := Nat.not_le.mp large
            by_cases complete : chunkSize line + 2 <= after.length
            · rcases exists_chunk complete with ⟨data, skipped, later, rfl, size, two, dropped⟩
              have nonempty : data ≠ [] := by
                intro empty
                rw [empty] at size
                exact zero size.symm
              have resplit : body.items =
                  before ++ (line ++ crlf ++ (data ++ skipped)) ++ later := by
                simp only [split, List.append_assoc]
              have consumed := length_chunk before line size two
              have remaining : (data ++ skipped ++ later).length =
                  chunkSize line + 2 + later.length := by
                simp only [List.length_append, size, two]
              have copied := inductionHypothesis resplit (by omega) (out ++ data)
                (by rw [List.length_append, size]; omega)
              rw [dechunkFrom_chunk split clear size nonempty two small, copied, dropped, consumed,
                or_iff_right large, and_iff_right zero, and_iff_right complete]
            · refine iff_of_true ⟨out ++ after.take (chunkSize line), ?_, ?_⟩ ?_
              · cases fuel with
                | zero => omega
                | succ fuel =>
                    exact dechunkFrom_cut split clear zero small (Nat.not_le.mp complete) out
              · rw [List.length_append, List.length_take]
                omega
              · rintro (beyond | ⟨_, long, _⟩)
                · exact large beyond
                · exact complete long

/-- Chunked bodies.  The program returns if and only if it does not meet a size that
reaches beyond the largest word. -/
theorem dechunk_returns_iff (profile : Profile) (body : Buffer UInt8) :
    Returns profile body <-> ¬ Overflowing 0 body.items := by
  have loop := @dechunkFrom_returns_iff profile body (body.items.length + 1) [] body.items rfl
    (Nat.lt_succ_self _) [] (Nat.le_refl 0)
  constructor
  · intro returns
    exact loop.mp returns.returned
  · intro safe
    exact ⟨loop.mpr safe, fun index data next inside copied =>
      dechunkRound_forward inside copied⟩

end Loop

/-- A body that announces the largest size, `ffffffffffffffff`. -/
def largestSize : Buffer UInt8 :=
  ⟨List.replicate 16 102 ++ crlf, by decide⟩

theorem dechunk_largestSize :
    dechunk .debug largestSize = some (.error .overflow) ∧
      dechunk .release largestSize = some (.error .range) ∧
      forall profile, ¬ Returns profile largestSize := by
  refine ⟨rfl, rfl, ?_⟩
  intro profile returns
  rcases returns.returned with ⟨out, returned, _⟩
  cases profile <;> cases returned

end Fetch
end QuicMix
