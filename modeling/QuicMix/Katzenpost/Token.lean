import QuicMix.Foundations.Lists
import QuicMix.Foundations.Mixing
import QuicMix.Foundations.Schedule
import Mathlib.Data.List.Nodup

namespace QuicMix
namespace Katzenpost

open Foundations

/-!
# Session tokens and reply identifiers

`instance_token` makes the token under which a daemon knows a client's session
and the identifiers of reply blocks.  It takes two values of one static counter,
mixes each of them, and writes the two results out.  Calls of one process run
concurrently, so the fetches of different calls interleave in any order; a
schedule says which call makes the next fetch.

Where in the sequence of fetches a call makes its own is all that its token
depends on.  Within a process this makes the tokens different.  The counter
starts at the same value in every process, so between processes it is also what
makes them equal.
-/

/-- The value with which the counter is initialised. -/
def counterStart : BitVec 64 := 0xA5A55A5A12349E37

def increment : BitVec 64 := 0x9E3779B97F4A7C15

def multiplier : BitVec 64 := 0xBF58476D1CE4E5B9

/-- The mixing of one fetched value. -/
def mix (word : BitVec 64) : BitVec 64 :=
  let shifted := word ^^^ word >>> 30
  let multiplied := shifted * multiplier
  multiplied ^^^ multiplied >>> 27

abbrev Chunk := List (BitVec 8)

/-- The eight bytes that are written for a fetched value. -/
def chunkOf (word : BitVec 64) : Chunk :=
  littleEndian 8 (mix word)

/-- The number of chunks of eight bytes in a token. -/
def tokenChunks : Nat := 2

/-- A process: its counter, and for each call that has been made the chunks
written so far.  The record says which call made each of the fetches, in order;
nothing reads it. -/
structure Process where
  counter : BitVec 64
  calls : List (List Chunk)
  fetched : List Nat
  deriving DecidableEq, Repr

inductive Action where
  | call
  | fetch (call : Nat)
  deriving DecidableEq, Repr

namespace Process

def start : Process where
  counter := counterStart
  calls := []
  fetched := []

/-- A call begins, or a call goes once through its loop. -/
def step (process : Process) : Action -> Option Process
  | .call => some { process with calls := process.calls ++ [[]] }
  | .fetch call =>
      match process.calls[call]? with
      | none => none
      | some chunks =>
          if chunks.length < tokenChunks then
            some
              { counter := process.counter + increment
                calls := process.calls.set call (chunks ++ [chunkOf process.counter])
                fetched := process.fetched ++ [call] }
          else none

/-- The tokens that have been returned, in the order in which their calls were
made. -/
def tokens (process : Process) : List (List (BitVec 8)) :=
  (process.calls.filter (fun chunks => chunks.length == tokenChunks)).map List.flatten

/-- The chunks that have been written, by whichever call. -/
def halves (process : Process) : List Chunk :=
  process.calls.flatten

end Process

/-- Which call makes the fetch, for a fetch. -/
def Action.fetches : Action -> Option Nat
  | .call => none
  | .fetch caller => some caller

/-- The positions in a sequence of fetches at which a call made its own. -/
def positions (fetched : List Nat) (call : Nat) : List Nat :=
  (List.range fetched.length).filter (fun position => fetched[position]? == some call)

/-- The positions at which a schedule makes the fetches of a call. -/
def fetchPositions (schedule : List Action) (call : Nat) : List Nat :=
  positions (schedule.filterMap Action.fetches) call

/-! ## Mixing -/

theorem mix_injective : Function.Injective mix := by
  have unit : multiplier * 0x96de1b173f119089 = 1#64 := by decide
  intro left right same
  have shifted := xor_shiftRight_injective (by decide) same
  have multiplied := mul_unit_injective unit shifted
  exact xor_shiftRight_injective (by decide) multiplied

theorem chunkOf_injective : Function.Injective chunkOf := by
  intro left right same
  exact mix_injective (littleEndian_injective same)

/-- The chunk written for the fetch at a position. -/
def chunkAt (position : Nat) : Chunk :=
  chunkOf (advance counterStart increment position)

theorem chunkAt_eq_iff {first second : Nat} :
    chunkAt first = chunkAt second <-> first % 2 ^ 64 = second % 2 ^ 64 := by
  have unit : increment * 0xf1de83e19937733d = 1#64 := by decide
  constructor
  · intro same
    exact (advance_eq_iff unit).mp (chunkOf_injective same)
  · intro same
    rw [chunkAt, chunkAt, (advance_eq_iff unit).mpr same]

theorem length_chunkAt (position : Nat) : (chunkAt position).length = 8 :=
  length_littleEndian _

/-! ## Positions -/

theorem mem_positions {fetched : List Nat} {call position : Nat} :
    position ∈ positions fetched call <-> fetched[position]? = some call := by
  simp only [positions, List.mem_filter, List.mem_range, beq_iff_eq]
  constructor
  · intro member
    exact member.2
  · intro made
    exact ⟨(List.getElem?_eq_some_iff.mp made).1, made⟩

theorem nodup_positions (fetched : List Nat) (call : Nat) : (positions fetched call).Nodup :=
  List.nodup_range.filter _

theorem positions_append_singleton (fetched : List Nat) (made call : Nat) :
    positions (fetched ++ [made]) call =
      positions fetched call ++ if made = call then [fetched.length] else [] := by
  unfold positions
  rw [List.length_append, List.length_singleton, List.range_succ, List.filter_append]
  congr 1
  · apply List.filter_congr
    intro position member
    rw [List.getElem?_append_left (List.mem_range.mp member)]
  · rw [List.filter_singleton, List.getElem?_concat_length]
    by_cases same : made = call
    · subst same
      rw [if_pos rfl, beq_self_eq_true, cond_true]
    · rw [if_neg same, beq_eq_false_iff_ne.mpr (fun equal => same (Option.some.inj equal)),
        cond_false]

/-! ## Chunks of one length -/

theorem length_flatten_le {limit : Nat} {calls : List (List Chunk)}
    (short : forall chunks, chunks ∈ calls -> chunks.length <= limit) :
    calls.flatten.length <= limit * calls.length := by
  induction calls with
  | nil => exact Nat.le_refl _
  | cons chunks rest inductionHypothesis =>
      have first := short chunks List.mem_cons_self
      have others := inductionHypothesis (fun other member =>
        short other (List.mem_cons_of_mem _ member))
      rw [List.flatten_cons, List.length_append, List.length_cons, Nat.mul_succ]
      omega

theorem length_flatten_of_length {chunks : List Chunk}
    (whole : forall chunk, chunk ∈ chunks -> chunk.length = 8) :
    chunks.flatten.length = 8 * chunks.length := by
  induction chunks with
  | nil => rfl
  | cons chunk rest inductionHypothesis =>
      rw [List.flatten_cons, List.length_append, List.length_cons, whole chunk List.mem_cons_self,
        inductionHypothesis (fun other member => whole other (List.mem_cons_of_mem _ member))]
      omega

/-- Bytes can be cut into chunks of one length in one way only. -/
theorem flatten_inj_of_length {first second : List Chunk}
    (whole : forall chunk, chunk ∈ first -> chunk.length = 8)
    (wholeSecond : forall chunk, chunk ∈ second -> chunk.length = 8)
    (complete : first.length = second.length) (same : first.flatten = second.flatten) :
    first = second := by
  induction first generalizing second with
  | nil => exact (List.length_eq_zero_iff.mp complete.symm).symm
  | cons chunk rest inductionHypothesis =>
      cases second with
      | nil => cases complete
      | cons other others =>
          rw [List.flatten_cons, List.flatten_cons] at same
          have sized := (whole chunk List.mem_cons_self).trans
            (wholeSecond other List.mem_cons_self).symm
          have parts := List.append_inj same sized
          have equal := inductionHypothesis
            (fun part member => whole part (List.mem_cons_of_mem _ member))
            (fun part member => wholeSecond part (List.mem_cons_of_mem _ member))
            (Nat.succ.inj complete) parts.2
          rw [parts.1, equal]

/-! ## Every schedule -/

namespace Process

/-- The counter has been advanced once for each fetch, and a call has written
the chunks of the positions at which it fetched. -/
structure Positioned (process : Process) : Prop where
  counter : process.counter = advance counterStart increment process.fetched.length
  known : forall call, call ∈ process.fetched -> call < process.calls.length
  written : forall call chunks, process.calls[call]? = some chunks ->
    chunks = (positions process.fetched call).map chunkAt
  short : forall chunks, chunks ∈ process.calls -> chunks.length <= tokenChunks
  counted : process.halves.length = process.fetched.length

theorem positioned_start : Positioned start where
  counter := (advance_zero _ _).symm
  known := by
    intro call member
    exact absurd member List.not_mem_nil
  written := by
    intro call chunks located
    cases located
  short := by
    intro chunks member
    exact absurd member List.not_mem_nil
  counted := rfl

/-- A call that has only begun has not fetched. -/
theorem Positioned.call {process : Process} (sound : Positioned process) :
    Positioned { process with calls := process.calls ++ [[]] } where
  counter := sound.counter
  known := by
    intro call member
    rw [List.length_append]
    exact Nat.lt_add_right _ (sound.known call member)
  written := by
    intro call chunks located
    change (process.calls ++ [[]])[call]? = some chunks at located
    by_cases old : call < process.calls.length
    · rw [List.getElem?_append_left old] at located
      exact sound.written call chunks located
    · have none : positions process.fetched call = [] := by
        apply List.eq_nil_iff_forall_not_mem.mpr
        intro position member
        exact old (sound.known call (List.mem_of_getElem? (mem_positions.mp member)))
      rw [List.getElem?_append_right (Nat.not_lt.mp old)] at located
      have begun := List.mem_of_getElem? located
      rw [List.mem_singleton] at begun
      rw [begun, none, List.map_nil]
  short := by
    intro chunks member
    rcases List.mem_append.mp member with old | new
    · exact sound.short chunks old
    · rw [List.mem_singleton] at new
      subst new
      exact Nat.zero_le _
  counted := by
    change (process.calls ++ [[]]).flatten.length = process.fetched.length
    rw [List.flatten_append, List.flatten_singleton, List.append_nil]
    exact sound.counted

/-- A fetch writes the chunk of the position that it takes. -/
theorem Positioned.fetch {process : Process} (sound : Positioned process) {made : Nat}
    {chunks : List Chunk} (located : process.calls[made]? = some chunks)
    (room : chunks.length < tokenChunks) :
    Positioned
      { counter := process.counter + increment
        calls := process.calls.set made (chunks ++ [chunkOf process.counter])
        fetched := process.fetched ++ [made] } where
  counter := by
    rw [List.length_append, List.length_singleton, advance_succ, ← sound.counter]
  known := by
    intro call member
    rw [List.length_set]
    rcases List.mem_append.mp member with old | new
    · exact sound.known call old
    · rw [List.mem_singleton] at new
      subst new
      exact (List.getElem?_eq_some_iff.mp located).1
  written := by
    intro call result found
    have chunk : chunkOf process.counter = chunkAt process.fetched.length := by
      rw [sound.counter, chunkAt]
    rw [positions_append_singleton]
    by_cases same : made = call
    · subst same
      rw [List.getElem?_set_self (List.getElem?_eq_some_iff.mp located).1,
        Option.some.injEq] at found
      rw [if_pos rfl, List.map_append, List.map_singleton, ← sound.written made chunks located,
        ← chunk, found]
    · rw [List.getElem?_set_ne same] at found
      rw [if_neg same, List.append_nil]
      exact sound.written call result found
  short := by
    intro result member
    rcases List.mem_or_eq_of_mem_set member with old | new
    · exact sound.short result old
    · rw [new, List.length_append, List.length_singleton]
      exact room
  counted := by
    have before := sound.counted
    rcases split_at located with ⟨early, late, split, written, _⟩
    simp only [halves, split, List.flatten_append, List.flatten_cons,
      List.length_append] at before
    simp only [halves, written, List.flatten_append, List.flatten_cons, List.length_append,
      List.length_singleton]
    omega

/-- What a move can do. -/
theorem step_cases {process next : Process} {action : Action}
    (stepped : process.step action = some next) :
    (action = .call ∧ next = { process with calls := process.calls ++ [[]] }) ∨
    (exists made chunks, action = .fetch made ∧ process.calls[made]? = some chunks ∧
      chunks.length < tokenChunks ∧
      next =
        { counter := process.counter + increment
          calls := process.calls.set made (chunks ++ [chunkOf process.counter])
          fetched := process.fetched ++ [made] }) := by
  cases action with
  | call =>
      cases stepped
      exact .inl ⟨rfl, rfl⟩
  | fetch made =>
      right
      simp only [Process.step] at stepped
      split at stepped
      · cases stepped
      · rename_i chunks located
        split at stepped
        · rename_i room
          exact ⟨made, chunks, rfl, located, room, (Option.some.inj stepped).symm⟩
        · cases stepped

theorem Positioned.step {process next : Process} {action : Action} (sound : Positioned process)
    (stepped : process.step action = some next) : Positioned next := by
  rcases step_cases stepped with ⟨_, rfl⟩ | ⟨made, chunks, _, located, room, rfl⟩
  · exact sound.call
  · exact sound.fetch located room

theorem positioned_of_run {schedule : List Action} {process : Process}
    (ran : run Process.step start schedule = some process) : Positioned process :=
  invariant Positioned (fun _ _ _ sound stepped => sound.step stepped) positioned_start ran

theorem fetched_step {process next : Process} {action : Action}
    (stepped : process.step action = some next) :
    next.fetched = process.fetched ++ action.fetches.toList ∧
      next.calls.length = process.calls.length + if action == .call then 1 else 0 := by
  rcases step_cases stepped with ⟨rfl, rfl⟩ | ⟨made, chunks, rfl, _, _, rfl⟩
  · exact ⟨(List.append_nil _).symm, List.length_append⟩
  · exact ⟨rfl, List.length_set⟩

theorem fetched_of_run {schedule : List Action} {process : Process}
    (ran : run Process.step start schedule = some process) :
    process.fetched = schedule.filterMap Action.fetches :=
  record_of_run Process.fetched Action.fetches
    (fun _ _ _ stepped => (fetched_step stepped).1) ran

theorem length_calls_of_run {schedule : List Action} {process : Process}
    (ran : run Process.step start schedule = some process) :
    process.calls.length = schedule.countP (· == .call) := by
  have counted := counter_of_run (fun _ => True) (fun process => process.calls.length)
    (· == Action.call) (fun _ _ _ _ _ => trivial)
    (fun _ _ _ _ stepped => (fetched_step stepped).2) trivial ran
  rw [counted]
  exact Nat.zero_add _

/-- Each call takes at most two values of the counter. -/
theorem Positioned.length_fetched_le {process : Process} (sound : Positioned process) :
    process.fetched.length <= tokenChunks * process.calls.length := by
  rw [← sound.counted]
  exact length_flatten_le sound.short

/-- Among fewer than `2 ^ 64` fetches no two write the same chunk. -/
theorem Positioned.chunkAt_inj {process : Process} (sound : Positioned process)
    (few : process.calls.length < 2 ^ 63) {first second : Nat}
    (made : first < process.fetched.length) (madeSecond : second < process.fetched.length)
    (same : chunkAt first = chunkAt second) : first = second := by
  have bound := sound.length_fetched_le
  have count := chunkAt_eq_iff.mp same
  simp only [tokenChunks] at bound
  rw [Nat.mod_eq_of_lt (by omega), Nat.mod_eq_of_lt (by omega)] at count
  exact count

theorem nodup_halves {process : Process} (sound : Positioned process)
    (few : process.calls.length < 2 ^ 63) : process.halves.Nodup := by
  have made : forall call position, position ∈ positions process.fetched call ->
      position < process.fetched.length := by
    intro call position member
    exact (List.getElem?_eq_some_iff.mp (mem_positions.mp member)).1
  apply List.nodup_flatten.mpr
  constructor
  · intro chunks member
    rcases List.getElem?_of_mem member with ⟨call, located⟩
    rw [sound.written call chunks located]
    refine List.Nodup.map_on ?_ (nodup_positions _ _)
    intro first member second memberSecond same
    exact sound.chunkAt_inj few (made call first member) (made call second memberSecond) same
  · apply List.pairwise_iff_getElem.mpr
    intro call other inside insideOther before chunk member memberOther
    rw [sound.written call _ (List.getElem?_eq_getElem inside)] at member
    rw [sound.written other _ (List.getElem?_eq_getElem insideOther)] at memberOther
    rcases List.mem_map.mp member with ⟨first, taken, wrote⟩
    rcases List.mem_map.mp memberOther with ⟨second, takenOther, wroteOther⟩
    have same := sound.chunkAt_inj few (made call first taken) (made other second takenOther)
      (wrote.trans wroteOther.symm)
    subst same
    have equal := (mem_positions.mp taken).symm.trans (mem_positions.mp takenOther)
    exact Nat.ne_of_lt before (Option.some.inj equal)

theorem Positioned.length_of_mem {process : Process} (sound : Positioned process)
    {chunks : List Chunk} (member : chunks ∈ process.calls) {chunk : Chunk}
    (part : chunk ∈ chunks) : chunk.length = 8 := by
  rcases List.getElem?_of_mem member with ⟨call, located⟩
  rw [sound.written call chunks located] at part
  rcases List.mem_map.mp part with ⟨position, _, wrote⟩
  rw [← wrote]
  exact length_chunkAt position

theorem mem_tokens {process : Process} {token : List (BitVec 8)} :
    token ∈ process.tokens <->
      exists chunks, chunks ∈ process.calls ∧ chunks.length = tokenChunks ∧
        chunks.flatten = token := by
  simp only [tokens, List.mem_map, List.mem_filter, beq_iff_eq, and_assoc]

/-- A token determines the chunks of which it is made. -/
theorem Positioned.chunks_of_token {left right : Process} (soundLeft : Positioned left)
    (soundRight : Positioned right) {first second : List Chunk} (member : first ∈ left.calls)
    (memberSecond : second ∈ right.calls) (complete : first.length = second.length)
    (same : first.flatten = second.flatten) : first = second :=
  flatten_inj_of_length (fun _ part => soundLeft.length_of_mem member part)
    (fun _ part => soundRight.length_of_mem memberSecond part) complete same

/-- Within a process, as long as fewer than `2 ^ 63` calls are made, no eight
bytes are ever written twice, and no two of the tokens, each of sixteen bytes,
are equal. -/
theorem tokens_distinct (schedule : List Action) (process : Process)
    (ran : run Process.step start schedule = some process)
    (few : schedule.countP (· == .call) < 2 ^ 63) :
    process.halves.Nodup ∧ process.tokens.Nodup ∧
      forall token, token ∈ process.tokens -> token.length = 16 := by
  have sound := positioned_of_run ran
  rw [← length_calls_of_run ran] at few
  have distinct := nodup_halves sound few
  refine ⟨distinct, ?_, ?_⟩
  · have apart := (List.nodup_flatten.mp distinct).2
    apply List.pairwise_map.mpr
    refine (apart.filter _).imp_of_mem ?_
    intro first second member memberSecond disjoint same
    rw [List.mem_filter, beq_iff_eq] at member memberSecond
    have equal := sound.chunks_of_token sound member.1 memberSecond.1
      (member.2.trans memberSecond.2.symm) same
    subst equal
    cases first with
    | nil => exact absurd member.2 (by decide)
    | cons chunk rest => exact disjoint List.mem_cons_self List.mem_cons_self
  · intro token member
    rcases mem_tokens.mp member with ⟨chunks, made, complete, wrote⟩
    rw [← wrote, length_flatten_of_length (fun _ part => sound.length_of_mem made part), complete]
    rfl

/-- Two calls whose fetches interleave. -/
def interleaved : List Action := [.call, .fetch 0, .call, .fetch 1, .fetch 1, .fetch 0]

theorem tokens_distinct_interleaved :
    exists process, run Process.step start interleaved = some process ∧
      process.tokens.length = 2 ∧ process.tokens.Nodup :=
  ⟨_, rfl, rfl, (tokens_distinct interleaved _ rfl (by decide)).2.1⟩

/-! ## Two processes -/

theorem map_chunkAt_eq_iff {first second : List Nat} :
    first.map chunkAt = second.map chunkAt <->
      first.map (· % 2 ^ 64) = second.map (· % 2 ^ 64) := by
  induction first generalizing second with
  | nil => simp only [List.map_nil, List.nil_eq, List.map_eq_nil_iff]
  | cons position rest inductionHypothesis =>
      cases second with
      | nil => simp only [List.map_cons, List.map_nil, reduceCtorEq]
      | cons other others =>
          simp only [List.map_cons, List.cons.injEq, chunkAt_eq_iff, inductionHypothesis]

/-- A call has returned a token if and only if it has made both its fetches. -/
theorem mem_tokens_of_run {schedule : List Action} {process : Process}
    (ran : run Process.step start schedule = some process) {token : List (BitVec 8)} :
    token ∈ process.tokens <->
      exists call, (fetchPositions schedule call).length = tokenChunks ∧
        ((fetchPositions schedule call).map chunkAt).flatten = token := by
  have sound := positioned_of_run ran
  have written := sound.written
  rw [fetched_of_run ran] at written
  rw [mem_tokens]
  constructor
  · intro returned
    rcases returned with ⟨chunks, member, complete, wrote⟩
    rcases List.getElem?_of_mem member with ⟨call, located⟩
    rw [written call chunks located] at complete wrote
    rw [List.length_map] at complete
    exact ⟨call, complete, wrote⟩
  · intro fetched
    rcases fetched with ⟨call, complete, wrote⟩
    have made : call ∈ process.fetched := by
      rw [fetched_of_run ran]
      cases taken : fetchPositions schedule call with
      | nil =>
          rw [taken] at complete
          cases complete
      | cons position rest =>
          have member : position ∈ fetchPositions schedule call := by
            rw [taken]
            exact List.mem_cons_self
          exact List.mem_of_getElem? (mem_positions.mp member)
    have located := List.getElem?_eq_getElem (sound.known call made)
    have chunks := written call _ located
    refine ⟨_, List.mem_of_getElem? located, ?_, ?_⟩
    · rw [chunks, List.length_map]
      exact complete
    · rw [chunks]
      exact wrote

/-- Two processes have a token in common if and only if a call of one and a
call of the other have returned that made their fetches at the same positions,
modulo `2 ^ 64`, each in the sequence of its own process. -/
theorem tokens_disjoint_iff (first second : List Action) (left right : Process)
    (ranLeft : run Process.step start first = some left)
    (ranRight : run Process.step start second = some right) :
    (forall token, ¬ (token ∈ left.tokens ∧ token ∈ right.tokens)) <->
      forall call other, ¬ ((fetchPositions first call).length = tokenChunks ∧
        (fetchPositions first call).map (· % 2 ^ 64) =
          (fetchPositions second other).map (· % 2 ^ 64)) := by
  constructor
  · intro disjoint call other clash
    rcases clash with ⟨complete, same⟩
    apply disjoint ((fetchPositions first call).map chunkAt).flatten
    constructor
    · exact (mem_tokens_of_run ranLeft).mpr ⟨call, complete, rfl⟩
    · refine (mem_tokens_of_run ranRight).mpr ⟨other, ?_, ?_⟩
      · have sized := congrArg List.length same
        rw [List.length_map, List.length_map] at sized
        exact sized.symm.trans complete
      · rw [map_chunkAt_eq_iff.mpr same]
  · intro apart token shared
    rcases (mem_tokens_of_run ranLeft).mp shared.1 with ⟨call, complete, wrote⟩
    rcases (mem_tokens_of_run ranRight).mp shared.2 with ⟨other, completeOther, wroteOther⟩
    apply apart call other
    refine ⟨complete, map_chunkAt_eq_iff.mp ?_⟩
    have whole : forall taken : List Nat, forall chunk, chunk ∈ taken.map chunkAt ->
        chunk.length = 8 := by
      intro taken chunk member
      rcases List.mem_map.mp member with ⟨position, _, same⟩
      rw [← same]
      exact length_chunkAt position
    apply flatten_inj_of_length (whole _) (whole _)
    · rw [List.length_map, List.length_map, complete, completeOther]
    · exact wrote.trans wroteOther.symm

/-- One call after another, and two calls whose fetches alternate: the second
process fetches nowhere twice in a row for one call. -/
theorem tokens_disjoint_iff_alternating :
    exists left right,
      run Process.step start [.call, .fetch 0, .fetch 0] = some left ∧
      run Process.step start [.call, .call, .fetch 0, .fetch 1, .fetch 0, .fetch 1] = some right ∧
      left.tokens.length = 1 ∧ right.tokens.length = 2 ∧
      forall token, ¬ (token ∈ left.tokens ∧ token ∈ right.tokens) := by
  refine ⟨_, _, rfl, rfl, rfl, rfl, (tokens_disjoint_iff
    [.call, .fetch 0, .fetch 0] [.call, .call, .fetch 0, .fetch 1, .fetch 0, .fetch 1]
    _ _ rfl rfl).mpr ?_⟩
  intro call other clash
  have early : fetchPositions [.call, .fetch 0, .fetch 0] call = [0, 1] := by
    have two := clash.1
    cases call with
    | zero => rfl
    | succ call => cases two
  rw [early] at clash
  cases other with
  | zero => exact absurd clash.2 (by decide)
  | succ other =>
      cases other with
      | zero => exact absurd clash.2 (by decide)
      | succ other => cases clash.2

/-- Two processes that each make one call return the same token: before and
after a restart, or on two hosts. -/
theorem first_tokens_equal :
    exists left right,
      run Process.step start [.call, .fetch 0, .fetch 0] = some left ∧
      run Process.step start [.call, .fetch 0, .fetch 0] = some right ∧
      ¬ forall token, ¬ (token ∈ left.tokens ∧ token ∈ right.tokens) := by
  refine ⟨_, _, rfl, rfl, ?_⟩
  intro disjoint
  exact disjoint _ ⟨List.mem_cons_self, List.mem_cons_self⟩

end Process

end Katzenpost
end QuicMix
