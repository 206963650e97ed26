import QuicMix.Foundations.Schedule

namespace QuicMix
namespace Foundations

/-!
# Scripts over a byte stream

A script writes given bytes, reads an exact number of bytes and continues with
what it read, or is done.  `evaluate` says what a script makes of a whole stream
at once.  A session carries a script out in pieces: every write takes some of
the bytes that are left to write, every read brings some of the bytes that are
still wanted, and the end of the stream or a fault of the connection stops it.
What a session does in pieces is what the script makes of the stream, however
the pieces are cut.
-/

inductive Script (Result : Type) where
  | done (result : Result)
  | write (bytes : List UInt8) (next : Script Result)
  | read (size : Nat) (next : List UInt8 -> Script Result)

namespace Script

variable {Result : Type}

/-- All bytes that are written when the script is given the stream, and the
result with what is left unread if the stream is long enough. -/
def evaluate : Script Result -> List UInt8 -> List UInt8 × Option (Result × List UInt8)
  | .done result, stream => ([], some (result, stream))
  | .write bytes next, stream => (bytes ++ (next.evaluate stream).1, (next.evaluate stream).2)
  | .read size next, stream =>
      if size <= stream.length then (next (stream.take size)).evaluate (stream.drop size)
      else ([], none)

def finish (script : Script Result) (stream : List UInt8) : Option (Result × List UInt8) :=
  (script.evaluate stream).2

def output (script : Script Result) (stream : List UInt8) : List UInt8 :=
  (script.evaluate stream).1

/-- Writing and reading nothing need no call on the stream. -/
def settle : Script Result -> Script Result
  | .done result => .done result
  | .write [] next => next.settle
  | .write (byte :: rest) next => .write (byte :: rest) next
  | .read 0 next => (next []).settle
  | .read (size + 1) next => .read (size + 1) next

/-- What is left of a read when some of its bytes are there. -/
def after (size : Nat) (next : List UInt8 -> Script Result) (chunk : List UInt8) :
    Script Result :=
  .read (size - chunk.length) (fun rest => next (chunk ++ rest))

/-- Apply a function to the result. -/
def map {Other : Type} (function : Result -> Other) : Script Result -> Script Other
  | .done result => .done (function result)
  | .write bytes next => .write bytes (next.map function)
  | .read size next => .read size (fun chunk => (next chunk).map function)

/-- The script is about to write or to read something, or is done. -/
def Settled : Script Result -> Prop
  | .done _ => True
  | .write bytes _ => bytes ≠ []
  | .read size _ => 0 < size

/-- The script reads and does not write. -/
def Silent : Script Result -> Prop
  | .done _ => True
  | .write _ _ => False
  | .read _ next => forall chunk, (next chunk).Silent

theorem evaluate_read {size : Nat} {front : List UInt8} (exactly : front.length = size)
    (next : List UInt8 -> Script Result) (rest : List UInt8) :
    (read size next).evaluate (front ++ rest) = (next front).evaluate rest := by
  subst exactly
  have enough : front.length <= (front ++ rest).length := by
    rw [List.length_append]
    exact Nat.le_add_right _ _
  rw [evaluate, if_pos enough, List.take_left, List.drop_left]

theorem evaluate_read_short {size : Nat} {stream : List UInt8} (short : stream.length < size)
    (next : List UInt8 -> Script Result) : (read size next).evaluate stream = ([], none) :=
  if_neg (Nat.not_le.mpr short)

/-- A read that finishes took its bytes from the front of the stream. -/
theorem finish_read_eq_some {size : Nat} {next : List UInt8 -> Script Result}
    {stream : List UInt8} {outcome : Result × List UInt8}
    (finished : (read size next).finish stream = some outcome) :
    exists front rest, stream = front ++ rest ∧ front.length = size ∧
      (next front).finish rest = some outcome := by
  by_cases enough : size <= stream.length
  · refine ⟨stream.take size, stream.drop size, (List.take_append_drop size stream).symm,
      List.length_take_of_le enough, ?_⟩
    rw [finish, evaluate, if_pos enough] at finished
    exact finished
  · rw [finish, evaluate_read_short (Nat.lt_of_not_le enough)] at finished
    cases finished

theorem evaluate_settle (script : Script Result) (stream : List UInt8) :
    script.settle.evaluate stream = script.evaluate stream := by
  induction script generalizing stream with
  | done result => rfl
  | write bytes next inductionHypothesis =>
      cases bytes with
      | nil => exact inductionHypothesis stream
      | cons byte rest => rfl
  | read size next inductionHypothesis =>
      cases size with
      | zero => exact inductionHypothesis [] stream
      | succ size => rfl

theorem settled_settle (script : Script Result) : script.settle.Settled := by
  induction script with
  | done result => exact trivial
  | write bytes next inductionHypothesis =>
      cases bytes with
      | nil => exact inductionHypothesis
      | cons byte rest => exact List.cons_ne_nil byte rest
  | read size next inductionHypothesis =>
      cases size with
      | zero => exact inductionHypothesis []
      | succ size => exact Nat.succ_pos size

/-- Taking a part of the wanted bytes first changes nothing. -/
theorem evaluate_after {size : Nat} {next : List UInt8 -> Script Result} {chunk : List UInt8}
    (within : chunk.length <= size) (rest : List UInt8) :
    (after size next chunk).evaluate rest = (read size next).evaluate (chunk ++ rest) := by
  by_cases enough : size - chunk.length <= rest.length
  · have cut : rest.take (size - chunk.length) ++ rest.drop (size - chunk.length) = rest :=
      List.take_append_drop _ rest
    have exactly : (chunk ++ rest.take (size - chunk.length)).length = size := by
      rw [List.length_append, List.length_take_of_le enough]
      omega
    have whole := evaluate_read exactly next (rest.drop (size - chunk.length))
    rw [List.append_assoc, cut] at whole
    rw [whole, after, evaluate, if_pos enough]
  · rw [after, evaluate_read_short (Nat.lt_of_not_le enough), evaluate_read_short]
    rw [List.length_append]
    omega

theorem Silent.output {script : Script Result} (silent : script.Silent) (stream : List UInt8) :
    script.output stream = [] := by
  induction script generalizing stream with
  | done result => rfl
  | write bytes next => exact silent.elim
  | read size next inductionHypothesis =>
      rw [Script.output, evaluate]
      split
      · exact inductionHypothesis _ (silent _) _
      · rfl

theorem Silent.settle {script : Script Result} (silent : script.Silent) : script.settle.Silent := by
  induction script with
  | done result => exact trivial
  | write bytes next => exact silent.elim
  | read size next inductionHypothesis =>
      cases size with
      | zero => exact inductionHypothesis [] (silent [])
      | succ size => exact silent

theorem evaluate_map {Other : Type} (function : Result -> Other) (script : Script Result)
    (stream : List UInt8) :
    (script.map function).evaluate stream =
      ((script.evaluate stream).1,
        (script.evaluate stream).2.map (fun outcome => (function outcome.1, outcome.2))) := by
  induction script generalizing stream with
  | done result => rfl
  | write bytes next inductionHypothesis =>
      rw [map, evaluate, evaluate, inductionHypothesis stream]
  | read size next inductionHypothesis =>
      by_cases enough : size <= stream.length
      · rw [map, evaluate, if_pos enough, evaluate, if_pos enough]
        exact inductionHypothesis _ _
      · rw [map, evaluate, if_neg enough, evaluate, if_neg enough]
        rfl

/-- Go on with what a script has returned. -/
def bind {Other : Type} (script : Script Result) (continue_ : Result -> Script Other) :
    Script Other :=
  match script with
  | .done result => continue_ result
  | .write bytes next => .write bytes (next.bind continue_)
  | .read size next => .read size (fun chunk => (next chunk).bind continue_)

/-- A composed script finishes where its first part has, and its second part
behind that. -/
theorem finish_bind_eq_some {Other : Type} {script : Script Result}
    {continue_ : Result -> Script Other} {stream : List UInt8} {outcome : Other × List UInt8} :
    (script.bind continue_).finish stream = some outcome <->
      exists result rest, script.finish stream = some (result, rest) ∧
        (continue_ result).finish rest = some outcome := by
  induction script generalizing stream with
  | done result =>
      constructor
      · exact fun finished => ⟨result, stream, rfl, finished⟩
      · rintro ⟨other, rest, same, finished⟩
        cases same
        exact finished
  | write bytes next inductionHypothesis => exact inductionHypothesis
  | read size next inductionHypothesis =>
      by_cases enough : size <= stream.length
      · simp only [bind, finish, evaluate, if_pos enough]
        exact inductionHypothesis _
      · simp only [bind, finish, evaluate, if_neg enough, reduceCtorEq, false_and, exists_false]

/-- A composed script whose first part only reads writes nothing before that part
has finished. -/
theorem output_bind_silent {Other : Type} {script : Script Result} (silent : script.Silent)
    (continue_ : Result -> Script Other) (stream : List UInt8) :
    (script.bind continue_).output stream =
      ((script.finish stream).map (fun outcome => (continue_ outcome.1).output outcome.2)).getD
        [] := by
  induction script generalizing stream with
  | done result => rfl
  | write bytes next => exact silent.elim
  | read size next inductionHypothesis =>
      by_cases enough : size <= stream.length
      · simp only [bind, output, finish, evaluate, if_pos enough]
        exact inductionHypothesis _ (silent _) _
      · simp only [bind, output, finish, evaluate, if_neg enough, Option.map_none, Option.getD_none]

end Script

/-! ## Sessions -/

/-- A script under way.  A fault of the connection stops it for good. -/
structure Session (Fault Result : Type) where
  phase : Except Fault (Script Result)
  /-- Bytes that the peer sent and that are not read. -/
  unread : List UInt8
  written : List UInt8

namespace Session

inductive Move (Fault : Type) where
  | write (size : Nat)
  | read (size : Nat)
  | eof
  | fault (error : Fault)

variable {Fault Result : Type}

def start (script : Script Result) (stream : List UInt8) : Session Fault Result where
  phase := .ok script.settle
  unread := stream
  written := []

/-- One call on the stream.  At the end of the stream a read that still wants
bytes fails with the given error. -/
def step (early : Fault) (session : Session Fault Result) :
    Move Fault -> Option (Session Fault Result)
  | .write size =>
      match session.phase with
      | .ok (.write bytes next) =>
          if 0 < size ∧ size <= bytes.length then
            some { session with
              phase := .ok (Script.write (bytes.drop size) next).settle
              written := session.written ++ bytes.take size }
          else none
      | _ => none
  | .read size =>
      match session.phase with
      | .ok (.read wanted next) =>
          if 0 < size ∧ size <= wanted ∧ size <= session.unread.length then
            some { session with
              phase := .ok (Script.after wanted next (session.unread.take size)).settle
              unread := session.unread.drop size }
          else none
      | _ => none
  | .eof =>
      match session.phase with
      | .ok (.read _ _) =>
          if session.unread = [] then some { session with phase := .error early } else none
      | _ => none
  | .fault error =>
      match session.phase with
      | .ok (.done _) => none
      | .ok _ => some { session with phase := .error error }
      | .error _ => none

/-- The script is done. -/
def Returned (session : Session Fault Result) (result : Result) : Prop :=
  session.phase = .ok (.done result)

/-- Nothing is left to do: the script is done or the connection failed. -/
def Over (session : Session Fault Result) : Prop :=
  match session.phase with
  | .ok (.done _) => True
  | .ok _ => False
  | .error _ => True

/-- What one call does. -/
inductive Moved (early : Fault) (session : Session Fault Result) :
    Move Fault -> Session Fault Result -> Prop where
  | write (front back : List UInt8) (next : Script Result)
      (writing : session.phase = .ok (.write (front ++ back) next)) (nonempty : front ≠ []) :
      Moved early session (.write front.length)
        { session with
          phase := .ok (Script.write back next).settle
          written := session.written ++ front }
  | read (wanted : Nat) (next : List UInt8 -> Script Result) (front back : List UInt8)
      (reading : session.phase = .ok (.read wanted next)) (nonempty : front ≠ [])
      (within : front.length <= wanted) (bytes : session.unread = front ++ back) :
      Moved early session (.read front.length)
        { session with phase := .ok (Script.after wanted next front).settle, unread := back }
  | eof (wanted : Nat) (next : List UInt8 -> Script Result)
      (reading : session.phase = .ok (.read wanted next)) (ended : session.unread = []) :
      Moved early session .eof { session with phase := .error early }
  | fault (error : Fault) (script : Script Result) (running : session.phase = .ok script)
      (unfinished : forall result, script ≠ .done result) :
      Moved early session (.fault error) { session with phase := .error error }

theorem moved_of_step {early : Fault} {session next : Session Fault Result} {move : Move Fault}
    (moved : session.step early move = some next) : Moved early session move next := by
  cases move with
  | write size =>
      simp only [step] at moved
      split at moved
      case h_1 bytes after writing =>
          split at moved
          case isTrue enough =>
              cases moved
              have exactly : (bytes.take size).length = size := List.length_take_of_le enough.2
              have cut : bytes.take size ++ bytes.drop size = bytes :=
                List.take_append_drop size bytes
              have made := @Moved.write _ _ early session (bytes.take size) (bytes.drop size)
                after (by rw [cut]; exact writing)
                (List.ne_nil_of_length_pos (exactly.symm ▸ enough.1))
              rw [exactly] at made
              exact made
          case isFalse => cases moved
      case h_2 => cases moved
  | read size =>
      simp only [step] at moved
      split at moved
      case h_1 wanted after reading =>
          split at moved
          case isTrue enough =>
              cases moved
              have exactly : (session.unread.take size).length = size :=
                List.length_take_of_le enough.2.2
              have made := @Moved.read _ _ early session wanted after
                (session.unread.take size) (session.unread.drop size) reading
                (List.ne_nil_of_length_pos (exactly.symm ▸ enough.1)) (exactly.symm ▸ enough.2.1)
                (List.take_append_drop size session.unread).symm
              rw [exactly] at made
              exact made
          case isFalse => cases moved
      case h_2 => cases moved
  | eof =>
      simp only [step] at moved
      split at moved
      case h_1 wanted after reading =>
          split at moved
          case isTrue ended =>
              cases moved
              exact Moved.eof wanted after reading ended
          case isFalse => cases moved
      case h_2 => cases moved
  | fault error =>
      simp only [step] at moved
      split at moved
      case h_1 => cases moved
      case h_2 script unfinished running =>
          cases moved
          exact Moved.fault error script running unfinished
      case h_3 => cases moved

/-- What was done and what is left to do make up what the script makes of the
whole stream. -/
def Follows (script : Script Result) (stream : List UInt8) (session : Session Fault Result) :
    Prop :=
  match session.phase with
  | .ok current =>
      current.Settled ∧ session.written ++ current.output session.unread = script.output stream ∧
        current.finish session.unread = script.finish stream
  | .error _ => exists rest, session.written ++ rest = script.output stream

theorem follows_running {script current : Script Result} {stream : List UInt8}
    {session : Session Fault Result} (running : session.phase = .ok current) :
    Follows script stream session <->
      current.Settled ∧ session.written ++ current.output session.unread = script.output stream ∧
        current.finish session.unread = script.finish stream := by
  rw [Follows, running]

theorem follows_settle {script current : Script Result} {stream unread written : List UInt8}
    (wrote : written ++ current.output unread = script.output stream)
    (leads : current.finish unread = script.finish stream) :
    Follows script stream (⟨.ok current.settle, unread, written⟩ : Session Fault Result) := by
  refine (follows_running rfl).mpr ⟨current.settled_settle, ?_, ?_⟩
  · rw [Script.output, Script.evaluate_settle]
    exact wrote
  · rw [Script.finish, Script.evaluate_settle]
    exact leads

theorem Moved.follows {early : Fault} {script : Script Result} {stream : List UInt8}
    {session next : Session Fault Result} {move : Move Fault}
    (moved : Moved early session move next)
    (follows : Follows script stream session) : Follows script stream next := by
  cases moved with
  | write front back after writing nonempty =>
      rcases (follows_running writing).mp follows with ⟨_, wrote, leads⟩
      refine follows_settle ?_ leads
      rw [← wrote, List.append_assoc]
      exact congrArg (session.written ++ ·) (List.append_assoc front back _).symm
  | read wanted after front back reading nonempty within bytes =>
      rcases (follows_running reading).mp follows with ⟨_, wrote, leads⟩
      rw [bytes] at wrote leads
      refine follows_settle ?_ ?_
      · rw [Script.output, Script.evaluate_after within]
        exact wrote
      · rw [Script.finish, Script.evaluate_after within]
        exact leads
  | eof wanted after reading ended =>
      exact ⟨_, ((follows_running reading).mp follows).2.1⟩
  | fault error current running unfinished =>
      exact ⟨_, ((follows_running running).mp follows).2.1⟩

/-- The moves of a connection that does not break. -/
def Move.sound : Move Fault -> Bool
  | .fault _ => false
  | _ => true

/-- Without a fault a session fails only on a stream that is too short. -/
def Justified (script : Script Result) (stream : List UInt8) (session : Session Fault Result) :
    Prop :=
  forall error, session.phase = .error error -> script.finish stream = none

theorem Moved.justified {early : Fault} {script : Script Result} {stream : List UInt8}
    {session next : Session Fault Result} {move : Move Fault}
    (moved : Moved early session move next)
    (intact : move.sound = true) (follows : Follows script stream session) :
    Justified script stream next := by
  intro error failed
  cases moved with
  | write => cases failed
  | read => cases failed
  | eof wanted after reading ended =>
      rcases (follows_running reading).mp follows with ⟨settled, _, leads⟩
      rw [← leads, ended]
      exact congrArg Prod.snd (Script.evaluate_read_short settled after)
  | fault => cases intact

section Runs

variable {early : Fault} {script : Script Result} {stream : List UInt8}
  {moves : List (Move Fault)} {session : Session Fault Result}

theorem follows_start :
    Follows script stream (start script stream : Session Fault Result) :=
  follows_settle (List.nil_append _) rfl

theorem follows_of_run (ran : run (step early) (start script stream) moves = some session) :
    Follows script stream session :=
  invariant (Follows script stream)
    (fun _ _ _ follows moved => (moved_of_step moved).follows follows) follows_start ran

/-- Nothing is written that the script does not write. -/
theorem Follows.written (follows : Follows script stream session) :
    exists rest, session.written ++ rest = script.output stream := by
  cases running : session.phase with
  | ok current => exact ⟨_, ((follows_running running).mp follows).2.1⟩
  | error fault =>
      rw [Follows, running] at follows
      exact follows

/-- What a call returned is what its script makes of the stream, and what it
left unread is the rest of the stream. -/
theorem finish_of_run (ran : run (step early) (start script stream) moves = some session)
    {result : Result} (returned : session.Returned result) :
    script.finish stream = some (result, session.unread) ∧
      session.written = script.output stream := by
  rcases (follows_running returned).mp (follows_of_run ran) with ⟨_, wrote, leads⟩
  exact ⟨leads.symm, by rw [← wrote]; exact (List.append_nil _).symm⟩

/-- Without a fault a session that is over has the outcome of its script. -/
theorem justified_of_run (intact : forall move, move ∈ moves -> move.sound = true)
    (ran : run (step early) (start script stream) moves = some session) :
    Justified script stream session := by
  refine (invariant_of_schedule
    (fun session => Follows script stream session ∧ Justified script stream session) ?_
    ⟨follows_start, fun _ failed => nomatch failed⟩ ran).2
  intro before move after member holds moved
  exact ⟨(moved_of_step moved).follows holds.1,
    (moved_of_step moved).justified (intact move member) holds.1⟩

/-- Without a fault a session that is over returned what its script makes of
the stream, if the stream is long enough. -/
theorem returned_of_run (intact : forall move, move ∈ moves -> move.sound = true)
    (ran : run (step early) (start script stream) moves = some session) (ended : session.Over)
    {result : Result} {rest : List UInt8} (finished : script.finish stream = some (result, rest)) :
    session.Returned result := by
  cases running : session.phase with
  | error fault =>
      rw [justified_of_run intact ran fault running] at finished
      cases finished
  | ok current =>
      rw [Over, running] at ended
      cases current with
      | write bytes next => exact ended.elim
      | read size next => exact ended.elim
      | done outcome =>
          have same := (finish_of_run ran running).1.symm.trans finished
          cases same
          exact running

/-- A session that is not over can go on without a fault. -/
theorem Follows.progress (follows : Follows script stream session) (going : ¬ session.Over) :
    exists move next, Move.sound move = true ∧ session.step early move = some next := by
  rcases session with ⟨phase, unread, written⟩
  cases phase with
  | error fault => exact absurd trivial going
  | ok current =>
      rcases (follows_running rfl).mp follows with ⟨settled, _, _⟩
      cases current with
      | done result => exact absurd trivial going
      | write bytes next =>
          have positive : 1 <= bytes.length := List.length_pos_of_ne_nil settled
          exact ⟨.write 1, _, rfl, if_pos ⟨Nat.one_pos, positive⟩⟩
      | read wanted next =>
          cases unread with
          | nil => exact ⟨.eof, _, rfl, rfl⟩
          | cons byte rest =>
              refine ⟨.read 1, _, rfl, if_pos ⟨Nat.one_pos, settled, ?_⟩⟩
              exact Nat.succ_le_succ (Nat.zero_le rest.length)

/-- How many moves a session can still make. -/
def load (session : Session Fault Result) : Nat :=
  match session.phase with
  | .ok current => session.unread.length + (current.output session.unread).length + 1
  | .error _ => 0

theorem Moved.load_lt {before after : Session Fault Result} {move : Move Fault}
    (moved : Moved early before move after) : after.load < before.load := by
  cases moved with
  | write front back next writing nonempty =>
      have some : 0 < front.length := List.length_pos_of_ne_nil nonempty
      simp only [load, writing, Script.output, Script.evaluate_settle, Script.evaluate,
        List.length_append]
      omega
  | read wanted next front back reading nonempty within bytes =>
      have some : 0 < front.length := List.length_pos_of_ne_nil nonempty
      simp only [load, reading, bytes, Script.output, Script.evaluate_settle,
        Script.evaluate_after within, List.length_append]
      omega
  | eof wanted next reading ended =>
      simp only [load, reading]
      exact Nat.succ_pos _
  | fault error current running unfinished =>
      simp only [load, running]
      exact Nat.succ_pos _

theorem length_le_of_run (ran : run (step early) (start script stream) moves = some session) :
    moves.length <= stream.length + (script.output stream).length + 1 := by
  have bound := length_of_run load (fun _ _ _ _ moved => (moved_of_step moved).load_lt) ran
  have initial : (start script stream : Session Fault Result).load =
      stream.length + (script.output stream).length + 1 := by
    simp only [load, start, Script.output, Script.evaluate_settle]
  omega

end Runs

end Session
end Foundations
end QuicMix
