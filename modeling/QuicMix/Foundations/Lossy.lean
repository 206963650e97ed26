import QuicMix.Foundations.Text

namespace QuicMix
namespace Foundations

/-!
# Reading bytes as text

Bytes from outside are read as UTF-8 with replacement: a byte that cannot stand
where it stands, or a sequence that breaks off, is read as U+FFFD, one for each
longest beginning of a character.  The reader keeps the character that it has
begun, with the bounds of the byte that has to come next.
-/

/-- A character that has been begun.  It will not be an ASCII character. -/
structure Pending where
  value : Nat
  low : Nat
  high : Nat
  /-- Continuation bytes behind the next one. -/
  later : Nat
  tail : 0x80 <= low
  bounded : high <= 0xBF
  large : 0x80 <= (value * 64 + low % 64) * 64 ^ later

namespace Pending

/-- The character that a byte begins.  The second byte is held to narrower bounds
where a wider one would encode a surrogate, a number that is too large or one that
has a shorter encoding. -/
def ofLead (lead : Nat) : Option Pending :=
  if two : 0xC2 <= lead ∧ lead <= 0xDF then
    some ⟨lead % 32, 0x80, 0xBF, 0, Nat.le_refl _, Nat.le_refl _, by omega⟩
  else if three : 0xE0 <= lead ∧ lead <= 0xEF then
    some ⟨lead % 16, if lead = 0xE0 then 0xA0 else 0x80, if lead = 0xED then 0x9F else 0xBF, 1,
      by split <;> decide, by split <;> decide, by split <;> omega⟩
  else if four : 0xF0 <= lead ∧ lead <= 0xF4 then
    some ⟨lead % 8, if lead = 0xF0 then 0x90 else 0x80, if lead = 0xF4 then 0x8F else 0xBF, 2,
      by split <;> decide, by split <;> decide, by split <;> omega⟩
  else none

theorem ofLead_two {lead : Nat} (low : 0xC2 <= lead) (high : lead <= 0xDF) :
    exists pending, ofLead lead = some pending ∧ pending.value = lead % 32 ∧
      pending.low = 0x80 ∧ pending.high = 0xBF ∧ pending.later = 0 := by
  rw [ofLead, dif_pos ⟨low, high⟩]
  exact ⟨_, rfl, rfl, rfl, rfl, rfl⟩

theorem ofLead_three {lead : Nat} (low : 0xE0 <= lead) (high : lead <= 0xEF) :
    exists pending, ofLead lead = some pending ∧ pending.value = lead % 16 ∧
      (pending.low = if lead = 0xE0 then 0xA0 else 0x80) ∧
      (pending.high = if lead = 0xED then 0x9F else 0xBF) ∧ pending.later = 1 := by
  rw [ofLead, dif_neg (by omega), dif_pos ⟨low, high⟩]
  exact ⟨_, rfl, rfl, rfl, rfl, rfl⟩

theorem ofLead_four {lead : Nat} (low : 0xF0 <= lead) (high : lead <= 0xF4) :
    exists pending, ofLead lead = some pending ∧ pending.value = lead % 8 ∧
      (pending.low = if lead = 0xF0 then 0x90 else 0x80) ∧
      (pending.high = if lead = 0xF4 then 0x8F else 0xBF) ∧ pending.later = 2 := by
  rw [ofLead, dif_neg (by omega), dif_neg (by omega), dif_pos ⟨low, high⟩]
  exact ⟨_, rfl, rfl, rfl, rfl, rfl⟩

/-- The byte continues the character. -/
def continued (pending : Pending) (byte : UInt8) : Bool :=
  pending.low <= byte.toNat && byte.toNat <= pending.high

def extended (pending : Pending) (byte : UInt8) : Nat :=
  pending.value * 64 + byte.toNat % 64

theorem continued_iff {pending : Pending} {byte : UInt8} :
    pending.continued byte = true <-> pending.low <= byte.toNat ∧ byte.toNat <= pending.high := by
  rw [continued, Bool.and_eq_true, decide_eq_true_eq, decide_eq_true_eq]

/-- The bits of a byte that continues the character are at least those of the lower
bound. -/
theorem extended_large {pending : Pending} {byte : UInt8}
    (continued : pending.continued byte = true) :
    0x80 <= pending.extended byte * 64 ^ pending.later := by
  have bounds := continued_iff.mp continued
  have tail := pending.tail
  have bounded := pending.bounded
  have more : pending.value * 64 + pending.low % 64 <= pending.extended byte := by
    rw [extended]
    omega
  exact Nat.le_trans pending.large (Nat.mul_le_mul_right _ more)

/-- The character with the byte, if others have to follow. -/
def extend (pending : Pending) (byte : UInt8) (continued : pending.continued byte = true)
    (later : Nat) (more : pending.later = later + 1) : Pending where
  value := pending.extended byte
  low := 0x80
  high := 0xBF
  later := later
  tail := Nat.le_refl _
  bounded := Nat.le_refl _
  large := by
    have large := extended_large continued
    rw [more, Nat.pow_succ, Nat.mul_comm (64 ^ later), ← Nat.mul_assoc] at large
    exact large

end Pending

namespace Text

def replacement : Char := Char.ofNat 0xFFFD

/-- The character of a completed sequence. -/
def scalar (value : Nat) : Char :=
  if value.isValidChar then Char.ofNat value else replacement

/-- A byte at the beginning of a character: what is read, and what is begun. -/
def begins (byte : UInt8) : Text × Option Pending :=
  if byte.toNat < 0x80 then ([Char.ofNat byte.toNat], none)
  else
    match Pending.ofLead byte.toNat with
    | none => ([replacement], none)
    | some pending => ([], some pending)

def advance (pending : Option Pending) (byte : UInt8) : Text × Option Pending :=
  match pending with
  | none => begins byte
  | some pending =>
      if continued : pending.continued byte = true then
        match left : pending.later with
        | 0 => ([scalar (pending.extended byte)], none)
        | later + 1 => ([], some (pending.extend byte continued later left))
      else (replacement :: (begins byte).1, (begins byte).2)

/-- The text of the bytes, with the character that has been begun. -/
def decodeFrom : Option Pending -> List UInt8 -> Text
  | none, [] => []
  | some _, [] => [replacement]
  | pending, byte :: rest =>
      (advance pending byte).1 ++ decodeFrom (advance pending byte).2 rest

/-- The text of the bytes, with replacements. -/
def decodeLossy (bytes : List UInt8) : Text :=
  decodeFrom none bytes

section Advance

variable {pending : Pending} {byte : UInt8}

theorem advance_refused (refused : ¬ pending.continued byte = true) :
    advance (some pending) byte = (replacement :: (begins byte).1, (begins byte).2) :=
  dif_neg refused

theorem advance_completed (continued : pending.continued byte = true)
    (last : pending.later = 0) :
    advance (some pending) byte = ([scalar (pending.extended byte)], none) := by
  simp only [advance, dif_pos continued]
  split
  · rfl
  · rename_i more
    rw [last] at more
    cases more

theorem advance_continued (continued : pending.continued byte = true) {later : Nat}
    (more : pending.later = later + 1) :
    advance (some pending) byte = ([], some (pending.extend byte continued later more)) := by
  simp only [advance, dif_pos continued]
  split
  · rename_i last
    rw [last] at more
    cases more
  · rename_i other left
    have same : other = later := Nat.succ.inj (left.symm.trans more)
    subst same
    rfl

end Advance

theorem begins_ascii {byte : UInt8} (ascii : byte.toNat < 0x80) :
    begins byte = ([Char.ofNat byte.toNat], none) :=
  if_pos ascii

theorem decodeLossy_cons {byte : UInt8} (ascii : byte.toNat < 0x80) (rest : List UInt8) :
    decodeLossy (byte :: rest) = Char.ofNat byte.toNat :: decodeLossy rest := by
  rw [decodeLossy, decodeFrom, advance, begins_ascii ascii]
  rfl

/-- The characters of bytes that are all ASCII. -/
def ofAscii (bytes : List UInt8) : Text :=
  bytes.map (fun byte => Char.ofNat byte.toNat)

theorem decodeLossy_ascii {bytes : List UInt8}
    (ascii : forall byte, byte ∈ bytes -> byte.toNat < 0x80) (rest : List UInt8) :
    decodeLossy (bytes ++ rest) = ofAscii bytes ++ decodeLossy rest := by
  induction bytes with
  | nil => rfl
  | cons byte others inductionHypothesis =>
      rw [List.cons_append, decodeLossy_cons (ascii byte List.mem_cons_self), ofAscii,
        List.map_cons, List.cons_append, inductionHypothesis, ofAscii]
      intro other member
      exact ascii other (List.mem_cons_of_mem byte member)

/-- An ASCII byte is read as itself wherever it stands. -/
theorem decodeFrom_ascii (pending : Option Pending) (bytes : List UInt8) {byte : UInt8}
    (ascii : byte.toNat < 0x80) (rest : List UInt8) :
    decodeFrom pending (bytes ++ byte :: rest) =
      decodeFrom pending bytes ++ Char.ofNat byte.toNat :: decodeLossy rest := by
  induction bytes generalizing pending with
  | nil =>
      cases pending with
      | none => exact decodeLossy_cons ascii rest
      | some pending =>
          have refused : ¬ pending.continued byte = true := by
            intro continued
            have low := (Pending.continued_iff.mp continued).1
            have tail := pending.tail
            omega
          have next := advance_refused refused
          rw [begins_ascii ascii] at next
          simp only [List.nil_append, decodeFrom, next]
          rfl
  | cons first others inductionHypothesis =>
      rw [List.cons_append, decodeFrom, inductionHypothesis, decodeFrom, List.append_assoc]

/-- Reading can be cut at an ASCII byte. -/
theorem decodeLossy_append (bytes : List UInt8) {byte : UInt8} (ascii : byte.toNat < 0x80)
    (rest : List UInt8) :
    decodeLossy (bytes ++ byte :: rest) =
      decodeLossy bytes ++ Char.ofNat byte.toNat :: decodeLossy rest :=
  decodeFrom_ascii none bytes ascii rest

theorem replacement_not_ascii : ¬ replacement.toNat < 0x80 := by
  decide

theorem toNat_ofNat_valid {value : Nat} (valid : value.isValidChar) :
    (Char.ofNat value).toNat = value := by
  rw [Char.ofNat, dif_pos valid]
  rfl

theorem scalar_not_ascii {value : Nat} (large : 0x80 <= value) : ¬ (scalar value).toNat < 0x80 := by
  unfold scalar
  split
  · rename_i valid
    rw [toNat_ofNat_valid valid]
    exact Nat.not_lt.mpr large
  · exact replacement_not_ascii

theorem ascii_of_begins {byte : UInt8} {char : Char} {front back : Text}
    (read : (begins byte).1 = front ++ char :: back) (ascii : char.toNat < 0x80) :
    byte.toNat = char.toNat ∧ front = [] ∧ back = [] ∧ (begins byte).2 = none := by
  by_cases low : byte.toNat < 0x80
  · rw [begins_ascii low] at read ⊢
    rcases List.append_eq_singleton_iff.mp read.symm with ⟨rfl, same⟩ | ⟨_, same⟩
    · cases same
      have valid : byte.toNat.isValidChar := .inl (by omega)
      exact ⟨(toNat_ofNat_valid valid).symm, rfl, rfl, rfl⟩
    · cases same
  · rw [begins, if_neg low] at read
    split at read
    · rcases List.append_eq_singleton_iff.mp read.symm with ⟨_, same⟩ | ⟨_, same⟩
      · cases same
        exact absurd ascii replacement_not_ascii
      · cases same
    · exact absurd read.symm (List.append_ne_nil_of_right_ne_nil _ (List.cons_ne_nil _ _))

/-- An ASCII character was read from its byte, as the last of what that byte gave. -/
theorem ascii_of_advance {pending : Option Pending} {byte : UInt8} {char : Char}
    {front back : Text} (read : (advance pending byte).1 = front ++ char :: back)
    (ascii : char.toNat < 0x80) :
    byte.toNat = char.toNat ∧ front = decodeFrom pending [] ∧ back = [] ∧
      (advance pending byte).2 = none := by
  cases pending with
  | none => exact ascii_of_begins read ascii
  | some pending =>
      by_cases continued : pending.continued byte = true
      · cases left : pending.later with
        | zero =>
            rw [advance_completed continued left] at read
            have large := Pending.extended_large continued
            rw [left, Nat.pow_zero, Nat.mul_one] at large
            rcases List.append_eq_singleton_iff.mp read.symm with ⟨_, same⟩ | ⟨_, same⟩
            · cases same
              exact absurd ascii (scalar_not_ascii large)
            · cases same
        | succ later =>
            rw [advance_continued continued left] at read
            exact absurd read.symm (List.append_ne_nil_of_right_ne_nil _ (List.cons_ne_nil _ _))
      · rw [advance_refused continued] at read ⊢
        cases front with
        | nil =>
            cases read
            exact absurd ascii replacement_not_ascii
        | cons first others =>
            rcases List.cons.inj read with ⟨rfl, rest⟩
            rcases ascii_of_begins rest ascii with ⟨same, rfl, empty, ended⟩
            exact ⟨same, rfl, empty, ended⟩

/-- An ASCII character in the text stands for its byte. -/
theorem exists_byte {pending : Option Pending} {bytes : List UInt8} {front back : Text}
    {char : Char} (read : decodeFrom pending bytes = front ++ char :: back)
    (ascii : char.toNat < 0x80) :
    exists before byte after, bytes = before ++ byte :: after ∧ byte.toNat = char.toNat ∧
      decodeFrom pending before = front ∧ decodeLossy after = back := by
  induction bytes generalizing pending front with
  | nil =>
      cases pending with
      | none =>
          exact absurd read.symm (List.append_ne_nil_of_right_ne_nil _ (List.cons_ne_nil _ _))
      | some pending =>
          rcases List.append_eq_singleton_iff.mp read.symm with ⟨_, same⟩ | ⟨_, same⟩
          · cases same
            exact absurd ascii replacement_not_ascii
          · cases same
  | cons byte rest inductionHypothesis =>
      rw [decodeFrom] at read
      rcases List.append_eq_append_iff.mp read with ⟨more, split, later⟩ | ⟨more, split, later⟩
      · rcases inductionHypothesis later with ⟨before, found, after, rfl, same, fronts, backs⟩
        refine ⟨byte :: before, found, after, rfl, same, ?_, backs⟩
        rw [decodeFrom, fronts, split]
      · cases more with
        | nil =>
            -- what the byte gave ends where the character begins
            rw [List.nil_append] at later
            rcases @inductionHypothesis _ [] later.symm with
              ⟨before, found, after, rfl, same, fronts, backs⟩
            refine ⟨byte :: before, found, after, rfl, same, ?_, backs⟩
            rw [decodeFrom, fronts, split, List.append_nil, List.append_nil]
        | cons first others =>
            rcases List.cons.inj later with ⟨rfl, backs⟩
            rcases ascii_of_advance split ascii with ⟨same, fronts, empty, ended⟩
            refine ⟨[], byte, rest, rfl, same, fronts.symm, ?_⟩
            rw [backs, empty, ended]
            rfl

/-- A byte that gives nothing has begun or continued a character. -/
theorem advance_silent {pending : Option Pending} {byte : UInt8}
    (silent : (advance pending byte).1 = []) : (advance pending byte).2 ≠ none := by
  cases pending with
  | none =>
      change (begins byte).1 = [] at silent
      change (begins byte).2 ≠ none
      unfold begins at silent ⊢
      split at silent
      · cases silent
      · rw [if_neg ‹_›]
        split at silent
        · cases silent
        · exact nofun
  | some pending =>
      by_cases continued : pending.continued byte = true
      · cases left : pending.later with
        | zero =>
            rw [advance_completed continued left] at silent
            cases silent
        | succ later =>
            rw [advance_continued continued left]
            exact nofun
      · rw [advance_refused continued] at silent
        cases silent

theorem decodeFrom_eq_nil {pending : Option Pending} {bytes : List UInt8}
    (empty : decodeFrom pending bytes = []) : pending = none ∧ bytes = [] := by
  induction bytes generalizing pending with
  | nil =>
      cases pending with
      | none => exact ⟨rfl, rfl⟩
      | some pending => cases empty
  | cons byte rest inductionHypothesis =>
      rw [decodeFrom, List.append_eq_nil_iff] at empty
      exact absurd (inductionHypothesis empty.2).1 (advance_silent empty.1)

/-- Reading does not make a pair of ASCII characters out of other bytes. -/
theorem exists_pair {bytes : List UInt8} {first second : Char}
    (read : [first, second] <:+: decodeLossy bytes) (firstAscii : first.toNat < 0x80)
    (secondAscii : second.toNat < 0x80) :
    [UInt8.ofNat first.toNat, UInt8.ofNat second.toNat] <:+: bytes := by
  rcases read with ⟨front, back, split⟩
  rw [List.append_assoc] at split
  rcases exists_byte split.symm firstAscii with ⟨before, byte, after, rfl, same, _, rest⟩
  rcases @exists_byte none after [] back second rest secondAscii with
    ⟨between, other, last, rfl, sameOther, nothing, _⟩
  rw [(decodeFrom_eq_nil nothing).2, ← same, ← sameOther, UInt8.ofNat_toNat, UInt8.ofNat_toNat]
  exact ⟨before, last, by rw [List.append_assoc]; rfl⟩

/-! ## What was encoded is read back -/

theorem decodeFrom_lead {byte : UInt8} {pending : Pending} (long : 0x80 <= byte.toNat)
    (begun : Pending.ofLead byte.toNat = some pending) (rest : List UInt8) :
    decodeFrom none (byte :: rest) = decodeFrom (some pending) rest := by
  rw [decodeFrom, advance, begins, if_neg (Nat.not_lt.mpr long), begun]
  rfl

theorem decodeFrom_continued {pending : Pending} {byte : UInt8} {later : Nat}
    (continued : pending.continued byte = true) (more : pending.later = later + 1)
    (rest : List UInt8) :
    decodeFrom (some pending) (byte :: rest) =
      decodeFrom (some (pending.extend byte continued later more)) rest := by
  rw [decodeFrom, advance_continued continued more]
  rfl

theorem decodeFrom_completed {pending : Pending} {byte : UInt8}
    (continued : pending.continued byte = true) (last : pending.later = 0) (rest : List UInt8) :
    decodeFrom (some pending) (byte :: rest) =
      scalar (pending.extended byte) :: decodeFrom none rest := by
  rw [decodeFrom, advance_completed continued last]
  rfl

theorem toNat_ofNat_byte (value : Nat) (small : value < 256) :
    (UInt8.ofNat value).toNat = value := by
  rw [UInt8.toNat_ofNat']
  exact Nat.mod_eq_of_lt small

theorem decodeFrom_two {value : Nat} (low : 0x80 <= value) (high : value <= 0x7FF)
    (rest : List UInt8) :
    decodeFrom none (UInt8.ofNat (value / 64 % 32 + 192) :: UInt8.ofNat (value % 64 + 128) ::
      rest) = scalar value :: decodeFrom none rest := by
  have lead := toNat_ofNat_byte (value / 64 % 32 + 192) (by omega)
  have last := toNat_ofNat_byte (value % 64 + 128) (by omega)
  rcases @Pending.ofLead_two (UInt8.ofNat (value / 64 % 32 + 192)).toNat (by omega) (by omega) with
    ⟨pending, begun, bits, least, most, left⟩
  rw [decodeFrom_lead (by omega) begun,
    decodeFrom_completed (Pending.continued_iff.mpr (by omega)) left]
  apply congrArg (fun number => scalar number :: decodeFrom none rest)
  rw [Pending.extended, bits, lead, last]
  omega

theorem decodeFrom_three {value : Nat} (low : 0x800 <= value) (high : value <= 0xFFFF)
    (valid : value < 0xD800 ∨ 0xDFFF < value) (rest : List UInt8) :
    decodeFrom none (UInt8.ofNat (value / 4096 % 16 + 224) ::
      UInt8.ofNat (value / 64 % 64 + 128) :: UInt8.ofNat (value % 64 + 128) :: rest) =
      scalar value :: decodeFrom none rest := by
  have lead := toNat_ofNat_byte (value / 4096 % 16 + 224) (by omega)
  have middle := toNat_ofNat_byte (value / 64 % 64 + 128) (by omega)
  have last := toNat_ofNat_byte (value % 64 + 128) (by omega)
  rcases @Pending.ofLead_three (UInt8.ofNat (value / 4096 % 16 + 224)).toNat (by omega)
    (by omega) with ⟨pending, begun, bits, least, most, left⟩
  have second : pending.continued (UInt8.ofNat (value / 64 % 64 + 128)) = true := by
    rw [Pending.continued_iff, least, most]
    constructor <;> split <;> omega
  rw [decodeFrom_lead (by omega) begun, decodeFrom_continued second left,
    decodeFrom_completed (Pending.continued_iff.mpr (by simp only [Pending.extend]; omega)) rfl]
  apply congrArg (fun number => scalar number :: decodeFrom none rest)
  simp only [Pending.extend, Pending.extended, bits, lead, middle, last]
  omega

theorem decodeFrom_four {value : Nat} (low : 0x10000 <= value) (high : value < 0x110000)
    (rest : List UInt8) :
    decodeFrom none (UInt8.ofNat (value / 262144 % 8 + 240) ::
      UInt8.ofNat (value / 4096 % 64 + 128) :: UInt8.ofNat (value / 64 % 64 + 128) ::
      UInt8.ofNat (value % 64 + 128) :: rest) = scalar value :: decodeFrom none rest := by
  have lead := toNat_ofNat_byte (value / 262144 % 8 + 240) (by omega)
  have middle := toNat_ofNat_byte (value / 4096 % 64 + 128) (by omega)
  have third := toNat_ofNat_byte (value / 64 % 64 + 128) (by omega)
  have last := toNat_ofNat_byte (value % 64 + 128) (by omega)
  rcases @Pending.ofLead_four (UInt8.ofNat (value / 262144 % 8 + 240)).toNat (by omega)
    (by omega) with ⟨pending, begun, bits, least, most, left⟩
  have second : pending.continued (UInt8.ofNat (value / 4096 % 64 + 128)) = true := by
    rw [Pending.continued_iff, least, most]
    constructor <;> split <;> omega
  rw [decodeFrom_lead (by omega) begun, decodeFrom_continued second left,
    decodeFrom_continued (Pending.continued_iff.mpr (by simp only [Pending.extend]; omega)) rfl,
    decodeFrom_completed (Pending.continued_iff.mpr (by simp only [Pending.extend]; omega)) rfl]
  apply congrArg (fun number => scalar number :: decodeFrom none rest)
  simp only [Pending.extend, Pending.extended, bits, lead, middle, third, last]
  omega

theorem decodeFrom_encodeChar (char : Char) (rest : List UInt8) :
    decodeFrom none (String.utf8EncodeChar char ++ rest) = char :: decodeFrom none rest := by
  have valid : char.val.toNat < 0xD800 ∨ 0xDFFF < char.val.toNat ∧ char.val.toNat < 0x110000 :=
    char.valid
  have back : Char.ofNat char.val.toNat = char := char.ofNat_toNat
  have whole : scalar char.val.toNat = char := (if_pos valid).trans back
  unfold String.utf8EncodeChar
  dsimp only
  split
  · have value := toNat_ofNat_byte char.val.toNat (by omega)
    rw [List.singleton_append, ← decodeLossy, decodeLossy_cons (by omega), value, back]
    rfl
  · split
    · exact (decodeFrom_two (by omega) (by omega) rest).trans (by rw [whole])
    · split
      · exact (decodeFrom_three (by omega) (by omega) (by omega) rest).trans (by rw [whole])
      · exact (decodeFrom_four (by omega) (by omega) rest).trans (by rw [whole])

theorem decodeLossy_encode (text : Text) (rest : List UInt8) :
    decodeLossy (encode text ++ rest) = text ++ decodeLossy rest := by
  induction text with
  | nil => rfl
  | cons char others inductionHypothesis =>
      rw [encode, List.flatMap_cons, List.append_assoc, decodeLossy, decodeFrom_encodeChar]
      exact congrArg (char :: ·) inductionHypothesis

end Text
end Foundations
end QuicMix
