import QuicMix.Foundations.Text

namespace QuicMix
namespace Foundations
namespace Text

/-!
# Numbers in texts

A number is read from the front of a text in a given radix: as many digits as
there are, with a bound on their count and on the value, and with or without
zeros in front.  In decimal notation without zeros in front a number has one
spelling, and so reading and writing undo each other.
-/

/-- The value of a digit in a radix of at most sixteen. -/
def digitIn (radix : Nat) (char : Char) : Option Nat :=
  (hexDigit char).filter (· < radix)

def isDigitIn (radix : Nat) (char : Char) : Bool :=
  (digitIn radix char).isSome

/-- The number of a sequence of digits, behind those that were read. -/
def numeralFrom (radix value : Nat) (digits : Text) : Nat :=
  digits.foldl (fun value char => value * radix + (digitIn radix char).getD 0) value

/-- The bounds on a number that is read. -/
structure NumberBounds where
  radix : Nat
  maxDigits : Option Nat
  /-- The first value that does not fit. -/
  limit : Nat
  allowZeroPrefix : Bool

/-- The digits at the front of a text, if they are within the bounds. -/
def readNumber (bounds : NumberBounds) (text : Text) : Option (Nat × Text) :=
  let digits := text.takeWhile (isDigitIn bounds.radix)
  if digits = [] then none
  else if bounds.maxDigits.any (· < digits.length) then none
  else if bounds.allowZeroPrefix = false ∧ digits.head? = some '0' ∧ 1 < digits.length then none
  else if numeralFrom bounds.radix 0 digits < bounds.limit then
    some (numeralFrom bounds.radix 0 digits, text.dropWhile (isDigitIn bounds.radix))
  else none

/-- The digits of a number within the bounds. -/
structure Numeral (bounds : NumberBounds) (digits : Text) (value : Nat) : Prop where
  nonempty : digits ≠ []
  all_digits : forall char, char ∈ digits -> isDigitIn bounds.radix char = true
  count : forall most, bounds.maxDigits = some most -> digits.length <= most
  canonical : bounds.allowZeroPrefix = false -> digits.head? = some '0' -> digits.length <= 1
  small : value < bounds.limit
  value_eq : numeralFrom bounds.radix 0 digits = value

/-- Nothing at the front of the text continues a number. -/
def Ends (radix : Nat) (text : Text) : Prop :=
  forall char, text.head? = some char -> isDigitIn radix char = false

/-- At the front of a text there is one sequence of digits. -/
theorem takeWhile_digits {radix : Nat} {digits rest : Text}
    (all : forall char, char ∈ digits -> isDigitIn radix char = true) (ends : Ends radix rest) :
    (digits ++ rest).takeWhile (isDigitIn radix) = digits ∧
      (digits ++ rest).dropWhile (isDigitIn radix) = rest := by
  rw [List.takeWhile_append_of_pos all, List.dropWhile_append_of_pos all]
  cases rest with
  | nil => exact ⟨List.append_nil digits, rfl⟩
  | cons char rest =>
      have no : ¬ isDigitIn radix char = true := by
        rw [ends char rfl]
        exact Bool.false_ne_true
      rw [List.takeWhile_cons_of_neg no, List.dropWhile_cons_of_neg no]
      exact ⟨List.append_nil digits, rfl⟩

theorem ends_dropWhile (radix : Nat) (text : Text) :
    Ends radix (text.dropWhile (isDigitIn radix)) := by
  intro char first
  have stops := List.head?_dropWhile_not (isDigitIn radix) text
  rw [first] at stops
  exact stops

theorem any_lt_iff {most : Option Nat} {count : Nat} :
    most.any (· < count) = true <-> ¬ forall bound, most = some bound -> count <= bound := by
  cases most with
  | none => simp only [Option.any_none, Bool.false_eq_true, reduceCtorEq, false_implies,
      implies_true, not_true_eq_false]
  | some bound => simp only [Option.any_some, decide_eq_true_eq, Option.some.injEq, forall_eq',
      Nat.not_le]

/-- Reading takes the digits at the front, and all of them. -/
theorem readNumber_eq_some {bounds : NumberBounds} {text rest : Text} {value : Nat} :
    readNumber bounds text = some (value, rest) <->
      exists digits, Numeral bounds digits value ∧ text = digits ++ rest ∧
        Ends bounds.radix rest := by
  constructor
  · intro read
    simp only [readNumber, any_lt_iff] at read
    split at read
    case isTrue => cases read
    case isFalse nonempty =>
        split at read
        case isTrue => cases read
        case isFalse counted =>
            split at read
            case isTrue => cases read
            case isFalse canonical =>
                split at read
                case isFalse => cases read
                case isTrue small =>
                    cases read
                    refine ⟨text.takeWhile (isDigitIn bounds.radix), ?_, ?_, ?_⟩
                    · refine ⟨nonempty, List.all_eq_true.mp List.all_takeWhile,
                        not_not.mp counted, ?_, small, rfl⟩
                      intro strict zero
                      exact Nat.le_of_not_lt (fun many => canonical ⟨strict, zero, many⟩)
                    · exact List.takeWhile_append_dropWhile.symm
                    · exact ends_dropWhile bounds.radix text
  · rintro ⟨digits, numeral, rfl, ends⟩
    rcases takeWhile_digits numeral.all_digits ends with ⟨taken, dropped⟩
    simp only [readNumber, any_lt_iff, taken, dropped]
    have canonical : ¬ (bounds.allowZeroPrefix = false ∧ digits.head? = some '0' ∧
        1 < digits.length) := by
      rintro ⟨strict, zero, many⟩
      exact Nat.not_lt.mpr (numeral.canonical strict zero) many
    have small : numeralFrom bounds.radix 0 digits < bounds.limit := by
      rw [numeral.value_eq]
      exact numeral.small
    rw [if_neg numeral.nonempty, if_neg (not_not.mpr numeral.count), if_neg canonical, if_pos small,
      numeral.value_eq]

/-! ## Decimal numbers without zeros in front -/

/-- A decimal digit is the character of its value. -/
theorem digitIn_ten {char : Char} {value : Nat} :
    digitIn 10 char = some value <-> char.isDigit = true ∧ value = char.toNat - '0'.toNat := by
  have digit : char.isDigit = true <-> '0' <= char ∧ char <= '9' := by
    rw [Char.isDigit, Bool.and_eq_true, decide_eq_true_iff, decide_eq_true_iff]
    rfl
  rw [digitIn, Option.filter_eq_some_iff, decide_eq_true_iff, hexDigit]
  split
  case isTrue decimal =>
      rw [and_iff_right (digit.mpr decimal), Option.some.injEq, eq_comm]
      apply and_iff_left_of_imp
      rintro rfl
      have high : char.toNat <= 57 := decimal.2
      exact Nat.lt_of_le_of_lt (Nat.sub_le_sub_right high '0'.toNat) (by decide)
  case isFalse other =>
      constructor
      · rintro ⟨read, small⟩
        split at read
        · cases Option.some.inj read
          exact absurd small (Nat.not_lt.mpr (Nat.le_add_left 10 _))
        · split at read
          · cases Option.some.inj read
            exact absurd small (Nat.not_lt.mpr (Nat.le_add_left 10 _))
          · cases read
      · rintro ⟨isDigit, _⟩
        exact absurd (digit.mp isDigit) other

theorem isDigitIn_ten {char : Char} : isDigitIn 10 char = true <-> char.isDigit = true := by
  rw [isDigitIn, Option.isSome_iff_exists]
  constructor
  · rintro ⟨value, digit⟩
    exact (digitIn_ten.mp digit).1
  · intro digit
    exact ⟨_, digitIn_ten.mpr ⟨digit, rfl⟩⟩

theorem getD_digitIn {char : Char} (digit : char.isDigit = true) :
    (digitIn 10 char).getD 0 = char.toNat - '0'.toNat := by
  rw [digitIn_ten.mpr ⟨digit, rfl⟩]
  rfl

theorem digitChar_toNat {char : Char} (digit : char.isDigit = true) :
    char.toNat - '0'.toNat < 10 ∧ Nat.digitChar (char.toNat - '0'.toNat) = char := by
  have bounds : 48 <= char.toNat ∧ char.toNat <= 57 := by
    rw [Char.isDigit, Bool.and_eq_true, decide_eq_true_iff, decide_eq_true_iff] at digit
    exact digit
  have zero : '0'.toNat = 48 := rfl
  have small : char.toNat - '0'.toNat < 10 := by omega
  refine ⟨small, Char.toNat_inj.mp ?_⟩
  rw [Nat.toNat_digitChar_of_lt_ten small]
  omega

/-- Digits behind a number extend its spelling. -/
theorem toDigits_numeralFrom {value : Nat} (positive : 0 < value) {digits : Text}
    (all : forall char, char ∈ digits -> isDigitIn 10 char = true) :
    Nat.toDigits 10 value ++ digits = Nat.toDigits 10 (numeralFrom 10 value digits) := by
  induction digits generalizing value with
  | nil => exact List.append_nil _
  | cons char rest inductionHypothesis =>
      have digit := isDigitIn_ten.mp (all char List.mem_cons_self)
      rcases digitChar_toNat digit with ⟨small, same⟩
      have extended := Nat.toDigits_append_toDigits (by decide : 1 < 10) positive small
      rw [Nat.toDigits_of_lt_base small, same] at extended
      have next := inductionHypothesis
        (Nat.lt_of_lt_of_le (Nat.mul_pos (by decide : 0 < 10) positive)
          (Nat.le_add_right _ (char.toNat - '0'.toNat)))
        (fun other member => all other (List.mem_cons_of_mem char member))
      rw [← extended, List.append_assoc] at next
      rw [numeralFrom, List.foldl_cons, getD_digitIn digit, Nat.mul_comm value 10]
      exact next

/-- Digits without zeros in front are the spelling of their number. -/
theorem eq_toDigits {digits : Text} (nonempty : digits ≠ [])
    (all : forall char, char ∈ digits -> isDigitIn 10 char = true)
    (canonical : digits.head? = some '0' -> digits.length <= 1) :
    digits = Nat.toDigits 10 (numeralFrom 10 0 digits) := by
  cases digits with
  | nil => exact absurd rfl nonempty
  | cons char rest =>
      have digit := isDigitIn_ten.mp (all char List.mem_cons_self)
      rcases digitChar_toNat digit with ⟨small, same⟩
      have single : Nat.toDigits 10 (char.toNat - '0'.toNat) = [char] := by
        rw [Nat.toDigits_of_lt_base small, same]
      rw [numeralFrom, List.foldl_cons, getD_digitIn digit, Nat.zero_mul, Nat.zero_add]
      by_cases zero : char = '0'
      · have short := canonical (congrArg some zero)
        have empty : rest = [] :=
          List.eq_nil_of_length_eq_zero (Nat.le_zero.mp (Nat.le_of_succ_le_succ short))
        subst empty
        exact single.symm
      · have positive : 0 < char.toNat - '0'.toNat := by
          apply Nat.pos_of_ne_zero
          intro none
          rw [none] at same
          exact zero same.symm
        have whole := toDigits_numeralFrom positive
          (fun other member => all other (List.mem_cons_of_mem char member))
        rw [single] at whole
        exact whole

theorem isDigitIn_toDigits {number : Nat} {char : Char} (member : char ∈ Nat.toDigits 10 number) :
    isDigitIn 10 char = true :=
  isDigitIn_ten.mpr (Nat.isDigit_of_mem_toDigits (by decide) (by decide) member)

theorem numeralFrom_eq_ofDigitChars {digits : Text}
    (all : forall char, char ∈ digits -> isDigitIn 10 char = true) (value : Nat) :
    numeralFrom 10 value digits = Nat.ofDigitChars 10 digits value := by
  induction digits generalizing value with
  | nil => rw [Nat.ofDigitChars_nil, numeralFrom, List.foldl_nil]
  | cons char rest inductionHypothesis =>
      have digit := isDigitIn_ten.mp (all char List.mem_cons_self)
      rw [Nat.ofDigitChars_cons, numeralFrom, List.foldl_cons, getD_digitIn digit,
        Nat.mul_comm value 10]
      exact inductionHypothesis (fun other member => all other (List.mem_cons_of_mem char member)) _

/-- The spelling of a number is read as the number. -/
theorem numeralFrom_toDigits (number : Nat) :
    numeralFrom 10 0 (Nat.toDigits 10 number) = number :=
  (numeralFrom_eq_ofDigitChars (fun _ member => isDigitIn_toDigits member) 0).trans
    Nat.ofDigitChars_ten_toDigits

/-- Only zero is written with a zero in front. -/
theorem eq_zero_of_head {number : Nat} (zero : (Nat.toDigits 10 number).head? = some '0') :
    number = 0 := by
  induction number using Nat.strongRecOn with
  | ind number inductionHypothesis =>
      by_cases small : number < 10
      · rw [Nat.toDigits_of_lt_base small] at zero
        apply toDigits_inj
        rw [Nat.toDigits_of_lt_base small, Nat.toDigits_zero]
        exact congrArg (fun char => [char]) (Option.some.inj zero)
      · have large : 10 <= number := Nat.le_of_not_lt small
        rw [Nat.toDigits_of_base_le (by decide) large, List.head?_append_of_ne_nil _
          Nat.toDigits_ne_nil] at zero
        have less : number / 10 < number := by omega
        have quotient := inductionHypothesis (number / 10) less zero
        omega

/-- A number in decimal notation within the bounds is a numeral. -/
theorem numeral_toDigits {bounds : NumberBounds} (decimal : bounds.radix = 10) {number : Nat}
    (count : forall most, bounds.maxDigits = some most ->
      (Nat.toDigits 10 number).length <= most)
    (small : number < bounds.limit) : Numeral bounds (Nat.toDigits 10 number) number := by
  refine ⟨Nat.toDigits_ne_nil, ?_, count, ?_, small, ?_⟩
  · intro char member
    rw [decimal]
    exact isDigitIn_toDigits member
  · intro _ zero
    rw [eq_zero_of_head zero, Nat.toDigits_zero]
    exact Nat.le_refl 1
  · rw [decimal]
    exact numeralFrom_toDigits number

/-- Without zeros in front a numeral is the spelling of its number. -/
theorem Numeral.eq_toDigits {bounds : NumberBounds} (decimal : bounds.radix = 10)
    (strict : bounds.allowZeroPrefix = false) {digits : Text} {value : Nat}
    (numeral : Numeral bounds digits value) : digits = Nat.toDigits 10 value := by
  rw [← numeral.value_eq, decimal]
  refine Text.eq_toDigits numeral.nonempty ?_ (numeral.canonical strict)
  intro char member
  rw [← decimal]
  exact numeral.all_digits char member

theorem digitsValue_toDigits (number : Nat) : digitsValue (Nat.toDigits 10 number) = number := by
  refine Eq.trans ?_ (@Nat.ofDigitChars_ten_toDigits number)
  rw [digitsValue, Nat.ofDigitChars_eq_foldl]
  congr 1
  funext value digit
  rw [Nat.mul_comm value 10]

/-- The spelling of a number has no sign. -/
theorem stripStart_toDigits (number : Nat) : stripStart (Nat.toDigits 10 number) ['+'] = none := by
  apply if_neg
  intro begins
  rcases List.isPrefixOf_iff_prefix.mp begins with ⟨rest, same⟩
  have member : '+' ∈ Nat.toDigits 10 number := same ▸ List.mem_cons_self
  exact absurd (Nat.isDigit_of_mem_toDigits (by decide) (by decide) member) (by decide)

/-- The spelling of a number below a limit is nothing but digits for it. -/
theorem check_toDigits {number limit : Nat} (small : number < limit) :
    (!(Nat.toDigits 10 number).isEmpty && (Nat.toDigits 10 number).all Char.isDigit &&
      decide (digitsValue (Nat.toDigits 10 number) < limit)) = true := by
  have all : forall char, char ∈ Nat.toDigits 10 number -> char.isDigit = true :=
    fun _ member => Nat.isDigit_of_mem_toDigits (by decide) (by decide) member
  have nonempty : (Nat.toDigits 10 number).isEmpty = false :=
    List.isEmpty_eq_false_iff.mpr Nat.toDigits_ne_nil
  rw [nonempty, List.all_eq_true.mpr all, digitsValue_toDigits, decide_eq_true small]
  rfl

/-- A port is read back from its spelling. -/
theorem parseU16_toDigits {number : Nat} (small : number < 2 ^ 16) :
    parseU16 (Nat.toDigits 10 number) = some number := by
  rw [parseU16, stripStart_toDigits, Option.getD_none]
  exact (if_pos (check_toDigits small)).trans (congrArg some (digitsValue_toDigits number))

theorem parseU64_toDigits {number : Nat} (small : number < 2 ^ 64) :
    parseU64 (Nat.toDigits 10 number) = some number := by
  rw [parseU64, stripStart_toDigits, Option.getD_none]
  exact (if_pos (check_toDigits small)).trans (congrArg some (digitsValue_toDigits number))

theorem parseU64_lt {text : Text} {number : Nat} (read : parseU64 text = some number) :
    number < 2 ^ 64 := by
  simp only [parseU64] at read
  split at read
  · rename_i valid
    rw [← Option.some.inj read]
    exact of_decide_eq_true (Bool.and_eq_true_iff.mp valid).2
  · cases read

end Text
end Foundations
end QuicMix
