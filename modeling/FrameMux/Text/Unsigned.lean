/-
**Unsigned decimal numerals.**

Identifiers, frame rates and limits are written as decimal numerals: an optional plus sign and one
or more ASCII digits, whose value has to fit the word it is meant for.  A numeral is read from left
to right, so the first thing that is wrong decides which of the errors is reported.

Main definitions:

* `FrameMux.Text.NumeralError` — why a text is no numeral;
* `FrameMux.Text.readUnsigned` — **the reader**, for values below a bound;
* `FrameMux.Text.digitsValue` — the value of a list of digits;
* `FrameMux.Text.UnsignedNumeral` — the grammar of numerals.

Main results:

* `FrameMux.Text.readUnsigned_eq_ok_iff` — **the reader accepts exactly the grammar**: a text is
  read as `n` exactly when it is a numeral of value `n` below the bound;
* `FrameMux.Text.readU32_eq_ok_iff`, `FrameMux.Text.readU64_eq_ok_iff` — so do its words.
-/

set_option relaxedAutoImplicit false
set_option autoImplicit false

namespace FrameMux.Text

/-! ### Digits -/

/-- The value of an ASCII digit. -/
def digitValue? (c : Char) : Option Nat :=
  if '0'.toNat ≤ c.toNat ∧ c.toNat ≤ '9'.toNat then some (c.toNat - '0'.toNat) else none

/-- The value of an ASCII hexadecimal digit in either case. -/
def hexValue? (c : Char) : Option Nat :=
  if 'a'.toNat ≤ c.toNat ∧ c.toNat ≤ 'f'.toNat then some (c.toNat - 'a'.toNat + 10)
  else if 'A'.toNat ≤ c.toNat ∧ c.toNat ≤ 'F'.toNat then some (c.toNat - 'A'.toNat + 10)
  else digitValue? c

/-- Whether a character is an ASCII digit. -/
def isDigit (c : Char) : Bool := (digitValue? c).isSome

/-- The value of a list of digits in positional notation. -/
def digitsValue (cs : List Char) : Nat :=
  cs.foldl (fun acc c => acc * 10 + (digitValue? c).getD 0) 0

/-! ### Reading -/

/-- Why a text is no numeral below the bound. -/
inductive NumeralError where
  | empty
  | invalidDigit
  | tooLarge
deriving DecidableEq, Repr

/-- The wording of a numeral error. -/
def NumeralError.message : NumeralError → String
  | empty => "cannot parse integer from empty string"
  | invalidDigit => "invalid digit found in string"
  | tooLarge => "number too large to fit in target type"

/-- Reads digits onto an accumulator that stays below the bound. -/
def readDigits (bound : Nat) : Nat → List Char → Except NumeralError Nat
  | acc, [] => .ok acc
  | acc, c :: rest =>
      match digitValue? c with
      | none => .error .invalidDigit
      | some d =>
          if acc * 10 + d < bound then readDigits bound (acc * 10 + d) rest else .error .tooLarge

/-- The value of a decimal numeral below `bound`. -/
def readUnsigned (bound : Nat) (cs : List Char) : Except NumeralError Nat :=
  match cs with
  | [] => .error .empty
  | ['+'] => .error .invalidDigit
  | '+' :: digits => readDigits bound 0 digits
  | digits => readDigits bound 0 digits

/-- A 32-bit numeral. -/
def readU32 (cs : List Char) : Except NumeralError UInt32 :=
  (readUnsigned UInt32.size cs).map UInt32.ofNat

/-- A 64-bit numeral. -/
def readU64 (cs : List Char) : Except NumeralError UInt64 :=
  (readUnsigned UInt64.size cs).map UInt64.ofNat

/-! ### The grammar -/

/-- A numeral of value `n`: an optional plus sign and one or more digits. -/
def UnsignedNumeral (cs : List Char) (n : Nat) : Prop :=
  ∃ digits, (cs = digits ∨ cs = '+' :: digits) ∧ digits ≠ [] ∧
    (∀ c ∈ digits, isDigit c = true) ∧ digitsValue digits = n

theorem foldl_digits_ge (cs : List Char) (acc : Nat) :
    acc ≤ cs.foldl (fun acc c => acc * 10 + (digitValue? c).getD 0) acc := by
  induction cs generalizing acc with
  | nil => exact Nat.le_refl _
  | cons c rest ih =>
    have grow : acc ≤ acc * 10 + (digitValue? c).getD 0 := by omega
    exact Nat.le_trans grow (ih _)

/-- Digits are read onto an accumulator exactly when they all are digits and the value stays below
the bound. -/
theorem readDigits_eq_ok_iff {bound acc n : Nat} {cs : List Char} (start : acc < bound) :
    readDigits bound acc cs = .ok n ↔
      (∀ c ∈ cs, isDigit c = true) ∧
        cs.foldl (fun acc c => acc * 10 + (digitValue? c).getD 0) acc = n ∧ n < bound := by
  induction cs generalizing acc with
  | nil =>
    constructor
    · intro h; cases h; exact ⟨by simp, rfl, start⟩
    · rintro ⟨_, rfl, _⟩; rfl
  | cons c rest ih =>
    unfold readDigits
    cases hd : digitValue? c with
    | none => simp [isDigit, hd]
    | some d =>
      by_cases fits : acc * 10 + d < bound
      · simp [fits, ih fits, isDigit, hd]
      · have large := foldl_digits_ge rest (acc * 10 + d)
        simp only [fits, if_false, List.foldl_cons, hd, Option.getD_some]
        constructor
        · intro h; cases h
        · rintro ⟨_, rfl, below⟩; omega

/-- A plus sign is not a digit. -/
theorem isDigit_plus : isDigit '+' = false := by decide

/-- The reader accepts exactly the numerals whose value is below the bound. -/
theorem readUnsigned_eq_ok_iff {bound n : Nat} {cs : List Char} (positive : 0 < bound) :
    readUnsigned bound cs = .ok n ↔ UnsignedNumeral cs n ∧ n < bound := by
  have plain : ∀ digits : List Char, digits ≠ [] →
      (readDigits bound 0 digits = .ok n ↔
        (∀ c ∈ digits, isDigit c = true) ∧ digitsValue digits = n ∧ n < bound) :=
    fun digits _ => readDigits_eq_ok_iff positive
  unfold readUnsigned
  split
  · constructor
    · intro h; cases h
    · rintro ⟨⟨digits, form, nonempty, _⟩, _⟩
      rcases form with h | h
      · exact absurd h.symm nonempty
      · cases h
  · constructor
    · intro h; cases h
    · rintro ⟨⟨digits, form, nonempty, all, _⟩, _⟩
      rcases form with h | h
      · have := all '+' (by simp [← h]); simp [isDigit_plus] at this
      · injection h with _ h; exact absurd h.symm nonempty
  · rename_i digits long
    have nonempty : digits ≠ [] := by rintro rfl; exact long rfl
    rw [plain digits nonempty]
    constructor
    · rintro ⟨all, value, below⟩
      exact ⟨⟨digits, Or.inr rfl, nonempty, all, value⟩, below⟩
    · rintro ⟨⟨ds, form, _, all, value⟩, below⟩
      rcases form with h | h
      · have := all '+' (by simp [← h]); simp [isDigit_plus] at this
      · injection h with _ h; subst h; exact ⟨all, value, below⟩
  · rename_i _ nonempty _ unsigned
    have nonempty : cs ≠ [] := nonempty
    rw [plain cs nonempty]
    constructor
    · rintro ⟨all, value, below⟩
      exact ⟨⟨cs, Or.inl rfl, nonempty, all, value⟩, below⟩
    · rintro ⟨⟨ds, form, _, all, value⟩, below⟩
      rcases form with h | h
      · subst h; exact ⟨all, value, below⟩
      · exact absurd h (unsigned ds)

/-- A text is the numeral of one value only. -/
theorem UnsignedNumeral.unique {cs : List Char} {m n : Nat} (hm : UnsignedNumeral cs m)
    (hn : UnsignedNumeral cs n) : m = n := by
  have positive : 0 < m + n + 1 := by omega
  have readM : readUnsigned (m + n + 1) cs = .ok m :=
    (readUnsigned_eq_ok_iff positive).2 ⟨hm, by omega⟩
  have readN : readUnsigned (m + n + 1) cs = .ok n :=
    (readUnsigned_eq_ok_iff positive).2 ⟨hn, by omega⟩
  exact Except.ok.inj (readM.symm.trans readN)

/-- Reading into a type whose elements are the numbers below the bound. -/
theorem map_readUnsigned_eq_ok_iff {α : Type} {bound : Nat} {ofNat : Nat → α} {toNat : α → Nat}
    (below : ∀ a, toNat a < bound) (ofNat_toNat : ∀ a, ofNat (toNat a) = a)
    (toNat_ofNat : ∀ n < bound, toNat (ofNat n) = n) {cs : List Char} {a : α} :
    (readUnsigned bound cs).map ofNat = .ok a ↔ UnsignedNumeral cs (toNat a) := by
  have positive : 0 < bound := Nat.lt_of_le_of_lt (Nat.zero_le _) (below a)
  constructor
  · intro h
    cases read : readUnsigned bound cs with
    | error e => rw [read] at h; cases h
    | ok n =>
      rw [read] at h
      cases h
      have numeral := (readUnsigned_eq_ok_iff positive).1 read
      rw [toNat_ofNat n numeral.2]
      exact numeral.1
  · intro numeral
    rw [(readUnsigned_eq_ok_iff positive).2 ⟨numeral, below a⟩]
    exact congrArg Except.ok (ofNat_toNat a)

/-- A numeral that is not read is out of range. -/
theorem bound_le_of_map_readUnsigned_eq_error {α : Type} {bound n : Nat} {f : Nat → α}
    {cs : List Char} {e : NumeralError} (failed : (readUnsigned bound cs).map f = .error e)
    (numeral : UnsignedNumeral cs n) : bound ≤ n := by
  refine Nat.le_of_not_lt fun below => ?_
  rw [(readUnsigned_eq_ok_iff (by omega)).2 ⟨numeral, below⟩] at failed
  cases failed

/-- A text is read as a 32-bit word exactly when it is a numeral of its value. -/
theorem readU32_eq_ok_iff {cs : List Char} {n : UInt32} :
    readU32 cs = .ok n ↔ UnsignedNumeral cs n.toNat :=
  map_readUnsigned_eq_ok_iff UInt32.toNat_lt_size (fun _ => UInt32.ofNat_toNat)
    (fun _ => UInt32.toNat_ofNat_of_lt')

/-- A numeral that is not read as a 32-bit word has a value beyond. -/
theorem size_le_of_readU32_eq_error {cs : List Char} {e : NumeralError} {n : Nat}
    (failed : readU32 cs = .error e) (numeral : UnsignedNumeral cs n) : UInt32.size ≤ n :=
  bound_le_of_map_readUnsigned_eq_error failed numeral

/-- A text is read as a 64-bit word exactly when it is a numeral of its value. -/
theorem readU64_eq_ok_iff {cs : List Char} {n : UInt64} :
    readU64 cs = .ok n ↔ UnsignedNumeral cs n.toNat :=
  map_readUnsigned_eq_ok_iff UInt64.toNat_lt_size (fun _ => UInt64.ofNat_toNat)
    (fun _ => UInt64.toNat_ofNat_of_lt')

/-- A numeral that is not read as a 64-bit word has a value beyond. -/
theorem size_le_of_readU64_eq_error {cs : List Char} {e : NumeralError} {n : Nat}
    (failed : readU64 cs = .error e) (numeral : UnsignedNumeral cs n) : UInt64.size ≤ n :=
  bound_le_of_map_readUnsigned_eq_error failed numeral

end FrameMux.Text
