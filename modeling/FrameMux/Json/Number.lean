/-
**Numbers in JSON texts.**

A number without point and exponent is an integer of 64 bits if it fits, and a binary64 number
otherwise.  Of the digits of any other number as many are used as fit 64 bits; the rest only move
the point.  The result is the significand, rounded to binary64, times or over a rounded power of
ten: two roundings, so it need not be the nearest number.

Main definitions:

* `FrameMux.Json.Number` — what a number can be;
* `FrameMux.Json.scaleTen?` — a significand times a power of ten;
* `FrameMux.Json.readNumber` — **the reader**, after an optional minus sign.
-/

import FrameMux.Json.Reader

set_option relaxedAutoImplicit false
set_option autoImplicit false

namespace FrameMux.Json

/-- What a number can be. -/
inductive Number where
  | natural (value : Nat)
  | negative (value : Int)
  | floating (value : Binary64)
deriving DecidableEq, Repr

/-- The number as a value of the wrong kind. -/
def Number.unexpected : Number → Unexpected
  | natural value => .integer value
  | negative value => .integer value
  | floating value => .floating value

/-- The number as a binary64 number. -/
def Number.toBinary64 : Number → Binary64
  | natural value => .ofNat value
  | negative value => .ofRatio true (.ofNat value.natAbs)
  | floating value => value

/-! ### Digits -/

/-- The bound of significands. -/
def significandBound : Nat := UInt64.size

/-- The bound of exponents. -/
def exponentBound : Nat := UInt32.size / 2

/-- The value of a digit. -/
def digit? (b : UInt8) : Option Nat :=
  if code '0' ≤ b ∧ b ≤ code '9' then some (b.toNat - '0'.toNat) else none

/-- Whether a byte is a digit. -/
def isDigitByte (b : UInt8) : Bool := (digit? b).isSome

/-- Whether a byte starts an exponent. -/
def isExponentMark (b : UInt8) : Bool := b = code 'e' || b = code 'E'

/-- Adds digits to a value as long as it stays below the bound; also tells how many were added and
where that ended. -/
def gatherDigits (bound : Nat) : Nat → Nat → Position → List UInt8 → Nat × Nat × Cursor
  | value, count, p, [] => (value, count, ⟨p, []⟩)
  | value, count, p, b :: rest =>
      match digit? b with
      | none => (value, count, ⟨p, b :: rest⟩)
      | some d =>
          if value * 10 + d < bound then
            gatherDigits bound (value * 10 + d) (count + 1) (Cursor.after p b) rest
          else (value, count, ⟨p, b :: rest⟩)

/-- Passes digits onto a value below the bound. -/
def readDigits (bound value : Nat) : Reader (Nat × Nat) := do
  let c ← get
  let (value, count, c) := gatherDigits bound value 0 c.position c.rest
  set c
  return (value, count)

/-- Passes digits, and tells how many there were. -/
def skipDigits : Reader Nat := do
  let c ← get
  let c' := Cursor.past isDigitByte c.position c.rest
  set c'
  return c.rest.length - c'.rest.length

/-! ### Scaling -/

/-- The greatest power of ten that is a binary64 number. -/
def greatestTen : Nat := 308

/-- The power of ten nearest to `10 ^ n`. -/
def powerOfTen (n : Nat) : Binary64 := .ofNat (Nat.pow 10 n)

/-- A nonnegative number times `10 ^ exponent`; too large a result is none. -/
def scaleTen? (x : Binary64) (exponent : Int) : Option Binary64 :=
  if 0 ≤ exponent then
    if exponent.toNat ≤ greatestTen then
      -- The significand was rounded once already; the product is rounded again.
      match x.mul (powerOfTen exponent.toNat) with
      | .infinite _ => none
      | y => some y
    else if x.isZero then some x
    else none
  else if -exponent ≤ greatestTen then some (x.div (powerOfTen (-exponent).toNat))
  else if x.isZero then some x
  else scaleTen? (x.div (powerOfTen greatestTen)) (exponent + greatestTen)
termination_by (-exponent).toNat
decreasing_by simp only [greatestTen] at *; omega

/-- A number with a sign. -/
def withSign (positive : Bool) (x : Binary64) : Binary64 := if positive then x else x.neg

/-- The number of a significand and an exponent. -/
def fromParts (positive : Bool) (significand : Nat) (exponent : Int) : Reader Number :=
  match scaleTen? (.ofNat significand) exponent with
  | some x => return .floating (withSign positive x)
  | none => failHere .outOfRange

/-! ### The reader -/

/-- The range of exponents: beyond it they stay at its ends. -/
def clampExponent (e : Int) : Int :=
  max (-(exponentBound : Int)) (min (exponentBound - 1 : Int) e)

/-- Reads the exponent, its mark being next. -/
def readExponent (positive : Bool) (significand : Nat) (start : Int) : Reader Number := do
  eat
  let up ← match ← peek with
    | some b =>
        if b = code '+' then eat *> pure true
        else if b = code '-' then eat *> pure false
        else pure true
    | none => pure true
  match ← next with
  | none => failHere .endInValue
  | some b =>
      match digit? b with
      | none => failHere .invalidNumber
      | some first =>
          let (e, _) ← readDigits exponentBound first
          match (← peek).bind digit? with
          | none =>
              fromParts positive significand (clampExponent (if up then start + e else start - e))
          | some _ =>
              eat
              -- The exponent is beyond the bound: up there nothing but zero is a number, and below
              -- all is zero.
              if significand ≠ 0 ∧ up then failHere .outOfRange
              else
                let _ ← skipDigits
                return .floating (.zero (!positive))

/-- Reads an exponent, if there is one. -/
def readTail (positive : Bool) (significand : Nat) (exponent : Int) : Reader Number := do
  if ((← peek).map isExponentMark).getD false then readExponent positive significand exponent
  else fromParts positive significand exponent

/-- Reads the fraction, its point being next. -/
def readFraction (positive : Bool) (significand : Nat) (start : Int) : Reader Number := do
  eat
  let (value, used) ← readDigits significandBound significand
  let unused ← skipDigits
  if used + unused = 0 then
    if (← peek).isSome then failAhead .invalidNumber else failAhead .endInValue
  else readTail positive value (start - used)

/-- An integer: a natural, a negative number of 63 bits, or else a binary64 number. -/
def integer (positive : Bool) (significand : Nat) : Number :=
  if positive then .natural significand
  else if significand = 0 ∨ UInt64.size / 2 < significand then
    .floating (.ofRatio true (.ofNat significand))
  else .negative (-(significand : Int))

/-- Reads what may follow the digits before the point. -/
def readAfterDigits (positive : Bool) (significand extra : Nat) : Reader Number := do
  match ← peek with
  | some b =>
      if b = code '.' then readFraction positive significand extra
      else if isExponentMark b then readExponent positive significand extra
      else if extra = 0 then return integer positive significand
      else fromParts positive significand extra
  | none =>
      if extra = 0 then return integer positive significand
      else fromParts positive significand extra

/-- Reads a number whose minus sign, if any, was passed. -/
def readNumber (positive : Bool) : Reader Number := do
  match ← next with
  | none => failHere .endInValue
  | some b =>
      match digit? b with
      | none => failHere .invalidNumber
      | some first =>
          if first = 0 then
            if ((← peek).bind digit?).isSome then failAhead .invalidNumber
            else readAfterDigits positive 0 0
          else
            let (value, _) ← readDigits significandBound first
            let extra ← skipDigits
            readAfterDigits positive value extra

/-! ### Passing over numbers -/

/-- Passes the digits of an exponent, its mark being next. -/
def skipExponent : Reader Unit := do
  eat
  match ← peek with
  | some b => if b = code '+' ∨ b = code '-' then eat
  | none => pure ()
  match (← next).bind digit? with
  | none => failHere .invalidNumber
  | some _ => discard skipDigits

/-- Passes an exponent, if there is one. -/
def skipTail : Reader Unit := do
  if ((← peek).map isExponentMark).getD false then skipExponent

/-- Passes over a number whose minus sign, if any, was passed. -/
def skipNumber : Reader Unit := do
  match (← next).bind digit? with
  | none => failHere .invalidNumber
  | some first =>
      if first = 0 then
        if ((← peek).bind digit?).isSome then failAhead .invalidNumber
      else discard skipDigits
      match ← peek with
      | some b =>
          if b = code '.' then
            eat
            let count ← skipDigits
            if count = 0 then failAhead .invalidNumber
            skipTail
          else skipTail
      | none => pure ()

end FrameMux.Json
