/-
**Internet addresses as hosts.**

A host between square brackets is an address of eight 16-bit groups, of which one run of zeros may
be left out; a web host whose last part is a number is an address of four bytes, in up to four parts
that may be octal or hexadecimal.

Main definitions:

* `FrameMux.Url.readGroups?` — the eight groups of a bracketed address;
* `FrameMux.Url.groupsText` — their shortest text, the longest run of zeros left out;
* `FrameMux.Url.endsInNumber`, `FrameMux.Url.readQuad?` — when a web host is a four-byte address,
  and which one.
-/

import FrameMux.Text.Blank
import FrameMux.Text.Unsigned

set_option relaxedAutoImplicit false
set_option autoImplicit false

namespace FrameMux.Url

open FrameMux.Text

/-! ### Eight groups -/

/-- Groups read so far; `gap` is the number of groups before the zeros that were left out, the first
of which is listed. -/
structure Groups where
  listed : List Nat
  gap : Option Nat
deriving DecidableEq, Repr

namespace Groups

/-- The number of groups of an address. -/
def width : Nat := 8

/-- Adds a group. -/
def push (g : Groups) (value : Nat) : Groups := { g with listed := g.listed ++ [value] }

/-- Leaves out a run of zeros here; one run only. -/
def skip? (g : Groups) : Option Groups :=
  if g.gap.isSome then none else some ⟨g.listed ++ [0], some (g.listed.length + 1)⟩

/-- All eight groups. -/
def complete? (g : Groups) : Option (List Nat) :=
  match g.gap with
  | some gap =>
      some (g.listed.take gap ++ List.replicate (width - g.listed.length) 0 ++ g.listed.drop gap)
  | none => if g.listed.length = width then some g.listed else none

end Groups

/-- Up to `limit` hexadecimal digits: their value, how many there were, and the rest. -/
def takeHex : Nat → Nat → Nat → List Char → Nat × Nat × List Char
  | 0, value, count, cs => (value, count, cs)
  | _, value, count, [] => (value, count, [])
  | limit + 1, value, count, c :: rest =>
      match hexValue? c with
      | some d => takeHex limit (value * 16 + d) (count + 1) rest
      | none => (value, count, c :: rest)

/-- A byte in decimal without leading zeros. -/
def readByte? (cs : List Char) : Option Nat :=
  match cs with
  | [] => none
  | '0' :: _ :: _ => none
  | _ =>
      if cs.all isDigit && decide (cs.length ≤ 3) && decide (digitsValue cs ≤ 255) then
        some (digitsValue cs)
      else none

/-- The two groups of four decimal bytes between dots. -/
def readDotted? (cs : List Char) : Option (Nat × Nat) :=
  match (splitAll (· == '.') cs).mapM readByte? with
  | some [a, b, c, d] => some (a * 256 + b, c * 256 + d)
  | _ => none

/-- Reads groups up to the end of the text; `fuel` bounds the number of groups and gaps. -/
def readGroupsFrom? : Nat → Groups → List Char → Option Groups
  | _, groups, [] => some groups
  | 0, _, _ => none
  | fuel + 1, groups, cs =>
      if groups.listed.length = Groups.width then none
      else
        match cs with
        | ':' :: rest => groups.skip?.bind fun groups => readGroupsFrom? fuel groups rest
        | _ =>
            match takeHex 4 0 0 cs with
            | (value, _, []) => some (groups.push value)
            | (_, count, '.' :: _) =>
                if count = 0 ∨ Groups.width - 2 < groups.listed.length then none
                else (readDotted? cs).map fun (high, low) => (groups.push high).push low
            | (value, _, ':' :: next :: rest) =>
                readGroupsFrom? fuel (groups.push value) (next :: rest)
            | _ => none

/-- The eight groups of an address. -/
def readGroups? (cs : List Char) : Option (List Nat) :=
  let groups :=
    match cs with
    | [] => none
    | [_] => none
    | ':' :: ':' :: rest => readGroupsFrom? cs.length ⟨[0], some 1⟩ rest
    | ':' :: _ => none
    | _ => readGroupsFrom? cs.length ⟨[], none⟩ cs
  groups.bind Groups.complete?

/-- How many zeros a list starts with. -/
def leadingZeros (groups : List Nat) : Nat := (groups.takeWhile (· == 0)).length

/-- The position and length of the longest run of at least two zeros, the first of equal ones. -/
def longestZeros? (groups : List Nat) : Option (Nat × Nat) :=
  let runs := (List.range groups.length).map fun i => (i, leadingZeros (groups.drop i))
  runs.foldl (fun best run =>
    let known := (best.map Prod.snd).getD 1
    -- A later run has to be longer, and a single zero is no run.
    if known < run.2 then some run else best) none

/-- Groups in hexadecimal between colons. -/
def colonText (groups : List Nat) : String :=
  ":".intercalate (groups.map fun g => String.ofList (Nat.toDigits 16 g))

/-- The text of an address without its longest run of zeros. -/
def groupsText (groups : List Nat) : String :=
  match longestZeros? groups with
  | some (start, length) =>
      colonText (groups.take start) ++ "::" ++ colonText (groups.drop (start + length))
  | none => colonText groups

example : (readGroups? "::1".toList).map groupsText = some "::1" := by decide +kernel
example : (readGroups? "1:0:0:2:0:0:0:3".toList).map groupsText = some "1:0:0:2::3" := by
  decide +kernel
example : (readGroups? "1:2:3:4:5:6:7::".toList).map groupsText = some "1:2:3:4:5:6:7:0" := by
  decide +kernel
example : (readGroups? "::ffff:1.2.3.4".toList).map groupsText = some "::ffff:102:304" := by
  decide +kernel
example : readGroups? "1::2::3".toList = none := by decide +kernel
example : readGroups? "1:2:3:4:5:6:7:8:".toList = none := by decide +kernel

/-! ### Four bytes -/

/-- The value of digits in a radix. -/
def radixValue? (radix : Nat) (cs : List Char) : Option Nat :=
  cs.foldlM (fun acc c =>
    (hexValue? c).bind fun d => if d < radix then some (acc * radix + d) else none) 0

/-- One part of a four-byte address: hexadecimal after `0x`, octal after another zero. -/
def readPart? (cs : List Char) : Option Nat :=
  match cs with
  | [] => none
  | '0' :: 'x' :: digits => radixValue? 16 digits
  | '0' :: 'X' :: digits => radixValue? 16 digits
  | '0' :: c :: digits => radixValue? 8 (c :: digits)
  | digits => radixValue? 10 digits

/-- The parts of a host, without an empty one at its end. -/
def hostParts (cs : List Char) : List (List Char) :=
  let parts := splitAll (· == '.') cs
  if 1 < parts.length ∧ parts.getLast? = some [] then parts.dropLast else parts

/-- Whether the last part of a host is a number, so that the host has to be an address. -/
def endsInNumber (cs : List Char) : Bool :=
  match (hostParts cs).getLast? with
  | none => false
  | some last => (!last.isEmpty && last.all isDigit) || (readPart? last).isSome

/-- The four-byte address that a host is: every part but the last is a byte, and the last one fills
the remaining bytes. -/
def readQuad? (cs : List Char) : Option Nat :=
  let parts := hostParts cs
  if 4 < parts.length then none
  else
    match parts.mapM readPart? with
    | none => none
    | some numbers =>
        let bytes := numbers.dropLast
        let last := numbers.getLast?.getD 0
        let room := Nat.pow 256 (4 - bytes.length)
        if bytes.all (· ≤ 255) && decide (last < room) then
          some (bytes.foldl (fun acc b => acc * 256 + b) 0 * room + last)
        else none

example : readQuad? "0x7f.1".toList = some 0x7f000001 := by decide +kernel
example : readQuad? "1.2.3.08".toList = none := by decide +kernel
example : endsInNumber "0xg".toList = false := by decide +kernel

end FrameMux.Url
