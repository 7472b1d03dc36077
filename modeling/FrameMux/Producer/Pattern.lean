/-
**The moving test picture.**

Frame `n` of the picture has in its pixel `(x, y)` the red value `x + n`, the green value `y + n`
and the blue value `n`, each modulo 256.

Main definitions:

* `FrameMux.pixel` — the three bytes of a pixel;
* `FrameMux.testFrame` — **the bytes of a frame**, row by row.

Main results:

* `FrameMux.length_testFrame` — a frame has three bytes to a pixel;
* `FrameMux.pixel_testFrame` — **where a pixel of a frame stands**.
-/

import FrameMux.Handoff.Region

set_option relaxedAutoImplicit false
set_option autoImplicit false

namespace FrameMux

/-- The three bytes of a pixel. -/
def pixel (index x y : Nat) : Bytes :=
  [UInt8.ofNat (x + index), UInt8.ofNat (y + index), UInt8.ofNat index]

/-- One row of a frame. -/
def testRow (width index y : Nat) : Bytes := (List.range width).flatMap fun x => pixel index x y

/-- The bytes of a frame. -/
def testFrame (width height index : Nat) : Bytes :=
  (List.range height).flatMap fun y => testRow width index y

@[simp] theorem length_pixel (index x y : Nat) : (pixel index x y).length = 3 := rfl

/-- A row has three bytes to a pixel. -/
theorem length_testRow (width index y : Nat) : (testRow width index y).length = width * 3 := by
  unfold testRow
  generalize hl : List.range width = l
  have count : width = l.length := by rw [← hl, List.length_range]
  rw [count]
  clear hl count
  induction l with
  | nil => rfl
  | cons x rest ih => simp [ih]; omega

/-- A frame has three bytes to a pixel. -/
theorem length_testFrame (width height index : Nat) :
    (testFrame width height index).length = width * height * 3 := by
  unfold testFrame
  generalize hl : List.range height = l
  have count : height = l.length := by rw [← hl, List.length_range]
  rw [count]
  clear hl count
  induction l with
  | nil => rfl
  | cons y rest ih =>
    simp only [List.flatMap_cons, List.length_append, length_testRow, ih, List.length_cons]
    rw [Nat.mul_add]
    omega

/-- Blocks of one length stand at the multiples of this length. -/
theorem take_drop_flatMap {α β : Type} {f : α → List β} {size : Nat}
    (uniform : ∀ a, (f a).length = size) {l : List α} {i : Nat} {a : α} (there : l[i]? = some a) :
    ((l.flatMap f).drop (i * size)).take size = f a := by
  induction l generalizing i with
  | nil => cases there
  | cons b rest ih =>
      rw [List.flatMap_cons]
      cases i with
      | zero =>
          obtain rfl : b = a := Option.some.inj there
          rw [Nat.zero_mul, List.drop_zero, ← uniform b, List.take_left]
      | succ i =>
          have behind : (f b ++ rest.flatMap f).drop size = rest.flatMap f := by
            rw [← uniform b, List.drop_left]
          rw [Nat.succ_mul, Nat.add_comm, ← List.drop_drop, behind]
          exact ih there

/-- The pixel of a column and a row stands behind the rows above it and the columns before it. -/
theorem pixel_testFrame {width height x y : Nat} (column : x < width) (row : y < height)
    (index : Nat) :
    ((testFrame width height index).drop ((y * width + x) * 3)).take 3 = pixel index x y := by
  have line : ((testFrame width height index).drop (y * (width * 3))).take (width * 3)
      = testRow width index y :=
    take_drop_flatMap (length_testRow width index) (List.getElem?_range row)
  have point : ((testRow width index y).drop (x * 3)).take 3 = pixel index x y :=
    take_drop_flatMap (fun x => length_pixel index x y) (List.getElem?_range column)
  have room : min 3 (width * 3 - x * 3) = 3 := by omega
  have place : (y * width + x) * 3 = y * (width * 3) + x * 3 := by
    rw [Nat.add_mul, Nat.mul_assoc]
  rw [← point, ← line, List.drop_take, List.take_take, room, List.drop_drop, place]

example : (testFrame 4 2 1).drop 15 = [2, 2, 1, 3, 2, 1, 4, 2, 1] := by decide

end FrameMux
