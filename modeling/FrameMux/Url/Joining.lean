/-
**Where a joiner may stand.**

Two invisible characters say how the letters around them are drawn: one ties them together and one
keeps them apart.  In a host name they may only stand where that makes a difference: after a sign
that drops a vowel, and for the second kind also between two letters that would join.

Main definitions:

* `FrameMux.Url.viramas`, `FrameMux.Url.joinsNext`, `FrameMux.Url.joinsPrevious` — the characters
  that a joiner may be next to;
* `FrameMux.Url.joinersFit` — **whether every joiner stands where scripts need one**.

Main results:

* `FrameMux.Url.joinersFit_of_none` — a text without joiners fits.
-/

import FrameMux.Url.Direction

set_option relaxedAutoImplicit false
set_option autoImplicit false

namespace FrameMux.Url

open FrameMux.Text

/-- Signs that drop a vowel. -/
def viramas : CodePoints :=
  CodePoints.ofLines [
    "94d 9cd a4d acd b4d bcd c4d ccd d3b-d3c d4d dca e3a eba f84 1039-103a 1714-1715 1734 17d2",
    "1a60 1b44 1baa-1bab 1bf2-1bf3 2d7f a806 a82c a8c4 a953 a9c0 aaf6 abed 10a3f 11046 11070 1107f",
    "110b9 11133-11134 111c0 11235 112ea 1134d 113ce-113d0 11442 114c2 115bf 1163f 116b6 1172b",
    "11839 1193d-1193e 119e0 11a34 11a47 11a99 11c3f 11d44-11d45 11d97 11f41-11f42 1612f"]

/-- Letters that join the letter after them. -/
def joinsNext : CodePoints :=
  CodePoints.ofLines [
    "620 626 628 62a-62e 633-63f 641-647 649-64a 66e-66f 679-687 69a-6bf 6c1-6c2 6cc 6ce 6d0-6d1",
    "6fa-6fc 6ff 712-714 71a-71d 71f-727 729 72b 72d-72e 74e-758 75c-76a 76d-770 772 775-777",
    "77a-77f 7ca-7ea 841-845 848 84a-853 855 860 862-865 868 886 889-88d 88f 8a0-8a9 8af-8b0",
    "8b3-8b8 8ba-8c8 1807 1820-1878 1887-18a8 18aa a840-a872 10ac0-10ac4 10acd 10ad3-10adc",
    "10ade-10ae0 10aeb-10aee 10b80 10b82 10b86-10b88 10b8a-10b8b 10b8d 10b90 10bad-10bae",
    "10d00-10d21 10d23 10ec3-10ec4 10ec6-10ec7 10f30-10f32 10f34-10f44 10f51-10f53 10f70-10f73",
    "10f76-10f81 10fb0 10fb2-10fb3 10fb8 10fbb-10fbc 10fbe-10fbf 10fc1 10fc4 10fca-10fcb",
    "1e922-1e943"]

/-- Letters that join the letter before them. -/
def joinsPrevious : CodePoints :=
  CodePoints.ofLines [
    "620 622-63f 641-64a 66e-66f 671-673 679-6d3 6d5 6ee-6ef 6fa-6fc 6ff 710 712-72f 74d-77f",
    "7ca-7ea 840-858 860 862-865 867-882 886 889-88f 8a0-8ac 8ae-8c8 1807 1820-1878 1887-18a8 18aa",
    "a840-a871 10ac0-10ac5 10ac7 10ac9-10aca 10ace-10ad6 10ad8-10ae1 10ae4 10aeb-10aef 10b80-10b91",
    "10ba9-10bae 10d01-10d23 10ec2-10ec4 10ec6-10ec7 10f30-10f44 10f51-10f54 10f70-10f81 10fb0",
    "10fb2-10fb6 10fb8-10fbf 10fc1-10fc4 10fc9-10fca 1e922-1e943"]

/-- The joiner that keeps letters apart. -/
def isNonJoiner (c : Char) : Bool := c.toNat = 0x200c

/-- The joiner that ties letters together. -/
def isJoiner (c : Char) : Bool := c.toNat = 0x200d

/-- Whether letters join across a character: a mark, or the one letter that is drawn as a mark. -/
def isTransparent (c : Char) : Bool := Direction.nonspacing.holds c.toNat || c.toNat = 0x1e94b

/-- Whether the text before, last character first, ends in a sign that drops a vowel. -/
def followsVirama (before : List Char) : Bool :=
  (before.head?.map fun c => viramas.holds c.toNat).getD false

/-- Whether the first character that letters do not join across is in a table. -/
def meets (table : CodePoints) (cs : List Char) : Bool :=
  ((cs.find? fun c => !isTransparent c).map fun c => table.holds c.toNat).getD false

/-- Whether every joiner stands where scripts need one; `before` is the text so far, last character
first. -/
def joinersFit (before : List Char) : List Char → Bool
  | [] => true
  | c :: rest =>
      let fits :=
        if isNonJoiner c then
          followsVirama before || (meets joinsNext before && meets joinsPrevious rest)
        else if isJoiner c then followsVirama before
        else true
      fits && joinersFit (c :: before) rest

/-- A text without joiners fits. -/
theorem joinersFit_of_none {before cs : List Char}
    (h : ∀ c ∈ cs, isNonJoiner c = false ∧ isJoiner c = false) : joinersFit before cs = true := by
  induction cs generalizing before with
  | nil => rfl
  | cons c rest ih =>
    have first := h c (by simp)
    simp [joinersFit, first.1, first.2, ih fun d hd => h d (by simp [hd])]

end FrameMux.Url
