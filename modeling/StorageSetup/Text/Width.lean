import StorageSetup.Text.Mark
/-!
# Cells of a terminal

A character takes one cell, a wide one two, and a mark joins the cell of the character before it.
Text is laid out in clusters: a character with the marks that follow it.

Key definitions:
- `cells`: how many cells a character takes
- `clusters`: the clusters of a text, `Cluster.cells` their cells
-/

namespace StorageSetup.Text

/-- The first and last code points of the ranges of wide characters, in order. Unassigned code
points between two ranges are counted to them. -/
def wideRanges : List (Nat × Nat) :=
  [ (0x1100, 0x115F), (0x231A, 0x231B), (0x2329, 0x232A), (0x23E9, 0x23EC), (0x23F0, 0x23F0),
    (0x23F3, 0x23F3), (0x25FD, 0x25FE), (0x2614, 0x2615), (0x2648, 0x2653), (0x267F, 0x267F),
    (0x2693, 0x2693), (0x26A1, 0x26A1), (0x26AA, 0x26AB), (0x26BD, 0x26BE), (0x26C4, 0x26C5),
    (0x26CE, 0x26CE), (0x26D4, 0x26D4), (0x26EA, 0x26EA), (0x26F2, 0x26F3), (0x26F5, 0x26F5),
    (0x26FA, 0x26FA), (0x26FD, 0x26FD), (0x2705, 0x2705), (0x270A, 0x270B), (0x2728, 0x2728),
    (0x274C, 0x274C), (0x274E, 0x274E), (0x2753, 0x2755), (0x2757, 0x2757), (0x2795, 0x2797),
    (0x27B0, 0x27B0), (0x27BF, 0x27BF), (0x2B1B, 0x2B1C), (0x2B50, 0x2B50), (0x2B55, 0x2B55),
    (0x2E80, 0x303E), (0x3041, 0x3247), (0x3250, 0x4DBF), (0x4E00, 0xA4C6), (0xA960, 0xA97C),
    (0xAC00, 0xD7A3), (0xF900, 0xFAD9), (0xFE10, 0xFE19), (0xFE30, 0xFE6B), (0xFF01, 0xFF60),
    (0xFFE0, 0xFFE6), (0x16FE0, 0x1B2FB), (0x1F004, 0x1F004), (0x1F0CF, 0x1F0CF),
    (0x1F18E, 0x1F18E), (0x1F191, 0x1F19A), (0x1F200, 0x1F320), (0x1F32D, 0x1F335),
    (0x1F337, 0x1F37C), (0x1F37E, 0x1F393), (0x1F3A0, 0x1F3CA), (0x1F3CF, 0x1F3D3),
    (0x1F3E0, 0x1F3F0), (0x1F3F4, 0x1F3F4), (0x1F3F8, 0x1F43E), (0x1F440, 0x1F440),
    (0x1F442, 0x1F4FC), (0x1F4FF, 0x1F53D), (0x1F54B, 0x1F54E), (0x1F550, 0x1F567),
    (0x1F57A, 0x1F57A), (0x1F595, 0x1F596), (0x1F5A4, 0x1F5A4), (0x1F5FB, 0x1F64F),
    (0x1F680, 0x1F6C5), (0x1F6CC, 0x1F6CC), (0x1F6D0, 0x1F6D2), (0x1F6D5, 0x1F6DF),
    (0x1F6EB, 0x1F6EC), (0x1F6F4, 0x1F6FC), (0x1F7E0, 0x1F7F0), (0x1F90C, 0x1F93A),
    (0x1F93C, 0x1F945), (0x1F947, 0x1F9FF), (0x1FA70, 0x1FAF6), (0x20000, 0x3FFFD)]

/-- The inner letters of Hangul syllables and their fillers, in order. They join the letter
before. -/
def innerLetterRanges : List (Nat × Nat) :=
  [ (0x1160, 0x11FF), (0x3164, 0x3164), (0xD7B0, 0xD7FF), (0xFFA0, 0xFFA0)]

/-- The number of cells a character takes. -/
def cells (c : Char) : Nat :=
  let n := c.toNat
  if n < 0x300 then 1
  else if isMark c || inRanges n innerLetterRanges then 0
  else if inRanges n wideRanges then 2
  else 1

/-- A character with the marks that follow it. A text that starts with a mark starts with a
cluster of its own for it. -/
structure Cluster where
  base : Char
  marks : List Char := []
  deriving DecidableEq, Repr

/-- The mark that asks for the picture of a symbol. -/
def pictureMark : Char := Char.ofNat 0xFE0F

namespace Cluster

def text (k : Cluster) : String :=
  String.ofList (k.base :: k.marks)

/-- The number of cells of a cluster; a picture takes two. -/
def cells (k : Cluster) : Nat :=
  if k.marks.contains pictureMark then 2 else Text.cells k.base

end Cluster

/-- The clusters of a text, in order. -/
def clusters : List Char → List Cluster
  | [] => []
  | c :: rest =>
    match clusters rest with
    | [] => [⟨c, []⟩]
    | k :: more =>
      if Text.cells k.base = 0 then ⟨c, k.base :: k.marks⟩ :: more else ⟨c, []⟩ :: k :: more

end StorageSetup.Text
