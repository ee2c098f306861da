import HookGate.Text.Property.Ranges

/-! # Ranges in UTF-8

The characters of a range are written as rows of byte ranges: a sequence of bytes is one of the characters if each
byte is in the range at its place. The rows of increasing ranges stand in increasing order. -/
namespace HookGate.Text

/-- A range of bytes for each byte of a sequence. -/
abbrev ByteRow := List (Nat × Nat)

/-- The rows of the numbers from `lo` to `hi` written as one byte with `mark` added and `places` more with six bits
each. -/
private def rowsOf (mark : Nat) : Nat → Nat → Nat → List ByteRow
  | 0, lo, hi => [[(mark + lo, mark + hi)]]
  | places + 1, lo, hi =>
    let unit := Nat.pow 64 (places + 1)
    let below (lead a b : Nat) : List ByteRow := (rowsOf 0x80 places a b).map ((mark + lead, mark + lead) :: ·)
    if lo / unit = hi / unit then below (lo / unit) (lo % unit) (hi % unit)
    else
      let first := (lo + unit - 1) / unit
      let last := (hi + 1) / unit
      (if lo % unit = 0 then [] else below (lo / unit) (lo % unit) (unit - 1)) ++
      (if first < last then [(mark + first, mark + last - 1) :: List.replicate (places + 1) (0x80, 0xBF)] else []) ++
      (if (hi + 1) % unit = 0 then [] else below (hi / unit) 0 (hi % unit))

/-- The parts of the code points that are written with the same number of bytes: the first and last of them, what
marks the first byte, and how many follow it. No character has a number between 0xD800 and 0xDFFF. -/
private def utf8Widths : List (Nat × Nat × Nat × Nat) :=
  [(0, 0x7F, 0, 0), (0x80, 0x7FF, 0xC0, 1), (0x800, 0xD7FF, 0xE0, 2), (0xE000, 0xFFFF, 0xE0, 2),
    (0x10000, 0x10FFFF, 0xF0, 3)]

/-- The rows of the characters in ranges, which are normal. -/
def Ranges.toByteRows (rs : Ranges) : List ByteRow :=
  rs.flatMap fun (a, b) => utf8Widths.flatMap fun (first, last, mark, places) =>
    let lo := max a first
    let hi := min b last
    if hi < lo then [] else rowsOf mark places lo hi

end HookGate.Text
