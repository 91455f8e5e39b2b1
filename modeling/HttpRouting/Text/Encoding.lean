/-
The bytes that encode characters in UTF-8.

* `ByteRange`: a closed interval of bytes;
* `encodings`: the encodings of an interval of code points, as products of intervals of bytes;
* `encoding`: the bytes of a character.

The code point is written in base 64, the first digit in the leading byte. An interval of numbers
falls into products of intervals of digits.
-/
import HttpRouting.Text.CodeRange

namespace HttpRouting.Text

/-- A closed interval of bytes, first and last. -/
abbrev ByteRange := Nat × Nat

/-- The numbers from `first` to `last`, written as a leading byte, which counts from `lead` on, and
`n` further bytes of six bits each. The products come in increasing order: those below the first
full row, the full rows, and those above the last full row. -/
def spans (lead : Nat) : Nat → Nat → Nat → List (List ByteRange)
  | 0, first, last => [[(lead + first, lead + last)]]
  | n + 1, first, last =>
    let unit := Nat.pow 64 (n + 1)
    let a := first / unit
    let b := last / unit
    let row := fun d first last => (spans 0x80 n first last).map ((lead + d, lead + d) :: ·)
    if a = b then row a (first % unit) (last % unit)
    else
      let below := if first % unit = 0 then [] else row a (first % unit) (unit - 1)
      let above := if last % unit = unit - 1 then [] else row b 0 (last % unit)
      let a := if below.isEmpty then a else a + 1
      let b := if above.isEmpty then b + 1 else b
      let full := if a < b then [(lead + a, lead + b - 1) :: List.replicate (n + 1) (0x80, 0xBF)] else []
      below ++ full ++ above

/-- The code points whose encodings have a form: what the leading byte counts from, the number of
further bytes, and the first and last code point. -/
def encodingForms : List (Nat × Nat × CodeRange) :=
  [(0, 0, 0, 0x7F), (0xC0, 1, 0x80, 0x7FF), (0xE0, 2, 0x800, 0xD7FF), (0xE0, 2, 0xE000, 0xFFFF),
   (0xF0, 3, 0x10000, 0x10FFFF)]

/-- The encodings of the characters in an interval of code points. -/
def encodings (r : CodeRange) : List (List ByteRange) :=
  encodingForms.flatMap fun (lead, n, first, last) =>
    if max r.1 first ≤ min r.2 last then spans lead n (max r.1 first) (min r.2 last) else []

/-- The bytes of a character. -/
def encoding (c : Char) : List Nat :=
  (encodings (c.toNat, c.toNat)).flatten.map (·.1)

end HttpRouting.Text
