/-
Numbers of TOML.

* `ungroup?`: digits without the underscores between them;
* `Numeral`: what a text that spells a number says, as far as it matters: whether it can be held;
* `integer?`, `float?`: the numeral of a text that spells an integer or a float;
* `numeral?`: either.
-/
import HttpRouting.Text.Digit

namespace HttpRouting.Toml

/-! ### Digits -/

/-- The digits of a text in which single underscores may stand between two digits. -/
def ungroup? (isDigit : Char → Bool) : List Char → Option (List Char)
  | [] => none
  | [c] => if isDigit c then some [c] else none
  | c :: '_' :: cs => if isDigit c then (ungroup? isDigit cs).map (c :: ·) else none
  | c :: cs => if isDigit c then (ungroup? isDigit cs).map (c :: ·) else none

/-- The number that grouped digits spell. -/
def natural? (base : Nat) (cs : List Char) : Option Nat :=
  (ungroup? (Text.isDigitOf base) cs).map (Text.numberOf base)

/-- The decimal digits of a number that has no needless zero in front. -/
def decimalDigits? (cs : List Char) : Option (List Char) :=
  if cs.head? == some '0' && cs.length != 1 then none else ungroup? (Text.isDigitOf 10) cs

/-- Whether a text begins with a minus sign, and the text without its sign. -/
def splitSign : List Char → Bool × List Char
  | '-' :: cs => (true, cs)
  | '+' :: cs => (false, cs)
  | cs => (false, cs)

/-! ### Integers -/

/-- A number as far as it matters: whether it can be held. -/
inductive Numeral where
  | held
  | outOfRange
deriving DecidableEq, Repr

/-- The numeral of a number that can be held under a condition. -/
def Numeral.when (fits : Bool) : Numeral :=
  if fits then held else outOfRange

/-- The numeral of an integer: 128 bits hold it, with or without a sign. -/
def Numeral.ofInt (n : Int) : Numeral :=
  .when (-(Nat.pow 2 127 : Int) ≤ n && n < (Nat.pow 2 128 : Int))

/-- The numeral of digits after the name of a base. Without digits there is no number to hold. -/
def basedInteger? (base : Nat) (cs : List Char) : Option Numeral :=
  if cs.isEmpty then some .outOfRange else (natural? base cs).map fun n => .ofInt n

/-- The numeral of a text that spells an integer. Only a decimal one has a sign. -/
def integer? : List Char → Option Numeral
  | '0' :: 'x' :: cs => basedInteger? 16 cs
  | '0' :: 'o' :: cs => basedInteger? 8 cs
  | '0' :: 'b' :: cs => basedInteger? 2 cs
  | cs =>
    let (negative, digits) := splitSign cs
    (decimalDigits? digits).map fun ds =>
      .ofInt (if negative then -(Text.numberOf 10 ds : Int) else Text.numberOf 10 ds)

/-! ### Floats -/

/-- The bound from which a number rounds to infinity in double precision. -/
def overflow : Nat :=
  (Nat.pow 2 54 - 1) * Nat.pow 2 970

/-- Whether double precision can hold `m * 10 ^ e`, for a number `m` of at most `digits` digits.
Powers that cannot matter are not computed. -/
def isRepresentable (digits m : Nat) (e : Int) : Bool :=
  if m = 0 ∨ digits + e ≤ 308 then true
  else if 309 < (toString m).length + e then false
  else if 0 ≤ e then m * Nat.pow 10 e.toNat < overflow
  else m < overflow * Nat.pow 10 (-e).toNat

/-- The fraction that a text begins with, if it begins with a point, and what follows. -/
def readFraction? : List Char → Option (List Char × List Char)
  | '.' :: cs => do
    let inDigits := fun c => Text.isDigitOf 10 c || c == '_'
    return (← ungroup? (Text.isDigitOf 10) (cs.takeWhile inDigits), cs.dropWhile inDigits)
  | cs => some ([], cs)

/-- The exponent that a text is, or zero if it is empty. -/
def readExponent? : List Char → Option Int
  | [] => some 0
  | 'e' :: cs | 'E' :: cs =>
    let (negative, digits) := splitSign cs
    (natural? 10 digits).map fun n => if negative then -(n : Int) else (n : Int)
  | _ => none

/-- The numeral of a text that spells a float: a decimal number with a fraction, an exponent or
both, an infinity, or no number. -/
def float? (cs : List Char) : Option Numeral :=
  let (_, cs) := splitSign cs
  if cs == "inf".toList || cs == "nan".toList then some .held
  else do
    let inDigits := fun c => Text.isDigitOf 10 c || c == '_'
    let whole ← decimalDigits? (cs.takeWhile inDigits)
    let (fraction, rest) ← readFraction? (cs.dropWhile inDigits)
    let exponent ← readExponent? rest
    guard !(fraction.isEmpty && rest.isEmpty)
    let digits := whole ++ fraction
    return .when (isRepresentable digits.length (Text.numberOf 10 digits)
      (exponent - fraction.length))

/-! ### Numbers -/

/-- The numeral of a text that spells a number. -/
def numeral? (cs : List Char) : Option Numeral :=
  (integer? cs).or (float? cs)

end HttpRouting.Toml
