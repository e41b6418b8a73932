/-! # The shortest decimal of a binary fraction

A double-precision number stands for the interval of reals that round to it. Its shortest decimal is
the one with the fewest significant digits inside that interval, and of two with equally few digits
the nearer to the number. Everything is computed in whole numbers: the number is a quotient
`num / den`, and the interval is given by its half gaps in the same denominator. -/

namespace PluginBridge.Text

/-- A decimal `0.d₁d₂… × 10 ^ (exponent + 1)`: its digits as a whole number without trailing zeros,
and the exponent of the first digit. -/
structure Decimal where
  digits : Nat
  exponent : Int
  deriving DecidableEq, Repr

/-- The interval of reals that read back as one number. -/
structure Interval where
  num : Nat
  below : Nat
  above : Nat
  den : Nat
  closed : Bool

/-- Whether `n / den`, `n` given over the interval's own denominator, reads back as the number. -/
def Interval.holds (i : Interval) (n : Nat) : Bool :=
  if i.closed then i.num ≤ n + i.below && n ≤ i.num + i.above
  else i.num < n + i.below && n < i.num + i.above

/-- Ten to a power, as a factor above and a factor below the line. -/
def tenPower (e : Int) : Nat × Nat :=
  if 0 ≤ e then (Nat.pow 10 e.toNat, 1) else (1, Nat.pow 10 (-e).toNat)

/-- The exponent of the first decimal digit of `num / den`, searched upwards from `e`. -/
def leadingExponent (num den : Nat) : (fuel : Nat) → (e : Int) → Int
  | 0, e => e
  | fuel + 1, e =>
    let (up, down) := tenPower (e + 1)
    if num * down < den * up then e else leadingExponent num den fuel (e + 1)

/-- Drop the zeros at the end of a whole number, at most `fuel` of them. -/
def dropZeros : (fuel : Nat) → Nat → Nat
  | 0, n => n
  | fuel + 1, n => if n % 10 = 0 ∧ n ≠ 0 then dropZeros fuel (n / 10) else n

/-- The decimals of `count` significant digits next to the number, the best one inside the interval
if there is one. -/
def candidate (i : Interval) (first : Int) (count : Nat) : Option Decimal :=
  let (up, down) := tenPower (first + 1 - count)
  let scaled : Interval := ⟨i.num * down, i.below * down, i.above * down, i.den * down, i.closed⟩
  let unit := i.den * up
  let low := scaled.num / unit
  let lowIn := scaled.holds (low * unit)
  let highIn := scaled.holds ((low + 1) * unit)
  let remainder := 2 * (scaled.num % unit)
  let chosen :=
    if lowIn && highIn then
      some (if remainder < unit ∨ (remainder = unit ∧ low % 2 = 0) then low else low + 1)
    else if lowIn then some low
    else if highIn then some (low + 1)
    else none
  chosen.map fun d =>
    ⟨dropZeros 20 d, if d = Nat.pow 10 count then first + 1 else first⟩

/-- The first count of digits, from `count` on, that has a decimal inside the interval. -/
def shortestFrom (i : Interval) (first : Int) : (fuel : Nat) → (count : Nat) → Decimal
  | 0, _ => ⟨0, first⟩
  | fuel + 1, count =>
    match candidate i first count with
    | some d => d
    | none => shortestFrom i first fuel (count + 1)

/-- The number of fractions of a double. -/
def fractionLimit : Nat := 1 <<< 52

/-- The fields of a double: whether it is negative, its exponent field and its fraction. -/
def doubleFields (bits : UInt64) : Bool × Nat × Nat :=
  let n := bits.toNat
  (n >>> 63 = 1, (n >>> 52) % 2048, n % fractionLimit)

/-- The interval of the magnitude of a finite double. -/
def doubleInterval (exponent fraction : Nat) : Interval :=
  let m := if exponent = 0 then fraction else fraction + fractionLimit
  let q : Int := (if exponent = 0 then 1 else exponent : Nat) - 1077
  let below := if fraction = 0 ∧ 1 < exponent then 1 else 2
  let (up, down) : Nat × Nat := if 0 ≤ q then (1 <<< q.toNat, 1) else (1, 1 <<< (-q).toNat)
  ⟨4 * m * up, below * up, 2 * up, down, m % 2 = 0⟩

/-- The shortest decimal of the magnitude of a finite double. -/
def shortest (exponent fraction : Nat) : Decimal :=
  if exponent = 0 ∧ fraction = 0 then ⟨0, 0⟩
  else
    let i := doubleInterval exponent fraction
    shortestFrom i (leadingExponent i.num i.den 700 (-330)) 17 1

/-- How a shortest decimal is spelled: which exponents of the first digit are written
positionally. -/
structure DecimalStyle where
  lowest : Int
  highest : Int

/-- Spell a decimal. Positional text always has a digit on both sides of its point; the other form
has one digit before the point and always writes the sign of its exponent. -/
def Decimal.render (style : DecimalStyle) (d : Decimal) : String :=
  let ds := toString d.digits
  if style.lowest ≤ d.exponent ∧ d.exponent ≤ style.highest then
    if d.exponent < 0 then "0." ++ "".pushn '0' ((-d.exponent).toNat - 1) ++ ds
    else
      let whole := d.exponent.toNat + 1
      if ds.length ≤ whole then ds ++ "".pushn '0' (whole - ds.length) ++ ".0"
      else
        String.ofList (ds.toList.take whole) ++ "." ++ String.ofList (ds.toList.drop whole)
  else
    let tail := String.ofList (ds.toList.drop 1)
    String.ofList (ds.toList.take 1) ++ (if tail = "" then "" else "." ++ tail) ++ "e"
      ++ (if d.exponent < 0 then "-" else "+") ++ toString d.exponent.natAbs

end PluginBridge.Text
