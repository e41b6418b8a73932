import PluginBridge.Text.Shortest

/-! # Numbers in a document

A number without fraction or exponent that fits a machine word is whole; every other number is a
double. A double is made from the digits in two roundings: the leading digits that fit a word become
a double, which is then multiplied or divided once by a power of ten. -/

namespace PluginBridge.Json

open Text

/-- A number as it was read. `negative n` is `-n` with `0 < n`; `double` holds the bits. -/
inductive Number where
  | natural (n : Nat)
  | negative (n : Nat)
  | double (bits : UInt64)
  deriving DecidableEq, Repr

/-- Doubles are spelled positionally from `0.00001` to sixteen digits before the point. -/
def doubleStyle : DecimalStyle := ⟨-5, 15⟩

/-- A number as a message shows it. -/
def Number.message : Number → String
  | .natural n => "integer \x60" ++ toString n ++ "\x60"
  | .negative n => "integer \x60-" ++ toString n ++ "\x60"
  | .double bits =>
    let (minus, exponent, fraction) := doubleFields bits
    "floating point \x60" ++ (if minus then "-" else "")
      ++ (shortest exponent fraction).render doubleStyle ++ "\x60"

/-- Digits taken into a whole number while it stays below `limit`: the number, how many digits were
taken, and the digits left over. -/
def accumulate (limit : Nat) : (value taken : Nat) → List Nat → Nat × Nat × List Nat
  | value, taken, [] => (value, taken, [])
  | value, taken, d :: ds =>
    if value * 10 + d < limit then accumulate limit (value * 10 + d) (taken + 1) ds
    else (value, taken, d :: ds)

/-- The written parts of a number. -/
structure Spelling where
  negative : Bool
  whole : List Nat
  fraction : Option (List Nat)
  /-- The exponent's sign and digits; `true` is a minus. -/
  exponent : Option (Bool × List Nat)

/-- The bound of the exponents that can be written. -/
def exponentLimit : Nat := 1 <<< 31

/-- Scale a double by a power of ten; `none` when the result is out of range. Beyond the table of
powers, which ends at `10 ^ 308`, a small number is divided in steps. -/
def scale : (fuel : Nat) → Float → Int → Option Float
  | 0, x, _ => some x
  | fuel + 1, x, e =>
    if e.natAbs ≤ 308 then
      let power := Float.ofScientific 1 false e.natAbs
      if 0 ≤ e then
        let y := x * power
        if y.isInf then none else some y
      else some (x / power)
    else if x == 0.0 then some x
    else if 0 ≤ e then none
    else scale fuel (x / Float.ofScientific 1 false 308) (e + 308)

/-- The double with a given sign. -/
def signed (negative : Bool) (x : Float) : Number :=
  .double (if negative then -x else x).toBits

/-- The double that a spelling denotes; `none` when it is out of range. -/
def Spelling.double (s : Spelling) : Option Number :=
  let (significand, _, dropped) := accumulate UInt64.size 0 0 s.whole
  let (significand, places, _) :=
    match s.fraction with
    | some ds => accumulate UInt64.size significand 0 ds
    | none => (significand, 0, [])
  let start : Int := dropped.length - places
  let x := significand.toUInt64.toFloat
  match s.exponent with
  | none => (scale 8 x start).map (signed s.negative)
  | some (minus, ds) =>
    match accumulate exponentLimit 0 0 ds with
    | (e, _, []) => (scale 8 x (if minus then start - e else start + e)).map (signed s.negative)
    | _ => if significand ≠ 0 ∧ ¬ minus then none else some (signed s.negative 0.0)

/-- The number that a spelling denotes; `none` when it is out of range. A minus keeps a number whole
down to `-2 ^ 63`, and minus zero is a double. -/
def Spelling.number? (s : Spelling) : Option Number :=
  match s.fraction, s.exponent, accumulate UInt64.size 0 0 s.whole with
  | none, none, (n, _, []) =>
    if ¬ s.negative then some (.natural n)
    else if 0 < n ∧ n ≤ UInt64.size / 2 then some (.negative n)
    else some (signed true n.toUInt64.toFloat)
  | _, _, _ => s.double

end PluginBridge.Json
