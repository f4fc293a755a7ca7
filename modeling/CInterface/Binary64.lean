import CInterface.Text.Basic

namespace CInterface

/-!
# Binary floating-point numbers of 64 bits

Numbers `± m · 2^e` with at most 53 significant bits, in exact integer arithmetic.

* `Binary64.ofDecimal` — the number nearest to a decimal; a tie goes to the even significand.
* `Binary64.shortest` — the fewest decimal digits that read back as the number, and of those the
  decimal nearest to it.
* `Binary64.text` — the shortest digits in positional notation, always with a point.
-/

/-- A floating-point number of 64 bits. -/
inductive Binary64
  | nan
  | infinite (negative : Bool)
  /-- The number `± significand · 2^exponent`. -/
  | finite (negative : Bool) (significand : Nat) (exponent : Int)
  deriving Repr, DecidableEq

namespace Binary64

/-- The least exponent of a significand's last bit. -/
def minExponent : Int := -1074

/-- The greatest exponent of a significand's last bit. -/
def maxExponent : Int := 971

/-- The least significand of 53 bits. -/
def leastFull : Nat := Nat.pow 2 52

/-- The least number of more than 53 bits. -/
def overfull : Nat := Nat.pow 2 53

/-- A positive fraction. -/
structure Fraction where
  num : Nat
  den : Nat
  deriving Repr

/-- The fraction times a power of `base`. -/
def Fraction.scale (f : Fraction) (base : Nat) : Int → Fraction
  | .ofNat n => { f with num := f.num * Nat.pow base n }
  | .negSucc n => { f with den := f.den * Nat.pow base (n + 1) }

/-- The greatest integer that is not above the fraction. -/
def Fraction.floor (f : Fraction) : Nat := f.num / f.den

/-- The integer nearest to the fraction; a tie goes to the even one. -/
def Fraction.nearest (f : Fraction) : Nat :=
  let q := f.num / f.den
  let twice := 2 * (f.num % f.den)
  if f.den < twice || (twice = f.den && q % 2 = 1) then q + 1 else q

/-- Is `a` less than `b`? -/
def Fraction.less (a b : Fraction) : Bool := a.num * b.den < b.num * a.den

/-! ### Reading a decimal -/

/-- The exponent that leaves 53 bits in front of the point of a positive fraction, but no less
    than the least one. -/
def exponentFor (f : Fraction) : Int :=
  let guess : Int := (Nat.log2 f.num : Int) - Nat.log2 f.den - 52
  let whole := (f.scale 2 (-guess)).floor
  let exponent :=
    if overfull ≤ whole then guess + 1 else if whole < leastFull then guess - 1 else guess
  max exponent minExponent

/-- The number nearest to a positive fraction. -/
def ofFraction (negative : Bool) (f : Fraction) : Binary64 :=
  let exponent := exponentFor f
  let significand := (f.scale 2 (-exponent)).nearest
  let (significand, exponent) :=
    if significand = overfull then (leastFull, exponent + 1) else (significand, exponent)
  if maxExponent < exponent then infinite negative else finite negative significand exponent

/-- The number nearest to `± digits · 10^exponent`. -/
def ofDecimal (negative : Bool) (digits : Nat) (exponent : Int) : Binary64 :=
  let places := exponent + (Text.decimal digits).length
  if digits = 0 || places < -400 then finite negative 0 minExponent
  else if 400 < places then infinite negative
  else ofFraction negative (Fraction.scale ⟨digits, 1⟩ 10 exponent)

/-! ### The shortest decimal -/

/-- The fractions between which a decimal reads back as `significand · 2^exponent`, and whether
    they do so themselves. -/
def readBackInterval (significand : Nat) (exponent : Int) : Fraction × Fraction × Bool :=
  let below := if significand = leastFull && minExponent < exponent then 1 else 2
  (Fraction.scale ⟨4 * significand - below, 4⟩ 2 exponent,
    Fraction.scale ⟨4 * significand + 2, 4⟩ 2 exponent, significand % 2 = 0)

/-- The number of decimal digits in front of the point of a positive fraction; zero or less if
    the fraction is below one tenth or just below one. -/
def decimalPlaces (f : Fraction) : Int :=
  let guess : Int := ((Text.decimal f.num).length : Int) - (Text.decimal f.den).length
  if Fraction.less f (Fraction.scale ⟨1, 1⟩ 10 guess) then guess else guess + 1

/-- Of the two multiples of `10^unit` next to `f`, the nearer one that `inside` holds of. -/
def neighbour? (f : Fraction) (unit : Int) (inside : Fraction → Bool) : Option Nat :=
  let scaled := f.scale 10 (-unit)
  let low := scaled.floor
  let highFirst := scaled.den ≤ 2 * (scaled.num % scaled.den)
  let candidates := if highFirst then [low + 1, low] else [low, low + 1]
  candidates.find? fun n => n != 0 && inside (Fraction.scale ⟨n, 1⟩ 10 unit)

/-- Digits and power of ten of the shortest decimal that reads back as
    `significand · 2^exponent`, a positive number. -/
def shortest (significand : Nat) (exponent : Int) : Nat × Int :=
  let f := Fraction.scale ⟨significand, 1⟩ 2 exponent
  let (low, high, closed) := readBackInterval significand exponent
  let inside (g : Fraction) : Bool :=
    if closed then !Fraction.less g low && !Fraction.less high g
    else Fraction.less low g && Fraction.less g high
  let places := decimalPlaces f
  let found := (List.range 17).findSome? fun (n : Nat) =>
    let unit := places - (n + 1 : Nat)
    (neighbour? f unit inside).map (·, unit)
  match found with
  | none => (0, 0)
  | some (digits, unit) =>
    -- A single nine that is rounded up leaves a zero behind.
    if digits % 10 = 0 then (digits / 10, unit + 1) else (digits, unit)

/-- The number `digits · 10^unit` in positional notation, with at least one digit on either side
    of the point. -/
def positional (digits : Nat) (unit : Int) : Text :=
  let ds := Text.decimal digits
  match unit with
  | .ofNat n => ds ++ List.replicate n '0' ++ ".0".toList
  | .negSucc n =>
    let ds := List.replicate (n + 2 - ds.length) '0' ++ ds
    ds.take (ds.length - (n + 1)) ++ '.' :: ds.drop (ds.length - (n + 1))

/-- The number's text. -/
def text : Binary64 → Text
  | nan => "NaN".toList
  | infinite negative => (if negative then "-".toList else []) ++ "inf".toList
  | finite negative significand exponent =>
    let sign := if negative then "-".toList else []
    if significand = 0 then sign ++ "0.0".toList
    else
      let (digits, unit) := shortest significand exponent
      sign ++ positional digits unit

end Binary64

end CInterface
