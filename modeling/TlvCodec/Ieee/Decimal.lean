import TlvCodec.Ieee.Basic
import TlvCodec.Text

namespace TlvCodec.Ieee

/-- A positive number as decimal digits: `digits` times ten to the `exponent`. -/
structure Decimal where
  digits : Nat
  exponent : Int
deriving DecidableEq, Repr

/-- The numbers that round to `mid / den`: from `low / den` to `high / den`. -/
structure Interval where
  low : Nat
  mid : Nat
  high : Nat
  den : Nat
  closed : Bool

/-- The lower neighbour is half as far away where a binade starts. -/
def Layout.interval (l : Layout) (m : Nat) (e : Int) : Interval :=
  let scale := twoTo (e - 2).toNat
  let near := m = twoTo l.fractionBits ∧ e ≠ l.minExponent
  { low := (4 * m - (if near then 1 else 2)) * scale
    mid := 4 * m * scale
    high := (4 * m + 2) * scale
    den := twoTo (2 - e).toNat
    closed := m % 2 = 0 }

namespace Interval

def holds (v : Interval) (n : Nat) (k : Int) : Bool :=
  let x := n * tenTo k.toNat * v.den
  let unit := tenTo (-k).toNat
  if v.closed then v.low * unit ≤ x && x ≤ v.high * unit
  else v.low * unit < x && x < v.high * unit

/-- The multiple of ten to the `k` nearest to the number, within the interval. -/
def nearest? (v : Interval) (k : Int) : Option Decimal :=
  let num := v.mid * tenTo (-k).toNat
  let den := v.den * tenTo k.toNat
  let below := num / den
  let rest := num % den
  match v.holds below k, v.holds (below + 1) k with
  | true, true =>
    let up := decide (den < 2 * rest) || (decide (2 * rest = den) && below % 2 = 1)
    some ⟨if up then below + 1 else below, k⟩
  | true, false => some ⟨below, k⟩
  | false, true => some ⟨below + 1, k⟩
  | false, false => none

/-- The coarsest grid of powers of ten that meets the interval, from `k` down. -/
def search (v : Interval) : Nat → Int → Decimal
  | 0, k => ⟨v.mid * tenTo (-k).toNat / (v.den * tenTo k.toNat), k⟩
  | steps + 1, k => (v.nearest? k).getD (v.search steps (k - 1))

end Interval

/-- The nearest of the shortest decimals that read back as the number. -/
def Layout.shortest (l : Layout) (m : Nat) (e : Int) : Decimal :=
  let magnitude : Int := (e + Nat.log2 m + 1) * 30103 / 100000
  (l.interval m e).search 20 (magnitude + 1)

structure Range where
  low : Int
  high : Int

/-- Positional within the range, else with one digit before the point and an exponent. -/
def Decimal.text (d : Decimal) (positional : Range) : String :=
  let ds := TlvCodec.digits 10 d.digits
  let point : Int := ds.length + d.exponent
  let exponent := point - 1
  if positional.low ≤ exponent ∧ exponent ≤ positional.high then
    if d.exponent ≥ 0 then
      String.ofList (ds ++ List.replicate d.exponent.toNat '0' ++ ['.', '0'])
    else if point ≤ 0 then
      String.ofList ('0' :: '.' :: List.replicate (-point).toNat '0' ++ ds)
    else String.ofList (ds.take point.toNat ++ '.' :: ds.drop point.toNat)
  else
    let fraction := if ds.length = 1 then [] else '.' :: ds.drop 1
    let sign := if exponent < 0 then '-' else '+'
    String.ofList (ds.take 1 ++ fraction ++ 'e' :: sign :: TlvCodec.digits 10 exponent.natAbs)

def Layout.text? (l : Layout) (positional : Range) (v : Value) : Option String :=
  match v with
  | .finite negative m e =>
    let sign := if negative then "-" else ""
    some (sign ++ if m = 0 then "0.0" else (l.shortest m e).text positional)
  | _ => none

end TlvCodec.Ieee

namespace TlvCodec

def Single.text? (x : Single) : Option String := Ieee.Layout.single.text? ⟨-6, 12⟩ x.value

def Double.text? (x : Double) : Option String := Ieee.Layout.double.text? ⟨-5, 15⟩ x.value

end TlvCodec

namespace TlvCodec.Double

def maxPowerOfTen : Nat := 308

def powerOfTen (k : Nat) : Double := ofNat (Ieee.tenTo k)

/-- `x` times ten to the `exponent`, unless too large. Every step rounds. -/
def scaleByTen (x : Double) (exponent : Int) : Option Double :=
  if exponent.natAbs ≤ maxPowerOfTen then
    if 0 ≤ exponent then
      let y := x.mulMagnitude (powerOfTen exponent.natAbs)
      if y.isFinite then some y else none
    else some (x.divMagnitude (powerOfTen exponent.natAbs))
  else if x.isZero then some x
  else if 0 ≤ exponent then none
  else scaleByTen (x.divMagnitude (powerOfTen maxPowerOfTen)) (exponent + maxPowerOfTen)
termination_by exponent.natAbs
decreasing_by
  simp only [maxPowerOfTen] at *
  omega

/-- Rounds the whole number first, then the scaled number. -/
def ofDecimal? (negative : Bool) (significand : Nat) (exponent : Int) : Option Double :=
  (scaleByTen (ofNat significand) exponent).map fun x => if negative then x.neg else x

end TlvCodec.Double
