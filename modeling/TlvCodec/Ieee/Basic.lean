import TlvCodec.Bytes.Reader

namespace TlvCodec

namespace Ieee

def twoTo (k : Nat) : Nat := Nat.pow 2 k

def tenTo (k : Nat) : Nat := Nat.pow 10 k

/-- A binary interchange format: how many bits hold the fraction and the exponent. -/
structure Layout where
  fractionBits : Nat
  exponentBits : Nat

namespace Layout

def single : Layout := ⟨23, 8⟩

def double : Layout := ⟨52, 11⟩

def topExponent (l : Layout) : Nat := twoTo l.exponentBits - 1

def infinity (l : Layout) : Nat := l.topExponent * twoTo l.fractionBits

def signBit (l : Layout) : Nat := twoTo (l.fractionBits + l.exponentBits)

/-- The power of two that the last place of a subnormal number stands for. -/
def minExponent (l : Layout) : Int := 2 - twoTo (l.exponentBits - 1) - l.fractionBits

end Layout

/-- What a word denotes. A finite number is `significand` times two to the `exponent`. -/
inductive Value where
  | nan
  | infinite (negative : Bool)
  | finite (negative : Bool) (significand : Nat) (exponent : Int)
deriving DecidableEq, Repr

namespace Layout

def value (l : Layout) (word : Nat) : Value :=
  let negative := decide (l.signBit ≤ word)
  let fraction := word % twoTo l.fractionBits
  let field := word / twoTo l.fractionBits % twoTo l.exponentBits
  if field = l.topExponent then
    if fraction = 0 then .infinite negative else .nan
  else if field = 0 then .finite negative fraction l.minExponent
  else .finite negative (twoTo l.fractionBits + fraction) (l.minExponent + (field - 1))

/-- `num / den` by two to the `e`: whole part, remainder and divisor. -/
def divideAt (num den : Nat) (e : Int) : Nat × Nat × Nat :=
  if 0 ≤ e then
    let d := den * twoTo e.toNat
    (num / d, num % d, d)
  else
    let n := num * twoTo (-e).toNat
    (n / den, n % den, den)

def placeOf (l : Layout) (num den : Nat) : Int :=
  let guess : Int := Nat.log2 num - Nat.log2 den - l.fractionBits
  let e := if (divideAt num den guess).1 < twoTo l.fractionBits then guess - 1 else guess
  max e l.minExponent

/-- The magnitude nearest to `num / den`, ties to even, and infinity when too large. -/
def roundMagnitude (l : Layout) (num den : Nat) : Nat :=
  if num = 0 then 0 else
  let e := l.placeOf num den
  let (whole, rest, divisor) := divideAt num den e
  let up := decide (divisor < 2 * rest) || (decide (2 * rest = divisor) && whole % 2 = 1)
  let significand := if up then whole + 1 else whole
  let magnitude := (e - l.minExponent).toNat * twoTo l.fractionBits + significand
  min magnitude l.infinity

def round (l : Layout) (negative : Bool) (num den : Nat) : Nat :=
  (if negative then l.signBit else 0) + l.roundMagnitude num den

def roundPower (l : Layout) (negative : Bool) (significand : Nat) (exponent : Int) : Nat :=
  l.round negative (significand * twoTo exponent.toNat) (twoTo (-exponent).toNat)

def ofInfinite (l : Layout) (negative : Bool) : Nat :=
  (if negative then l.signBit else 0) + l.infinity

def quietNaN (l : Layout) : Nat := l.infinity + twoTo (l.fractionBits - 1)

end Layout

end Ieee

structure Single where
  bits : UInt32
deriving DecidableEq

structure Double where
  bits : UInt64
deriving DecidableEq

namespace Single

open Ieee

def value (x : Single) : Value := Layout.single.value x.bits.toNat

def ofWord (word : Nat) : Single := ⟨UInt32.ofNat word⟩

def isNaN (x : Single) : Bool := x.value = .nan

def ofInt (n : Int) : Single := ofWord (Layout.single.round (decide (n < 0)) n.natAbs 1)

def timesEight (x : Single) : Single :=
  match x.value with
  | .nan => ofWord Layout.single.quietNaN
  | .infinite _ => x
  | .finite negative m e => ofWord (Layout.single.roundPower negative m (e + 3))

/-- Equality of numbers: a NaN differs from everything, and the zeros are equal. -/
def numEq (x y : Single) : Bool :=
  match x.value, y.value with
  | .nan, _ => false
  | _, .nan => false
  | .finite _ 0 _, .finite _ 0 _ => true
  | _, _ => x = y

end Single

namespace Double

open Ieee

def value (x : Double) : Value := Layout.double.value x.bits.toNat

def ofWord (word : Nat) : Double := ⟨UInt64.ofNat word⟩

def ofSingle (x : Single) : Double :=
  match x.value with
  | .nan => ofWord Layout.double.quietNaN
  | .infinite negative => ofWord (Layout.double.ofInfinite negative)
  | .finite negative m e => ofWord (Layout.double.roundPower negative m e)

def toSingle (x : Double) : Single :=
  match x.value with
  | .nan => Single.ofWord Layout.single.quietNaN
  | .infinite negative => Single.ofWord (Layout.single.ofInfinite negative)
  | .finite negative m e => Single.ofWord (Layout.single.roundPower negative m e)

def isFinite (x : Double) : Bool :=
  match x.value with
  | .finite .. => true
  | _ => false

def isZero (x : Double) : Bool :=
  match x.value with
  | .finite _ 0 _ => true
  | _ => false

def neg (x : Double) : Double := ⟨x.bits ^^^ 0x8000000000000000⟩

def ofNat (n : Nat) : Double := ofWord (Layout.double.round false n 1)

def ratio (m : Nat) (e : Int) : Nat × Nat := (m * twoTo e.toNat, twoTo (-e).toNat)

def mulMagnitude (x y : Double) : Double :=
  match x.value, y.value with
  | .finite _ m e, .finite _ n f => ofWord (Layout.double.roundPower false (m * n) (e + f))
  | _, _ => ofWord 0

/-- The rounded quotient of two magnitudes; infinities and NaNs are taken for zero. -/
def divMagnitude (x y : Double) : Double :=
  match x.value, y.value with
  | .finite _ m e, .finite _ n f =>
    let (a, b) := ratio m e
    let (c, d) := ratio n f
    ofWord (Layout.double.round false (a * d) (b * c))
  | _, _ => ofWord 0

end Double

def reverseOctets (n : UInt32) : UInt32 :=
  BigEndian.word32 (UInt8.ofNat n.toNat) (UInt8.ofNat (n.toNat / 256))
    (UInt8.ofNat (n.toNat / 65536)) (UInt8.ofNat (n.toNat / 16777216))

theorem reverseOctets_reverseOctets (n : UInt32) : reverseOctets (reverseOctets n) = n := by
  have h := BigEndian.octets32_word32 (UInt8.ofNat n.toNat) (UInt8.ofNat (n.toNat / 256))
    (UInt8.ofNat (n.toNat / 65536)) (UInt8.ofNat (n.toNat / 16777216))
  simp only [BigEndian.octets32, List.cons.injEq, and_true] at h
  obtain ⟨h₃, h₂, h₁, h₀⟩ := h
  rw [reverseOctets, reverseOctets, h₀, h₁, h₂, h₃]
  exact BigEndian.word32_octets32 n

namespace Single

/-- Speakers of the older encoding send the octets of a number last first. -/
def ofWire (word : UInt32) : Single := ⟨reverseOctets word⟩

def toWire (x : Single) : UInt32 := reverseOctets x.bits

@[simp] theorem ofWire_toWire (x : Single) : ofWire x.toWire = x := by
  simp [ofWire, toWire, reverseOctets_reverseOctets]

@[simp] theorem toWire_ofWire (word : UInt32) : (ofWire word).toWire = word := by
  simp [ofWire, toWire, reverseOctets_reverseOctets]

def read : Reader Single := fun bs =>
  (Reader.word32 bs).map fun (word, rest) => (ofWire word, rest)

def write (x : Single) (b : Buffer) : Buffer := b.word32 x.toWire

end Single

end TlvCodec
