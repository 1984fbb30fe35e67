/-!
# Double-precision numbers

A number is held as its 64 bits. A finite one is a significand times a power of two, and every
operation rounds its exact rational result to the nearest number, a tie going to the even
significand. All NaNs are written and read as one.
-/

namespace SiteTemplate

def twoTo (n : Nat) : Nat := Nat.pow 2 n

def tenTo (n : Nat) : Nat := Nat.pow 10 n

theorem twoTo_pos (n : Nat) : 0 < twoTo n := Nat.pow_pos (by decide)

theorem tenTo_pos (n : Nat) : 0 < tenTo n := Nat.pow_pos (by decide)

/-- A double-precision number, held as its 64 bits. -/
structure Binary64 where
  bits : UInt64
deriving DecidableEq, Repr

namespace Binary64

def isNegative (x : Binary64) : Bool := twoTo 63 ≤ x.bits.toNat

def exponentField (x : Binary64) : Nat := x.bits.toNat / twoTo 52 % twoTo 11

def fraction (x : Binary64) : Nat := x.bits.toNat % twoTo 52

def isFinite (x : Binary64) : Bool := x.exponentField < 2047

def isNaN (x : Binary64) : Bool := x.exponentField == 2047 && x.fraction != 0

/-- The whole number that is scaled by a power of two. -/
def significand (x : Binary64) : Nat :=
  if x.exponentField = 0 then x.fraction else twoTo 52 + x.fraction

def exponent (x : Binary64) : Int := (max 1 x.exponentField : Nat) - 1075

def twoPow (e : Int) : Rat :=
  if e < 0 then mkRat 1 (twoTo e.natAbs) else (twoTo e.natAbs : Nat)

def toRat (x : Binary64) : Rat :=
  let m : Rat := (x.significand : Int) * twoPow x.exponent
  if x.isNegative then -m else m

/-- A quotient rounded to the nearest whole number, a tie going to the even one. -/
def roundDiv (num den : Nat) : Nat :=
  let q := num / den
  let r := num % den
  if den < 2 * r ∨ (2 * r = den ∧ q % 2 = 1) then q + 1 else q

def roundRat (r : Rat) : Int :=
  let n := roundDiv r.num.natAbs r.den
  if r.num < 0 then -n else n

def ofFields (negative : Bool) (magnitude : Nat) : Binary64 :=
  ⟨.ofNat (magnitude + if negative then twoTo 63 else 0)⟩

def infinity (negative : Bool) : Binary64 := ofFields negative (2047 * twoTo 52)

def nan : Binary64 := ofFields false (2047 * twoTo 52 + twoTo 51)

def zero : Binary64 := ofFields false 0

/-- The exponent to which a positive quotient is rounded: it leaves fifty-three bits of
significand, or stands at the bottom of the range. -/
def roundingExponent (num den : Nat) : Int :=
  let k : Int := num.log2 - den.log2
  let atLeast := if k < 0 then den ≤ num * twoTo k.natAbs else den * twoTo k.natAbs ≤ num
  max (-1074) (if atLeast then k - 52 else k - 53)

/-- The number nearest to a quotient of whole numbers. -/
def ofRatio (negative : Bool) (num den : Nat) : Binary64 :=
  if num = 0 then ofFields negative 0
  else
    let e := roundingExponent num den
    let m :=
      if e < 0 then roundDiv (num * twoTo e.natAbs) den else roundDiv num (den * twoTo e.natAbs)
    let magnitude := (e + 1074).natAbs * twoTo 52 + m
    if 2047 * twoTo 52 ≤ magnitude then infinity negative else ofFields negative magnitude

def ofRat (r : Rat) : Binary64 := ofRatio (r.num < 0) r.num.natAbs r.den

def ofInt (n : Int) : Binary64 := ofRatio (n < 0) n.natAbs 1

/-- The number nearest to `digits` times a power of ten. -/
def ofDecimal (negative : Bool) (digits : Nat) (exponent : Int) : Binary64 :=
  let places : Int := (Nat.toDigits 10 digits).length + exponent
  if digits = 0 || places < -330 then ofFields negative 0
  else if 310 < places then infinity negative
  else if exponent < 0 then ofRatio negative digits (tenTo exponent.natAbs)
  else ofRatio negative (digits * tenTo exponent.natAbs) 1

def toInt? (x : Binary64) : Option Int :=
  if x.isFinite && x.toRat.den == 1 then some x.toRat.num else none

def mul (x y : Binary64) : Binary64 := ofRat (x.toRat * y.toRat)

def div (x y : Binary64) : Binary64 := ofRat (x.toRat / y.toRat)

/-- The order of numbers; nothing is below or above a NaN. -/
def lt (x y : Binary64) : Bool :=
  if x.isNaN || y.isNaN then false
  else if x.isFinite && y.isFinite then x.toRat < y.toRat
  else if x.isFinite then !y.isNegative
  else if y.isFinite then x.isNegative
  else x.isNegative && !y.isNegative

def le (x y : Binary64) : Bool := !x.isNaN && !y.isNaN && !lt y x

@[simp] theorem toRat_zero : zero.toRat = 0 := by decide +kernel

end Binary64

end SiteTemplate
