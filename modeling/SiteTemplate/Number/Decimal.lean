import SiteTemplate.Number.Binary64

/-!
# Decimal text of double-precision numbers

The shortest decimal of a number is the multiple of the largest power of ten that still lies in
the interval of reals which round to the number; of several multiples the nearest counts. A layout
says from which exponent on the digits are written with an exponent, and how that is written.
Texts with a fixed number of places round the exact value, a tie going to the even digit.

A duration below a second is shown in whole milliseconds, one below a minute in seconds with one
decimal place, and any other in minutes and seconds.
-/

namespace SiteTemplate

structure Decimal where
  digits : Nat
  exponent : Int
deriving DecidableEq, Repr

/-- How the digits of a number are laid out. -/
structure Decimal.Layout where
  /-- The least scientific exponent that is still written positionally. -/
  least : Int
  /-- The least scientific exponent above those that are written positionally. -/
  bound : Int
  /-- Whether a positive exponent carries a plus sign. -/
  plusSign : Bool
  /-- The least number of digits of an exponent. -/
  exponentWidth : Nat

def Decimal.Layout.plain : Decimal.Layout := ⟨-4, 16, true, 2⟩

def Decimal.Layout.settings : Decimal.Layout := ⟨-5, 16, false, 1⟩

namespace Binary64

/-- The numerator of `2 ^ e / 10 ^ k`. -/
def scaleUp (e k : Int) : Nat :=
  (if 0 ≤ e then twoTo e.natAbs else 1) * (if k < 0 then tenTo k.natAbs else 1)

def scaleDown (e k : Int) : Nat :=
  (if 0 ≤ e then 1 else twoTo e.natAbs) * (if k < 0 then 1 else tenTo k.natAbs)

/-- The lower end of the interval of reals which round to the number, in quarters of the last bit;
below a power of two the numbers lie closer together. -/
def lowEnd (x : Binary64) : Nat :=
  if x.significand = twoTo 52 ∧ 1 < x.exponentField then 4 * x.significand - 1
  else 4 * x.significand - 2

def highEnd (x : Binary64) : Nat := 4 * x.significand + 2

/-- Whether `c · 10 ^ k` rounds to the number; the ends of its interval do so if its significand is
even. -/
def isRoundedFrom (x : Binary64) (k : Int) (c : Nat) : Bool :=
  let up := scaleUp (x.exponent - 2) k
  let down := scaleDown (x.exponent - 2) k
  if x.significand % 2 = 0 then x.lowEnd * up ≤ c * down && c * down ≤ x.highEnd * up
  else x.lowEnd * up < c * down && c * down < x.highEnd * up

/-- The multiple of `10 ^ k` that lies nearest to the number, among those which round to it. -/
def multipleAt? (x : Binary64) (k : Int) : Option Nat :=
  let quarters := 4 * x.significand * scaleUp (x.exponent - 2) k
  let down := scaleDown (x.exponent - 2) k
  let below := quarters / down
  let nearest := roundDiv quarters down
  if 0 < nearest && x.isRoundedFrom k nearest then some nearest
  else if 0 < below && x.isRoundedFrom k below then some below
  else if x.isRoundedFrom k (below + 1) then some (below + 1)
  else none

/-- The shortest decimal that reads back as a finite number other than zero. -/
def shortest (x : Binary64) : Decimal :=
  let top : Int := (x.significand.log2 + x.exponent + 1) * 30103 / 100000 + 1
  ((List.range 22).findSome? fun (i : Nat) =>
    (x.multipleAt? (top - i)).map fun d => (⟨d, top - i⟩ : Decimal)).getD ⟨0, 0⟩

/-- The digits of a decimal in a layout; the text always shows a point or an exponent. -/
def layOut (l : Decimal.Layout) (d : Decimal) : List Char :=
  let digits := Nat.toDigits 10 d.digits
  let n : Int := digits.length
  let scientific := n + d.exponent - 1
  if l.least ≤ scientific ∧ scientific < l.bound then
    if 0 ≤ d.exponent then digits ++ List.replicate d.exponent.natAbs '0' ++ ['.', '0']
    else if 0 ≤ scientific then
      let whole := (scientific + 1).natAbs
      digits.take whole ++ '.' :: digits.drop whole
    else '0' :: '.' :: List.replicate (-scientific - 1).natAbs '0' ++ digits
  else
    let mantissa := match digits with
      | [] => []
      | [c] => [c]
      | c :: cs => c :: '.' :: cs
    let sign := if scientific < 0 then ['-'] else if l.plusSign then ['+'] else []
    mantissa ++ 'e' :: sign
      ++ (Nat.toDigits 10 scientific.natAbs).leftpad l.exponentWidth '0'

def text (l : Decimal.Layout) (x : Binary64) : List Char :=
  let sign := if x.isNegative && !x.isNaN then ['-'] else []
  if x.isNaN then "nan".toList
  else if !x.isFinite then sign ++ "inf".toList
  else if x.significand = 0 then sign ++ ['0', '.', '0']
  else sign ++ layOut l x.shortest

/-- A finite number with a fixed number of decimal places. -/
def fixedText (places : Nat) (x : Binary64) : List Char :=
  let scaled := roundRat (x.toRat * (tenTo places : Nat))
  let digits := (Nat.toDigits 10 scaled.natAbs).leftpad (places + 1) '0'
  let whole := digits.take (digits.length - places)
  let tail := if places = 0 then [] else '.' :: digits.drop (digits.length - places)
  (if x.isNegative then ['-'] else []) ++ whole ++ tail

def roundedTo (places : Nat) (x : Binary64) : Binary64 :=
  let scale := tenTo places
  ofRatio x.isNegative (roundRat (x.toRat * (scale : Nat))).natAbs scale

end Binary64

end SiteTemplate

namespace SiteTemplate.Duration

open Binary64

/-- How often a minute goes into a number of seconds, computed in double precision. -/
def minutesIn (seconds : Binary64) : Int :=
  let s := seconds.toRat
  let rest := s - 60 * ((s / 60).floor : Int)
  let quotient := (ofRat ((ofRat (s - rest)).toRat / 60)).toRat
  if 1 / 2 < quotient - (quotient.floor : Int) then quotient.floor + 1 else quotient.floor

def secondsBeyond (seconds : Binary64) : Binary64 :=
  let s := seconds.toRat
  ofRat (s - 60 * ((s / 60).floor : Int))

def text (seconds : Binary64) : String :=
  let s := seconds.toRat
  if s < 0 then "0ms"
  else if s < 1 then s!"{roundRat (seconds.mul (.ofInt 1000)).toRat}ms"
  else
    let rest := secondsBeyond seconds
    if 0 < minutesIn seconds then s!"{minutesIn seconds}m {rest.toRat.floor}s"
    else .ofList (rest.fixedText 1 ++ ['s'])

/-- The text of a whole number of seconds. -/
def textOfInt (seconds : Int) : String :=
  if seconds < 0 then "0ms"
  else if seconds < 1 then "0ms"
  else if seconds < 60 then .ofList ((ofInt seconds).fixedText 1 ++ ['s'])
  else s!"{seconds / 60}m {seconds % 60}s"

end SiteTemplate.Duration
