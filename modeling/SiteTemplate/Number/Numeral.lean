import SiteTemplate.Number.Binary64
import SiteTemplate.Text.Characters

/-!
# Numerals

Two rules read a number out of a text. A field of a record takes ASCII numerals with white space
around them, and an underscore may stand between two digits. A setting takes decimal digits of any
script as well.
-/

namespace SiteTemplate.Numeral

open Text

def splitSign : List Char → Bool × List Char
  | '-' :: cs => (true, cs)
  | '+' :: cs => (false, cs)
  | cs => (false, cs)

def natural (ds : List Char) : Nat := ds.foldl (fun n d => 10 * n + (d.toNat - 48)) 0

/-- Runs of digits with single underscores between them, without the underscores. -/
def joinGroups? (cs : List Char) : Option (List Char) :=
  let groups := cs.splitOnP (· == '_')
  if groups.all fun g => !g.isEmpty && g.all isAsciiDigit then some groups.flatten else none

/-- Drops underscores, unless one stands at an end or two stand side by side. -/
def dropUnderscores? (cs : List Char) : Option (List Char) :=
  let groups := cs.splitOnP (· == '_')
  if groups.all (!·.isEmpty) then some groups.flatten else none

/-- A whole number: a sign, digits with single underscores between them, and a fraction of zeros. -/
def int? (s : String) : Option Int :=
  let (negative, cs) := splitSign (trimBy isWhiteSpace s.toList)
  let (whole, fraction) := cs.span (· != '.')
  match joinGroups? whole with
  | some ds =>
    if (fraction.drop 1).all (· == '0') then
      some (if negative then -(natural ds : Int) else natural ds)
    else none
  | none => none

def exponent? : List Char → Option Int
  | [] => some 0
  | e :: cs =>
    if e == 'e' || e == 'E' then
      let (negative, ds) := splitSign cs
      if !ds.isEmpty && ds.all isAsciiDigit then
        some (if negative then -(natural ds : Int) else natural ds)
      else none
    else none

/-- A decimal numeral without its sign: digits with an optional point among or around them, and an
optional exponent. -/
def decimal? (negative : Bool) (cs : List Char) : Option Binary64 :=
  let whole := cs.takeWhile isAsciiDigit
  let rest := cs.dropWhile isAsciiDigit
  let (fraction, rest) := match rest with
    | '.' :: more => (more.takeWhile isAsciiDigit, more.dropWhile isAsciiDigit)
    | _ => ([], rest)
  if whole.isEmpty && fraction.isEmpty then none
  else
    (exponent? rest).map fun e =>
      .ofDecimal negative (natural (whole ++ fraction)) (e - fraction.length)

/-- A real number in ASCII: a decimal numeral, an infinity or a NaN, with an optional sign. -/
def real? (cs : List Char) : Option Binary64 :=
  let (negative, body) := splitSign cs
  match String.ofList (body.map Char.toLower) with
  | "inf" | "infinity" => some (.infinity negative)
  | "nan" => some .nan
  | _ => decimal? negative body

def float? (s : String) : Option Binary64 :=
  let cs := trimBy isWhiteSpace s.toList
  (real? cs).or ((dropUnderscores? cs).bind real?)

/-- Decimal digits of any script as ASCII digits. -/
def toAsciiDigits (cs : List Char) : List Char :=
  cs.map fun c =>
    match digitValue? c with
    | some n => Char.ofNat (48 + n)
    | none => c

/-- Drops the underscores that stand between two digits; any other underscore is refused. -/
def dropInnerUnderscores? (before : Option Char) : List Char → Option (List Char)
  | [] => some []
  | c :: cs =>
    if c == '_' then
      if before.any isAsciiDigit && cs.head?.any isAsciiDigit then dropInnerUnderscores? (some c) cs
      else none
    else (dropInnerUnderscores? (some c) cs).map (c :: ·)

def settingDigits? (s : String) : Option (Bool × List Char) :=
  let (negative, cs) := splitSign (trim (toAsciiDigits s.toList))
  (joinGroups? cs).map (negative, ·)

/-- A whole number as a setting takes it, unless it has too many digits. -/
def settingInt? (s : String) : Option Int :=
  match settingDigits? s with
  | some (negative, ds) =>
    if ds.length ≤ mostDigits then some (if negative then -(natural ds : Int) else natural ds)
    else none
  | none => none

def settingFloat? (s : String) : Option Binary64 :=
  (dropInnerUnderscores? none (trim (toAsciiDigits s.toList))).bind real?

end SiteTemplate.Numeral
