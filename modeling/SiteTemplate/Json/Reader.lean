import SiteTemplate.Json.Basic
import SiteTemplate.Number.Numeral

/-!
# Reading JSON text

A text is read by recursive descent. Every step takes at least one character, so the length of the
text bounds the depth of the descent. Of members with one key the last value counts, in the place
of the first. Besides the numbers of JSON, `NaN` and the two infinities are read by name. A whole
number with too many digits stops the reading where it stands.
-/

namespace SiteTemplate.Json

open Text

/-- Why a text gives no value. -/
inductive TextFault where
  | broken
  /-- A whole number has more digits than are read. -/
  | overlong (digits : Nat)
deriving DecidableEq, Repr

/-- What was read, unless the text is broken. -/
def orBroken {α : Type} : Option α → Except TextFault α
  | some a => .ok a
  | none => .error .broken

def isGap (c : Char) : Bool := c == ' ' || c == '\t' || c == '\n' || c == '\r'

def skipGap (cs : List Char) : List Char := cs.dropWhile isGap

def hexValue? (c : Char) : Option Nat :=
  let n := c.toNat
  if 48 ≤ n && n ≤ 57 then some (n - 48)
  else if 97 ≤ n && n ≤ 102 then some (n - 87)
  else if 65 ≤ n && n ≤ 70 then some (n - 55)
  else none

def codeUnit? (a b c d : Char) : Option Nat := do
  pure ((((← hexValue? a) * 16 + (← hexValue? b)) * 16 + (← hexValue? c)) * 16 + (← hexValue? d))

def shortEscape? : Char → Option Char
  | '"' => some '"'
  | '\\' => some '\\'
  | '/' => some '/'
  | 'b' => some '\x08'
  | 'f' => some '\x0c'
  | 'n' => some '\n'
  | 'r' => some '\r'
  | 't' => some '\t'
  | _ => none

/-- The code units of a string up to its closing quote, and the text after the quote. -/
def readUnits : List Char → Option (List Nat × List Char)
  | '"' :: rest => some ([], rest)
  | '\\' :: 'u' :: a :: b :: c :: d :: rest => do
    let u ← codeUnit? a b c d
    let (us, rest) ← readUnits rest
    pure (u :: us, rest)
  | '\\' :: e :: rest => do
    let c ← shortEscape? e
    let (us, rest) ← readUnits rest
    pure (c.toNat :: us, rest)
  | c :: rest =>
    if c.toNat < 0x20 || c == '\\' then none
    else do
      let (us, rest) ← readUnits rest
      pure (c.toNat :: us, rest)
  | [] => none

/-- Characters of code units: a high surrogate and a low one after it make one character, and a
surrogate that stands alone becomes the replacement character. -/
def joinSurrogates : List Nat → List Char
  | [] => []
  | [u] => [if 0xD800 ≤ u && u < 0xE000 then '\uFFFD' else Char.ofNat u]
  | u :: v :: us =>
    if 0xD800 ≤ u && u < 0xDC00 && 0xDC00 ≤ v && v < 0xE000 then
      Char.ofNat (0x10000 + (u - 0xD800) * 0x400 + (v - 0xDC00)) :: joinSurrogates us
    else
      (if 0xD800 ≤ u && u < 0xE000 then '\uFFFD' else Char.ofNat u) :: joinSurrogates (v :: us)

def readString (cs : List Char) : Option (String × List Char) :=
  (readUnits cs).map fun (us, rest) => (.ofList (joinSurrogates us), rest)

def splitMinus : List Char → Bool × List Char
  | '-' :: cs => (true, cs)
  | cs => (false, cs)

/-- The whole part of a number: a zero alone, or digits that do not start with a zero. -/
def readWhole : List Char → Option (List Char × List Char)
  | '0' :: rest => some (['0'], rest)
  | c :: rest =>
    if isAsciiDigit c then
      some (c :: rest.takeWhile isAsciiDigit, rest.dropWhile isAsciiDigit)
    else none
  | [] => none

/-- The digits after a decimal point, if a point with at least one digit follows. -/
def readFraction : List Char → Option (List Char × List Char)
  | '.' :: c :: rest =>
    if isAsciiDigit c then
      some (c :: rest.takeWhile isAsciiDigit, rest.dropWhile isAsciiDigit)
    else none
  | _ => none

/-- An exponent, if a mark with at least one digit follows. -/
def readExponent : List Char → Option (Int × List Char)
  | e :: rest =>
    if e == 'e' || e == 'E' then
      let (negative, digits) := Numeral.splitSign rest
      let ds := digits.takeWhile isAsciiDigit
      if ds.isEmpty then none
      else
        let n : Int := Numeral.natural ds
        some (if negative then -n else n, digits.dropWhile isAsciiDigit)
    else none
  | [] => none

/-- The whole number that a sign and digits write, unless there are too many digits. -/
def wholeNumber (negative : Bool) (digits : List Char) : Except TextFault Json :=
  if digits.length ≤ mostDigits then
    let n : Int := Numeral.natural digits
    .ok (.int (if negative then -n else n))
  else .error (.overlong digits.length)

/-- A number; with a fraction or an exponent it has double precision, else it is whole. -/
def readNumber (cs : List Char) : Except TextFault (Json × List Char) :=
  let (negative, cs) := splitMinus cs
  match readWhole cs with
  | none => .error .broken
  | some (whole, cs) =>
    let fraction := readFraction cs
    let cs := (fraction.map (·.2)).getD cs
    let exponent := readExponent cs
    let rest := (exponent.map (·.2)).getD cs
    if fraction.isNone && exponent.isNone then (wholeNumber negative whole).map (·, rest)
    else
      let places := (fraction.map (·.1)).getD []
      let e := (exponent.map (·.1)).getD 0
      .ok (.float (.ofDecimal negative (Numeral.natural (whole ++ places)) (e - places.length)),
        rest)

def namedValues : List (String × Json) :=
  [("null", .null), ("true", .bool true), ("false", .bool false), ("NaN", .float .nan),
    ("Infinity", .float (.infinity false)), ("-Infinity", .float (.infinity true))]

def readNamed (cs : List Char) : Option (Json × List Char) :=
  namedValues.findSome? fun (name, v) => (name.toList.isPrefixOf? cs).map (v, ·)

mutual

/-- A value at the start of a text, and the text after it. -/
def readValue : Nat → List Char → Except TextFault (Json × List Char)
  | 0, _ => .error .broken
  | n + 1, cs =>
    match skipGap cs with
    | '"' :: rest => (orBroken (readString rest)).map fun (s, rest) => (.str s, rest)
    | '[' :: rest =>
      match skipGap rest with
      | ']' :: rest => .ok (.arr [], rest)
      | rest => (readItems n rest).map fun (vs, rest) => (.arr vs, rest)
    | '{' :: rest =>
      match skipGap rest with
      | '}' :: rest => .ok (.obj [], rest)
      | rest => (readMembers n rest).map fun (ms, rest) => (.obj (Entries.ofList ms), rest)
    | rest =>
      match readNamed rest with
      | some found => .ok found
      | none => readNumber rest

/-- The items of a list up to its closing bracket. -/
def readItems : Nat → List Char → Except TextFault (List Json × List Char)
  | 0, _ => .error .broken
  | n + 1, cs => do
    let (v, rest) ← readValue n cs
    match skipGap rest with
    | ']' :: rest => pure ([v], rest)
    | ',' :: rest => do
      let (vs, rest) ← readItems n rest
      pure (v :: vs, rest)
    | _ => .error .broken

/-- The members of an object, as written, up to its closing brace. -/
def readMembers : Nat → List Char → Except TextFault (List (String × Json) × List Char)
  | 0, _ => .error .broken
  | n + 1, cs =>
    match skipGap cs with
    | '"' :: rest => do
      let (key, rest) ← orBroken (readString rest)
      match skipGap rest with
      | ':' :: rest => do
        let (v, rest) ← readValue n rest
        match skipGap rest with
        | '}' :: rest => pure ([(key, v)], rest)
        | ',' :: rest => do
          let (ms, rest) ← readMembers n rest
          pure ((key, v) :: ms, rest)
        | _ => .error .broken
      | _ => .error .broken
    | _ => .error .broken

end

/-- The value that a JSON text writes. -/
def parse (s : String) : Except TextFault Json :=
  let cs := s.toList
  match readValue (cs.length + 1) cs with
  | .ok (v, rest) => if (skipGap rest).isEmpty then .ok v else .error .broken
  | .error e => .error e

end SiteTemplate.Json
