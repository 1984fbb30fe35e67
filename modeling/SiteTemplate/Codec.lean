import SiteTemplate.Number.Binary64
import SiteTemplate.Text.Characters
import SiteTemplate.Text.Strings

/-!
# Codes for bytes

Decoding of Base64 that discards nothing, percent-encoding for the query of an address, and the
digest of a text by SHA-256.
-/

namespace SiteTemplate.Base64

inductive Fault where
  | notAscii
  | leadingPadding
  | badCharacter
  | discontinuousPadding
  | excessData
  | loneCharacter (count : Nat)
  | missingPadding
deriving DecidableEq, Repr

def Fault.message : Fault → String
  | .notAscii => "string argument should contain only ASCII characters"
  | .leadingPadding => "Leading padding not allowed"
  | .badCharacter => "Only base64 data is allowed"
  | .discontinuousPadding => "Discontinuous padding not allowed"
  | .excessData => "Excess data after padding"
  | .loneCharacter count =>
    "Invalid base64-encoded string: number of data characters (" ++ toString count
      ++ ") cannot be 1 more than a multiple of 4"
  | .missingPadding => "Incorrect padding"

def digitOf (n : Nat) : Char :=
  if n < 26 then Char.ofNat (65 + n)
  else if n < 52 then Char.ofNat (71 + n)
  else if n < 62 then Char.ofNat (n - 4)
  else if n = 62 then '+' else '/'

def valueOf? (c : Char) : Option Nat :=
  let n := c.toNat
  if 65 ≤ n && n ≤ 90 then some (n - 65)
  else if 97 ≤ n && n ≤ 122 then some (n - 71)
  else if 48 ≤ n && n ≤ 57 then some (n + 4)
  else if c = '+' then some 62
  else if c = '/' then some 63
  else none

/-- The padded encoding of bytes. -/
def encode : List UInt8 → List Char
  | [] => []
  | [a] => [digitOf (a.toNat / 4), digitOf (a.toNat % 4 * 16), '=', '=']
  | [a, b] =>
    [digitOf (a.toNat / 4), digitOf (a.toNat % 4 * 16 + b.toNat / 16), digitOf (b.toNat % 16 * 4),
      '=']
  | a :: b :: c :: rest =>
    digitOf (a.toNat / 4) :: digitOf (a.toNat % 4 * 16 + b.toNat / 16)
      :: digitOf (b.toNat % 16 * 4 + c.toNat / 64) :: digitOf (c.toNat % 64) :: encode rest

/-- How far a group of four characters has been read. -/
inductive Group where
  | empty
  | one (left : Nat)
  | two (left : Nat)
  | three (left : Nat)

def Group.size : Group → Nat
  | .empty => 0
  | .one _ => 1
  | .two _ => 2
  | .three _ => 3

/-- Takes a digit's value into a group; the answer holds the byte that is complete with it. -/
def Group.take : Group → Nat → Option UInt8 × Group
  | .empty, v => (none, .one v)
  | .one left, v => (some (.ofNat (left * 4 + v / 16)), .two (v % 16))
  | .two left, v => (some (.ofNat (left * 16 + v / 4)), .three (v % 4))
  | .three left, v => (some (.ofNat (left * 64 + v)), .empty)

/-- Reads on after `count` bytes, `pads` padding characters at the last place and the beginning
`group` of a group; `padded` tells whether any padding has been seen. -/
def decodeFrom (count : Nat) (padded : Bool) (pads : Nat) (group : Group) :
    List Char → Except Fault (List UInt8)
  | [] =>
    match group with
    | .empty => .ok []
    | .one _ => .error (.loneCharacter (count / 3 * 4 + 1))
    | _ => .error .missingPadding
  | c :: rest =>
    if c = '=' then
      if 2 ≤ group.size then
        if 4 ≤ group.size + pads + 1 then
          if rest.isEmpty then .ok [] else .error .excessData
        else decodeFrom count true (pads + 1) group rest
      else decodeFrom count true pads group rest
    else
      match valueOf? c with
      | none => .error .badCharacter
      | some v =>
        if padded then .error .discontinuousPadding
        else
          let (byte, group) := group.take v
          match byte with
          | none => decodeFrom count padded 0 group rest
          | some b => (decodeFrom (count + 1) padded 0 group rest).map (b :: ·)

def decode (cs : List Char) : Except Fault (List UInt8) :=
  if !cs.all (·.toNat < 128) then .error .notAscii
  else if cs.head? = some '=' then .error .leadingPadding
  else decodeFrom 0 false 0 .empty cs

end SiteTemplate.Base64

namespace SiteTemplate.Percent

open Text

def isUnreserved (c : Char) : Bool :=
  isAsciiLetter c || isAsciiDigit c || c == '_' || c == '.' || c == '-' || c == '~'

def hexDigit (n : Nat) : Char := if n < 10 then Char.ofNat (48 + n) else Char.ofNat (55 + n)

def escapeByte (b : UInt8) : List Char := ['%', hexDigit (b.toNat / 16), hexDigit (b.toNat % 16)]

def encodeChar (c : Char) : List Char :=
  if isUnreserved c then [c] else (String.utf8EncodeChar c).flatMap escapeByte

/-- A text in which nothing but unreserved characters and escapes is left. -/
def encode (cs : List Char) : List Char := cs.flatMap encodeChar

end SiteTemplate.Percent

namespace SiteTemplate.Sha256

structure State where
  a : UInt32
  b : UInt32
  c : UInt32
  d : UInt32
  e : UInt32
  f : UInt32
  g : UInt32
  h : UInt32

def start : State :=
  ⟨0x6a09e667, 0xbb67ae85, 0x3c6ef372, 0xa54ff53a, 0x510e527f, 0x9b05688c, 0x1f83d9ab, 0x5be0cd19⟩

def roundConstants : List UInt32 :=
  [0x428a2f98, 0x71374491, 0xb5c0fbcf, 0xe9b5dba5, 0x3956c25b, 0x59f111f1, 0x923f82a4, 0xab1c5ed5,
    0xd807aa98, 0x12835b01, 0x243185be, 0x550c7dc3, 0x72be5d74, 0x80deb1fe, 0x9bdc06a7, 0xc19bf174,
    0xe49b69c1, 0xefbe4786, 0x0fc19dc6, 0x240ca1cc, 0x2de92c6f, 0x4a7484aa, 0x5cb0a9dc, 0x76f988da,
    0x983e5152, 0xa831c66d, 0xb00327c8, 0xbf597fc7, 0xc6e00bf3, 0xd5a79147, 0x06ca6351, 0x14292967,
    0x27b70a85, 0x2e1b2138, 0x4d2c6dfc, 0x53380d13, 0x650a7354, 0x766a0abb, 0x81c2c92e, 0x92722c85,
    0xa2bfe8a1, 0xa81a664b, 0xc24b8b70, 0xc76c51a3, 0xd192e819, 0xd6990624, 0xf40e3585, 0x106aa070,
    0x19a4c116, 0x1e376c08, 0x2748774c, 0x34b0bcb5, 0x391c0cb3, 0x4ed8aa4a, 0x5b9cca4f, 0x682e6ff3,
    0x748f82ee, 0x78a5636f, 0x84c87814, 0x8cc70208, 0x90befffa, 0xa4506ceb, 0xbef9a3f7, 0xc67178f2]

def rotate (x : UInt32) (n : UInt32) : UInt32 := (x >>> n) ||| (x <<< (32 - n))

def nextWord (w : Array UInt32) : UInt32 :=
  let at' (k : Nat) := w.getD (w.size - k) 0
  let s0 := rotate (at' 15) 7 ^^^ rotate (at' 15) 18 ^^^ (at' 15 >>> 3)
  let s1 := rotate (at' 2) 17 ^^^ rotate (at' 2) 19 ^^^ (at' 2 >>> 10)
  at' 16 + s0 + at' 7 + s1

def schedule (block : List UInt32) : List UInt32 :=
  ((List.range 48).foldl (fun w _ => w.push (nextWord w)) block.toArray).toList

def round (s : State) (k w : UInt32) : State :=
  let s1 := rotate s.e 6 ^^^ rotate s.e 11 ^^^ rotate s.e 25
  let choice := (s.e &&& s.f) ^^^ ((~~~s.e) &&& s.g)
  let t1 := s.h + s1 + choice + k + w
  let s0 := rotate s.a 2 ^^^ rotate s.a 13 ^^^ rotate s.a 22
  let majority := (s.a &&& s.b) ^^^ (s.a &&& s.c) ^^^ (s.b &&& s.c)
  ⟨t1 + (s0 + majority), s.a, s.b, s.c, s.d + t1, s.e, s.f, s.g⟩

def compress (s : State) (block : List UInt32) : State :=
  let t := (roundConstants.zip (schedule block)).foldl (fun t kw => round t kw.1 kw.2) s
  ⟨s.a + t.a, s.b + t.b, s.c + t.c, s.d + t.d, s.e + t.e, s.f + t.f, s.g + t.g, s.h + t.h⟩

def bigEndian (width n : Nat) : List UInt8 :=
  (List.range width).map fun i => .ofNat (n / twoTo (8 * (width - 1 - i)))

/-- A message with its delimiter, zeros and its length in bits. -/
def pad (message : List UInt8) : List UInt8 :=
  message ++ 0x80 :: List.replicate ((119 - message.length % 64) % 64) 0
    ++ bigEndian 8 (8 * message.length)

def toWords : List UInt8 → List UInt32
  | a :: b :: c :: d :: rest =>
    ((a.toUInt32 <<< 24) ||| (b.toUInt32 <<< 16) ||| (c.toUInt32 <<< 8) ||| d.toUInt32)
      :: toWords rest
  | _ => []

/-- The state after all blocks of a list of words. -/
def absorb (s : State) (ws : List UInt32) : State :=
  if 16 ≤ ws.length then absorb (compress s (ws.take 16)) (ws.drop 16) else s
termination_by ws.length
decreasing_by simp; omega

def digest (message : List UInt8) : List UInt8 :=
  let s := absorb start (toWords (pad message))
  [s.a, s.b, s.c, s.d, s.e, s.f, s.g, s.h].flatMap fun w => bigEndian 4 w.toNat

def ofText (s : String) : String :=
  .ofList <| (digest (Text.utf8 s.toList)).flatMap fun b => (Nat.toDigits 16 b.toNat).leftpad 2 '0'

end SiteTemplate.Sha256
