import SiteTemplate.Json.Basic
import SiteTemplate.Number.Decimal
import SiteTemplate.Text.Characters
import SiteTemplate.Text.Strings

/-!
# Writing JSON values

Characters beyond ASCII stand as they are; quotes, backslashes and control characters are
escaped. A layout chooses the gaps between the parts and the text of double-precision numbers:
`compact` has no gaps, `spaced` one blank after commas and colons, `indented` one line for each
item or member, and `saved` is the layout of settings files.

A message shows a value in the notation of the program's own language, and a source file takes it
as compact JSON. A whole number with too many digits cannot be written in any of these ways:
`display?` and `paste?` are to `display` and `paste` what `render?` is to `render`.
-/

namespace SiteTemplate.Json

open Text

/-- The gaps between the parts of a JSON text and the text of its numbers. -/
structure Layout where
  /-- What follows a comma on the same line. -/
  afterComma : List Char
  /-- What follows the colon of a member. -/
  afterColon : List Char
  /-- The width by which every level is indented, if items and members have lines of their own. -/
  indent : Option Nat
  /-- The text of a double-precision number. -/
  number : Binary64 → List Char

/-- The text of a double-precision number; the three values that JSON lacks are written by name. -/
def numberText (x : Binary64) : List Char :=
  if x.isNaN then "NaN".toList
  else if x.isFinite then x.text .plain
  else if x.isNegative then "-Infinity".toList
  else "Infinity".toList

/-- The text of a number in a settings file; what JSON lacks becomes null. -/
def savedNumberText (x : Binary64) : List Char :=
  if x.isFinite then x.text .settings else "null".toList

def Layout.compact : Layout := ⟨[], [], none, numberText⟩

def Layout.spaced : Layout := ⟨[' '], [' '], none, numberText⟩

def Layout.indented : Layout := ⟨[], [' '], some 2, numberText⟩

def Layout.saved : Layout := ⟨[], [' '], some 2, savedNumberText⟩

/-- The line end and indentation before a part that stands `depth` levels deep. -/
def Layout.lineBreak (l : Layout) (depth : Nat) : List Char :=
  match l.indent with
  | none => []
  | some width => '\n' :: List.replicate (width * depth) ' '

/-- What stands between two neighbours that are `depth` levels deep. -/
def Layout.separator (l : Layout) (depth : Nat) : List Char :=
  ',' :: l.afterComma ++ l.lineBreak depth

/-- A character inside a JSON string. -/
def escapeChar (c : Char) : List Char :=
  if c = '"' then ['\\', '"']
  else if c = '\\' then ['\\', '\\']
  else if c = '\n' then ['\\', 'n']
  else if c = '\r' then ['\\', 'r']
  else if c = '\t' then ['\\', 't']
  else if c = '\x08' then ['\\', 'b']
  else if c = '\x0c' then ['\\', 'f']
  else if c.toNat < 0x20 then '\\' :: 'u' :: hexDigits 4 c.toNat
  else [c]

def writeString (s : String) : List Char :=
  '"' :: s.toList.flatMap escapeChar ++ ['"']

def writeInt (n : Int) : List Char :=
  if n < 0 then '-' :: Nat.toDigits 10 n.natAbs else Nat.toDigits 10 n.natAbs

mutual

/-- The text of a value that stands `depth` levels deep. -/
def write (l : Layout) (depth : Nat) : Json → List Char
  | .null => "null".toList
  | .bool true => "true".toList
  | .bool false => "false".toList
  | .int n => writeInt n
  | .float x => l.number x
  | .str s => writeString s
  | .arr [] => ['[', ']']
  | .arr (v :: vs) =>
    '[' :: l.lineBreak (depth + 1) ++ write l (depth + 1) v ++ writeItems l (depth + 1) vs
      ++ l.lineBreak depth ++ [']']
  | .obj [] => ['{', '}']
  | .obj (m :: ms) =>
    '{' :: l.lineBreak (depth + 1) ++ writeMember l (depth + 1) m
      ++ writeMembers l (depth + 1) ms ++ l.lineBreak depth ++ ['}']

def writeItems (l : Layout) (depth : Nat) : List Json → List Char
  | [] => []
  | v :: vs => l.separator depth ++ write l depth v ++ writeItems l depth vs

def writeMember (l : Layout) (depth : Nat) : String × Json → List Char
  | (key, v) => writeString key ++ ':' :: l.afterColon ++ write l depth v

def writeMembers (l : Layout) (depth : Nat) : List (String × Json) → List Char
  | [] => []
  | m :: ms => l.separator depth ++ writeMember l depth m ++ writeMembers l depth ms

end

def render (l : Layout) (v : Json) : String := .ofList (write l 0 v)

/-- Whether no whole number in a value has more digits than are written. -/
def fits : Json → Bool :=
  all fun
    | .int n => n.natAbs < tenTo mostDigits
    | _ => true

/-- The text of a value in a layout, unless a whole number in it has too many digits. -/
def render? (l : Layout) (v : Json) : Option String :=
  if v.fits then some (v.render l) else none

mutual

/-- A value inside a list or an object, or the value itself with texts in quotes. -/
def shown : Json → List Char
  | .null => "None".toList
  | .bool true => "True".toList
  | .bool false => "False".toList
  | .int n => writeInt n
  | .float x => x.text .plain
  | .str s => quoted s.toList
  | .arr [] => ['[', ']']
  | .arr (v :: vs) => '[' :: shown v ++ shownItems vs ++ [']']
  | .obj [] => ['{', '}']
  | .obj (m :: ms) => '{' :: shownMember m ++ shownMembers ms ++ ['}']

def shownItems : List Json → List Char
  | [] => []
  | v :: vs => ',' :: ' ' :: shown v ++ shownItems vs

def shownMember : String × Json → List Char
  | (key, v) => quoted key.toList ++ ':' :: ' ' :: shown v

def shownMembers : List (String × Json) → List Char
  | [] => []
  | m :: ms => ',' :: ' ' :: shownMember m ++ shownMembers ms

end

/-- A value in a message: a text stands as it is. -/
def display : Json → String
  | .str s => s
  | v => .ofList (shown v)

/-- A value as it is pasted into a source file: a text stands as it is, null is empty, and lists
and objects are compact JSON. -/
def paste : Json → String
  | .str s => s
  | .null => ""
  | .float x => .ofList (x.text .plain)
  | v => v.render .compact

def display? (v : Json) : Option String := if v.fits then some v.display else none

def paste? (v : Json) : Option String := if v.fits then some v.paste else none

end SiteTemplate.Json
