import SiteTemplate.Text.CharacterTables
import SiteTemplate.Text.Characters

/-!
# Forms, lines and quotes in a text

A recogniser reads one form at the start of a text. It is told which character stands before, so
that it can ask for a boundary. From a recogniser come the first place of its form in a text and
all places that do not overlap, found from left to right.

A quoted text stands between single quotes, or between double quotes when only single quotes occur
in it; every character without a printed form is written by its code point.
-/

namespace SiteTemplate.Text

/-- Reads a form at the start of a text, given the character before it; the answer holds what was
read and what follows. -/
abbrev Recogniser (α : Type) := Option Char → List Char → Option (α × List Char)

structure Found (α : Type) where
  offset : Nat
  value : α

variable {α : Type}

def after? (lit : String) (cs : List Char) : Option (List Char) :=
  lit.toList.isPrefixOf? cs

/-- What follows a run of at least one blank accepted by `p`, if the text starts with one. -/
def afterSome? (p : Char → Bool) : List Char → Option (List Char)
  | [] => none
  | c :: cs => if p c then some (cs.dropWhile p) else none

def startsWith (lit : String) (cs : List Char) : Bool := lit.toList.isPrefixOf cs

def endsWith (lit : String) (cs : List Char) : Bool := lit.toList.isSuffixOf cs

def occursIn (needle : List Char) : List Char → Bool
  | [] => needle.isEmpty
  | c :: cs => needle.isPrefixOf (c :: cs) || occursIn needle cs

/-- The first place where the recogniser reads its form. -/
def Recogniser.first? (r : Recogniser α) (before : Option Char) : List Char → Option (Found α)
  | [] => none
  | c :: cs =>
    match r before (c :: cs) with
    | some (a, _) => some ⟨0, a⟩
    | none => (Recogniser.first? r (some c) cs).map fun f => { f with offset := f.offset + 1 }

def Recogniser.occurs (r : Recogniser α) (cs : List Char) : Bool := (r.first? none cs).isSome

/-- The form with its offset at every place, from left to right; after a form that takes up
characters the search goes on where it ends. -/
def Recogniser.allFrom (r : Recogniser α) (offset : Nat) (before : Option Char)
    (cs : List Char) : List (Found α) :=
  match cs with
  | [] => []
  | c :: rest =>
    match r before (c :: rest) with
    | some (a, left) =>
      if left.length < (c :: rest).length then
        let taken := (c :: rest).length - left.length
        ⟨offset, a⟩ :: r.allFrom (offset + taken) ((c :: rest)[taken - 1]?) left
      else ⟨offset, a⟩ :: r.allFrom (offset + 1) (some c) rest
    | none => r.allFrom (offset + 1) (some c) rest
termination_by cs.length
decreasing_by all_goals (simp only [List.length_cons] at *; omega)

def Recogniser.all (r : Recogniser α) (cs : List Char) : List (Found α) := r.allFrom 0 none cs

/-- A text without the forms that the recogniser reads. -/
def Recogniser.eraseFrom (r : Recogniser α) (before : Option Char) (cs : List Char) : List Char :=
  match cs with
  | [] => []
  | c :: rest =>
    match r before (c :: rest) with
    | some (_, left) =>
      if left.length < (c :: rest).length then
        r.eraseFrom ((c :: rest)[(c :: rest).length - left.length - 1]?) left
      else c :: r.eraseFrom (some c) rest
    | none => c :: r.eraseFrom (some c) rest
termination_by cs.length
decreasing_by all_goals (simp only [List.length_cons] at *; omega)

def literal (lit : String) : Recogniser Unit := fun _ cs => (after? lit cs).map ((), ·)

end SiteTemplate.Text

namespace SiteTemplate.Text

/-- The number, from 1, of the line on which an offset lies; offsets beyond the text lie on its
last line. -/
def lineAt (cs : List Char) (offset : Nat) : Nat :=
  (cs.take offset).count '\n' + 1

def newlines (cs : List Char) : Nat := cs.count '\n'

@[simp] theorem lineAt_zero (cs : List Char) : lineAt cs 0 = 1 := rfl

/-- Past a piece of text the line number has grown by the line ends of the piece. -/
theorem lineAt_append (a b : List Char) (n : Nat) :
    lineAt (a ++ b) (a.length + n) = newlines a + lineAt b n := by
  simp [lineAt, newlines, List.take_length_add_append, Nat.add_assoc]

/-- The end of a text, or the place before one line end that closes it. -/
def atTextEnd : List Char → Bool
  | [] => true
  | [c] => c == '\n'
  | _ => false

theorem atTextEnd_iff {cs : List Char} : atTextEnd cs = true ↔ cs = [] ∨ cs = ['\n'] := by
  match cs with
  | [] => simp [atTextEnd]
  | [c] => simp [atTextEnd]
  | _ :: _ :: _ => simp [atTextEnd]

def utf8 (cs : List Char) : List UInt8 := cs.flatMap String.utf8EncodeChar

def byteLength (s : String) : Nat := (utf8 s.toList).length

@[simp] theorem utf8_cons (c : Char) (cs : List Char) :
    utf8 (c :: cs) = String.utf8EncodeChar c ++ utf8 cs := rfl

theorem byteLength_eq_utf8ByteSize (s : String) : byteLength s = s.utf8ByteSize := by
  rw [byteLength, utf8, ← List.size_toByteArray, ← List.utf8Encode, ← String.toByteArray_ofList,
    String.ofList_toList, String.size_toByteArray]

def isPrintable (c : Char) : Bool :=
  let n := c.toNat
  if n < 128 then 32 ≤ n && n < 127 else !inToggles unprintableToggles c

def hexDigits (width n : Nat) : List Char := (Nat.toDigits 16 n).leftpad width '0'

/-- A character as it stands between the given quotes. -/
def quotedChar (quote c : Char) : List Char :=
  if c = quote ∨ c = '\\' then ['\\', c]
  else if c = '\n' then ['\\', 'n']
  else if c = '\r' then ['\\', 'r']
  else if c = '\t' then ['\\', 't']
  else if isPrintable c then [c]
  else if c.toNat < 0x100 then '\\' :: 'x' :: hexDigits 2 c.toNat
  else if c.toNat < 0x10000 then '\\' :: 'u' :: hexDigits 4 c.toNat
  else '\\' :: 'U' :: hexDigits 8 c.toNat

def quoteFor (cs : List Char) : Char :=
  if cs.contains '\'' && !cs.contains '"' then '"' else '\''

def quoted (cs : List Char) : List Char :=
  let q := quoteFor cs
  q :: cs.flatMap (quotedChar q) ++ [q]

def quotedString (s : String) : String := .ofList (quoted s.toList)

end SiteTemplate.Text
