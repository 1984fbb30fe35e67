import SiteTemplate.Text.Characters
import SiteTemplate.Text.Strings

/-!
# The forms of placeholders

A placeholder is written as one of five forms. Forms are recognised from left to right, and the
forms that are left over in a text are counted kind by kind.
-/

namespace SiteTemplate.Placeholder

open Text

inductive Kind where
  | tw
  | text
  | img
  | data
  | slot
deriving DecidableEq, Repr

def Kind.all : List Kind := [.tw, .text, .img, .data, .slot]

def Kind.name : Kind → String
  | .tw => "tw"
  | .text => "text"
  | .img => "img"
  | .data => "data"
  | .slot => "slot"

def Kind.ofName? (s : String) : Option Kind := Kind.all.find? (·.name == s)

/-- A placeholder form; the key of a `data` form stands as written. -/
inductive Form where
  | tw
  | text
  | img
  | data (key : List Char)
  | slot (path : List Char)
deriving DecidableEq, Repr

def Form.kind : Form → Kind
  | .tw => .tw
  | .text => .text
  | .img => .img
  | .data _ => .data
  | .slot _ => .slot

/-- The key under which a form looks up its value, without blanks around it. -/
def Form.key? : Form → Option String
  | .data key => some (.ofList (trim key))
  | .slot path => some (.ofList path)
  | _ => none

def isPathStart (c : Char) : Bool := isAsciiLetter c || c == '_' || c == '$'

def isPathChar (c : Char) : Bool := isWordChar c || c == '$' || c == '-'

def isPathPart (c : Char) : Bool := isPathChar c || c == '.'

/-- A slot path: segments parted by dots, none of them empty, the first with a proper start. -/
def isSlotPath (cs : List Char) : Bool :=
  cs.head?.any isPathStart && (cs.splitOnP (· == '.')).all (!·.isEmpty)

def Form.readData? (cs : List Char) : Option (Form × List Char) := do
  let cs ← after? "<data" cs
  let cs ← afterSome? isBlank cs
  let cs ← after? "key=\"" cs
  let key := cs.takeWhile (· != '"')
  let cs ← after? "\"/>" (cs.dropWhile (· != '"'))
  if key.isEmpty then none else pure (.data key, cs)

def Form.readSlot? (cs : List Char) : Option (Form × List Char) := do
  let cs ← after? "\x7b\x7b" cs
  let cs := trimStart cs
  let path := cs.takeWhile isPathPart
  let cs ← after? "\x7d\x7d" (trimStart (cs.dropWhile isPathPart))
  if isSlotPath path then pure (.slot path, cs) else none

/-- Reads a form of one kind at the start of a text. -/
def Kind.read? : Kind → List Char → Option (Form × List Char)
  | .tw, cs => (after? "<tw/>" cs).map (.tw, ·)
  | .text, cs => (after? "<text/>" cs).map (.text, ·)
  | .img, cs => (after? "<img/>" cs).map (.img, ·)
  | .data, cs => Form.readData? cs
  | .slot, cs => Form.readSlot? cs

def Form.read? (cs : List Char) : Option (Form × List Char) :=
  Kind.all.findSome? (·.read? cs)

def Kind.recogniser (k : Kind) : Recogniser Form := fun _ cs => k.read? cs

def leftovers (k : Kind) (text : String) : List (Found Form) := k.recogniser.all text.toList

def leftoverCount (k : Kind) (text : String) : Nat := (leftovers k text).length

def hasLeftover (text : String) : Bool := Kind.all.any fun k => k.recogniser.occurs text.toList

end SiteTemplate.Placeholder
