import SiteTemplate.Text.Characters
import SiteTemplate.Text.Strings

/-!
# The markup around a place

Reading a text from its start leaves behind the elements that are still open, the tag that has
been begun and not yet closed, and the last characters read. From these the context of a place is
told: the tag in which it stands, or else the innermost open element, together with the classes
written there.
-/

namespace SiteTemplate

open Text

/-- The markup that surrounds a place of a file. -/
structure Context where
  file : String := ""
  tagName : Option String := none
  classHint : Option String := none
  snippet : String := ""
deriving DecidableEq

namespace Markup

def snippetLength : Nat := 160

def voidElements : List String :=
  ["area", "base", "br", "col", "embed", "hr", "img", "input", "link", "meta", "source", "track",
    "wbr"]

def isBracket (c : Char) : Bool := c == '<' || c == '>'

def isNameChar (c : Char) : Bool := isWordChar c || c == '.' || c == '-'

def readName : List Char → Option (String × List Char)
  | [] => none
  | c :: cs =>
    if isAsciiLetter c then
      some (lowered (.ofList (c :: cs.takeWhile isNameChar)), cs.dropWhile isNameChar)
    else none

/-- A tag as it was written, with the text after its name. -/
structure Tag where
  closing : Bool
  name : String
  attributes : List Char
  /-- Whether a slash stands before the bracket that ends the tag. -/
  selfClosing : Bool

namespace Tag

/-- The tag that has a text between its brackets. -/
def ofBody? (body : List Char) : Option Tag :=
  let closing := body.head? == some '/'
  (readName (if closing then body.tail else body)).map fun (name, attributes) =>
    let selfClosing := attributes.getLast? == some '/'
    { closing, name, selfClosing
      attributes := if selfClosing then attributes.dropLast else attributes }

/-- Whether an opening tag opens no element: a slash ends it, or its element has no content. -/
def isEmpty (t : Tag) : Bool :=
  t.selfClosing || (trimEnd t.attributes).getLast? == some '/' || voidElements.contains t.name

/-- Reads a tag. -/
def read? : List Char → Option (Tag × List Char)
  | '<' :: cs =>
    match cs.dropWhile (!isBracket ·) with
    | '>' :: left => (ofBody? (cs.takeWhile (!isBracket ·))).map (·, left)
    | _ => none
  | _ => none

theorem length_lt_of_read? {cs left : List Char} {t : Tag} (h : read? cs = some (t, left)) :
    left.length < cs.length := by
  unfold read? at h
  split at h
  · next cs =>
    split at h
    · next rest hrest =>
      have hsuf := (List.dropWhile_suffix (!isBracket ·) (l := cs)).length_le
      simp only [Option.map_eq_some_iff, Prod.mk.injEq] at h
      obtain ⟨_, _, _, rfl⟩ := h
      rw [hrest] at hsuf
      simp only [List.length_cons] at hsuf ⊢
      omega
    · cases h
  · cases h

/-- The tags of a text from left to right, and what follows the last of them. -/
def scan (cs : List Char) : List Tag × List Char :=
  match cs with
  | [] => ([], [])
  | c :: rest =>
    match _h : read? (c :: rest) with
    | some (t, left) =>
      let (ts, unread) := scan left
      (t :: ts, unread)
    | none =>
      match scan rest with
      | ([], _) => ([], c :: rest)
      | found => found
termination_by cs.length
decreasing_by
  · exact length_lt_of_read? _h
  · simp

end Tag

structure Element where
  name : String
  attributes : List Char
deriving DecidableEq

def closeElement (name : String) (stack : List Element) : List Element :=
  if stack.any (·.name == name) then (stack.dropWhile (·.name != name)).tail else stack

def afterTag (stack : List Element) (t : Tag) : List Element :=
  if t.closing then closeElement t.name stack
  else if t.isEmpty then stack
  else ⟨t.name, t.attributes⟩ :: stack

def lastChars (n : Nat) (cs : List Char) : List Char := cs.drop (cs.length - n)

/-- A text from the last occurrence of a character on; empty if the character does not occur. -/
def fromLast (c : Char) : List Char → List Char
  | [] => []
  | x :: xs =>
    match fromLast c xs with
    | [] => if x = c then x :: xs else []
    | found => found

def lastBracket? : List Char → Option (Char × List Char)
  | [] => none
  | c :: cs => (lastBracket? cs).or (if isBracket c then some (c, cs) else none)

/-- The tag that is begun and not closed after more text. -/
def openTagAfter (openTag : Option (List Char)) (cs : List Char) : Option (List Char) :=
  match lastBracket? cs with
  | some ('<', rest) => some rest
  | some _ => none
  | none => openTag.map (· ++ cs)

/-- What reading has left behind. -/
structure State where
  /-- The open elements, innermost first. -/
  stack : List Element := []
  /-- What has been read from the last `<` on, if no tag has ended since. -/
  pending : List Char := []
  /-- What follows the `<` of a tag that has not been closed. -/
  openTag : Option (List Char) := none
  /-- The last characters read. -/
  tail : List Char := []
deriving DecidableEq

/-- Reads a further piece of text. A tag may be spread over several pieces; what has been read of
it waits in `pending`. -/
def State.feed (s : State) (cs : List Char) : State :=
  if cs.isEmpty then s
  else
    let (ts, unread) := Tag.scan (s.pending ++ cs)
    { stack := ts.foldl afterTag s.stack
      pending := fromLast '<' unread
      openTag := openTagAfter s.openTag cs
      tail := lastChars snippetLength (s.tail ++ cs) }

@[simp] theorem State.feed_nil (s : State) : s.feed [] = s := rfl

/-- The value of a class attribute after its equals sign: quoted, or a template text in braces.
The closing quote may be missing. -/
def readClassValue : List Char → Option (List Char × List Char)
  | '"' :: rest => some (rest.takeWhile (· != '"'), rest.dropWhile (· != '"'))
  | '\'' :: rest => some (rest.takeWhile (· != '\''), rest.dropWhile (· != '\''))
  | '\x7b' :: rest =>
    match trimStart rest with
    | '\x60' :: rest => some (rest.takeWhile (· != '\x60'), rest.dropWhile (· != '\x60'))
    | _ => none
  | _ => none

/-- Reads a class attribute with its value. -/
def classAttribute : Recogniser (List Char) := fun before cs => do
  if before.any isWordChar then none
  let cs ← after? "class" cs
  let cs := trimStart ((after? "Name" cs).getD cs)
  match cs with
  | '=' :: rest => readClassValue (trimStart rest)
  | _ => none

def classHint (tag : List Char) : Option String :=
  (classAttribute.first? none tag).map fun f => .ofList (trim f.value)

/-- The last characters read, with single blanks between the words. -/
def State.snippet (s : State) : String :=
  " ".intercalate ((words s.tail).map .ofList)

/-- The context of the place that has been reached. -/
def State.context (s : State) (file : String) : Context :=
  let enclosing : Context :=
    match s.stack with
    | [] => { file, snippet := s.snippet }
    | e :: _ =>
      { file, tagName := some e.name, snippet := s.snippet
        classHint := if e.attributes.isEmpty then none else classHint e.attributes }
  match s.openTag with
  | none => enclosing
  | some tag =>
    match readName (trimStart tag) with
    | some (name, _) =>
      { file, tagName := some name, classHint := classHint tag, snippet := s.snippet }
    | none => enclosing

def contextAfter (cs : List Char) (file : String) : Context :=
  (({} : State).feed cs).context file

end Markup

end SiteTemplate
