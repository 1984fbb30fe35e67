import SiteTemplate.Placeholder.Form
import SiteTemplate.Placeholder.Markup
import SiteTemplate.Record
import SiteTemplate.Text.Strings

/-!
# Placeholders in a text

A text is cut into literals and placeholders. A placeholder knows where it stands, the line, and the
markup around it.
-/

namespace SiteTemplate

open Text

/-- A placeholder of a text. -/
structure Placeholder where
  kind : Placeholder.Kind
  key : Option String := none
  position : Nat := 0
  line : Nat := 1
  raw : String := ""
  context : Context := {}
deriving DecidableEq

namespace Placeholder

/-- A piece of a text: a run of literal characters, or a form as it was written. -/
inductive Piece where
  | literal (cs : List Char)
  | form (f : Form) (raw : List Char)
deriving DecidableEq, Repr

def Piece.chars : Piece → List Char
  | .literal cs => cs
  | .form _ raw => raw

def pushChar (c : Char) : List Piece → List Piece
  | .literal cs :: ps => .literal (c :: cs) :: ps
  | ps => .literal [c] :: ps

/-- Cuts a text into pieces. -/
def pieces (cs : List Char) : List Piece :=
  match cs with
  | [] => []
  | c :: rest =>
    match Form.read? (c :: rest) with
    | some (f, left) =>
      if left.length < (c :: rest).length then
        .form f ((c :: rest).take ((c :: rest).length - left.length)) :: pieces left
      else pushChar c (pieces rest)
    | none => pushChar c (pieces rest)
termination_by cs.length
decreasing_by all_goals (simp only [List.length_cons] at *; omega)

inductive Segment where
  | literal (text : String)
  | marker (p : Placeholder)
deriving DecidableEq

def Segment.text : Segment → String
  | .literal text => text
  | .marker p => p.raw

def Segment.marker? : Segment → Option Placeholder
  | .literal _ => none
  | .marker p => some p

structure Cursor where
  position : Nat := 0
  line : Nat := 1
  markup : Markup.State := {}

/-- The cursor after a piece; only literals count as markup. -/
def Cursor.advance (c : Cursor) (p : Piece) : Cursor :=
  { position := c.position + p.chars.length
    line := c.line + newlines p.chars
    markup := match p with
      | .literal cs => c.markup.feed cs
      | .form _ _ => c.markup }

def Cursor.segment (c : Cursor) (file : String) : Piece → Segment
  | .literal cs => .literal (.ofList cs)
  | .form f raw => .marker
    { kind := f.kind, key := f.key?, position := c.position, line := c.line
      raw := .ofList raw, context := c.markup.context file }

def annotate (file : String) (c : Cursor) : List Piece → List Segment
  | [] => []
  | p :: ps => c.segment file p :: annotate file (c.advance p) ps

def segments (text : String) (file : String) : List Segment :=
  annotate file {} (pieces text.toList)

def inText (text : String) (file : String) : List Placeholder :=
  (segments text file).filterMap (·.marker?)

@[simp] theorem annotate_nil (file : String) (c : Cursor) : annotate file c [] = [] := rfl

@[simp] theorem annotate_cons (file : String) (c : Cursor) (p : Piece) (ps : List Piece) :
    annotate file c (p :: ps) = c.segment file p :: annotate file (c.advance p) ps := rfl

end Placeholder

end SiteTemplate

namespace SiteTemplate

open Record

namespace Context

def read : Json → Reading Context := Record.read fun o =>
  pure mk
    <*> optional o (.single "file") "" Read.text
    <*> optional o ⟨"tag_name", "tagName"⟩ none (Read.nullable Read.text)
    <*> optional o ⟨"class_hint", "classHint"⟩ none (Read.nullable Read.text)
    <*> optional o (.single "snippet") "" Read.text

def toJson (s : Spelling) (c : Context) : Json :=
  Record.write s
    [(.single "file", .str c.file), (⟨"tag_name", "tagName"⟩, .ofText? c.tagName),
      (⟨"class_hint", "classHint"⟩, .ofText? c.classHint), (.single "snippet", .str c.snippet)]

end Context

namespace Placeholder

def read : Json → Reading Placeholder := Record.read fun o =>
  pure mk
    <*> required o (.single "type") (Read.choice Kind.all (·.name))
    <*> optional o (.single "key") none (Read.nullable Read.text)
    <*> optional o (.single "position") 0 Read.nat
    <*> optional o (.single "line") 1 Read.positive
    <*> optional o (.single "raw") "" Read.text
    <*> optional o (.single "context") {} Context.read

def toJson (s : Spelling) (p : Placeholder) : Json :=
  Record.write s
    [(.single "type", .str p.kind.name), (.single "key", .ofText? p.key),
      (.single "position", .int p.position), (.single "line", .int p.line),
      (.single "raw", .str p.raw), (.single "context", p.context.toJson s)]

end Placeholder

end SiteTemplate
