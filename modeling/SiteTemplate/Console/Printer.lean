import SiteTemplate.Text.Characters

/-!
# Printing notices

A notice is a text with markup: a tag in square brackets opens a style, and one that begins with a
slash closes the style that was opened last, or last under its name. A tag with nothing to close is
an error, so a notice that quotes a text of the caller may turn out not to be printable.
-/

namespace SiteTemplate

open Text

structure Printer where
  /-- The text of the error with which the printing of a notice ends, if it cannot be printed. -/
  fault? : String → Option String

namespace Printer

def print (p : Printer) (notice : String) : Except String Unit :=
  match p.fault? notice with
  | none => .ok ()
  | some message => .error message

/-- Prints notices one after the other, up to the first that cannot be printed. -/
def printAll (p : Printer) : List String → Except String Unit
  | [] => .ok ()
  | notice :: notices =>
    match p.fault? notice with
    | none => p.printAll notices
    | some message => .error message

def Prints (p : Printer) (notices : List String) : Prop := ∀ n ∈ notices, p.fault? n = none

theorem printAll_eq_ok_iff {p : Printer} {notices : List String} {u : Unit} :
    p.printAll notices = .ok u ↔ p.Prints notices := by
  induction notices with
  | nil => simp [printAll, Prints]
  | cons n notices ih =>
    rw [Prints, List.forall_mem_cons, printAll]
    cases p.fault? n with
    | none => simpa [Prints] using ih
    | some message => simp

/-- A printer that takes every notice as it is. -/
def plain : Printer where
  fault? _ := none

structure Tag where
  place : Nat
  body : List Char

/-- What stands between the brackets of a tag, given the text after the opening one. -/
def tagBody? (cs : List Char) : Option (List Char) :=
  let body := cs.takeWhile fun c => c != ']' && c != '['
  let begins := body.head?.any fun c => ('a' ≤ c && c ≤ 'z') || ['#', '/', '@'].contains c
  if begins && (cs.drop body.length).head? == some ']' then some body else none

/-- The tags of a notice. An odd number of backslashes before a tag makes it plain text; `skip`
characters have been read, and `escapes` backslashes stand before the text. -/
def tags (skip escapes place : Nat) : List Char → List Tag
  | [] => []
  | c :: cs =>
    match skip, c with
    | skip + 1, _ => tags skip 0 (place + 1) cs
    | 0, '\\' => tags 0 (escapes + 1) (place + 1) cs
    | 0, '[' =>
      match tagBody? cs with
      | none => tags 0 0 (place + 1) cs
      | some body =>
        let more := tags (body.length + 1) 0 (place + 1) cs
        if escapes % 2 = 1 then more else ⟨place, body⟩ :: more
    | 0, _ => tags 0 0 (place + 1) cs

def styleName (cs : List Char) : String := lowered (.ofList (trim (cs.takeWhile (· != '='))))

/-- The error about the first tag that has nothing to close, given the styles that are open, the
last one first. -/
def closingFault? : List String → List Tag → Option String
  | _, [] => none
  | opened, t :: more =>
    match t.body with
    | '/' :: rest =>
      let name := styleName rest
      if name = "" then
        match opened with
        | [] => some s!"closing tag '[/]' at position {t.place} has nothing to close"
        | _ :: opened => closingFault? opened more
      else if opened.contains name then closingFault? (opened.erase name) more
      else some (s!"closing tag '[{String.ofList t.body}]' at position {t.place} "
        ++ "doesn't match any open tag")
    | body => closingFault? (styleName body :: opened) more

/-- The printer that reads the tags of a notice. -/
def markup : Printer where
  fault? notice := closingFault? [] (tags 0 0 0 notice.toList)

end Printer

end SiteTemplate
