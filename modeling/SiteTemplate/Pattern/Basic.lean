import SiteTemplate.Text.Characters
import SiteTemplate.Text.Strings

/-!
# Patterns

A pattern describes texts by single characters, places, sequences, alternatives and repetitions.
What it matches from a spot of a text is given by the spots at which it can end; a text has the
pattern if it can be matched from some spot of it.
-/

namespace SiteTemplate

open Text

/-- What a set of characters lists. -/
inductive CharItem where
  | char (c : Char)
  | range (low high : Char)
  | digit
  | notDigit
  | space
  | notSpace
  | word
  | notWord
deriving DecidableEq, Repr

namespace CharItem

/-- Whether a character is listed; without regard to case, a letter stands for all that differ
from it in case only. -/
def has (ignoreCase : Bool) (x : Char) : CharItem → Bool
  | .char c => if ignoreCase then sameIgnoringCase c x else c == x
  | .range low high =>
    (low ≤ x && x ≤ high) ||
      (ignoreCase && (List.range (high.toNat + 1 - low.toNat)).any fun i =>
        sameIgnoringCase (.ofNat (low.toNat + i)) x)
  | .digit => isDecimalDigit x
  | .notDigit => !isDecimalDigit x
  | .space => isBlank x
  | .notSpace => !isBlank x
  | .word => isWordChar x
  | .notWord => !isWordChar x

end CharItem

/-- A set of characters: those that are listed, or all others. -/
structure CharSet where
  negated : Bool := false
  listed : List CharItem
deriving DecidableEq, Repr

namespace CharSet

def has (ignoreCase : Bool) (s : CharSet) (x : Char) : Bool :=
  s.listed.any (·.has ignoreCase x) != s.negated

def single (c : Char) : CharSet := { listed := [.char c] }

def onOneLine : CharSet := { negated := true, listed := [.char '\n'] }

end CharSet

/-- A place that a pattern can ask for. -/
inductive Anchor where
  /-- The start of the text. -/
  | start
  /-- The end of the text, or the place before the line end that closes it. -/
  | final
  /-- The end of the text. -/
  | last
  /-- A word boundary. -/
  | boundary
  /-- A place that is no word boundary. -/
  | inside
deriving DecidableEq, Repr

inductive Pattern where
  | empty
  | one (s : CharSet)
  | at (a : Anchor)
  | seq (p q : Pattern)
  | alt (p q : Pattern)
  /-- At least `least` and, if there is a bound, at most `most` times. -/
  | times (p : Pattern) (least : Nat) (most : Option Nat)
deriving DecidableEq, Repr

/-- A spot of a text: the character before it and the text after it. -/
structure Spot where
  before : Option Char
  after : List Char
deriving DecidableEq, Repr

def Anchor.holds (s : Spot) : Anchor → Bool
  | .start => s.before.isNone
  | .final => atTextEnd s.after
  | .last => s.after.isEmpty
  | .boundary => atWordBoundary s.before s.after
  | .inside => (s.before.isSome || !s.after.isEmpty) && !atWordBoundary s.before s.after

namespace Pattern

/-- The spots after exactly `n` steps. -/
def exactly (step : Spot → List Spot) : Nat → List Spot → List Spot
  | 0, spots => spots
  | n + 1, spots => if spots.isEmpty then [] else exactly step n (spots.flatMap step).eraseDups

/-- The spots after at most `n` steps. -/
def upTo (step : Spot → List Spot) : Nat → List Spot → List Spot
  | 0, spots => spots
  | n + 1, spots =>
    if spots.isEmpty then []
    else (spots ++ upTo step n (spots.flatMap step).eraseDups).eraseDups

/-- The spots at which a match from a spot can end. Past the least number of repetitions only
those that take up characters lead further. -/
def ends (ignoreCase : Bool) : Pattern → Spot → List Spot
  | .empty, s => [s]
  | .one set, s =>
    match s.after with
    | [] => []
    | c :: rest => if set.has ignoreCase c then [⟨some c, rest⟩] else []
  | .at a, s => if a.holds s then [s] else []
  | .seq p q, s => ((p.ends ignoreCase s).flatMap (q.ends ignoreCase)).eraseDups
  | .alt p q, s => (p.ends ignoreCase s ++ q.ends ignoreCase s).eraseDups
  | .times p least most, s =>
    let more := match most with
      | some n => min (n - least) s.after.length
      | none => s.after.length
    upTo (p.ends ignoreCase) more (exactly (p.ends ignoreCase) least [s])

def occursFrom (ignoreCase : Bool) (p : Pattern) (before : Option Char) (cs : List Char) : Bool :=
  !(p.ends ignoreCase ⟨before, cs⟩).isEmpty ||
    match cs with
    | [] => false
    | c :: rest => occursFrom ignoreCase p (some c) rest

def occursIn (ignoreCase : Bool) (p : Pattern) (text : String) : Bool :=
  p.occursFrom ignoreCase none text.toList

end Pattern

end SiteTemplate
