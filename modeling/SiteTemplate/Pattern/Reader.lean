import SiteTemplate.Pattern.Basic

/-!
# Reading patterns

A pattern is written with `.`, `^`, `$`, the repetitions `*`, `+`, `?` and `{m,n}`, sets in
brackets, groups in parentheses, alternatives parted by bars, and escapes. At its very start `(?i)`
asks for comparison without regard to case. A flaw is reported with its place.

Other constructs are not read: lookaround, named, conditional and atomic groups, flags other than
`i` and flags of a group, references to groups, possessive repetitions, and characters written by
their number. So `Pattern.engine` is one engine among others, and nothing that is proved of fields
and slots depends on which engine searches for their patterns.
-/

namespace SiteTemplate

open Text

inductive PatternFlaw where
  | openGroup
  | strayParenthesis
  | openSet
  | nothingToRepeat
  | multipleRepeat
  | leastAboveMost
  | hugeRepetition
  | badRange (low high : String)
  | badEscape (escape : String)
  | endsInEscape
  | lateFlags
  | unknownExtension (mark : String)
  | endsInGroup
  | noSuchGroup (digits : String)
deriving DecidableEq, Repr

def PatternFlaw.wording : PatternFlaw → String
  | .openGroup => "missing ), unterminated subpattern"
  | .strayParenthesis => "unbalanced parenthesis"
  | .openSet => "unterminated character set"
  | .nothingToRepeat => "nothing to repeat"
  | .multipleRepeat => "multiple repeat"
  | .leastAboveMost => "min repeat greater than max repeat"
  | .hugeRepetition => "the repetition number is too large"
  | .badRange low high => "bad character range " ++ low ++ "-" ++ high
  | .badEscape escape => "bad escape " ++ escape
  | .endsInEscape => "bad escape (end of pattern)"
  | .lateFlags => "global flags not at the start of the expression"
  | .unknownExtension mark => "unknown extension ?" ++ mark
  | .endsInGroup => "unexpected end of pattern"
  | .noSuchGroup digits => "invalid group reference " ++ digits

/-- A flaw, with the number of characters from its place to the end of the pattern. -/
structure PatternError where
  flaw : PatternFlaw
  left : Nat
deriving DecidableEq, Repr

/-- The message of an error in a pattern; for a pattern of several lines it tells the line and the
column as well. -/
def PatternError.message (e : PatternError) (pattern : String) : String :=
  let cs := pattern.toList
  let position := cs.length - e.left
  let passed := cs.take position
  let base := e.flaw.wording ++ " at position " ++ toString position
  if cs.contains '\n' then
    let column := (passed.reverse.takeWhile (· != '\n')).length + 1
    base ++ " (line " ++ toString (newlines passed + 1) ++ ", column " ++ toString column ++ ")"
  else base

namespace Pattern

private def stop {α : Type} (flaw : PatternFlaw) (left : Nat) : Except PatternError α :=
  .error ⟨flaw, left⟩

def escapedChar? : Char → Option Char
  | 'a' => some '\x07'
  | 'f' => some '\x0c'
  | 'n' => some '\n'
  | 'r' => some '\r'
  | 't' => some '\t'
  | 'v' => some '\x0b'
  | '\\' => some '\\'
  | _ => none

def escapedClass? : Char → Option CharItem
  | 'd' => some .digit
  | 'D' => some .notDigit
  | 's' => some .space
  | 'S' => some .notSpace
  | 'w' => some .word
  | 'W' => some .notWord
  | _ => none

def escapedAnchor? : Char → Option Anchor
  | 'A' => some .start
  | 'Z' => some .last
  | 'b' => some .boundary
  | 'B' => some .inside
  | _ => none

def badEscape {α : Type} (c : Char) (left : Nat) : Except PatternError α :=
  stop (.badEscape (.ofList ['\\', c])) left

/-- Reads one member of a set. -/
def readMember (cs : List Char) : Except PatternError (CharItem × List Char) :=
  match cs with
  | [] => stop .openSet 0
  | ['\\'] => stop .endsInEscape 1
  | '\\' :: c :: rest =>
    match (if c = 'b' then some '\x08' else escapedChar? c), escapedClass? c with
    | some x, _ => .ok (.char x, rest)
    | none, some k => .ok (k, rest)
    | none, none =>
      if isAsciiLetter c || isAsciiDigit c then badEscape c cs.length else .ok (.char c, rest)
  | c :: rest => .ok (.char c, rest)

/-- The text between two places of which the second is reached later. -/
def between (cs rest : List Char) : String := .ofList (cs.take (cs.length - rest.length))

/-- Reads the members of a set up to its closing bracket, which cannot come first. -/
def readMembers (opened : Nat) :
    Nat → List CharItem → List Char → Except PatternError (List CharItem × List Char)
  | 0, _, _ => stop .openSet opened
  | fuel + 1, read, cs =>
    match cs with
    | [] => stop .openSet opened
    | ']' :: rest =>
      if read.isEmpty then readRange opened fuel read cs else .ok (read.reverse, rest)
    | _ => readRange opened fuel read cs
where
  /-- Reads a member or a range, and the members after it. -/
  readRange (opened fuel : Nat) (read : List CharItem) (cs : List Char) :
      Except PatternError (List CharItem × List Char) := do
    let (low, rest) ← readMember cs
    match rest with
    | ['-'] => stop .openSet opened
    | '-' :: ']' :: rest => pure ((CharItem.char '-' :: low :: read).reverse, rest)
    | '-' :: after =>
      let (high, rest) ← readMember after
      match low, high with
      | .char a, .char b =>
        if b < a then
          stop (.badRange (between cs ('-' :: after)) (between after rest)) cs.length
        else readMembers opened fuel (.range a b :: read) rest
      | _, _ => stop (.badRange (between cs ('-' :: after)) (between after rest)) cs.length
    | rest => readMembers opened fuel (low :: read) rest

def readSet (cs : List Char) : Except PatternError (CharSet × List Char) := do
  let opened := cs.length + 1
  let (negated, members) := match cs with
    | '^' :: rest => (true, rest)
    | _ => (false, cs)
  let (listed, rest) ← readMembers opened (members.length + 1) [] members
  pure (⟨negated, listed⟩, rest)

/-- Whether a part of a pattern may be repeated. -/
inductive Standing where
  | plain
  | anchored
  | repeated
deriving DecidableEq

structure Part where
  pattern : Pattern
  standing : Standing := .plain

/-- Reads an escape after its backslash. -/
def readEscape (cs : List Char) : Except PatternError (Part × List Char) :=
  match cs with
  | [] => stop .endsInEscape 1
  | c :: rest =>
    match escapedAnchor? c, escapedClass? c, escapedChar? c with
    | some a, _, _ => .ok (⟨.at a, .anchored⟩, rest)
    | _, some k, _ => .ok (⟨.one { listed := [k] }, .plain⟩, rest)
    | _, _, some x => .ok (⟨.one (.single x), .plain⟩, rest)
    | none, none, none =>
      if isAsciiLetter c then badEscape c (cs.length + 1)
      else if c = '0' then .ok (⟨.one (.single '\x00'), .plain⟩, rest)
      else if isAsciiDigit c then stop (.noSuchGroup (.ofList [c])) cs.length
      else .ok (⟨.one (.single c), .plain⟩, rest)

structure Bounds where
  least : Nat
  most : Option Nat

def Bounds.limit : Nat := 4294967295

def Bounds.isHuge (b : Bounds) : Bool := limit ≤ b.least || b.most.any (limit ≤ ·)

private def number? (ds : List Char) : Option Nat :=
  if ds.isEmpty then none else digitsValue? ds

/-- Reads the bounds of a repetition in braces, after the opening brace; `none` if the text has
not the form of bounds, in which case the brace stands for itself. -/
def readBounds (cs : List Char) : Option (Bounds × List Char) :=
  let low := cs.takeWhile isAsciiDigit
  let (high, rest) := match cs.dropWhile isAsciiDigit with
    | ',' :: more => (more.takeWhile isAsciiDigit, more.dropWhile isAsciiDigit)
    | more => (low, more)
  match cs, rest with
  | '\x7d' :: _, _ => none
  | _, '\x7d' :: rest => some (⟨(number? low).getD 0, number? high⟩, rest)
  | _, _ => none

def readRepeat (cs : List Char) : Option (Bounds × List Char) :=
  match cs with
  | '*' :: rest => some (⟨0, none⟩, rest)
  | '+' :: rest => some (⟨1, none⟩, rest)
  | '?' :: rest => some (⟨0, some 1⟩, rest)
  | '\x7b' :: rest => readBounds rest
  | _ => none

/-- A mark of haste after a repetition changes nothing about what can be matched. -/
def dropHaste : List Char → List Char
  | '?' :: rest => rest
  | cs => cs

/-- Repeats the last part of a sequence. -/
def repeatLast (opened : Nat) (inner : Nat) (b : Bounds) (parts : List Part) :
    Except PatternError (List Part) :=
  if b.isHuge then stop .hugeRepetition inner
  else if b.most.any (· < b.least) then stop .leastAboveMost inner
  else
    match parts with
    | [] => stop .nothingToRepeat opened
    | p :: more =>
      match p.standing with
      | .anchored => stop .nothingToRepeat opened
      | .repeated => stop .multipleRepeat opened
      | .plain => .ok (⟨.times p.pattern b.least b.most, .repeated⟩ :: more)

/-- The sequence of parts that were read, the last one first. -/
def sequence (parts : List Part) : Pattern := parts.foldl (fun acc p => .seq p.pattern acc) .empty

mutual

/-- Reads alternatives up to the end of their group. -/
def readAlternatives : Nat → List Char → Except PatternError (Pattern × List Char)
  | 0, cs => .ok (.empty, cs)
  | fuel + 1, cs => do
    let (first, rest) ← readSequence fuel [] cs
    match rest with
    | '|' :: rest => do
      let (more, rest) ← readAlternatives fuel rest
      pure (.alt first more, rest)
    | rest => pure (first, rest)

/-- Reads the parts of a sequence, the ones that were read before being given last first. -/
def readSequence : Nat → List Part → List Char → Except PatternError (Pattern × List Char)
  | 0, parts, cs => .ok (sequence parts, cs)
  | fuel + 1, parts, cs =>
    match cs with
    | [] | '|' :: _ | ')' :: _ => .ok (sequence parts, cs)
    | c :: rest =>
      match readRepeat cs with
      | some (b, after) => do
        let parts ← repeatLast cs.length rest.length b parts
        readSequence fuel parts (dropHaste after)
      | none => do
        let (part, rest) ← readPart fuel c rest
        readSequence fuel (part :: parts) rest

/-- Reads a part that starts with a given character. -/
def readPart : Nat → Char → List Char → Except PatternError (Part × List Char)
  | 0, _, cs => stop .openGroup cs.length
  | fuel + 1, c, cs =>
    match c with
    | '.' => .ok (⟨.one .onOneLine, .plain⟩, cs)
    | '^' => .ok (⟨.at .start, .anchored⟩, cs)
    | '$' => .ok (⟨.at .final, .anchored⟩, cs)
    | '\\' => readEscape cs
    | '[' => do
      let (set, rest) ← readSet cs
      pure (⟨.one set, .plain⟩, rest)
    | '(' =>
      match cs with
      | '?' :: ':' :: inner => readGroup fuel (cs.length + 1) inner
      | ['?'] => stop .endsInGroup 0
      | '?' :: 'i' :: _ => stop .lateFlags (cs.length + 1)
      | '?' :: '\\' :: c :: _ => stop (.unknownExtension (.ofList ['\\', c])) cs.length
      | '?' :: mark :: _ => stop (.unknownExtension (.ofList [mark])) cs.length
      | _ => readGroup fuel (cs.length + 1) cs
    | c => .ok (⟨.one (.single c), .plain⟩, cs)

def readGroup : Nat → Nat → List Char → Except PatternError (Part × List Char)
  | 0, opened, _ => stop .openGroup opened
  | fuel + 1, opened, cs => do
    let (p, rest) ← readAlternatives fuel cs
    match rest with
    | ')' :: rest => pure (⟨p, .plain⟩, rest)
    | _ => stop .openGroup opened

end

/-- The text after the marks that ask for comparison without regard to case, and whether there are
any. -/
def dropFlags : List Char → Bool × List Char
  | '(' :: '?' :: 'i' :: ')' :: rest => (true, (dropFlags rest).2)
  | cs => (false, cs)

def parse (pattern : String) : Except PatternError (Bool × Pattern) := do
  let (ignoreCase, cs) := dropFlags pattern.toList
  let (p, rest) ← readAlternatives (4 * cs.length + 4) cs
  if rest.isEmpty then pure (ignoreCase, p) else stop .strayParenthesis rest.length

end Pattern

/-- What comes of the search for a pattern in a text. -/
inductive SearchOutcome where
  | found
  | missing
  /-- The pattern is not well formed. -/
  | malformed (message : String)
  /-- The search ends with another error. -/
  | failed (message : String)
deriving DecidableEq, Repr

/-- What searches for the pattern that is written in its first argument. -/
abbrev PatternEngine := String → String → SearchOutcome

/-- The engine for patterns without the constructs that are left out here. -/
def Pattern.engine : PatternEngine := fun pattern text =>
  match parse pattern with
  | .ok (ignoreCase, p) => if p.occursIn ignoreCase text then .found else .missing
  | .error ⟨.hugeRepetition, _⟩ => .failed PatternFlaw.hugeRepetition.wording
  | .error e => .malformed (e.message pattern)

end SiteTemplate
