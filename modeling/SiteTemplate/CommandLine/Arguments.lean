import SiteTemplate.Text.Characters
import SiteTemplate.Text.Strings

/-!
# Arguments of the command line

Every word is an operand, the mark after which all words are operands, or an option. An option may
be shortened to any start that no other option has; its value may be attached, to the long form by
an equals sign and to the short form directly as well.

The words are taken one after the other. A request for help and an option that is used wrongly end
the reading where they stand; a word too many, and a missing template, are noticed at the end.
-/

namespace SiteTemplate.CommandLine

open Text

inductive Flag where
  | help
  | data
  | output
  | theme
  | brand
  | noModel
  | quiet
deriving DecidableEq, Repr

namespace Flag

def all : List Flag := [.help, .data, .output, .theme, .brand, .noModel, .quiet]

def long : Flag → String
  | .help => "--help"
  | .data => "--data"
  | .output => "--output"
  | .theme => "--theme"
  | .brand => "--brand"
  | .noModel => "--no-ai"
  | .quiet => "--quiet"

def letter? : Flag → Option Char
  | .help => some 'h'
  | .data => some 'd'
  | .output => some 'o'
  | .quiet => some 'q'
  | _ => none

def takesValue : Flag → Bool
  | .data | .output | .theme | .brand => true
  | _ => false

def ofLetter? (c : Char) : Option Flag := all.find? (·.letter? == some c)

/-- The option with a long or short form, and whether the form is short. -/
def ofForm? (form : List Char) : Option (Flag × Bool) :=
  match form with
  | ['-', c] => (ofLetter? c).map (·, true)
  | _ => (all.find? (·.long.toList == form)).map (·, false)

def startingWith (start : List Char) : List Flag :=
  all.filter fun f => start.isPrefixOf f.long.toList

end Flag

inductive Word where
  | operand (s : String)
  /-- The mark after which all words are operands. -/
  | mark
  | option (f : Flag) (short : Bool) (attached : Option (List Char))
  /-- A word that looks like an option and is none. -/
  | unknown
deriving DecidableEq, Repr

namespace Word

/-- A negative number: a hyphen and digits, with a point before the last of them or none. -/
def isNegativeNumber (cs : List Char) : Bool :=
  match cs with
  | '-' :: body =>
    let body := if body.getLast? == some '\n' then body.dropLast else body
    let whole := body.takeWhile isDecimalDigit
    match body.dropWhile isDecimalDigit with
    | [] => !whole.isEmpty
    | '.' :: places => !places.isEmpty && places.all isDecimalDigit
    | _ => false
  | _ => false

/-- A word that begins with a hyphen and is no form of an option. -/
def ofOther (cs : List Char) : Word :=
  if isNegativeNumber cs || cs.contains ' ' then .operand (.ofList cs) else .unknown

/-- A long form that is shortened; none if several options start with it. -/
def ofShortened? (cs : List Char) : Option Word :=
  let attached := if cs.contains '=' then some ((cs.dropWhile (· != '=')).drop 1) else none
  match Flag.startingWith (cs.takeWhile (· != '=')) with
  | [] => some (ofOther cs)
  | [f] => some (.option f false attached)
  | _ => none

/-- A word; none if it could be several options. -/
def ofText? (s : String) : Option Word :=
  let cs := s.toList
  let form := cs.takeWhile (· != '=')
  match cs with
  | '-' :: second :: rest =>
    match Flag.ofForm? cs with
    | some (f, short) => some (.option f short none)
    | none =>
      match (if cs.contains '=' then Flag.ofForm? form else none) with
      | some (f, short) => some (.option f short (some ((cs.dropWhile (· != '=')).drop 1)))
      | none =>
        if second = '-' then ofShortened? cs
        else match Flag.ofLetter? second with
          | some f => some (.option f true (some rest))
          | none => some (ofOther cs)
  | _ => some (.operand s)

/-- The words of a command line; none if one of them could be several options. -/
def ofTexts? : List String → Option (List Word)
  | [] => some []
  | s :: more =>
    if s = "--" then some (.mark :: more.map .operand)
    else do
      let w ← ofText? s
      let ws ← ofTexts? more
      some (w :: ws)

end Word

end SiteTemplate.CommandLine

namespace SiteTemplate.CommandLine

/-- What the words ask for, as far as they have been read. -/
structure Arguments where
  template : Option String := none
  data : Option String := none
  output : Option String := none
  theme : Option String := none
  brand : Option String := none
  noModel : Bool := false
  quiet : Bool := false
  /-- Whether there is a word too many. -/
  excess : Bool := false
deriving DecidableEq, Repr

inductive Stop where
  | help
  | usage
deriving DecidableEq, Repr

namespace Arguments

/-- Notes an option with its value; a switch has none. -/
def note (a : Arguments) (f : Flag) (value : String) : Arguments :=
  match f with
  | .data => { a with data := some value }
  | .output => { a with output := some value }
  | .theme => { a with theme := some value }
  | .brand => { a with brand := some value }
  | .noModel => { a with noModel := true }
  | .quiet => { a with quiet := true }
  | .help => a

/-- The switches that one word holds, and the option with a value that may end them. -/
structure Bundle where
  switches : List Flag := []
  valued : Option (Flag × Option String) := none

/-- The bundle of a word: short switches can be joined, and the option that ends them can have its
value attached. A switch takes no value. -/
def bundle? (f : Flag) (short : Bool) : Option (List Char) → Option Bundle
  | none => some (if f.takesValue then ⟨[], some (f, none)⟩ else ⟨[f], none⟩)
  | some attached =>
    if f.takesValue then some ⟨[], some (f, some (.ofList attached))⟩
    else if short then joined f attached
    else none
where
  /-- The bundle of a short switch and the letters attached to it. -/
  joined (f : Flag) : List Char → Option Bundle
    | [] => none
    | c :: cs => do
      let next ← Flag.ofLetter? c
      let rest ←
        if next.takesValue then
          some ⟨[], some (next, if cs.isEmpty then none else some (.ofList cs))⟩
        else if cs.isEmpty then some ⟨[next], none⟩
        else joined next cs
      some { rest with switches := f :: rest.switches }

def operand (a : Arguments) (s : String) : Arguments :=
  if a.template.isNone then { a with template := some s } else { a with excess := true }

/-- Takes the words that come after those already taken. A mark stands well before the template
or right after it. -/
def take (a : Arguments) : List Word → Except Stop Arguments
  | [] => if a.excess || a.template.isNone then .error .usage else .ok a
  | .operand s :: .mark :: more =>
    take (if a.template.isNone then a.operand s else { a with excess := true }) more
  | .operand s :: more => take (a.operand s) more
  | .mark :: more => take (if a.template.isNone then a else { a with excess := true }) more
  | .unknown :: more => take { a with excess := true } more
  | .option f short attached :: more =>
    match bundle? f short attached with
    | none => .error .usage
    | some b =>
      match b.valued, more with
      | none, more => switched a b.switches more
      | some (f, some value), more => switched (a.note f value) b.switches more
      | some (f, none), .operand value :: more => switched (a.note f value) b.switches more
      | some (_, none), _ => .error .usage
where
  /-- Applies the switches of a word and goes on, unless help is asked for. -/
  switched (a : Arguments) (switches : List Flag) (more : List Word) : Except Stop Arguments :=
    if switches.contains .help then .error .help
    else take (switches.foldl (fun a f => a.note f "") a) more

def ofTexts (argv : List String) : Except Stop Arguments :=
  match Word.ofTexts? argv with
  | none => .error .usage
  | some words => take {} words

end Arguments

end SiteTemplate.CommandLine
