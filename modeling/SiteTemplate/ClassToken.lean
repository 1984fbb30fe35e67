import SiteTemplate.Text.Characters
import SiteTemplate.Text.Strings

/-!
# Class tokens

A token is a utility with its variants before it, parted by colons outside brackets. Every known
utility belongs to a group of utilities that set the same property, and in a merged list of classes
the last token for a property, under the same variants, is the one that stays.
-/

namespace SiteTemplate.ClassToken

open Text

/-- The place after the last colon outside brackets; `index` characters have been passed at
bracket depth `depth`, and `cut` is the place found so far. -/
def cutFrom (depth index cut : Nat) : List Char → Nat
  | [] => cut
  | c :: cs =>
    if c = '[' then cutFrom (depth + 1) (index + 1) cut cs
    else if c = ']' then cutFrom (depth - 1) (index + 1) cut cs
    else if c = ':' ∧ depth = 0 then cutFrom depth (index + 1) (index + 1) cs
    else cutFrom depth (index + 1) cut cs

/-- The variants of a token with their colons, and its utility. -/
def splitVariants (cs : List Char) : List Char × List Char :=
  let cut := cutFrom 0 0 0 cs
  (cs.take cut, cs.drop cut)

theorem splitVariants_append (cs : List Char) :
    (splitVariants cs).1 ++ (splitVariants cs).2 = cs := by
  simp [splitVariants]

/-- A utility without its mark of importance and its signs. -/
def core (utility : List Char) : List Char :=
  (utility.dropWhile (· == '!')).dropWhile (· == '-')

def isTokenChar (c : Char) : Bool :=
  isAsciiLetter c || isAsciiDigit c || "!:-[]#/._%'(),".toList.contains c

def dropFinalNewline (cs : List Char) : List Char :=
  match cs.reverse with
  | '\n' :: rest => rest.reverse
  | _ => cs

def doubledStems : List String := ["bg", "text", "border", "font", "shadow", "rounded", "ring"]

/-- Whether a token starts with a stem, a hyphen and the same stem as a whole name. -/
def startsDoubled (cs : List Char) : Bool :=
  doubledStems.any fun stem =>
    match after? (stem ++ "-" ++ stem) cs with
    | some rest => rest.head? == some '-' || atTextEnd rest
    | none => false

/-- Whether a separator is doubled or dangles at the end, or a stem is doubled. -/
def hasFlaw (cs : List Char) : Bool :=
  let body := dropFinalNewline cs
  startsDoubled cs || occursIn "--".toList cs || occursIn "::".toList cs
    || body.isEmpty || body.getLast? == some '-' || body.getLast? == some ':'

/-- Whether a text cannot be a class token. -/
def isMalformed (cs : List Char) : Bool :=
  let body := dropFinalNewline cs
  if body.isEmpty || !body.all isTokenChar then true
  else
    let utility := core (splitVariants cs).2
    utility.isEmpty || hasFlaw utility || hasFlaw cs

def colorFamilies : List String :=
  ["slate", "gray", "zinc", "neutral", "stone", "red", "orange", "amber", "yellow",
    "lime", "green", "emerald", "teal", "cyan", "sky", "blue", "indigo", "violet",
    "purple", "fuchsia", "pink", "rose"]

def colorSteps : List String :=
  ["50", "100", "200", "300", "400", "500", "600", "700", "800", "900", "950"]

def plainColors : List String := ["black", "white", "transparent", "current", "inherit"]

def sides : List String := ["t", "r", "b", "l", "x", "y", "s", "e", "tl", "tr", "bl", "br"]

def isHexDigit (c : Char) : Bool :=
  isAsciiDigit c || ('a' ≤ c && c ≤ 'f') || ('A' ≤ c && c ≤ 'F')

/-- A text in brackets, without the brackets. -/
def bracketed? (cs : List Char) : Option (List Char) :=
  match cs with
  | '[' :: rest =>
    match rest.reverse with
    | ']' :: inner => some inner.reverse
    | _ => none
  | _ => none

/-- A colour without opacity: a step of a family, a plain colour, or a hash sign with three to
eight hexadecimal digits in brackets. -/
def isBaseColor (cs : List Char) : Bool :=
  let (family, step) := cs.span (· != '-')
  (colorFamilies.contains (String.ofList family)
      && colorSteps.contains (String.ofList (step.drop 1)) && !step.isEmpty)
    || plainColors.contains (String.ofList cs)
    || (match bracketed? cs with
      | some ('#' :: digits) =>
        3 ≤ digits.length && digits.length ≤ 8 && digits.all isHexDigit
      | _ => false)

def isOpacity : List Char → Bool
  | '/' :: digits => 1 ≤ digits.length && digits.length ≤ 3 && digits.all isDecimalDigit
  | _ => false

def isColor (cs : List Char) : Bool :=
  let (base, opacity) := cs.span (· != '/')
  isBaseColor base && (opacity.isEmpty || isOpacity opacity)

/-- A length in brackets: digits, optionally a point and more digits, and a unit. -/
def isBracketedLength (cs : List Char) : Bool :=
  match bracketed? cs with
  | none => false
  | some inner =>
    let whole := inner.takeWhile isDecimalDigit
    let rest := inner.dropWhile isDecimalDigit
    let unit := match rest with
      | '.' :: more =>
        if (more.takeWhile isDecimalDigit).isEmpty then rest else more.dropWhile isDecimalDigit
      | _ => rest
    !whole.isEmpty && ["px", "rem", "em"].contains (String.ofList unit)

/-- What may follow the stem of a utility. -/
inductive Tail where
  /-- Nothing. -/
  | done
  /-- One of several names. -/
  | oneOf (names : List String)
  /-- One or more characters that are not blank. -/
  | nonBlank
  /-- A colour. -/
  | color
  /-- One or more characters of one line in brackets. -/
  | brackets
  /-- A length in brackets. -/
  | length
  /-- A literal and what follows it. -/
  | after (lit : String) (tail : Tail)
  /-- Either of two tails. -/
  | either (a b : Tail)

/-- Whether a tail accepts a text as a whole. -/
def Tail.accepts : Tail → List Char → Bool
  | .done, cs => cs.isEmpty
  | .oneOf names, cs => names.contains (String.ofList cs)
  | .nonBlank, cs => !cs.isEmpty && cs.all (!isBlank ·)
  | .color, cs => isColor cs
  | .brackets, cs =>
    match bracketed? cs with
    | some inner => !inner.isEmpty && !inner.contains '\n'
    | none => false
  | .length, cs => isBracketedLength cs
  | .after lit tail, cs =>
    match after? lit cs with
    | some rest => tail.accepts rest
    | none => false
  | .either a b, cs => a.accepts cs || b.accepts cs

/-- A rule of the group table. With sides, the side read after the stem is appended to the group. -/
structure GroupRule where
  stem : String
  sides : Option (List String)
  tail : Tail
  group : String

/-- The group that a rule gives a utility. -/
def GroupRule.group? (r : GroupRule) (cs : List Char) : Option String :=
  match after? r.stem cs with
  | none => none
  | some rest =>
    match r.sides with
    | none => if r.tail.accepts rest then some r.group else none
    | some names =>
      names.findSome? fun side =>
        match after? side rest with
        | some rest => if r.tail.accepts rest then some (r.group ++ "-" ++ side) else none
        | none => none

def plainRule (stem : String) (tail : Tail) (group : String) : GroupRule :=
  ⟨stem, none, tail, group⟩

/-- A rule for a scale: anything that is not blank may follow the stem. -/
def scaleRule (stem group : String) : GroupRule := plainRule stem .nonBlank group

def namesRule (stem : String) (names : List String) (group : String) : GroupRule :=
  plainRule stem (.oneOf names) group

/-- The group table; the first rule that accepts a utility counts. -/
def groupRules : List GroupRule :=
  [plainRule "bg-" .color "bg-color",
    plainRule "bg-" (.either
      (.after "gradient-to-" (.oneOf ["t", "tr", "r", "br", "b", "bl", "l", "tl"]))
      (.oneOf ["none"])) "bg-image",
    plainRule "text-" .color "text-color",
    plainRule "text-" (.either
      (.oneOf ["xs", "sm", "base", "lg", "xl", "2xl", "3xl", "4xl", "5xl", "6xl", "7xl", "8xl",
        "9xl"])
      .length) "font-size",
    namesRule "text-" ["left", "center", "right", "justify", "start", "end"] "text-align",
    namesRule "font-" ["thin", "extralight", "light", "normal", "medium", "semibold", "bold",
      "extrabold", "black"] "font-weight",
    plainRule "font-" (.either (.oneOf ["sans", "serif", "mono"]) .brackets) "font-family",
    scaleRule "leading-" "line-height",
    scaleRule "tracking-" "letter-spacing",
    scaleRule "p-" "padding",
    ⟨"p", some sides, .after "-" .nonBlank, "padding"⟩,
    scaleRule "m-" "margin",
    ⟨"m", some sides, .after "-" .nonBlank, "margin"⟩,
    scaleRule "space-x-" "space-x",
    scaleRule "space-y-" "space-y",
    plainRule "rounded" (.either .done (.after "-" (.either
      (.oneOf ["none", "sm", "md", "lg", "xl", "2xl", "3xl", "full"]) .brackets))) "radius",
    ⟨"rounded-", some sides, .either .done (.after "-"
      (.oneOf ["none", "sm", "md", "lg", "xl", "2xl", "3xl", "full"])), "radius"⟩,
    plainRule "shadow" (.either .done (.after "-"
      (.oneOf ["sm", "md", "lg", "xl", "2xl", "inner", "none"]))) "shadow",
    plainRule "shadow-" .color "shadow-color",
    plainRule "border-" .color "border-color",
    plainRule "border" (.either .done (.after "-" (.oneOf ["0", "2", "4", "8"]))) "border-width",
    ⟨"border-", some sides, .either .done (.after "-" (.oneOf ["0", "2", "4", "8"])),
      "border-width"⟩,
    namesRule "" ["block", "inline-block", "inline", "flex", "inline-flex", "grid", "inline-grid",
      "hidden", "contents", "table"] "display",
    namesRule "" ["static", "fixed", "absolute", "relative", "sticky"] "position",
    namesRule "flex-" ["row", "col", "row-reverse", "col-reverse"] "flex-direction",
    namesRule "flex-" ["wrap", "nowrap", "wrap-reverse"] "flex-wrap",
    namesRule "flex-" ["1", "auto", "initial", "none"] "flex",
    namesRule "justify-" ["start", "end", "center", "between", "around", "evenly", "normal",
      "stretch"] "justify-content",
    namesRule "items-" ["start", "end", "center", "baseline", "stretch"] "align-items",
    ⟨"gap-", some ["x", "y"], .after "-" .nonBlank, "gap"⟩,
    scaleRule "gap-" "gap",
    scaleRule "grid-cols-" "grid-cols",
    scaleRule "grid-rows-" "grid-rows",
    scaleRule "w-" "width",
    scaleRule "min-w-" "min-width",
    scaleRule "max-w-" "max-width",
    scaleRule "h-" "height",
    scaleRule "min-h-" "min-height",
    scaleRule "max-h-" "max-height",
    scaleRule "opacity-" "opacity",
    plainRule "transition" (.either .done (.after "-"
      (.oneOf ["all", "colors", "opacity", "shadow", "transform", "none"]))) "transition",
    scaleRule "duration-" "duration",
    scaleRule "ease-" "ease",
    namesRule "overflow-" ["auto", "hidden", "visible", "scroll", "clip"] "overflow",
    scaleRule "z-" "z-index"]

def classify (utility : List Char) : Option String :=
  let cs := core utility
  groupRules.findSome? (·.group? cs)

def standaloneUtilities : List String :=
  ["container", "truncate", "underline", "uppercase", "lowercase", "capitalize",
    "italic", "antialiased", "visible", "invisible", "grow", "shrink", "transform",
    "filter", "outline", "ring", "prose", "peer", "group"]

/-- Whether a utility looks like a class rather than a word: it has a group, is a known single
word, or is a hyphenated name in lower case. -/
def isKnown (utility : List Char) : Bool :=
  let cs := core utility
  (classify cs).isSome || standaloneUtilities.contains (String.ofList cs)
    || (cs.contains '-' && cs == lower cs)

end SiteTemplate.ClassToken

namespace SiteTemplate

open Text

/-- A well-formed class token. -/
structure ClassToken where
  raw : String
  variants : List String
  utility : String
  group : Option String
deriving DecidableEq

namespace ClassToken

/-- The text that stands for the property a token sets. -/
def property (t : ClassToken) : String := t.group.getD ("=" ++ t.utility)

def conflicts (s t : ClassToken) : Bool :=
  s.variants == t.variants && s.property == t.property

def variantNames (variants : List Char) : List String :=
  ((variants.splitOnP (· == ':')).filter (!·.isEmpty)).map .ofList

/-- Reads one token; blanks around it do not count, and a malformed text is none. -/
def parse? (cs : List Char) : Option ClassToken :=
  let raw := trim cs
  if isMalformed raw then none
  else
    let (variants, utility) := splitVariants raw
    some ⟨.ofList raw, variantNames variants, .ofList utility, classify utility⟩

def ofList (cs : List Char) : List ClassToken := (words cs).filterMap parse?

/-- The tokens that no later token overrides, in order. -/
def lastWords : List ClassToken → List ClassToken
  | [] => []
  | t :: ts => if ts.any (conflicts t) then lastWords ts else t :: lastWords ts

def merge (lists : List String) : String :=
  " ".intercalate ((lastWords (lists.flatMap fun s => ofList s.toList)).map (·.raw))

def maxTokens : Nat := 40

/-- Whether a text is a list of at least one and at most `max` well-formed tokens with known
utilities. -/
def isClassList (max : Nat) (s : String) : Bool :=
  let ws := words s.toList
  !ws.isEmpty && ws.length ≤ max && ws.all fun w =>
    match parse? w with
    | some t => isKnown t.utility.toList
    | none => false

@[simp] theorem lastWords_nil : lastWords [] = [] := rfl

theorem lastWords_cons (t : ClassToken) (ts : List ClassToken) :
    lastWords (t :: ts) = if ts.any (conflicts t) then lastWords ts else t :: lastWords ts := rfl

end ClassToken

end SiteTemplate
