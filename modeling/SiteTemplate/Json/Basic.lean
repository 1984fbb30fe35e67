import SiteTemplate.Entries
import SiteTemplate.Number.Binary64
import SiteTemplate.Text.Characters
import SiteTemplate.Text.Strings

/-!
# JSON values

Whole numbers and double-precision numbers are told apart, and the members of an object keep the
order in which they were written. Numbers and truth values are compared by their exact values.

A dotted path leads into a value. A segment names a member of an object or, as a run of digits, an
item of a list; blanks around it do not count. A segment of digit forms that are no decimal digits,
or of too many of them, cannot be read as an index, which is an error once a list has been
reached.
-/

namespace SiteTemplate

inductive Json where
  | null
  | bool (b : Bool)
  | int (n : Int)
  | float (x : Binary64)
  | str (s : String)
  | arr (items : List Json)
  | obj (members : List (String × Json))

abbrev Members := Entries String Json

namespace Json

instance : Inhabited Json := ⟨.null⟩

instance : Coe String Json := ⟨.str⟩

/-- Everything but null, false, zero and the empty text, list and object. -/
def isTruthy : Json → Bool
  | .null => false
  | .bool b => b
  | .int n => n != 0
  | .float x => x.isNaN || !(x.isFinite && x.significand == 0)
  | .str s => s != ""
  | .arr items => !items.isEmpty
  | .obj members => !members.isEmpty

def isNull : Json → Bool
  | .null => true
  | _ => false

def isNumber : Json → Bool
  | .int _ | .float _ => true
  | _ => false

/-- The members of an object, and none of any other value. -/
def members? : Json → Option Members
  | .obj members => some members
  | _ => none

def text? : Json → Option String
  | .str s => some s
  | _ => none

def member? (key : String) : Json → Option Json
  | .obj members => Entries.get? members key
  | _ => none

def ofText? : Option String → Json
  | some s => .str s
  | none => .null

def ofTexts (ss : List String) : Json := .arr (ss.map .str)

def ofTextEntries (es : Entries String String) : Json := .obj (Entries.mapValues .str es)

mutual

def depth : Json → Nat
  | .arr items => depthOfItems items + 1
  | .obj members => depthOfMembers members + 1
  | _ => 1

def depthOfItems : List Json → Nat
  | [] => 0
  | v :: vs => max (depth v) (depthOfItems vs)

def depthOfMembers : List (String × Json) → Nat
  | [] => 0
  | (_, v) :: ms => max (depth v) (depthOfMembers ms)

end

mutual

/-- Whether something holds of a value and of all values inside it. -/
def all (p : Json → Bool) : Json → Bool
  | .arr items => p (.arr items) && allOfItems p items
  | .obj members => p (.obj members) && allOfMembers p members
  | v => p v

def allOfItems (p : Json → Bool) : List Json → Bool
  | [] => true
  | v :: vs => all p v && allOfItems p vs

def allOfMembers (p : Json → Bool) : List (String × Json) → Bool
  | [] => true
  | (_, v) :: ms => all p v && allOfMembers p ms

end

mutual

/-- What a written record holds for a free value: null stands for a number that is not finite. -/
def encoded : Json → Json
  | .float x => if x.isFinite then .float x else .null
  | .arr items => .arr (encodedItems items)
  | .obj members => .obj (encodedMembers members)
  | v => v

def encodedItems : List Json → List Json
  | [] => []
  | v :: vs => encoded v :: encodedItems vs

def encodedMembers : List (String × Json) → List (String × Json)
  | [] => []
  | (key, v) :: ms => (key, encoded v) :: encodedMembers ms

end

/-- The name under which messages refer to the kind of a value. -/
def kindName : Json → String
  | .null => "NoneType"
  | .bool _ => "bool"
  | .int _ => "int"
  | .float _ => "float"
  | .str _ => "str"
  | .arr _ => "list"
  | .obj _ => "dict"

end Json

/-- What a number counts for in a comparison. -/
inductive Quantity where
  | finite (r : Rat)
  | infinite (negative : Bool)
  | nan
deriving DecidableEq

namespace Quantity

/-- The order of quantities. -/
def lt : Quantity → Quantity → Bool
  | .finite a, .finite b => a < b
  | .finite _, .infinite negative => !negative
  | .infinite negative, .finite _ => negative
  | .infinite a, .infinite b => a && !b
  | _, _ => false

def ofBinary64 (x : Binary64) : Quantity :=
  if x.isNaN then .nan
  else if x.isFinite then .finite x.toRat
  else .infinite x.isNegative

def ofNat (n : Nat) : Quantity := .finite n

end Quantity

def Json.quantity? : Json → Option Quantity
  | .int n => some (.finite n)
  | .float x => some (.ofBinary64 x)
  | .bool b => some (.finite (if b then 1 else 0))
  | _ => none

end SiteTemplate

namespace SiteTemplate.Json

open Text

def digitCount (segment : String) : Nat := (segment.toList.takeWhile isDecimalDigit).length

/-- A segment that looks like an index and cannot be read as one. -/
structure BadIndex where
  segment : String
deriving DecidableEq

def BadIndex.message (e : BadIndex) : String :=
  let count := digitCount e.segment
  if count ≤ mostDigits then "invalid literal for int() with base 10: " ++ quotedString e.segment
  else overlongMessage count

/-- The segments of a path without the blanks around them. -/
def pathSegments (path : String) : List String :=
  (path.toList.splitOnP (· == '.')).map fun s => .ofList (trim s)

/-- The index that a segment of digit forms writes. -/
def index? (segment : String) : Except BadIndex Nat :=
  if digitCount segment ≤ mostDigits then
    match digitsValue? segment.toList with
    | some n => .ok n
    | none => .error ⟨segment⟩
  else .error ⟨segment⟩

/-- The value that one segment leads to. -/
def stepInto? (v : Json) (segment : String) : Except BadIndex (Option Json) :=
  if segment = "" then .ok none
  else
    match v with
    | .obj members => .ok (Entries.get? members segment)
    | .arr items =>
      if segment.toList.all isDigitForm then (index? segment).map (items[·]?) else .ok none
    | _ => .ok none

/-- The value at the end of a list of segments. -/
def follow (v : Json) : List String → Except BadIndex (Option Json)
  | [] => .ok (some v)
  | segment :: rest =>
    match stepInto? v segment with
    | .error e => .error e
    | .ok none => .ok none
    | .ok (some w) => follow w rest

def at? (v : Json) (path : String) : Except BadIndex (Option Json) := v.follow (pathSegments path)

def valueAt (v : Json) (path : String) (default : Json) : Except BadIndex Json :=
  (v.at? path).map (·.getD default)

/-- The value at a path unless it is null. -/
def present? (v : Json) (path : String) : Except BadIndex (Option Json) :=
  (v.at? path).map (·.filter (!·.isNull))

@[simp] theorem follow_nil (v : Json) : v.follow [] = .ok (some v) := rfl

end SiteTemplate.Json
