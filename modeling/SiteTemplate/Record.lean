import SiteTemplate.Json.Basic
import SiteTemplate.Number.Numeral

/-!
# Reading records

A record is read from a JSON object field by field. Nothing stops at the first fault: the outcome
of a reading is a value or all its faults, those of earlier fields first. Every fault tells the
place where it was found, from the outermost field inwards. A field has two spellings, its plain
name and its name on the wire. Both are read, and the one on the wire counts when both are there.

A text is never made from another value. A whole number is also read from a truth value, from a
number without fraction and from a numeral; a real number from any number, a truth value and a
numeral; and a truth value from zero, one and a few words. A value out of its bounds is a fault.
-/

namespace SiteTemplate

inductive Place where
  | key (name : String)
  | index (n : Nat)
deriving DecidableEq, Repr

inductive FaultKind where
  | missing
  | notText
  | emptyText
  | notInt
  | intText
  | intFraction
  | intInfinite
  | intTooLarge
  | notFloat
  | floatText
  | notBool
  | boolText
  | notChoice
  | notList
  | notEntries
  | notRecord
  | notAbove
  | belowLeast
  | aboveGreatest
  | brokenText
deriving DecidableEq, Repr

def FaultKind.name : FaultKind → String
  | .missing => "missing"
  | .notText => "string_type"
  | .emptyText => "string_too_short"
  | .notInt => "int_type"
  | .intText => "int_parsing"
  | .intFraction => "int_from_float"
  | .intInfinite => "finite_number"
  | .intTooLarge => "int_parsing_size"
  | .notFloat => "float_type"
  | .floatText => "float_parsing"
  | .notBool => "bool_type"
  | .boolText => "bool_parsing"
  | .notChoice => "literal_error"
  | .notList => "list_type"
  | .notEntries => "dict_type"
  | .notRecord => "model_type"
  | .notAbove => "greater_than"
  | .belowLeast => "greater_than_equal"
  | .aboveGreatest => "less_than_equal"
  | .brokenText => "json_invalid"

structure Fault where
  place : List Place
  kind : FaultKind
deriving DecidableEq, Repr

def faultCount (faults : List Fault) (record : String) : String :=
  let n := faults.length
  s!"{n} validation " ++ (if n = 1 then "error" else "errors") ++ s!" for {record}"

/-- The outcome of a reading: a value, or the faults in the order in which they were found. -/
def Reading (α : Type) : Type := Except (List Fault) α

namespace Reading

variable {α β : Type}

def ok (a : α) : Reading α := Except.ok a

def fault (kind : FaultKind) : Reading α := Except.error [⟨[], kind⟩]

def map (f : α → β) : Reading α → Reading β
  | Except.ok a => Except.ok (f a)
  | Except.error es => Except.error es

/-- Applies a function that was read to a value that was read; the faults of both are kept. -/
def seq : Reading (α → β) → Reading α → Reading β
  | Except.ok f, Except.ok a => Except.ok (f a)
  | Except.ok _, Except.error es => Except.error es
  | Except.error es, Except.ok _ => Except.error es
  | Except.error es, Except.error fs => Except.error (es ++ fs)

instance : Functor Reading where
  map := map

instance : Applicative Reading where
  pure := ok
  seq f x := seq f (x ())

/-- Moves the faults of a reading one step inwards. -/
def within (p : Place) : Reading α → Reading α
  | Except.ok a => Except.ok a
  | Except.error es => Except.error (es.map fun e => { e with place := p :: e.place })

/-- Reads on with a value; where it is missing its faults remain. -/
def andThen (r : Reading α) (next : α → Reading β) : Reading β :=
  match r with
  | Except.ok a => next a
  | Except.error es => Except.error es

def toOption : Reading α → Option α
  | Except.ok a => some a
  | Except.error _ => none

def all : List (Reading α) → Reading (List α)
  | [] => ok []
  | r :: rs => seq (map (· :: ·) r) (all rs)

@[simp] theorem map_ok (f : α → β) (a : α) : map f (ok a) = ok (f a) := rfl

@[simp] theorem seq_ok (f : α → β) (a : α) : seq (ok f) (ok a) = ok (f a) := rfl

@[simp] theorem within_ok (p : Place) (a : α) : within p (ok a) = ok a := rfl

@[simp] theorem andThen_ok (a : α) (next : α → Reading β) : andThen (ok a) next = next a := rfl

end Reading

structure Key where
  name : String
  wire : String
deriving DecidableEq, Repr

def Key.single (name : String) : Key := ⟨name, name⟩

/-- Which spelling a written record uses. -/
inductive Spelling where
  | wire
  | plain
deriving DecidableEq, Repr

def Key.spell (k : Key) : Spelling → String
  | .wire => k.wire
  | .plain => k.name

namespace Record

variable {α : Type}

/-- The member that a field finds in an object, with the spelling under which it stands. -/
def find? (o : Members) (k : Key) : Option (String × Json) :=
  match Entries.get? o k.wire with
  | some v => some (k.wire, v)
  | none => (Entries.get? o k.name).map (k.name, ·)

def required (o : Members) (k : Key) (read : Json → Reading α) : Reading α :=
  match find? o k with
  | some (key, v) => (read v).within (.key key)
  | none => (Reading.fault .missing).within (.key k.wire)

def optional (o : Members) (k : Key) (default : α) (read : Json → Reading α) : Reading α :=
  match find? o k with
  | some (key, v) => (read v).within (.key key)
  | none => .ok default

def read (fields : Members → Reading α) : Json → Reading α
  | .obj o => fields o
  | _ => .fault .notRecord

def write (s : Spelling) (fields : List (Key × Json)) : Json :=
  .obj (fields.map fun (k, v) => (k.spell s, v))

end Record

end SiteTemplate

namespace SiteTemplate.Read

variable {α : Type}

def any (v : Json) : Reading Json := .ok v

def text : Json → Reading String
  | .str s => .ok s
  | _ => .fault .notText

def nonEmptyText (v : Json) : Reading String :=
  (text v).andThen fun s => if s = "" then .fault .emptyText else .ok s

def wholeFloat (x : Binary64) : Reading Int :=
  if !x.isFinite then .fault .intInfinite
  else
    match x.toInt? with
    | none => .fault .intFraction
    | some n => if n.natAbs < twoTo 63 then .ok n else .fault .intTooLarge

/-- A whole number that a text writes, unless it has too many digits. -/
def intText (s : String) : Reading Int :=
  match Numeral.int? s with
  | some n => if n.natAbs < tenTo Text.mostDigits then .ok n else .fault .intTooLarge
  | none => .fault .intText

def int : Json → Reading Int
  | .int n => .ok n
  | .bool b => .ok (if b then 1 else 0)
  | .float x => wholeFloat x
  | .str s => intText s
  | _ => .fault .notInt

def intAtLeast (least : Int) (v : Json) : Reading Int :=
  (int v).andThen fun n => if n < least then .fault .belowLeast else .ok n

def nat (v : Json) : Reading Nat := (intAtLeast 0 v).map (·.toNat)

def positive (v : Json) : Reading Nat := (intAtLeast 1 v).map (·.toNat)

def float : Json → Reading Binary64
  | .float x => .ok x
  | .int n =>
    let x := Binary64.ofInt n
    if x.isFinite then .ok x else .fault .notFloat
  | .bool b => .ok (.ofInt (if b then 1 else 0))
  | .str s =>
    match Numeral.float? s with
    | some x => .ok x
    | none => .fault .floatText
  | _ => .fault .notFloat

def floatAbove (bound : Int) (v : Json) : Reading Binary64 :=
  (float v).andThen fun x => if (Binary64.ofInt bound).lt x then .ok x else .fault .notAbove

def floatAtLeast (least : Int) (v : Json) : Reading Binary64 :=
  (float v).andThen fun x => if (Binary64.ofInt least).le x then .ok x else .fault .belowLeast

/-- A real number between two bounds. -/
def floatWithin (least greatest : Int) (v : Json) : Reading Binary64 :=
  (float v).andThen fun x =>
    if !x.le (.ofInt greatest) then .fault .aboveGreatest
    else if !(Binary64.ofInt least).le x then .fault .belowLeast
    else .ok x

def falseWords : List String := ["0", "off", "f", "false", "n", "no"]

def trueWords : List String := ["1", "on", "t", "true", "y", "yes"]

/-- A truth value that a word names, in letters of either case. -/
def boolText (s : String) : Reading Bool :=
  let word := String.ofList (s.toList.map Char.toLower)
  if trueWords.contains word then .ok true
  else if falseWords.contains word then .ok false
  else .fault .boolText

def boolInt (n : Int) : Reading Bool :=
  if n = 0 then .ok false else if n = 1 then .ok true else .fault .boolText

def bool : Json → Reading Bool
  | .bool b => .ok b
  | .int n => boolInt n
  | .float x =>
    match x.toInt? with
    | some n => boolInt n
    | none => .fault .notBool
  | .str s => boolText s
  | _ => .fault .notBool

def choice (choices : List α) (name : α → String) : Json → Reading α
  | .str s =>
    match choices.find? (name · == s) with
    | some a => .ok a
    | none => .fault .notChoice
  | _ => .fault .notChoice

def nullable (read : Json → Reading α) : Json → Reading (Option α)
  | .null => .ok none
  | v => (read v).map some

def list (read : Json → Reading α) : Json → Reading (List α)
  | .arr vs => .all (vs.zipIdx.map fun (v, i) => (read v).within (.index i))
  | _ => .fault .notList

def entries (read : Json → Reading α) : Json → Reading (Entries String α)
  | .obj ms => .all (ms.map fun (k, v) => ((read v).within (.key k)).map (k, ·))
  | _ => .fault .notEntries

/-- Entries with whole numbers as keys; of keys for one number the last value counts. -/
def intEntries (read : Json → Reading α) : Json → Reading (Entries Int α)
  | .obj ms =>
    (Reading.all (ms.map fun (k, v) =>
      (((intText k).within (.key "[key]")).map Prod.mk).seq (read v) |>.within (.key k))).map
        Entries.ofList
  | _ => .fault .notEntries

def members : Json → Reading Members
  | .obj ms => .ok ms
  | _ => .fault .notEntries

end SiteTemplate.Read
