import SiteTemplate.Text.CaseTable
import SiteTemplate.Text.CharacterTables

/-!
# Characters

Blank characters are Unicode white space together with the four information separators U+001C to
U+001F. A decimal digit stands in one of the runs of ten that Unicode gives each script, and other
digit forms, such as superscripts, have no place value; a whole number is neither read from a text
nor written if it has too many digits. A word character is a letter or a number of any script, or
the underscore.

Lowering a text maps each character on its own with two exceptions: the dotted capital I leaves its
dot behind as a combining mark, and a capital sigma that ends a word becomes the final small sigma.
Comparison without regard to case puts the single-character lowering and the letters that share an
upper-case form into one class.
-/

namespace SiteTemplate.Text

/-- Membership below the first toggle point is `inside`, and it flips at every point reached. -/
def toggled (inside : Bool) : List Nat → Nat → Bool
  | [], _ => inside
  | t :: ts, n => if n < t then inside else toggled (!inside) ts n

/-- The class whose membership changes at the given points and that starts outside. -/
def inToggles (toggles : List Nat) (c : Char) : Bool :=
  toggled false toggles c.toNat

/-- The Unicode property `White_Space`. -/
def isWhiteSpace (c : Char) : Bool :=
  let n := c.toNat
  (9 ≤ n && n ≤ 13) || n == 0x20 || n == 0x85 || n == 0xA0 || n == 0x1680
    || (0x2000 ≤ n && n ≤ 0x200A) || n == 0x2028 || n == 0x2029 || n == 0x202F
    || n == 0x205F || n == 0x3000

/-- White space, or one of the information separators that also part words. -/
def isBlank (c : Char) : Bool :=
  isWhiteSpace c || (0x1C ≤ c.toNat && c.toNat ≤ 0x1F)

def dropEndWhile (p : Char → Bool) (cs : List Char) : List Char :=
  (cs.reverse.dropWhile p).reverse

def trimBy (p : Char → Bool) (cs : List Char) : List Char :=
  dropEndWhile p (cs.dropWhile p)

def trimStart (cs : List Char) : List Char := cs.dropWhile isBlank

def trimEnd (cs : List Char) : List Char := dropEndWhile isBlank cs

def trim (cs : List Char) : List Char := trimBy isBlank cs

/-- The maximal runs of characters that are not blank, in order. -/
def words (cs : List Char) : List (List Char) :=
  (cs.splitOnP isBlank).filter (!·.isEmpty)

@[simp] theorem trimStart_nil : trimStart [] = [] := rfl

@[simp] theorem trim_nil : trim [] = [] := rfl

theorem isBlank_space : isBlank ' ' = true := by decide

def trimmed (s : String) : String := .ofList (trim s.toList)

def digitZeros : List Nat :=
  [
    1632, 1776, 1984, 2406, 2534, 2662, 2790, 2918, 3046, 3174, 3302, 3430, 3558, 3664, 3792, 3872,
    4160, 4240, 6112, 6160, 6470, 6608, 6784, 6800, 6992, 7088, 7232, 7248, 42528, 43216, 43264,
    43472, 43504, 43600, 44016, 65296, 66720, 68912, 69734, 69872, 69942, 70096, 70384, 70736,
    70864, 71248, 71360, 71472, 71904, 72016, 72784, 73040, 73120, 92768, 92864, 93008, 120782,
    120792, 120802, 120812, 120822, 123200, 123632, 125264, 130032
  ]

def digitFormToggles : List Nat :=
  [
    178, 180, 185, 186, 4969, 4978, 6618, 6619, 8304, 8305, 8308, 8314, 8320, 8330, 9312, 9321,
    9332, 9341, 9352, 9361, 9450, 9451, 9461, 9470, 9471, 9472, 10102, 10111, 10112, 10121, 10122,
    10131, 68160, 68164, 69216, 69225, 69714, 69723, 127232, 127243
  ]

/-- The value of a decimal digit of any script. -/
def digitValue? (c : Char) : Option Nat :=
  let n := c.toNat
  if n < 128 then
    if 48 ≤ n && n ≤ 57 then some (n - 48) else none
  else
    (digitZeros.find? fun z => z ≤ n && n < z + 10).map (n - ·)

def isDecimalDigit (c : Char) : Bool := (digitValue? c).isSome

/-- A decimal digit or another digit form. -/
def isDigitForm (c : Char) : Bool :=
  isDecimalDigit c || inToggles digitFormToggles c

/-- The number that a run of decimal digits writes; `none` if another character is among them. -/
def digitsValue? (cs : List Char) : Option Nat :=
  cs.foldl (fun acc c => acc.bind fun n => (digitValue? c).map (10 * n + ·)) (some 0)

/-- The most digits of a whole number that is read from a text or written. -/
def mostDigits : Nat := 4300

def overlongMessage (digits : Nat) : String :=
  s!"Exceeds the limit ({mostDigits} digits) for integer string conversion: " ++
    s!"value has {digits} digits; use sys.set_int_max_str_digits() to increase the limit"

def unwritableMessage : String :=
  s!"Exceeds the limit ({mostDigits} digits) for integer string conversion; " ++
    "use sys.set_int_max_str_digits() to increase the limit"

def isAsciiLetter (c : Char) : Bool :=
  ('a' ≤ c && c ≤ 'z') || ('A' ≤ c && c ≤ 'Z')

def isAsciiDigit (c : Char) : Bool := '0' ≤ c && c ≤ '9'

def isWordChar (c : Char) : Bool :=
  if c.toNat < 128 then isAsciiLetter c || isAsciiDigit c || c == '_'
  else inToggles wordToggles c

/-- Whether a word boundary lies between the character before a place and the text after it. -/
def atWordBoundary (before : Option Char) (after : List Char) : Bool :=
  before.any isWordChar != after.head?.any isWordChar

/-- The number of columns that a character takes up. -/
def charWidth (c : Char) : Nat :=
  if 32 ≤ c.toNat && c.toNat < 127 then 1
  else if inToggles zeroWidthToggles c then 0
  else if inToggles doubleWidthToggles c then 2
  else 1

def width : List Char → Nat
  | [] => 0
  | c :: cs => charWidth c + width cs

def padEnd (columns : Nat) (cs : List Char) : List Char :=
  cs ++ List.replicate (columns - width cs) ' '

def padStart (columns : Nat) (cs : List Char) : List Char :=
  List.replicate (columns - width cs) ' ' ++ cs

/-- A text in the middle of a number of columns, the odd blank at its end. -/
def centred (columns : Nat) (cs : List Char) : List Char :=
  padEnd columns (List.replicate ((columns - width cs) / 2) ' ' ++ cs)

def LowerRun.target? (r : LowerRun) (n : Nat) : Option Nat :=
  if r.first ≤ n && n ≤ r.last && (n - r.first) % r.step == 0 then some (r.target + (n - r.first))
  else none

/-- The lower-case partner of a single character. -/
def lowerChar (c : Char) : Char :=
  let n := c.toNat
  if n < 128 then
    if 65 ≤ n && n ≤ 90 then Char.ofNat (n + 32) else c
  else
    match lowerRuns.findSome? (·.target? n) with
    | some m => Char.ofNat m
    | none => c

/-- One representative for all the characters that differ in case only. -/
def foldChar (c : Char) : Char :=
  let l := lowerChar c
  match caseTwins.lookup l.toNat with
  | some m => Char.ofNat m
  | none => l

def sameIgnoringCase (a b : Char) : Bool := foldChar a == foldChar b

private def afterCaseless? : List Char → List Char → Option (List Char)
  | [], cs => some cs
  | _ :: _, [] => none
  | l :: ls, c :: cs => if sameIgnoringCase l c then afterCaseless? ls cs else none

def afterIgnoringCase? (lit : String) (cs : List Char) : Option (List Char) :=
  afterCaseless? lit.toList cs

private theorem afterCaseless?_eq_some_iff {ls cs left : List Char} :
    afterCaseless? ls cs = some left ↔
      ∃ word, cs = word ++ left ∧ word.map foldChar = ls.map foldChar := by
  induction ls generalizing cs with
  | nil => simp [afterCaseless?]
  | cons l ls ih =>
    cases cs with
    | nil => simp [afterCaseless?]
    | cons c cs =>
      simp only [afterCaseless?, sameIgnoringCase, beq_iff_eq, Option.ite_none_right_eq_some, ih]
      constructor
      · rintro ⟨hc, word, rfl, hword⟩
        exact ⟨c :: word, rfl, by simp [hc, hword]⟩
      · rintro ⟨word, hcs, hword⟩
        cases word with
        | nil => cases hword
        | cons d word =>
          obtain ⟨rfl, rfl⟩ := List.cons.inj hcs
          obtain ⟨hd, hmore⟩ := List.cons.inj hword
          exact ⟨hd.symm, word, rfl, hmore⟩

/-- The word that is passed over differs from the literal in case only. -/
theorem afterIgnoringCase?_eq_some_iff {lit : String} {cs left : List Char} :
    afterIgnoringCase? lit cs = some left ↔
      ∃ word, cs = word ++ left ∧ word.map foldChar = lit.toList.map foldChar :=
  afterCaseless?_eq_some_iff

private def isCaseIgnorable (c : Char) : Bool := inToggles caseIgnorableToggles c

private def isCased (c : Char) : Bool := inToggles casedToggles c

def startsCased (cs : List Char) : Bool :=
  ((cs.dropWhile isCaseIgnorable).head?).any isCased

/-- Lowers one character; `before` holds what precedes it, nearest first, and `after` what
follows. -/
def lowerAt (before : List Char) (c : Char) (after : List Char) : List Char :=
  if c = 'Σ' then
    if startsCased before && !startsCased after then ['ς'] else ['σ']
  else if c = 'İ' then ['i', '\u0307']
  else [lowerChar c]

private def lowerFrom (before : List Char) : List Char → List Char
  | [] => []
  | c :: cs => lowerAt before c cs ++ lowerFrom (c :: before) cs

def lower (cs : List Char) : List Char := lowerFrom [] cs

private theorem lowerFrom_eq_map {before cs : List Char} (h : ∀ c ∈ cs, c.toNat < 128) :
    lowerFrom before cs = cs.map lowerChar := by
  induction cs generalizing before with
  | nil => rfl
  | cons c cs ih =>
    rw [List.forall_mem_cons] at h
    have hsigma : c ≠ 'Σ' := by
      rintro rfl
      exact absurd h.1 (by decide)
    have hdotted : c ≠ 'İ' := by
      rintro rfl
      exact absurd h.1 (by decide)
    rw [lowerFrom, lowerAt, if_neg hsigma, if_neg hdotted, ih h.2]
    rfl

theorem lower_eq_map {cs : List Char} (h : ∀ c ∈ cs, c.toNat < 128) : lower cs = cs.map lowerChar :=
  lowerFrom_eq_map h

def lowered (s : String) : String := .ofList (lower s.toList)

end SiteTemplate.Text
