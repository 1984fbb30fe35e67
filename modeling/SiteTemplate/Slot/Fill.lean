import SiteTemplate.Console.Printer
import SiteTemplate.Json.Basic
import SiteTemplate.Slot.Check
import SiteTemplate.UserData

/-!
# Filling slots

The value of a field is what the caller wrote for the slot, or else for any slot, or else the
static content, or else the field's fallback; a value with issues gives way to the fallback. Where
a check is impossible the whole slot takes its fallbacks, and a notice is printed.
-/

namespace SiteTemplate.StaticContent

private def record (fields : List (String × String)) : Json := .ofTextEntries fields

private def link (label href : String) : Json := record [("label", label), ("href", href)]

private def column (title : String) (links : List Json) : Json :=
  .obj [("title", title), ("links", .arr links)]

private def input (name type placeholder : String) : Json :=
  .obj [("name", name), ("type", type), ("required", .bool true), ("placeholder", placeholder)]

private def social (platform icon : String) : Json :=
  record [("platform", platform), ("url", "#"), ("icon", icon)]

private def feature (title text icon : String) : Json :=
  record [("title", title), ("text", text), ("icon", icon)]

def header : Members :=
  [("brandName", "Online Store"), ("tagline", "Quality products at friendly prices"),
    ("logoUrl", "https://via.placeholder.com/200x60/3b82f6/ffffff?text=Logo")]

def home : Members :=
  [("heroTitle", "Welcome"), ("heroSubtitle", "Quality products at friendly prices"),
    ("heroImage", "https://via.placeholder.com/1200x600/3b82f6/ffffff?text=Hero"),
    ("ctaLabel", "Start shopping"),
    ("feature1", feature "Quality" "Carefully selected products" "⭐"),
    ("feature2", feature "Fair prices" "Prices that make sense" "💰"),
    ("feature3", feature "Friendly service" "Support from people who care" "❤️")]

def about : Members :=
  [("pageTitle", "About us"), ("pageSubtitle", "Our story"),
    ("heroImage", "https://via.placeholder.com/1200x600/3b82f6/ffffff?text=About"),
    ("storyTitle", "Our story"),
    ("storyContent", "We started with a simple idea: good products and honest service."),
    ("values", .ofTexts ["Quality", "Fair prices", "Friendly service"]), ("team", .arr [])]

def contact : Members :=
  [("pageTitle", "Contact us"), ("pageSubtitle", "We are here to help"), ("phone", "02-123-4567"),
    ("email", "info@example.com"),
    ("contactInfo", record
      [("phone", "02-123-4567"), ("email", "info@example.com"),
        ("address", "123 Sukhumvit Road, Bangkok 10110"), ("hours", "Open daily 9:00-18:00")]),
    ("formFields", .arr
      [input "name" "text" "Your name", input "email" "email" "Your email",
        input "subject" "text" "Subject", input "message" "textarea" "Your message"]),
    ("submitButton", "Send message")]

def productList : Members :=
  [("title", "Our products"),
    ("categories", .arr
      [record [("id", "1"), ("name", "Category 1")], record [("id", "2"), ("name", "Category 2")]]),
    ("products", .arr [])]

def footer : Members :=
  [("columns", .arr
      [column "About" [link "History" "/about", link "Team" "/team"],
        column "Services" [link "Delivery" "/delivery", link "Contact" "/contact"],
        column "Information" [link "Terms" "/terms", link "Privacy" "/privacy"]]),
    ("newsletter", .obj [("enabled", .bool true)]),
    ("socialLinks", .arr [social "Facebook" "📘", social "Instagram" "📷", social "Line" "💬"])]

def interface : Members :=
  [("currency", "฿"), ("language", "th"),
    ("commonTexts", record
      [("addToCart", "Add to cart"), ("buyNow", "Buy now"), ("search", "Search"),
        ("filter", "Filter")])]

def look : Members :=
  [("primaryColor", "sky-600"), ("accentColor", "amber-400"), ("borderRadius", "xl"),
    ("elevation", "lg"), ("gridColumns", .int 3), ("fontFamily", "inter"),
    ("imagery", "modern clean"), ("tone", "casual")]

def slots : Entries String Members :=
  [("header", header), ("home", home), ("about", about), ("contact", contact),
    ("productList", productList), ("footer", footer), ("i18n", interface), ("theme", look)]

def get? (slot field : String) : Option Json :=
  (Entries.get? slots slot).bind fun fields => Entries.get? fields field

end SiteTemplate.StaticContent

namespace SiteTemplate

/-- A member of an object that is there and not null. -/
def Json.given? (key : String) (v : Json) : Option Json := (v.member? key).filter (!·.isNull)

namespace FieldDecl

/-- The value that is first considered for a field. -/
def select (slot : String) (d : UserData) (f : FieldDecl) : Json :=
  (((Entries.get? d.slots slot).bind (Json.given? f.key)).or
    ((Json.given? f.key (.obj d.content)).or (StaticContent.get? slot f.key))).getD f.fallback

end FieldDecl

/-- What fills slots. -/
structure SlotFiller where
  engine : PatternEngine := Pattern.engine
  printer : Printer := .plain
  /-- Whether notices are printed about rejected values, and about the end of the work. -/
  verbose : Bool := false

namespace SlotFiller

def rejection (slot : String) (f : FieldDecl) (issues : List FieldIssue) : String :=
  "  [dim]" ++ slot ++ "." ++ f.key ++ " rejected (" ++ "; ".intercalate (issues.map (·.message))
    ++ "), using default[/dim]"

def failure (slot : String) (e : ImpossibleCheck) : String :=
  "  [yellow]Slot '" ++ slot ++ "' could not be filled: " ++ e.message ++ "[/yellow]"

def closing (count : Nat) : String := "  [dim]Filled " ++ toString count ++ " slot(s)[/dim]"

/-- Tells that a value gives way to the fallback, if asked to. -/
def reject (filler : SlotFiller) (slot : String) (f : FieldDecl) (issues : List FieldIssue) :
    Except ImpossibleCheck Unit :=
  if filler.verbose then
    (filler.printer.print (rejection slot f issues)).mapError .unprintable
  else .ok ()

end SlotFiller

/-- The value of a field. -/
def FieldDecl.fill (filler : SlotFiller) (slot : String) (d : UserData) (f : FieldDecl) :
    Except ImpossibleCheck Json := do
  let value := f.select slot d
  let issues ← f.issues filler.engine value ""
  if issues.isEmpty then pure value
  else
    filler.reject slot f issues
    pure f.fallback

namespace SlotDecl

variable (filler : SlotFiller) (slot : String) (d : UserData) (s : SlotDecl)

/-- The values of the fields, unless a check is impossible. -/
def checkedValues : Except ImpossibleCheck Members :=
  s.fields.mapM fun f => (f.fill filler slot d).map (f.key, ·)

def fallbacks (s : SlotDecl) : Members := s.fields.map fun f => (f.key, f.fallback)

def fill : Members :=
  match s.checkedValues filler slot d with
  | .ok values => Entries.ofList values
  | .error _ => Entries.ofList s.fallbacks

def notices : List String :=
  match s.checkedValues filler slot d with
  | .ok _ => []
  | .error e => [SlotFiller.failure slot e]

end SlotDecl

abbrev FilledSlots := Entries String Members

namespace FilledSlots

variable (filler : SlotFiller) (slots : Entries String SlotDecl) (d : UserData)

def fill : FilledSlots := slots.map fun (slot, s) => (slot, s.fill filler slot d)

def notices : List String :=
  (slots.flatMap fun (slot, s) => s.notices filler slot d)
    ++ if filler.verbose then [SlotFiller.closing slots.length] else []

/-- Fills all slots and prints the notices; one that cannot be printed ends the work. -/
def fillAndTell : Except String FilledSlots := do
  filler.printer.printAll (notices filler slots d)
  pure (fill filler slots d)

/-- Fills slots whose declarations have yet to be read; one that cannot be read has no fields, and
the notice about it tells how many faults it has. -/
def fillDeclared (slots : Members) : Except String FilledSlots := do
  let filled ← slots.mapM fun (slot, v) => do
    let (values, notices) := match (SlotDecl.read v : Except (List Fault) SlotDecl) with
      | .ok s => (s.fill filler slot d, s.notices filler slot d)
      | .error faults =>
        ([], ["  [yellow]Slot '" ++ slot ++ "' has an invalid declaration: "
          ++ faultCount faults "SlotConfig" ++ "[/yellow]"])
    filler.printer.printAll notices
    pure (slot, values)
  if filler.verbose then
    filler.printer.print (SlotFiller.closing filled.length)
  pure filled

def toJson (filled : FilledSlots) : Members := Entries.mapValues .obj filled

end FilledSlots

/-- What is found when the values of a slot are checked again. -/
structure SlotReport where
  issues : List FieldIssue := []
  /-- The fields that are not declared, in order. -/
  undeclared : List String := []

namespace SlotReport

def isValid (r : SlotReport) : Bool := r.issues.isEmpty

def errors (r : SlotReport) : List String := r.issues.map (·.message)

def missing (r : SlotReport) : List String := (r.issues.filter (·.isMissing)).map (·.path)

def warnings (slot : String) (r : SlotReport) : List String :=
  r.undeclared.map fun key => "Undeclared field " ++ key ++ " in slot " ++ slot

end SlotReport

/-- Checks the values of a slot. -/
def SlotDecl.report (engine : PatternEngine) (s : SlotDecl) (values : Members) :
    Except ImpossibleCheck SlotReport := do
  let issues ← FieldDecl.joinIssues
    (s.fields.map fun f => f.issues engine ((Entries.get? values f.key).getD .null) "")
  let extra := (Entries.keys values).filter fun key => !s.fields.any (·.key == key)
  pure { issues, undeclared := extra.mergeSort fun a b => a ≤ b }

/-- Checks the values of all slots; a slot without values counts as empty. -/
def FilledSlots.reports (engine : PatternEngine) (slots : Entries String SlotDecl)
    (filled : FilledSlots) : Except ImpossibleCheck (Entries String SlotReport) :=
  slots.mapM fun (slot, s) =>
    (s.report engine ((Entries.get? filled slot).getD [])).map (slot, ·)

end SiteTemplate
