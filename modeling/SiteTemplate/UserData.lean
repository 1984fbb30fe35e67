import SiteTemplate.Record
import SiteTemplate.Text.Characters
import SiteTemplate.Text.Strings

/-!
# The caller's data

Everything that a caller tells about the business; each part may be left out. The first sector one
of whose keywords occurs in the brand name, without regard to case, gives the type of business, the
tone and the audience.
-/

namespace SiteTemplate

open Record

/-- The data that a caller supplies. -/
structure UserData where
  brandName : Option String := none
  theme : Option String := none
  content : Members := []
  images : Members := []
  slots : Members := []
  customizations : Members := []
  dynamicData : Members := []
  aiContent : Members := []
  /-- Whether the content model may be asked. -/
  useAI : Bool := true

namespace UserData

def read : Json → Reading UserData := Record.read fun o =>
  pure mk
    <*> optional o ⟨"brand_name", "brandName"⟩ none (Read.nullable Read.text)
    <*> optional o (.single "theme") none (Read.nullable Read.text)
    <*> optional o (.single "content") [] Read.members
    <*> optional o (.single "images") [] Read.members
    <*> optional o (.single "slots") [] Read.members
    <*> optional o (.single "customizations") [] Read.members
    <*> optional o ⟨"dynamic_data", "dynamicData"⟩ [] Read.members
    <*> optional o ⟨"ai_content", "aiContent"⟩ [] Read.members
    <*> optional o ⟨"use_ai", "useAI"⟩ true Read.bool

def toJson (s : Spelling) (d : UserData) : Json :=
  Record.write s
    [(⟨"brand_name", "brandName"⟩, .ofText? d.brandName), (.single "theme", .ofText? d.theme),
      (.single "content", (Json.obj d.content).encoded),
      (.single "images", (Json.obj d.images).encoded),
      (.single "slots", (Json.obj d.slots).encoded),
      (.single "customizations", (Json.obj d.customizations).encoded),
      (⟨"dynamic_data", "dynamicData"⟩, (Json.obj d.dynamicData).encoded),
      (⟨"ai_content", "aiContent"⟩, (Json.obj d.aiContent).encoded),
      (⟨"use_ai", "useAI"⟩, .bool d.useAI)]

end UserData

end SiteTemplate

namespace SiteTemplate

open Text Record

/-- What is known about a business. -/
structure Business where
  brandName : String
  businessType : String := "general"
  tone : String := "professional"
  targetAudience : String := "general"
  theme : String := "modern"
deriving DecidableEq

namespace Business

def read : Json → Reading Business := Record.read fun o =>
  pure mk
    <*> required o (.single "brand_name") Read.text
    <*> optional o (.single "business_type") "general" Read.text
    <*> optional o (.single "tone") "professional" Read.text
    <*> optional o (.single "target_audience") "general" Read.text
    <*> optional o (.single "theme") "modern" Read.text

def toJson (b : Business) : Json :=
  .obj [("brand_name", .str b.brandName), ("business_type", .str b.businessType),
    ("tone", .str b.tone), ("target_audience", .str b.targetAudience), ("theme", .str b.theme)]

/-- A sector of business with the keywords that betray it. -/
structure Sector where
  name : String
  keywords : List String
  tone : String
  audience : String

def food : Sector where
  name := "food"
  keywords :=
    ["อาหาร", "ร้าน", "ครัว", "ปิ้ง", "ย่าง", "หมู", "ไก่", "ปลา", "กุ้ง", "ข้าว", "ก๋วยเตี๋ยว", "ส้มตำ",
      "ลาบ", "สลัด", "กาแฟ", "ชา", "น้ำ", "ขนม", "เค้ก", "ไอศครีม", "food", "kitchen", "cafe",
      "coffee", "bakery", "restaurant"]
  tone := "warm"
  audience := "food-lovers"

def fashion : Sector where
  name := "fashion"
  keywords :=
    ["แฟชั่น", "เสื้อ", "ผ้า", "ชุด", "กางเกง", "กระโปรง", "รองเท้า", "กระเป๋า", "เครื่องประดับ",
      "สไตล์", "fashion", "style", "boutique"]
  tone := "trendy"
  audience := "fashion-conscious"

def technology : Sector where
  name := "technology"
  keywords :=
    ["คอมพิวเตอร์", "มือถือ", "โทรศัพท์", "โน๊ตบุ๊ค", "แท็บเล็ต", "เกม", "เทคโนโลยี",
      "อิเล็กทรอนิกส์", "gaming", "tech", "digital", "software"]
  tone := "modern"
  audience := "tech-savvy"

def health : Sector where
  name := "health"
  keywords :=
    ["สุขภาพ", "ยา", "วิตามิน", "อาหารเสริม", "เครื่องสำอาง", "สปา", "ฟิตเนส", "ยิม", "คลินิก",
      "โรงพยาบาล", "health", "beauty", "clinic", "fitness", "spa"]
  tone := "trustworthy"
  audience := "health-conscious"

def sectors : List Sector := [food, fashion, technology, health]

def Sector.suits (s : Sector) (brand : List Char) : Bool :=
  s.keywords.any fun keyword => occursIn keyword.toList brand

/-- The text, or another one in the place of a missing or empty text. -/
def textOr (standIn : String) : Option String → String
  | none => standIn
  | some s => if s = "" then standIn else s

/-- What the caller's data tells about the business. -/
def analyze (d : UserData) (defaultBrand : String) : Business :=
  let brand := textOr defaultBrand d.brandName
  let known : Business := { brandName := brand, theme := textOr "modern" d.theme }
  match sectors.find? (·.suits (lower brand.toList)) with
  | some s => { known with businessType := s.name, tone := s.tone, targetAudience := s.audience }
  | none => known

end Business

end SiteTemplate
