import SiteTemplate.Proofs.Traversal
import SiteTemplate.Resolve.Resolver

/-!
# Chains of steps and rendered texts

A step resolves a placeholder, hands on to the next one, or breaks the chain off, because the notice
about its failure cannot be printed. A text is rendered exactly if each of its placeholders has a
value: the literals and the values are joined.
-/

namespace SiteTemplate

open Placeholder

theorem Placeholder.mem_inText_iff {p : Placeholder} {text file : String} :
    p ∈ inText text file ↔ .marker p ∈ segments text file := by
  constructor
  · intro h
    obtain ⟨s, hs, hp⟩ := List.mem_filterMap.1 h
    cases s with
    | literal a => cases hp
    | marker q =>
      obtain rfl := Option.some.inj hp
      exact hs
  · intro h
    exact List.mem_filterMap.2 ⟨_, h, rfl⟩

namespace Resolver

variable {r : Resolver} {q : Request} {s : Step} {steps : List Step} {fault : String}

/-- A step leaves the placeholder to the next one: it does not resolve it, and if it fails, the
notice about that can be printed. -/
def PassesOn (r : Resolver) (q : Request) (s : Step) : Prop :=
  s q = .unresolved ∨ ∃ name message, s q = .failed name message
    ∧ r.printer.fault? (failureNotice q name message) = none

/-- A step fails, and the notice about that cannot be printed. -/
def BreaksOff (r : Resolver) (q : Request) (s : Step) (fault : String) : Prop :=
  ∃ name message, s q = .failed name message
    ∧ r.printer.fault? (failureNotice q name message) = some fault

theorem passesOn_or_breaksOff (r : Resolver) (h : ∀ v, s q ≠ .resolved v) :
    r.PassesOn q s ∨ ∃ fault, r.BreaksOff q s fault := by
  cases hs : s q with
  | resolved v => exact absurd hs (h v)
  | unresolved => exact .inl (.inl hs)
  | failed name message =>
    cases hfault : r.printer.fault? (failureNotice q name message) with
    | none => exact .inl (.inr ⟨name, message, hs, hfault⟩)
    | some fault => exact .inr ⟨fault, name, message, hs, hfault⟩

theorem resolveRequest_of_resolved {v : Resolution} (h : s q = .resolved v) (rest : List Step) :
    r.resolveRequest (s :: rest) q = .ok v := by
  rw [resolveRequest, h]

theorem resolveRequest_of_passesOn (h : r.PassesOn q s) (rest : List Step) :
    r.resolveRequest (s :: rest) q = r.resolveRequest rest q := by
  rcases h with h | ⟨name, message, h, hprints⟩
  · rw [resolveRequest, h]
  · simp only [resolveRequest, h, hprints]

variable {value : Placeholder → String} {text file : String} {d : UserData} {filled : Members}
  {theme : Option Theme} {out : String × Nat}

/-- A text of a segment, given the values of the placeholders. -/
def segmentText (value : Placeholder → String) : Segment → String
  | .literal text => text
  | .marker p => value p

/-- A text with every placeholder replaced by a given value, and the number of placeholders. -/
def fillIn (value : Placeholder → String) (text file : String) : String × Nat :=
  (String.join ((segments text file).map (segmentText value)), (inText text file).length)

theorem toList_fillIn : (fillIn value text file).1.toList
    = (segments text file).flatMap fun s => (segmentText value s).toList := by
  simp [fillIn, String.toList_join, List.flatMap_map]

/-- Where every placeholder has a value, the values are filled in. -/
theorem render_eq_fillIn
    (h : ∀ p ∈ inText text file, r.resolve steps p d "" filled theme = .ok (value p)) :
    r.render steps text file d filled theme = .ok (fillIn value text file) := by
  have htexts : (segments text file).mapM
      (textOf fun p => r.resolve steps p d "" filled theme)
      = .ok ((segments text file).map (segmentText value)) := by
    refine mapM_eq_ok_map fun s hs => ?_
    cases s with
    | literal text => rfl
    | marker p => exact h p (mem_inText_iff.2 hs)
  rw [render, htexts]
  rfl

theorem render_eq_ok_iff : r.render steps text file d filled theme = .ok out ↔
    ∃ value : Placeholder → String, out = fillIn value text file
      ∧ ∀ p ∈ inText text file, r.resolve steps p d "" filled theme = .ok (value p) := by
  constructor
  · intro h
    let value (p : Placeholder) : String := (r.resolve steps p d "" filled theme).toOption.getD ""
    have hvalue : ∀ p ∈ inText text file, r.resolve steps p d "" filled theme = .ok (value p) := by
      intro p hp
      obtain ⟨texts, htexts, -⟩ := bind_eq_ok_iff.1 h
      obtain ⟨v, -, hv⟩ := exists_eq_ok_of_mapM_eq_ok htexts (mem_inText_iff.1 hp)
      have hresolve : r.resolve steps p d "" filled theme = .ok v := hv
      simp only [value, hresolve]
      rfl
    exact ⟨value, Except.ok.inj (h.symm.trans (render_eq_fillIn hvalue)), hvalue⟩
  · rintro ⟨value, rfl, hvalue⟩
    exact render_eq_fillIn hvalue

end Resolver

end SiteTemplate
