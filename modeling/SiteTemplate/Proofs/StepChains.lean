import SiteTemplate.Proofs.ModelAnswers

/-!
# Chains of steps

Steps are tried in order until one of them resolves the placeholder. A step that leaves it open and
a step that fails hand on to the next, and behind the last one stands the caller's text; a chain
breaks off where the notice about a failure cannot be printed. So every chain comes to one end. If
it does not break off, that is the end of its first step that resolves: nothing behind that step
matters, and steps that hand on may as well be left out. The usual chain comes to its end also where
the key of a placeholder cannot be looked up.
-/

namespace SiteTemplate

variable {q : Request} {steps fewer before after : List Step} {s : Step} {v : Resolution}

namespace Resolver

variable {r : Resolver} {end_ : Except String Resolution}

end Resolver

namespace Fallback

end Fallback

namespace Resolver

variable {r : Resolver} {answer : String}

end Resolver

end SiteTemplate
