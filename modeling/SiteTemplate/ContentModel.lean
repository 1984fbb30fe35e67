import SiteTemplate.Json.Reader
import SiteTemplate.Json.Writer
import SiteTemplate.Settings
import SiteTemplate.Text.Characters

/-!
# The client of the content model

A completion takes one exchange with the server: a request with the prompt, and its outcome. What
the outcome means is told as a reply, which either holds a text or an error.
-/

namespace SiteTemplate

open Text Record

structure ModelReply where
  text : String := ""
  model : String := ""
  durationMs : Binary64 := .zero
  success : Bool := true
  error : Option String := none
deriving DecidableEq

namespace ModelReply

def read : Json → Reading ModelReply := Record.read fun o =>
  pure mk
    <*> optional o (.single "text") "" Read.text
    <*> optional o (.single "model") "" Read.text
    <*> optional o (.single "duration_ms") .zero Read.float
    <*> optional o (.single "success") true Read.bool
    <*> optional o (.single "error") none (Read.nullable Read.text)

def toJson (r : ModelReply) : Json :=
  .obj [("text", .str r.text), ("model", .str r.model), ("duration_ms", .float r.durationMs),
    ("success", .bool r.success), ("error", .ofText? r.error)]

def failed (model error : String) : ModelReply := { model, success := false, error := some error }

end ModelReply

/-- A client of a server that speaks for the content model. -/
structure ModelClient where
  apiKey : String := ""
  /-- The address of the server, without slashes at its end. -/
  baseUrl : String := "https://api.openai.com/v1"
  model : String := "gpt-4o-mini"
  /-- The time allowed, a whole or double-precision number of seconds. -/
  timeout : Json := .float (.ofRatio false 20 1)
  /-- A whole or double-precision number. -/
  temperature : Json := .float (.ofRatio false 7 10)

structure ModelRequest where
  url : String
  authorization : String
  body : Json

/-- Whether a header can hold the authorization, which is to be ASCII text. -/
def ModelRequest.isSendable (r : ModelRequest) : Bool := r.authorization.toList.all (·.toNat < 128)

inductive Exchange where
  | noConnection
  | timedOut
  | broken
  | response (status : Nat) (body : String)
deriving DecidableEq

namespace ModelClient

def dropSlashes (url : String) : String := .ofList (dropEndWhile (· == '/') url.toList)

def ofSettings (s : ModelSettings) : ModelClient where
  apiKey := s.apiKey
  baseUrl := dropSlashes s.baseUrl
  model := s.model
  timeout := .float s.timeout
  temperature := .float s.temperature

/-- The model that is asked: the one given, or else that of the client. -/
def modelOr (c : ModelClient) (model : Option String) : String :=
  ((model.filter (· != "")).getD c.model)

def message (role content : String) : Json := .obj [("role", role), ("content", content)]

/-- The request for a completion; a system message that is empty is left out. -/
def request (c : ModelClient) (prompt system : String) (model : Option String) : ModelRequest where
  url := c.baseUrl ++ "/chat/completions"
  authorization := "Bearer " ++ c.apiKey
  body := .obj
    [("model", .str (c.modelOr model)),
      ("messages", .arr ((if system = "" then [] else [message "system" system])
        ++ [message "user" prompt])),
      ("temperature", c.temperature)]

/-- A member of an object; a missing one is null. `none` if the value is no object. -/
def memberOf? (key : String) : Json → Option Json
  | .obj ms => some ((Entries.get? ms key).getD .null)
  | _ => none

/-- The member of an object, where a value that counts as absent stands for an object without
members. -/
def memberOfOptional? (key : String) (v : Json) : Option Json :=
  if v.isTruthy then memberOf? key v else some .null

/-- The content of the first choice of a completion. It is null if there is none, and `none` if a
part on the way has the wrong form. -/
def content? (data : Json) : Option Json :=
  match memberOf? "choices" data with
  | none => none
  | some choices =>
    if choices.isTruthy then
      match choices with
      | .arr (first :: _) => (memberOf? "message" first).bind (memberOfOptional? "content")
      | _ => none
    else some .null

/-- The text and the model that a completion names; `none` if a part has the wrong form. The text
is empty if the completion has no content. -/
def completion? (data : Json) (model : String) : Option (String × String) := do
  let content ← content? data
  let named := ((data.member? "model").getD (.str model)).text?
  if content.isTruthy then pure (← content.text?, ← named) else pure ("", ← named)

def unexpected : String := "Unexpected error during completion:"

def quotedLength : Nat := 500

/-- The reply to an exchange about a model. -/
def reply (c : ModelClient) (model : String) : Exchange → ModelReply
  | .noConnection =>
    .failed model ("Cannot connect to content model at " ++ c.baseUrl ++ ".")
  | .timedOut =>
    .failed model ("Request to content model timed out after " ++ c.timeout.display ++ "s.")
  | .broken => .failed model unexpected
  | .response status body =>
    if 200 ≤ status && status < 300 then
      match (Json.parse body).toOption.bind (completion? · model) with
      | none => .failed model unexpected
      | some (text, named) =>
        if text = "" then .failed named "Completion response contained no content."
        else { text, model := named }
    else
      .failed model ("Content model returned HTTP " ++ toString status ++ ": "
        ++ .ofList (body.toList.take quotedLength))

/-- A completion over what carries requests: the reply, and the requests that were sent. A request
that is not carried, and so has no outcome, is not sent, and without a key there is none. -/
def completeOver (c : ModelClient) (carry : ModelRequest → Option Exchange)
    (prompt system : String) (model : Option String) : ModelReply × List ModelRequest :=
  let asked := c.modelOr model
  if c.apiKey = "" then (.failed asked "No API key configured.", [])
  else
    let request := c.request prompt system model
    match carry request with
    | none => (.failed asked unexpected, [])
    | some outcome => (c.reply asked outcome, [request])

/-- A completion with a server that answers every request which a header can hold. -/
def complete (c : ModelClient) (server : ModelRequest → Exchange) (prompt system : String)
    (model : Option String) : ModelReply × List ModelRequest :=
  c.completeOver (fun r => if r.isSendable then some (server r) else none) prompt system model

end ModelClient

end SiteTemplate
