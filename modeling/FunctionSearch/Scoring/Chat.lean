import FunctionSearch.Document.Json
import FunctionSearch.Json.Parser
import FunctionSearch.Json.Printer
import FunctionSearch.Libraries
import FunctionSearch.Scoring.Address
import FunctionSearch.Scoring.Backend
import FunctionSearch.Settings.Basic
import FunctionSearch.Web.Address
import FunctionSearch.Web.Reply

/-!
# Chat completions over HTTP

A backend that sends the prompt as the only message of a chat and reads the first choice of the
reply.

* `Chat.Request` and `Chat.request?`: what is sent;
* `Chat.Exchange` and `Chat.Transport`: the outside world;
* `Chat.firstChoice?` and `Chat.completionOf`: the text of a reply;
* `Chat.backend` and `Chat.backend?`: all of it together, if there is a client for it.
-/

namespace FunctionSearch.Scoring.Chat

open Document

/-! ## Requests -/

/-- A request with a body. -/
structure Request where
  address : Web.Address
  /-- What tells the server who asks, in the order in which it is sent. -/
  authorizations : List String
  contentType : String
  body : String
  deriving DecidableEq, Repr

/-- The chat that asks a prompt. -/
def body (settings : ModelSettings) (prompt : String) : Json :=
  .record [("model", .text settings.model),
    ("messages", .array [.record [("role", .text "user"), ("content", .text prompt)]]),
    ("max_tokens", .natural settings.maxTokens), ("temperature", .number "0.0"),
    ("stream", .bool false)]

/-- The value of a header, of which white space at the end is no part. -/
def headerValue (s : String) : String :=
  String.ofList (s.toList.reverse.dropWhile fun c => c == ' ' || c == '\t').reverse

/-- Whether a text can be sent in a header: it holds no control character but tabs. -/
def isHeaderText (s : String) : Bool :=
  s.toList.all fun c => c == '\t' || (0x20 ≤ c.toNat && c.toNat != 0x7F)

/-- The request for a prompt, if it can be written: the key fits into a header, and the address is
one and not too long. Whoever is named in the address comes in front of the key. -/
def request? (settings : ModelSettings) (prompt : String) : Option Request := do
  let address ← Web.Address.parse? (completionsUrl settings.endpoint)
  if address.isShort && settings.apiKey.all isHeaderText then
    let named := address.credentials.map Web.Credentials.header
    let key := settings.apiKey.map fun key => headerValue s!"Bearer {key}"
    return {
      address
      authorizations := named.toList ++ key.toList
      contentType := "application/json"
      body := (body settings prompt).render }
  else none

/-- What comes of a request. -/
inductive Exchange where
  | notDelivered
  | overdue
  /-- The server sent these bytes, and then no more. -/
  | answered (stream : Bytes)
  deriving DecidableEq, Repr

/-- The outside world. -/
abbrev Transport (ω : Type) := Request → Option Duration → ω → Exchange × ω

/-! ## Replies -/

/-- A field that may be missing or unset. -/
def optionalField {δ α : Type} [Document δ] (read : δ → Option α) (field : Option δ) :
    Option (Option α) :=
  withDefault none (optional read) field

/-- The content of a message. -/
def messageContent? (value : Json) : Option (Option String) := do
  let [content] ← allColumns? ["content"] (← layout? value) | none
  optionalField text? content

/-- The text of a choice: the content of its message, or else its own text. -/
def choiceText? (value : Json) : Option (Option String) := do
  let [message, text] ← allColumns? ["message", "text"] (← layout? value) | none
  let content ← optionalField messageContent? message
  return content.join.or (← optionalField text? text)

/-- The choices of a reply. -/
def choices? (value : Json) : Option (List (Option String)) := do
  let [choices] ← columns? ["choices"] (← layout? value) | none
  (← withDefault [] items? choices).mapM choiceText?

/-- The text of the first choice, if there is one. -/
def firstChoice? (value : Json) : Option (Option String) :=
  (choices? value).map fun choices => choices.head?.join

variable [Libraries]

/-- The completion in the body of a reply. -/
def completionOf (body : String) : Except InferenceError String :=
  match (Json.parse? body).bind firstChoice? with
  | none => .error (.request (.unreadable (Libraries.complaint body)))
  | some none => .error .emptyResponse
  | some (some text) => completion? text

/-- Whether a status says that all went well. -/
def isSuccess (status : Nat) : Bool :=
  200 ≤ status && status < 300

/-- The completion in a reply. -/
def completionOfReply (reply : Web.Reply) : Except InferenceError String :=
  let text := Text.lossy reply.body
  if isSuccess reply.status then completionOf text else .error (.status reply.status text)

/-- The completion that comes of an exchange. Nothing is asked a second time at another place. -/
def resultOf (settings : ModelSettings) (address : Web.Address) :
    Exchange → Except InferenceError String
  | .notDelivered => .error (.request (.notDelivered address.text))
  | .overdue => .error (.timeout (settings.timeout?.getD ⟨0⟩))
  | .answered stream =>
    match Web.Reply.read stream with
    | .ok reply => completionOfReply reply
    | .error .cutShort => .error (.request .cutShort)
    | .error _ => .error (.request (.notDelivered address.text))

/-- The backend that asks a server. -/
def backend {ω : Type} (settings : ModelSettings) (transport : Transport ω) : Backend ω where
  name := "http"
  complete prompt world :=
    match request? settings prompt with
    | some request =>
      let (exchange, world) := transport request settings.timeout? world
      (resultOf settings request.address exchange, world)
    | none => (.error (.request .unwritable), world)

/-- The backend that asks a server, if there is a client. -/
def backend? {ω : Type} (settings : ModelSettings) (transport : Transport ω) :
    Except InferenceError (Backend ω) :=
  match Libraries.clientFault settings.timeout? with
  | some fault => .error (.config s!"failed to build HTTP client: {fault}")
  | none => .ok (backend settings transport)

end FunctionSearch.Scoring.Chat
