import Querent.Backend.Prompt
import Querent.Backend.Registry
import Querent.Config.Printer
import Querent.Json.Shape
import Querent.Text.Utf8

/-! Backends behind servers of models: the request that each kind makes, and how the reply is read. -/
namespace Querent.Backend

structure Request where
  url : String
  headers : List (String × String)
  body : Json
  deriving DecidableEq, Repr

structure Reply where
  status : Nat
  body : Text.Utf8.Octets
  deriving DecidableEq, Repr

abbrev Network := Request → Option Reply

def Network.down : Network := fun _ => none

def endpoint (base path : String) : String :=
  let base := (base.toList.reverse.dropWhile (· == '/')).reverse
  String.ofList (base ++ '/' :: path.toList.dropWhile (· == '/'))

inductive Provider where
  | ollama (c : OllamaConfig)
  | openai (c : OpenAiConfig) (key : String)
  | gemini (c : GeminiConfig) (key : String)
  deriving DecidableEq, Repr

namespace Provider
open Json.Reader (TextSlot into text optional list record)

def kind : Provider → Kind
  | .ollama _ => .ollama
  | .openai .. => .openai
  | .gemini .. => .gemini

def name (p : Provider) : String := p.kind.name

def key (kind : Kind) (given : Option String) : Except Failure String :=
  match given.filter (!Text.isBlankText ·) with
  | some key => .ok key
  | none => .error (.notConfigured kind.name "api_key is required")

def openai? (c : OpenAiConfig) : Except Failure Provider := (key .openai c.apiKey).map (.openai c)

def gemini? (c : GeminiConfig) : Except Failure Provider := (key .gemini c.apiKey).map (.gemini c)

def header (name : String) : Option String → List (String × String)
  | some value => [(name,value)]
  | none => []

def temperature (given : Option Single) : List (String × Json) :=
  if given.isSome then [("temperature",optionalSingle given)] else []

def message (role content : String) : Json :=
  .object [("role",.text role), ("content",.text content)]

def parts (content : String) : String × Json := ("parts",.array [.object [("text",.text content)]])

def request (p : Prompt) : Provider → Request
  | .ollama c => ⟨endpoint c.baseUrl "api/generate",[],
      .object [("model",.text c.model), ("prompt",.text p.combined), ("stream",.bool false)]⟩
  | .openai c key => ⟨endpoint c.baseUrl "v1/chat/completions",
      ("authorization","Bearer " ++ key) :: header "openai-organization" c.organization ++
        header "openai-project" c.project,
      .object ([("model",.text c.model),
        ("messages",.array [message "system" p.system, message "user" p.user])] ++
          temperature c.temperature)⟩
  | .gemini c key => ⟨endpoint c.baseUrl ("v1beta/models/" ++ c.model ++ ":generateContent"),
      [("x-goog-api-key",key)],
      .object ([("systemInstruction",.object [parts p.system]),
        ("contents",.array [.object [("role",.text "user"), parts p.user]])] ++
          if c.temperature.isSome then
            [("generationConfig",.object (temperature c.temperature))]
          else [])⟩

def generated : Json.Reader String :=
  record "GenerateResponse" [⟨["response"],false,into text fun s _ => s⟩] ""

def chatMessage : Json.Reader (Option String) :=
  record "ChatMessage"
    [⟨["role"],true,into text fun _ m => m⟩, ⟨["content"],false,into (optional text) fun s _ => s⟩]
    none

def chatChoice : Json.Reader (Option String) :=
  record "ChatChoice" [⟨["message"],true,into chatMessage fun m _ => m⟩] none

def chat : Json.Reader (List (Option String)) :=
  record "ChatResponse" [⟨["choices"],false,into (list chatChoice) fun cs _ => cs⟩] []

def part : Json.Reader String := record "Part" [⟨["text"],false,into text fun s _ => s⟩] ""

def content : Json.Reader (List String) :=
  record "Content"
    [⟨["role"],false,into (optional text) fun _ c => c⟩,
      ⟨["parts"],false,into (list part) fun ps _ => ps⟩]
    []

def listNext (cs : List Char) : Bool := (Json.Reader.skip cs).head? == some '['

def candidate : Json.Reader (Option (List String)) := fun cs =>
  record "Candidate" [⟨["content"],listNext cs,into (optional content) fun c _ => c⟩] none cs

def candidates : Json.Reader (List (Option (List String))) :=
  record "GenerateContentResponse"
    [⟨["candidates"],false,into (list candidate) fun cs _ => cs⟩] []

def completionText (p : Provider) (body : List Char) : Except Json.Fault String :=
  let read {α : Type} (r : Json.Reader α) := Json.Reader.document r body
  match p with
  | .ollama _ => read generated
  | .openai .. => (read chat).map fun choices => (choices.head?.join).getD ""
  | .gemini .. => (read candidates).map fun found =>
      String.join ((found.head?.join).getD [])

def completion (p : Provider) (r : Reply) : Except Failure String :=
  let body := Text.Utf8.lossy r.body
  if r.status < 200 || 300 ≤ r.status then
    .error (.status p.name r.status (String.ofList body))
  else match p.completionText body with
    | .error fault => .error (.unreadable p.name (fault.message body))
    | .ok s => if Text.isBlankText s then .error (.emptyCompletion p.name) else .ok s

def ask (network : Network) (p : Provider) (q : Prompt) : Except Failure String :=
  match network (p.request q) with
  | none => .error (.unreachable p.name)
  | some reply => p.completion reply

def backend (network : Network) (p : Provider) : Backend where
  name := p.name
  query schema question := p.ask network (.forQuery schema question)
  summary result question := p.ask network (.forSummary result question)

end Provider

namespace Registry

def addConfigured (r : Registry Provider) : Except Failure Provider → Registry Provider
  | .ok p => r.registerKind p.kind p
  | .error _ => r

def ofConfig (c : BackendsConfig) : Except Failure (Registry Provider) := do
  let _ ← Kind.named c.default
  let r := if c.ollama.enabled then empty.addConfigured (.ok (.ollama c.ollama)) else empty
  return (r.addConfigured (Provider.openai? c.openai)).addConfigured (Provider.gemini? c.gemini)

end Registry
end Querent.Backend
