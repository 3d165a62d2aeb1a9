import Querent.Binary.Basic
import Querent.Text.Blank

/-! The configuration and its defaults, what the environment may override, and the conditions under
which a configuration is usable. -/
namespace Querent

def ServerConfig.defaultBind : String := "0.0.0.0:8080"

def ServerConfig.defaultLogLevel : String := "info"

def SessionConfig.defaultReadDeadline : Nat := 60

def SessionConfig.defaultPingInterval : Nat := 50

def SessionConfig.defaultCapacity : Nat := 256

def GuardConfig.defaultKeywords : List String :=
  ["api_key", "apikey", "password", "hashedpassword", "hashed_password"]

def DatabaseConfig.defaultMaxConnections : Nat := 5

def DatabaseConfig.defaultAcquireTimeout : Nat := 10

def DatabaseConfig.defaultMaxResultRows : Nat := 500

def OllamaConfig.defaultBaseUrl : String := "http://localhost:11434"

def OllamaConfig.defaultModel : String := "llama3"

def OpenAiConfig.defaultBaseUrl : String := "https://api.openai.com"

def OpenAiConfig.defaultModel : String := "gpt-4o-mini"

def GeminiConfig.defaultBaseUrl : String := "https://generativelanguage.googleapis.com"

def GeminiConfig.defaultModel : String := "gemini-1.5-flash"

def BackendsConfig.defaultBackend : String := "llama"

def BackendsConfig.defaultRequestTimeout : Nat := 60

structure ServerConfig where
  bind : String := ServerConfig.defaultBind
  logLevel : String := ServerConfig.defaultLogLevel
  deriving DecidableEq, Repr

structure SessionConfig where
  readDeadline : Nat := SessionConfig.defaultReadDeadline
  pingInterval : Nat := SessionConfig.defaultPingInterval
  inboundCapacity : Nat := SessionConfig.defaultCapacity
  outboundCapacity : Nat := SessionConfig.defaultCapacity
  deriving DecidableEq, Repr

structure GuardConfig where
  restrictedKeywords : List String := GuardConfig.defaultKeywords
  deriving DecidableEq, Repr

structure DatabaseConfig where
  maxConnections : Nat := DatabaseConfig.defaultMaxConnections
  acquireTimeout : Nat := DatabaseConfig.defaultAcquireTimeout
  maxResultRows : Nat := DatabaseConfig.defaultMaxResultRows
  deriving DecidableEq, Repr

structure OllamaConfig where
  enabled : Bool := true
  baseUrl : String := OllamaConfig.defaultBaseUrl
  model : String := OllamaConfig.defaultModel
  deriving DecidableEq, Repr

structure OpenAiConfig where
  baseUrl : String := OpenAiConfig.defaultBaseUrl
  model : String := OpenAiConfig.defaultModel
  apiKey : Option String := none
  organization : Option String := none
  project : Option String := none
  temperature : Option Single := none
  deriving DecidableEq, Repr

structure GeminiConfig where
  baseUrl : String := GeminiConfig.defaultBaseUrl
  model : String := GeminiConfig.defaultModel
  apiKey : Option String := none
  temperature : Option Single := none
  deriving DecidableEq, Repr

structure BackendsConfig where
  default : String := BackendsConfig.defaultBackend
  requestTimeout : Nat := BackendsConfig.defaultRequestTimeout
  ollama : OllamaConfig := {}
  openai : OpenAiConfig := {}
  gemini : GeminiConfig := {}
  deriving DecidableEq, Repr

structure Config where
  server : ServerConfig := {}
  session : SessionConfig := {}
  guard : GuardConfig := {}
  database : DatabaseConfig := {}
  backends : BackendsConfig := {}
  deriving DecidableEq, Repr

namespace Config

def openAiKeyVariable : String := "ASKDB_OPENAI_API_KEY"

def geminiKeyVariable : String := "ASKDB_GEMINI_API_KEY"

def given (environment : List (String × String)) (name : String) : Option String :=
  (environment.lookup name).filter (· ≠ "")

def override (environment : List (String × String)) (c : Config) : Config :=
  let openaiKey := (given environment openAiKeyVariable).or c.backends.openai.apiKey
  let geminiKey := (given environment geminiKeyVariable).or c.backends.gemini.apiKey
  { c with backends := { c.backends with
      openai := { c.backends.openai with apiKey := openaiKey }
      gemini := { c.backends.gemini with apiKey := geminiKey } } }

inductive Problem where
  | noPingInterval
  | pingNotShorter (ping deadline : Nat)
  | noCapacity
  | noConnections
  | noResultRows
  | noBackend
  deriving DecidableEq, Repr

def Problem.message : Problem → String
  | .noPingInterval => "session.ping_interval_secs must be greater than zero"
  | .pingNotShorter ping deadline =>
    "session.ping_interval_secs (" ++ toString ping
      ++ ") must be shorter than session.read_deadline_secs (" ++ toString deadline ++ ")"
  | .noCapacity => "session queue capacities must be greater than zero"
  | .noConnections => "database.max_connections must be greater than zero"
  | .noResultRows => "database.max_result_rows must be greater than zero"
  | .noBackend => "backends.default must name a backend"

def Problem.report (p : Problem) : String := "Configuration error: " ++ p.message

def problem? (c : Config) : Option Problem :=
  let ping := c.session.pingInterval
  if ping = 0 then some .noPingInterval
  else if c.session.readDeadline ≤ ping then
    some (.pingNotShorter ping c.session.readDeadline)
  else if c.session.inboundCapacity = 0 ∨ c.session.outboundCapacity = 0 then some .noCapacity
  else if c.database.maxConnections = 0 then some .noConnections
  else if c.database.maxResultRows = 0 then some .noResultRows
  else if Text.isBlankText c.backends.default then some .noBackend
  else none

end Config
end Querent
