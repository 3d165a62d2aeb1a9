import Querent.Bits
import Querent.Config.Basic
import Querent.Toml.Reader
import Querent.Toml.Shape

/-! Reading a configuration. Every section and every field may be left out. A section that is left out is
the default section; one that is there has, for each field that it leaves out, what is put in its
place. -/
namespace Querent
open Toml (slot asText asBoolean asNatural asSingle asList asRecord)
open Record (Slot Update)

def asU64 : Toml → Except Record.Fault Nat := asNatural (Bits.count 64) "u64"

def asU32 : Toml → Except Record.Fault Nat := asNatural (Bits.count 32) "u32"

def asSize : Toml → Except Record.Fault Nat := asNatural (Bits.count 64) "usize"

def ServerConfig.unset : ServerConfig := ⟨ServerConfig.defaultBind,ServerConfig.defaultLogLevel⟩

def ServerConfig.slots : List (Slot (Update Toml ServerConfig)) :=
  [slot "bind" asText fun bind c => { c with bind },
    slot "log_level" asText fun logLevel c => { c with logLevel }]

def ServerConfig.ofToml : Toml → Except Record.Fault ServerConfig := asRecord "ServerConfig" slots unset

def SessionConfig.unset : SessionConfig :=
  ⟨SessionConfig.defaultReadDeadline,SessionConfig.defaultPingInterval,SessionConfig.defaultCapacity,
    SessionConfig.defaultCapacity⟩

def SessionConfig.slots : List (Slot (Update Toml SessionConfig)) :=
  [slot "read_deadline_secs" asU64 fun readDeadline c => { c with readDeadline },
    slot "ping_interval_secs" asU64 fun pingInterval c => { c with pingInterval },
    slot "inbound_capacity" asSize fun inboundCapacity c => { c with inboundCapacity },
    slot "outbound_capacity" asSize fun outboundCapacity c => { c with outboundCapacity }]

def SessionConfig.ofToml : Toml → Except Record.Fault SessionConfig := asRecord "SessionConfig" slots unset

def GuardConfig.unset : GuardConfig := ⟨GuardConfig.defaultKeywords⟩

def GuardConfig.slots : List (Slot (Update Toml GuardConfig)) :=
  [slot "restricted_keywords" (asList asText) fun restrictedKeywords c =>
    { c with restrictedKeywords }]

def GuardConfig.ofToml : Toml → Except Record.Fault GuardConfig := asRecord "GuardConfig" slots unset

def DatabaseConfig.unset : DatabaseConfig :=
  ⟨DatabaseConfig.defaultMaxConnections,DatabaseConfig.defaultAcquireTimeout,
    DatabaseConfig.defaultMaxResultRows⟩

def DatabaseConfig.slots : List (Slot (Update Toml DatabaseConfig)) :=
  [slot "max_connections" asU32 fun maxConnections c => { c with maxConnections },
    slot "acquire_timeout_secs" asU64 fun acquireTimeout c => { c with acquireTimeout },
    slot "max_result_rows" asSize fun maxResultRows c => { c with maxResultRows }]

def DatabaseConfig.ofToml : Toml → Except Record.Fault DatabaseConfig := asRecord "DatabaseConfig" slots unset

def OllamaConfig.unset : OllamaConfig := ⟨true,OllamaConfig.defaultBaseUrl,OllamaConfig.defaultModel⟩

def OllamaConfig.slots : List (Slot (Update Toml OllamaConfig)) :=
  [slot "enabled" asBoolean fun enabled c => { c with enabled },
    slot "base_url" asText fun baseUrl c => { c with baseUrl },
    slot "model" asText fun model c => { c with model }]

def OllamaConfig.ofToml : Toml → Except Record.Fault OllamaConfig := asRecord "OllamaConfig" slots unset

def OpenAiConfig.unset : OpenAiConfig :=
  ⟨OpenAiConfig.defaultBaseUrl,OpenAiConfig.defaultModel,none,none,none,none⟩

def OpenAiConfig.slots : List (Slot (Update Toml OpenAiConfig)) :=
  [slot "base_url" asText fun baseUrl c => { c with baseUrl },
    slot "model" asText fun model c => { c with model },
    slot "api_key" asText fun apiKey c => { c with apiKey := some apiKey },
    slot "org_id" asText fun organization c => { c with organization := some organization },
    slot "project_id" asText fun project c => { c with project := some project },
    slot "temperature" asSingle fun temperature c => { c with temperature := some temperature }]

def OpenAiConfig.ofToml : Toml → Except Record.Fault OpenAiConfig := asRecord "OpenAiConfig" slots unset

def GeminiConfig.unset : GeminiConfig := ⟨GeminiConfig.defaultBaseUrl,GeminiConfig.defaultModel,none,none⟩

def GeminiConfig.slots : List (Slot (Update Toml GeminiConfig)) :=
  [slot "base_url" asText fun baseUrl c => { c with baseUrl },
    slot "model" asText fun model c => { c with model },
    slot "api_key" asText fun apiKey c => { c with apiKey := some apiKey },
    slot "temperature" asSingle fun temperature c => { c with temperature := some temperature }]

def GeminiConfig.ofToml : Toml → Except Record.Fault GeminiConfig := asRecord "GeminiConfig" slots unset

def BackendsConfig.unset : BackendsConfig :=
  ⟨BackendsConfig.defaultBackend,BackendsConfig.defaultRequestTimeout,{},{},{}⟩

def BackendsConfig.slots : List (Slot (Update Toml BackendsConfig)) :=
  [slot "default" asText fun default c => { c with default },
    slot "request_timeout_secs" asU64 fun requestTimeout c => { c with requestTimeout },
    slot "ollama" OllamaConfig.ofToml fun ollama c => { c with ollama },
    slot "openai" OpenAiConfig.ofToml fun openai c => { c with openai },
    slot "gemini" GeminiConfig.ofToml fun gemini c => { c with gemini }]

def BackendsConfig.ofToml : Toml → Except Record.Fault BackendsConfig := asRecord "BackendsConfig" slots unset

namespace Config

def unset : Config := ⟨{},{},{},{},{}⟩

def slots : List (Slot (Update Toml Config)) :=
  [slot "server" ServerConfig.ofToml fun server c => { c with server },
    slot "session" SessionConfig.ofToml fun session c => { c with session },
    slot "guard" GuardConfig.ofToml fun guard c => { c with guard },
    slot "database" DatabaseConfig.ofToml fun database c => { c with database },
    slot "backends" BackendsConfig.ofToml fun backends c => { c with backends }]

inductive Fault where
  | grammar
  | shape (fault : Record.Fault)
  deriving DecidableEq, Repr

def ofToml (entries : List (String × Toml)) : Except Record.Fault Config :=
  asRecord "AskdbConfig" slots unset (.table entries)

def parse (text : String) : Except Fault Config :=
  match Toml.read? text.toList with
  | none => .error .grammar
  | some entries => match ofToml entries with
    | .ok c => .ok c
    | .error fault => .error (.shape fault)

end Config
end Querent
