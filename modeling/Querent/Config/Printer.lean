import Querent.Config.Basic
import Querent.Json.Printer

/-! A configuration as JSON: every section and field in order, with null for what is not set. -/
namespace Querent

def ServerConfig.toJson (c : ServerConfig) : Json :=
  .object [("bind",.text c.bind), ("log_level",.text c.logLevel)]

def SessionConfig.toJson (c : SessionConfig) : Json :=
  .object [("read_deadline_secs",.nat c.readDeadline), ("ping_interval_secs",.nat c.pingInterval),
    ("inbound_capacity",.nat c.inboundCapacity), ("outbound_capacity",.nat c.outboundCapacity)]

def GuardConfig.toJson (c : GuardConfig) : Json :=
  .object [("restricted_keywords",.array (c.restrictedKeywords.map .text))]

def DatabaseConfig.toJson (c : DatabaseConfig) : Json :=
  .object [("max_connections",.nat c.maxConnections),
    ("acquire_timeout_secs",.nat c.acquireTimeout), ("max_result_rows",.nat c.maxResultRows)]

def optionalText : Option String → Json
  | some s => .text s
  | none => .null

def optionalSingle : Option Single → Json
  | some (.finite negative mantissa exponent) =>
    let d := Binary.shortest .single mantissa exponent
    if mantissa = 0 then .double (.zero negative)
    else .double (.ofDecimal negative d.coefficient d.power)
  | _ => .null

def OllamaConfig.toJson (c : OllamaConfig) : Json :=
  .object [("enabled",.bool c.enabled), ("base_url",.text c.baseUrl), ("model",.text c.model)]

def OpenAiConfig.toJson (c : OpenAiConfig) : Json :=
  .object [("base_url",.text c.baseUrl), ("model",.text c.model), ("api_key",optionalText c.apiKey),
    ("org_id",optionalText c.organization), ("project_id",optionalText c.project),
    ("temperature",optionalSingle c.temperature)]

def GeminiConfig.toJson (c : GeminiConfig) : Json :=
  .object [("base_url",.text c.baseUrl), ("model",.text c.model), ("api_key",optionalText c.apiKey),
    ("temperature",optionalSingle c.temperature)]

def BackendsConfig.toJson (c : BackendsConfig) : Json :=
  .object [("default",.text c.default), ("request_timeout_secs",.nat c.requestTimeout),
    ("ollama",c.ollama.toJson), ("openai",c.openai.toJson), ("gemini",c.gemini.toJson)]

def Config.toJson (c : Config) : Json :=
  .object [("server",c.server.toJson), ("session",c.session.toJson), ("guard",c.guard.toJson),
    ("database",c.database.toJson), ("backends",c.backends.toJson)]

end Querent
