import Querent.Config.Reader
import Querent.Proofs.Toml.Setting

/-! The settings of a configuration: where each stands in a document, and how it is read. What a document
leaves out is the same whether it leaves out a field or the section around it, because what is put in place
of the fields makes up the default section. -/
namespace Querent
open Toml (RecordField Fields RecordPart Setting Settles asBoolean asList asSingle asText expandsLeaf
  expandsRecord settlesFields settlesParts)

namespace ServerConfig

def fields : List (RecordField ServerConfig) :=
  [⟨"bind",asText,fun bind c => { c with bind },(·.bind),id⟩,
    ⟨"log_level",asText,fun logLevel c => { c with logLevel },(·.logLevel),id⟩]

def settings : List (Setting ServerConfig) := fields.map RecordField.setting

theorem unsetDefault : unset = {} := rfl

theorem separate : Fields slots fields where
  slots := rfl
  names := by decide
  own := by simp [fields]
  others := by simp [fields]
  ext := by
    rintro ⟨_,_⟩ ⟨_,_⟩ agree
    simpa [fields] using agree

theorem settles : Settles ofToml {} settings := by
  rw [ofToml,unsetDefault]
  exact settlesFields separate (List.cons_ne_nil _ _) _ _

end ServerConfig

namespace SessionConfig

def fields : List (RecordField SessionConfig) :=
  [⟨"read_deadline_secs",asU64,fun readDeadline c => { c with readDeadline },(·.readDeadline),id⟩,
    ⟨"ping_interval_secs",asU64,fun pingInterval c => { c with pingInterval },(·.pingInterval),id⟩,
    ⟨"inbound_capacity",asSize,fun inboundCapacity c => { c with inboundCapacity },(·.inboundCapacity),id⟩,
    ⟨"outbound_capacity",asSize,fun outboundCapacity c => { c with outboundCapacity },
      (·.outboundCapacity),id⟩]

def settings : List (Setting SessionConfig) := fields.map RecordField.setting

theorem unsetDefault : unset = {} := rfl

theorem separate : Fields slots fields where
  slots := rfl
  names := by decide
  own := by simp [fields]
  others := by simp [fields]
  ext := by
    rintro ⟨_,_,_,_⟩ ⟨_,_,_,_⟩ agree
    simpa [fields] using agree

theorem settles : Settles ofToml {} settings := by
  rw [ofToml,unsetDefault]
  exact settlesFields separate (List.cons_ne_nil _ _) _ _

end SessionConfig

namespace GuardConfig

def fields : List (RecordField GuardConfig) :=
  [⟨"restricted_keywords",asList asText,fun restrictedKeywords c => { c with restrictedKeywords },
      (·.restrictedKeywords),id⟩]

def settings : List (Setting GuardConfig) := fields.map RecordField.setting

theorem unsetDefault : unset = {} := rfl

theorem separate : Fields slots fields where
  slots := rfl
  names := by decide
  own := by simp [fields]
  others := by simp [fields]
  ext := by
    rintro ⟨_⟩ ⟨_⟩ agree
    simpa [fields] using agree

theorem settles : Settles ofToml {} settings := by
  rw [ofToml,unsetDefault]
  exact settlesFields separate (List.cons_ne_nil _ _) _ _

end GuardConfig

namespace DatabaseConfig

def fields : List (RecordField DatabaseConfig) :=
  [⟨"max_connections",asU32,fun maxConnections c => { c with maxConnections },(·.maxConnections),id⟩,
    ⟨"acquire_timeout_secs",asU64,fun acquireTimeout c => { c with acquireTimeout },(·.acquireTimeout),id⟩,
    ⟨"max_result_rows",asSize,fun maxResultRows c => { c with maxResultRows },(·.maxResultRows),id⟩]

def settings : List (Setting DatabaseConfig) := fields.map RecordField.setting

theorem unsetDefault : unset = {} := rfl

theorem separate : Fields slots fields where
  slots := rfl
  names := by decide
  own := by simp [fields]
  others := by simp [fields]
  ext := by
    rintro ⟨_,_,_⟩ ⟨_,_,_⟩ agree
    simpa [fields] using agree

theorem settles : Settles ofToml {} settings := by
  rw [ofToml,unsetDefault]
  exact settlesFields separate (List.cons_ne_nil _ _) _ _

end DatabaseConfig

namespace OllamaConfig

def fields : List (RecordField OllamaConfig) :=
  [⟨"enabled",asBoolean,fun enabled c => { c with enabled },(·.enabled),id⟩,
    ⟨"base_url",asText,fun baseUrl c => { c with baseUrl },(·.baseUrl),id⟩,
    ⟨"model",asText,fun model c => { c with model },(·.model),id⟩]

def settings : List (Setting OllamaConfig) := fields.map RecordField.setting

theorem unsetDefault : unset = {} := rfl

theorem separate : Fields slots fields where
  slots := rfl
  names := by decide
  own := by simp [fields]
  others := by simp [fields]
  ext := by
    rintro ⟨_,_,_⟩ ⟨_,_,_⟩ agree
    simpa [fields] using agree

theorem settles : Settles ofToml {} settings := by
  rw [ofToml,unsetDefault]
  exact settlesFields separate (List.cons_ne_nil _ _) _ _

end OllamaConfig

namespace OpenAiConfig

def fields : List (RecordField OpenAiConfig) :=
  [⟨"base_url",asText,fun baseUrl c => { c with baseUrl },(·.baseUrl),id⟩,
    ⟨"model",asText,fun model c => { c with model },(·.model),id⟩,
    ⟨"api_key",asText,fun apiKey c => { c with apiKey := some apiKey },(·.apiKey),some⟩,
    ⟨"org_id",asText,fun organization c => { c with organization := some organization },
      (·.organization),some⟩,
    ⟨"project_id",asText,fun project c => { c with project := some project },(·.project),some⟩,
    ⟨"temperature",asSingle,fun temperature c => { c with temperature := some temperature },
      (·.temperature),some⟩]

def settings : List (Setting OpenAiConfig) := fields.map RecordField.setting

theorem unsetDefault : unset = {} := rfl

theorem separate : Fields slots fields where
  slots := rfl
  names := by decide
  own := by simp [fields]
  others := by simp [fields]
  ext := by
    rintro ⟨_,_,_,_,_,_⟩ ⟨_,_,_,_,_,_⟩ agree
    simpa [fields] using agree

theorem settles : Settles ofToml {} settings := by
  rw [ofToml,unsetDefault]
  exact settlesFields separate (List.cons_ne_nil _ _) _ _

end OpenAiConfig

namespace GeminiConfig

def fields : List (RecordField GeminiConfig) :=
  [⟨"base_url",asText,fun baseUrl c => { c with baseUrl },(·.baseUrl),id⟩,
    ⟨"model",asText,fun model c => { c with model },(·.model),id⟩,
    ⟨"api_key",asText,fun apiKey c => { c with apiKey := some apiKey },(·.apiKey),some⟩,
    ⟨"temperature",asSingle,fun temperature c => { c with temperature := some temperature },
      (·.temperature),some⟩]

def settings : List (Setting GeminiConfig) := fields.map RecordField.setting

theorem unsetDefault : unset = {} := rfl

theorem separate : Fields slots fields where
  slots := rfl
  names := by decide
  own := by simp [fields]
  others := by simp [fields]
  ext := by
    rintro ⟨_,_,_,_⟩ ⟨_,_,_,_⟩ agree
    simpa [fields] using agree

theorem settles : Settles ofToml {} settings := by
  rw [ofToml,unsetDefault]
  exact settlesFields separate (List.cons_ne_nil _ _) _ _

end GeminiConfig

namespace BackendsConfig

def parts : List (RecordPart BackendsConfig) :=
  [.leaf ⟨"default",asText,fun default c => { c with default },(·.default),id⟩,
    .leaf ⟨"request_timeout_secs",asU64,fun requestTimeout c => { c with requestTimeout },
      (·.requestTimeout),id⟩,
    .record "ollama" OllamaConfig.ofToml (fun ollama c => { c with ollama }) (·.ollama) OllamaConfig.settings,
    .record "openai" OpenAiConfig.ofToml (fun openai c => { c with openai }) (·.openai) OpenAiConfig.settings,
    .record "gemini" GeminiConfig.ofToml (fun gemini c => { c with gemini }) (·.gemini) GeminiConfig.settings]

def settings : List (Setting BackendsConfig) := parts.flatMap (·.settings)

theorem unsetDefault : unset = {} := rfl

theorem separate : Fields slots (parts.map (·.field)) where
  slots := rfl
  names := by decide
  own := by simp [parts,RecordPart.leaf,RecordPart.record]
  others := by simp [parts,RecordPart.leaf,RecordPart.record]
  ext := by
    rintro ⟨_,_,_,_,_⟩ ⟨_,_,_,_,_⟩ agree
    simpa [parts,RecordPart.leaf,RecordPart.record] using agree

theorem settles : Settles ofToml {} settings := by
  rw [ofToml,unsetDefault]
  refine settlesParts separate (List.cons_ne_nil _ _) ?_ _
  simp only [parts,List.forall_mem_cons]
  exact ⟨expandsLeaf _ _,expandsLeaf _ _,expandsRecord OllamaConfig.settles (by rfl) _ _,
    expandsRecord OpenAiConfig.settles (by rfl) _ _,expandsRecord GeminiConfig.settles (by rfl) _ _,nofun⟩

end BackendsConfig

namespace Config

def parts : List (RecordPart Config) :=
  [.record "server" ServerConfig.ofToml (fun server c => { c with server }) (·.server) ServerConfig.settings,
    .record "session" SessionConfig.ofToml (fun session c => { c with session }) (·.session)
      SessionConfig.settings,
    .record "guard" GuardConfig.ofToml (fun guard c => { c with guard }) (·.guard) GuardConfig.settings,
    .record "database" DatabaseConfig.ofToml (fun database c => { c with database }) (·.database)
      DatabaseConfig.settings,
    .record "backends" BackendsConfig.ofToml (fun backends c => { c with backends }) (·.backends)
      BackendsConfig.settings]

def settings : List (Setting Config) := parts.flatMap (·.settings)

theorem unsetDefault : unset = {} := rfl

theorem separate : Fields slots (parts.map (·.field)) where
  slots := rfl
  names := by decide
  own := by simp [parts,RecordPart.record]
  others := by simp [parts,RecordPart.record]
  ext := by
    rintro ⟨_,_,_,_,_⟩ ⟨_,_,_,_,_⟩ agree
    simpa [parts,RecordPart.record] using agree

theorem settles : Settles (Toml.asRecord "AskdbConfig" slots unset) {} settings := by
  rw [unsetDefault]
  refine settlesParts separate (List.cons_ne_nil _ _) ?_ _
  simp only [parts,List.forall_mem_cons]
  exact ⟨expandsRecord ServerConfig.settles (by rfl) _ _,expandsRecord SessionConfig.settles (by rfl) _ _,
    expandsRecord GuardConfig.settles (by rfl) _ _,expandsRecord DatabaseConfig.settles (by rfl) _ _,
    expandsRecord BackendsConfig.settles (by rfl) _ _,nofun⟩

end Config
end Querent
