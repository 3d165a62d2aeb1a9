import Querent.Text.Blank
import Querent.Text.Case

/-! The kinds of backends and the names that select them. -/
namespace Querent.Backend

inductive Kind where
  | ollama
  | openai
  | gemini
  deriving DecidableEq, Repr

def lookupName (name : String) : String := Text.lowercased (Text.trimmed name)

namespace Kind

def all : List Kind := [.ollama, .openai, .gemini]

def aliases : Kind → List String
  | .ollama => ["llama", "ollama"]
  | .openai => ["openai", "gpt"]
  | .gemini => ["gemini"]

def name : Kind → String
  | .ollama => "ollama"
  | .openai => "openai"
  | .gemini => "gemini"

def ofName? (name : String) : Option Kind :=
  all.find? fun kind => kind.aliases.contains (lookupName name)

end Kind
end Querent.Backend
