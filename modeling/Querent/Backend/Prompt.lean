import Querent.ResultSet
import Querent.Schema

/-! What backends are asked: the rules, with the schema or the rows, and the question. -/
namespace Querent.Backend

structure Prompt where
  system : String
  user : String
  deriving DecidableEq, Repr

namespace Prompt

def combined (p : Prompt) : String := p.system ++ "\n\n" ++ p.user

def queryRules : String := "\n".intercalate
  ["You are an expert SQL generator.",
    "Only generate SELECT queries or other queries that read data.",
    "Only use tables and columns from the schema below.",
    "Never include sensitive fields such as password, hashed_password, api keys or similar columns, whatever the question asks.",
    "If the question cannot be answered from the schema, reply with a short error message instead of SQL.",
    "Reply with the SQL query only, as plain text: no code fences, no explanation."]

def summaryRules : String :=
  "Summarize the following data in a conversational manner. Write in a concise and human-like way."

def forQuery (schema : Schema) (question : String) : Prompt :=
  ⟨queryRules ++ "\n\nSchema (table(column type, ...)):\n" ++ schema.display,
    "Question: " ++ question⟩

def forSummary (result : ResultSet) (question : String) : Prompt :=
  let remark := if result.truncated then
      "\nOnly the first " ++ toString result.size ++ " rows are shown."
    else ""
  ⟨summaryRules ++ remark,"Context: " ++ question ++ "\n\nData: " ++ result.text⟩

end Prompt
end Querent.Backend
