import Querent.Config.Printer
import Querent.Server.Basic
import Querent.Server.Startup

/-! The command line: loads the configuration that a server would start with, and prints it. -/
namespace Querent.Main
open Server (Arguments)

def consulted : List String :=
  [Arguments.Parameter.config.variableName, Arguments.Parameter.bind.variableName,
    Config.openAiKeyVariable, Config.geminiKeyVariable]

def environment : IO (List (String × String)) :=
  consulted.filterMapM fun name => do
    return (← IO.getEnv name).map fun value => (name,value)

def find (path : String) : IO (Option (Directory.Entry String)) := do
  try return some (.file (← IO.FS.readFile path))
  catch fault => match fault with
    | .noFileOrDirectory .. => return none
    | _ => return some .directory

def start (environment : List (String × String)) (a : Arguments) : IO UInt32 := do
  match Server.load (← find a.config) environment a with
  | .error fault =>
    IO.eprintln fault.message
    if let some cause := fault.cause? then IO.eprintln cause
    return 1
  | .ok c => match Server.ofConfig c with
    | .error fault =>
      IO.eprintln fault.message
      return 1
    | .ok _ =>
      IO.println c.toJson.toText
      return 0

def run (words : List String) : IO UInt32 := do
  let environment ← environment
  match Arguments.read environment words with
  | .ok a => start environment a
  | .error fault =>
    if fault.isAnswer then
      IO.println fault.message
      return 0
    else
      IO.eprintln fault.message
      return 2

end Querent.Main

def main (words : List String) : IO UInt32 := Querent.Main.run words
