import Querent.Config.Reader
import Querent.Directory
import Querent.Server.Arguments

/-! Loading the configuration of a server: the file, then keys from the environment, then the address
from the command line. What comes out can be used. -/
namespace Querent.Server

inductive LoadFault where
  | missing (path : String)
  | directory (path : String)
  | malformed (path : String) (fault : Config.Fault)
  | unusable (problem : Config.Problem)
  deriving DecidableEq, Repr

def LoadFault.message : LoadFault → String
  | .missing path => "config file not found: " ++ path
  | .directory path => "failed to load " ++ path
  | .malformed path _ => "failed to load " ++ path
  | .unusable _ => "invalid configuration"

def directoryMessage : String := "IO error: Is a directory (os error 21)"

def LoadFault.cause? : LoadFault → Option String
  | .missing _ => none
  | .directory _ => some directoryMessage
  | .malformed _ .grammar => some "the file is not TOML"
  | .malformed _ (.shape fault) => some (fault.message Toml.messages)
  | .unusable problem => some problem.report

def readConfig (path : String) : Option (Directory.Entry String) → Except LoadFault Config
  | some (.file text) => match Config.parse text with
    | .ok c => .ok c
    | .error fault => .error (.malformed path fault)
  | some .directory => .error (.directory path)
  | none =>
    if Directory.isSamePath path Arguments.defaultConfig then .ok {} else .error (.missing path)

def withBind (bind : Option String) (c : Config) : Config :=
  { c with server := { c.server with bind := bind.getD c.server.bind } }

def load (found : Option (Directory.Entry String)) (environment : List (String × String))
    (a : Arguments) : Except LoadFault Config := do
  let c := withBind a.bind ((← readConfig a.config found).override environment)
  match c.problem? with
  | none => return c
  | some problem => throw (.unusable problem)

end Querent.Server
