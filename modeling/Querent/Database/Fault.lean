import Querent.Engine

/-! What can go wrong with a database. -/
namespace Querent.Database

inductive Fault where
  | address (reason : String)
  | unreachable
  | reported (report : String)
  | closed
  | noColumn (name : String)
  | undecodable (column reason : String)
  deriving DecidableEq, Repr

def Fault.message : Fault → String
  | .address reason => "error with configuration: " ++ reason
  | .unreachable => "error communicating with database: Network is unreachable (os error 101)"
  | .reported report => "error returned from database: " ++ report
  | .closed => "attempted to acquire a connection on a closed pool"
  | .noColumn name => "no column found for name: " ++ name
  | .undecodable column reason =>
    "error occurred while decoding column \"" ++ column ++ "\": " ++ reason

inductive Failure where
  | unsupported (tag : String)
  | connect (engine : Engine) (fault : Fault)
  | introspection (fault : Fault)
  | mismatch (reader engine : Engine)
  | execution (fault : Fault)
  deriving DecidableEq, Repr

def Failure.message : Failure → String
  | .unsupported tag => "unsupported database engine: " ++ tag
  | .connect engine fault => "failed to connect to " ++ engine.name ++ " database: " ++ fault.message
  | .introspection fault => "failed to read database schema: " ++ fault.message
  | .mismatch reader engine =>
    reader.name ++ " introspector cannot read a " ++ engine.name ++ " database"
  | .execution fault => "query execution failed: " ++ fault.message

end Querent.Database
