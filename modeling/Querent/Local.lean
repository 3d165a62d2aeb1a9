import Querent.Database.Mapper
import Querent.Database.Remote
import Querent.Sqlite.Address
import Querent.Sqlite.Script
import Querent.World

/-! A world without a network: databases are files of a directory, and no server can be reached. -/
namespace Querent.World
open Database (Handle Catalog Cell Feed)

def storeOf (files : Sqlite.Files) (h : Handle) : Except Database.Fault Sqlite.Store :=
  match h.engine with
  | .sqlite => files.connect h.url
  | _ => .error .unreachable

def rowsOf (s : Sqlite.Store) (sql : String) : Feed Database.Fault Sqlite.Value :=
  (Sqlite.Script.run s sql).map (·.mapError fun fault => .reported fault.message)

def rowsFrom (files : Sqlite.Files) (url sql : String) : (engine : Engine) →
    Feed Database.Fault (Cell engine)
  | .sqlite => match files.connect url with
    | .ok s => rowsOf s sql
    | .error fault => [.error fault]
  | .postgres => [.error .unreachable]
  | .mysql => [.error .unreachable]

def ofFiles (files : Sqlite.Files) (backends : Backend.Registry Backend) (now : Instant) : World where
  now := now
  backends := backends
  connect engine url := match engine with
    | .sqlite => (files.connect url).map fun _ => ()
    | _ => Database.Remote.connect url
  catalog h database := match storeOf files h with
    | .ok s => Engine.sqlite.mapper.catalog database s.answer
    | .error fault => ⟨.error fault,fun _ => .error fault⟩
  rows h sql := rowsFrom files h.url sql h.engine

end Querent.World
