import Querent.Database.Fault
import Querent.Directory
import Querent.Sqlite.Fault
import Querent.Sqlite.Store
import Querent.Text.Percent
import Querent.Text.Quoted

/-! Addresses of SQLite databases: a file or the memory, with parameters that say how it is opened.
Whatever they say, a database is opened for reading only and never made. -/
namespace Querent.Sqlite

structure Address where
  file : String
  inMemory : Bool
  driver : Option String
  deriving DecidableEq, Repr

namespace Address

def withoutScheme (scheme : List Char) : (fuel : Nat) → List Char → List Char
  | 0, cs => cs
  | fuel + 1, cs =>
    if scheme.isPrefixOf cs then withoutScheme scheme fuel (cs.drop scheme.length) else cs

def unknownValue (name value : String) : Database.Fault :=
  .address ("unknown value " ++ Text.Quoted.quoted value ++ " for \x60" ++ name ++ "\x60")

def choices : List (String × List String) :=
  [("mode",["ro", "rw", "rwc", "memory"]), ("cache",["private", "shared"]),
    ("immutable",["true", "1", "false", "0"])]

def withParameter (a : Address) (parameter : String × String) : Except Database.Fault Address :=
  let (name, value) := parameter
  match choices.lookup name with
  | some values =>
    if values.contains value then .ok { a with inMemory := a.inMemory || value == "memory" }
    else .error (unknownValue name value)
  | none =>
    if name = "vfs" then .ok { a with driver := some value }
    else .error (.address ("unknown query parameter \x60" ++ name
      ++ "\x60 while parsing connection URL"))

def parse (url : String) : Except Database.Fault Address := do
  let cs := url.toList
  let cs := withoutScheme "sqlite://".toList cs.length cs
  let cs := withoutScheme "sqlite:".toList cs.length cs
  let (file, parameters) := cs.span (· != '?')
  let start ← if file = ":memory:".toList then pure ⟨"",true,none⟩
    else match Text.Utf8.decode (Text.Percent.octets file) with
      | .ok name => pure ⟨String.ofList name,false,none⟩
      | .error fault => throw (.address fault.message)
  (Text.Percent.parameters (parameters.drop 1)).foldlM withParameter start

end Address

abbrev Files := Directory Store

namespace Files

def drivers : List String := ["unix", "unix-dotfile", "unix-excl", "unix-none", "memdb"]

def openAt (files : Files) (a : Address) : Except Fault Store :=
  match a.driver.filter (!drivers.contains ·) with
  | some driver => .error (.noDriver driver)
  | none =>
    if a.inMemory || a.file = "" then .ok .empty
    else match files.find? a.file with
      | some (.file store) => .ok store
      | _ => .error .cannotOpen

def connect (files : Files) (url : String) : Except Database.Fault Store := do
  let a ← Address.parse url
  match files.openAt a with
  | .ok store => return store
  | .error fault => throw (.reported fault.message)

end Files
end Querent.Sqlite
