import Querent.Backend.Provider
import Querent.Guard
import Querent.Session.Basic

/-! A server: its settings, its backends, and its live sessions. -/
namespace Querent

structure Server where
  config : Config
  backends : Backend.Registry Backend.Provider
  guard : Guard
  sessions : Session.Registry
  closing : Bool

namespace Server

def ofConfig (c : Config) : Except Backend.Failure Server := do
  return ⟨c,← Backend.Registry.ofConfig c.backends,Guard.ofConfig c.guard,.empty,false⟩

def closeSessions (s : Server) : Server := { s with closing := true }

def rules (s : Server) : Dispatcher.Rules :=
  ⟨⟨s.guard,s.config.database.maxResultRows⟩,s.config.backends.default⟩

def limits (s : Server) : Session.Limits := .ofConfig s.config.session

end Server
end Querent
