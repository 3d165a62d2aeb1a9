import Querent.Server.About

/-! The command line of the server. Two options take a value each, and variables of the environment
stand in for those that are not given. -/
namespace Querent.Server

structure Arguments where
  config : String
  bind : Option String
  deriving DecidableEq, Repr

namespace Arguments

def defaultConfig : String := "askdb.toml"

inductive Parameter where
  | config
  | bind
  deriving DecidableEq, Repr

def Parameter.variableName : Parameter → String
  | .config => "ASKDB_CONFIG"
  | .bind => "ASKDB_BIND"

inductive Fault where
  | unknown
  | noValue
  | repeated
  | needlessValue
  | help
  | version
  deriving DecidableEq, Repr

def usage : String := "usage: " ++ service ++ " [--config <CONFIG>] [--bind <BIND>]"

def Fault.message : Fault → String
  | .unknown => "unexpected argument"
  | .noValue => "a value is required"
  | .repeated => "an argument cannot be used multiple times"
  | .needlessValue => "unexpected value"
  | .help => usage
  | .version => service ++ " " ++ Server.version

def Fault.isAnswer (f : Fault) : Bool := f = .help || f = .version

structure Progress where
  config : Option String
  bind : Option String
  waiting : Option (Parameter × Option String)
  deriving DecidableEq, Repr

namespace Progress

def initial : Progress := ⟨none,none,none⟩

def assign (p : Progress) (parameter : Parameter) (value : String) : Except Fault Progress :=
  match parameter with
  | .config =>
    if p.config.isSome then .error .repeated
    else if value = "" then .error .noValue
    else .ok { p with config := some value }
  | .bind =>
    if p.bind.isSome then .error .repeated else .ok { p with bind := some value }

def settled (p : Progress) : Except Fault Progress :=
  match p.waiting with
  | none => .ok p
  | some (_, none) => .error .noValue
  | some (parameter, some value) => { p with waiting := none }.assign parameter value

def begin_ (p : Progress) (parameter : Parameter) (value : Option String) : Except Fault Progress := do
  let p ← p.settled
  match value with
  | some value => p.assign parameter value
  | none => return { p with waiting := some (parameter,none) }

def asked (p : Progress) (question : Fault) : Except Fault Progress := do
  let _ ← p.settled
  throw question

def long (p : Progress) (name : String) (value : Option String) : Except Fault Progress :=
  match name with
  | "config" => p.begin_ .config value
  | "bind" => p.begin_ .bind value
  | "help" => if value.isSome then .error .needlessValue else p.asked .help
  | "version" => if value.isSome then .error .needlessValue else p.asked .version
  | _ => .error .unknown

def short (p : Progress) : Char → Except Fault Progress
  | 'h' => p.asked .help
  | 'V' => p.asked .version
  | _ => .error .unknown

def plain (p : Progress) (word : String) : Except Fault Progress :=
  match p.waiting with
  | some (parameter, none) => .ok { p with waiting := some (parameter,some word) }
  | _ => .error .unknown

def word (p : Progress) (w : String) : Except Fault Progress :=
  match w.toList with
  | '-' :: '-' :: cs =>
    let (name, value) := cs.span (· != '=')
    p.long (String.ofList name) (match value with
      | _ :: value => some (String.ofList value)
      | [] => none)
  | '-' :: c :: _ => p.short c
  | _ => p.plain w

def words (p : Progress) : List String → Except Fault Progress
  | [] => p.settled
  | w :: rest =>
    if w = "--" then if rest = [] then p.settled else .error .unknown
    else do words (← p.word w) rest

end Progress

def fromEnvironment (environment : List (String × String)) (parameter : Parameter)
    (given : Option String) (p : Progress) : Except Fault Progress :=
  match given, environment.lookup parameter.variableName with
  | none, some value => p.assign parameter value
  | _, _ => .ok p

def read (environment : List (String × String)) (words : List String) : Except Fault Arguments := do
  let p ← Progress.initial.words words
  let p ← fromEnvironment environment .config p.config p
  let p ← fromEnvironment environment .bind p.bind p
  return ⟨p.config.getD defaultConfig,p.bind⟩

example : read [("ASKDB_BIND","b:1")] ["--config=x.toml"] = .ok ⟨"x.toml",some "b:1"⟩ := rfl

example : read [] ["--bind", "--config", "x.toml"] = .error .noValue := rfl

end Arguments
end Querent.Server
