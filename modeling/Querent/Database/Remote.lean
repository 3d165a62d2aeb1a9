import Querent.Database.Fault
import Querent.Text.Percent

/-! Addresses of database servers. An address is looked at before anything is sent to it. -/
namespace Querent.Database.Remote

def afterScheme? (cs : List Char) : Option (List Char) :=
  let (scheme, rest) := cs.span fun c => c.isAlphanum || c == '+' || c == '-' || c == '.'
  match scheme, rest with
  | first :: _, ':' :: rest => if first.isAlpha then some rest else none
  | _, _ => none

def cleaned (cs : List Char) : List Char :=
  let outer := fun (c : Char) => decide (c.toNat ≤ 32)
  let inside := ((cs.dropWhile outer).reverse.dropWhile outer).reverse
  inside.filter fun c => c != '\t' && c != '\n' && c != '\r'

def splitLast (sign : Char) (cs : List Char) : Option (List Char × List Char) :=
  let (behind, before) := cs.reverse.span (· != sign)
  match before with
  | _ :: before => some (before.reverse,behind.reverse)
  | [] => none

def forbidden : List Char :=
  ['\x00', ' ', '#', '/', ':', '<', '>', '?', '@', '[', '\\', ']', '^', '|']

def portProblem (port : List Char) : Option String :=
  let value := port.foldl (fun n c => min 65536 (n * 10 + (c.toNat - 48))) 0
  if port.all Char.isDigit && value < 65536 then none else some "invalid port number"

def hostProblem (named : Bool) (cs : List Char) : Option String :=
  let (host, port) := match cs with
    | '[' :: inside =>
      let (address, rest) := inside.span (· != ']')
      ('[' :: address ++ rest.take 1,rest.drop 1)
    | _ => cs.span (· != ':')
  if host.isEmpty && (named || !port.isEmpty) then some "empty host"
  else match host with
    | '[' :: inside =>
      if inside.getLast? != some ']' then some "invalid IPv6 address" else portProblem (port.drop 1)
    | _ =>
      if host.any forbidden.contains then some "invalid domain character"
      else portProblem (port.drop 1)

def problem? (url : String) : Option String :=
  match afterScheme? (cleaned url.toList) with
  | none => some "relative URL without a base"
  | some ('/' :: '/' :: rest) =>
    let authority := rest.takeWhile fun c => c != '/' && c != '?' && c != '#'
    match splitLast '@' authority with
    | some (_, host) => hostProblem true host
    | none => hostProblem false authority
  | some _ => none

def connect (url : String) : Except Fault Unit :=
  match problem? url with
  | some reason => .error (.address reason)
  | none => .error .unreachable

example : problem? "nope" = some "relative URL without a base" := by decide +kernel
example : problem? "postgres://h:notaport/d" = some "invalid port number" := by decide +kernel
example : problem? "mysql://u:p@h:3306/d" = none := by decide +kernel

end Querent.Database.Remote
