import Querent.Sqlite.Plan
import Querent.Sqlite.Reader

/-! Running scripts on a store that is never changed. Each statement is read when those before it are
done. -/
namespace Querent.Sqlite

def Statement.run (levels : Nat) (s : Store) : Statement → Except Fault (List (List (String × Value)))
  | .query q => q.run levels s
  | .change table => .error (if (s.table? table).isSome then .readOnly else .noTable table)
  | .create table unlessThere =>
    if (s.table? table).isNone then .error .readOnly
    else if unlessThere then .ok [] else .error (.tableExists table)
  | .drop table ifThere =>
    if (s.table? table).isSome then .error .readOnly
    else if ifThere then .ok [] else .error (.noTable table)

def Script.runFrom (s : Store) (page : Page) : (statements : Nat) → List Lexeme →
    List (Except Fault (List (String × Value)))
  | 0, _ => []
  | n + 1, ls => match (Reader.nextStatement.run page).run ls with
    | .error fault => [.error fault]
    | .ok (none, _) => []
    | .ok (some statement, rest) => match statement.run (2 * ls.length + 2) s with
      | .error fault => [.error fault]
      | .ok rows => rows.map .ok ++ runFrom s page n rest

def Script.opened (sql : String) : Page × List Lexeme :=
  let text := sql.toList
  let (ls, illegal) := lexemes text
  let ending := match illegal with
    | some token => .unrecognized token
    | none => .incomplete
  (⟨text,ending⟩,ls)

def Script.run (s : Store) (sql : String) : List (Except Fault (List (String × Value))) :=
  let (page, ls) := opened sql
  runFrom s page (ls.length + 1) ls

end Querent.Sqlite
