import Querent.Proofs.Guard.Judgment
import Querent.Proofs.Sql.Quiet.Script

/-! Texts that a guard lets pass, and the dialect that it did not ask. The guard does not know for
which engine a text is, and where PostgreSQL can read the text, MySQL is not asked. What is assumed of
MySQL's parser, that it reads a harm only where one of its keywords is written, is proved of the one that
runs. -/
namespace Querent.Guard
open Sql (Dialect Harm Node Parser Statement Verdict)
open Sql.Reader (keyOf)

/-- How a text that was let pass stands in a dialect that can read it. Where it is no single statement
that only reads, it was let pass as PostgreSQL and MySQL finds something else: no single query, or a
query that does some harm, and one of the keywords of that harm among its own tokens. -/
inductive Standing (p : Parser) (sql : String) : Dialect → List Statement → Prop where
  | read {d found} (reads : Reads found) (verdict : p.classify d sql = .read) :
      Standing p sql d found
  | notQuery {primary found} (decided : p.parse .postgres sql = .ok primary) (reads : Reads primary)
      (other : ∀ q, found ≠ [.query q]) : Standing p sql .mysql found
  | marked {primary q ts t} (h : Harm) (decided : p.parse .postgres sql = .ok primary)
      (reads : Reads primary) (harms : ¬(Node.query q).Free h) (lexed : p.tokens .mysql sql = .ok ts)
      (member : t ∈ ts) (mark : keyOf (some t.token) ∈ h.marks) : Standing p sql .mysql [.query q]

section Passed
variable {p : Parser} {g : Guard} {sql : String}

theorem passedReads (passed : g.checkWith p sql = .ok ()) :
    ∃ d found, Decides p sql d found ∧ Reads found := by
  have judged := judgedCheck p g sql
  rw [passed] at judged
  cases judged with
  | passed clear decides reads => exact ⟨_,_,decides,reads⟩

theorem parseTokens {d : Dialect} {found : List Statement} (read : p.parse d sql = .ok found) :
    ∃ ts, p.tokens d sql = .ok ts ∧ p.statements d ts = .ok found := by
  cases lexed : p.tokens d sql with
  | ok ts =>
    refine ⟨ts,rfl,?_⟩
    rw [Parser.parse,lexed] at read
    exact read
  | error =>
    rw [Parser.parse,lexed] at read
    contradiction

theorem parsedOfRead {d : Dialect} (read : p.classify d sql = .read) :
    ∃ found, p.parse d sql = .ok found := by
  cases parsed : p.parse d sql with
  | ok found => exact ⟨found,rfl⟩
  | error unread =>
    rw [classifyUnread parsed] at read
    contradiction

theorem standingRead {d : Dialect} {found : List Statement} (read : p.parse d sql = .ok found)
    (reads : Reads found) : Standing p sql d found :=
  .read reads (classifyPassed read reads)

theorem standingUnasked {primary found : List Statement} (spells : p.Spells .mysql)
    (decided : p.parse .postgres sql = .ok primary) (reads : Reads primary)
    (read : p.parse .mysql sql = .ok found) : Standing p sql .mysql found := by
  by_cases single : ∃ q, found = [.query q]
  · obtain ⟨q,rfl⟩ := single
    by_cases harmless : ∀ h, (Node.query q).Free h
    · exact standingRead read ⟨_,rfl,q,rfl,Node.onlyReadsOfFree harmless⟩
    · obtain ⟨h,harms⟩ := Classical.not_forall.mp harmless
      obtain ⟨ts,lexed,parsed⟩ := parseTokens read
      obtain ⟨t,member,mark⟩ := spells h parsed harms
      exact .marked h decided reads harms lexed member mark
  · exact .notQuery decided reads fun q same => single ⟨q,same⟩

end Passed

-- What is text to the one dialect is a second statement to the other.
example : Verdict.of .postgres "SELECT '\\''; DROP TABLE t; -- '" = .read ∧
    Verdict.of .mysql "SELECT '\\''; DROP TABLE t; -- '" = .other "2 statements" := by
  decide +kernel

end Querent.Guard
