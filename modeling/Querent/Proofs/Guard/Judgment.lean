import Querent.Guard
import Querent.Proofs.Sql.Depth

/-! What a guard lets pass, said without the order in which it looks: which keyword a refusal names,
which dialect decides, and what a text has to be in that dialect. How a text is read is left to the
parser. -/
namespace Querent
open Sql (Dialect Parser Statement Verdict)

namespace Guard

theorem holdsIff {part text : List Char} : holds part text = true ↔ part <:+: text := by
  induction text with
  | nil => simp [holds]
  | cons c rest ih =>
    rw [holds,Bool.or_eq_true,ih,List.isPrefixOf_iff_prefix]
    exact List.infix_cons_iff.symm

def Occurs (keyword sql : String) : Prop := keyword.toList <:+: Text.lower sql.toList

inductive FirstKeyword (g : Guard) (sql : String) : String → Prop where
  | intro {before keyword after} (listed : g.keywords = before ++ keyword :: after)
      (occurs : Occurs keyword sql) (first : ∀ earlier ∈ before, ¬Occurs earlier sql) :
      FirstKeyword g sql keyword

theorem keywordSomeIff {g : Guard} {sql keyword : String} :
    g.keyword? sql = some keyword ↔ FirstKeyword g sql keyword := by
  have same : g.keyword? sql = g.keywords.find? fun k => holds k.toList (Text.lower sql.toList) := rfl
  rw [same,List.find?_eq_some_iff_append]
  constructor
  · rintro ⟨found,before,after,listed,none⟩
    refine ⟨listed,holdsIff.mp found,?_⟩
    intro earlier member occurs
    have absent := none earlier member
    rw [holdsIff.mpr occurs] at absent
    contradiction
  · rintro ⟨listed,occurs,first⟩
    refine ⟨holdsIff.mpr occurs,_,_,listed,?_⟩
    intro earlier member
    rw [Bool.not_eq_true',← Bool.not_eq_true,holdsIff]
    exact first earlier member

theorem keywordNoneIff {g : Guard} {sql : String} :
    g.keyword? sql = none ↔ ∀ keyword ∈ g.keywords, ¬Occurs keyword sql := by
  simp [keyword?,holdsIff,Occurs]

inductive Decides (p : Parser) (sql : String) : Dialect → List Statement → Prop where
  | primary {found} (read : p.parse .postgres sql = .ok found) : Decides p sql .postgres found
  | secondary {found error} (unread : p.parse .postgres sql = .error error)
      (read : p.parse .mysql sql = .ok found) : Decides p sql .mysql found

def Reads (found : List Statement) : Prop := ∃ s, found = [s] ∧ s.OnlyReads

def refusedAs : List Statement → String
  | [] => "empty query"
  | [s] => s.label
  | many => toString many.length ++ " statements"

inductive Judged (p : Parser) (g : Guard) (sql : String) : Except Refusal Unit → Prop where
  | keyword {keyword} (first : FirstKeyword g sql keyword) : Judged p g sql (.error (.keyword keyword))
  | passed {d found} (clear : ∀ keyword ∈ g.keywords, ¬Occurs keyword sql)
      (decides : Decides p sql d found) (reads : Reads found) : Judged p g sql (.ok ())
  | refused {d found} (clear : ∀ keyword ∈ g.keywords, ¬Occurs keyword sql)
      (decides : Decides p sql d found) (other : ¬Reads found) :
      Judged p g sql (.error (.notRead (refusedAs found) d))
  | unparsed {postgres mysql} (clear : ∀ keyword ∈ g.keywords, ¬Occurs keyword sql)
      (primary : p.parse .postgres sql = .error postgres)
      (secondary : p.parse .mysql sql = .error mysql) :
      Judged p g sql (.error (@Refusal.unparsed postgres mysql))

theorem verdictPassed {found : List Statement} (reads : Reads found) :
    Verdict.ofStatements found = .read := by
  obtain ⟨s,rfl,only⟩ := reads
  simp [Verdict.ofStatements,Sql.isReadOnlyIff.mpr only]

theorem verdictRefused {found : List Statement} (other : ¬Reads found) :
    Verdict.ofStatements found = .other (refusedAs found) := by
  match found with
  | [] => rfl
  | [s] =>
    have more : ¬s.isReadOnly = true := fun only => other ⟨s,rfl,Sql.isReadOnlyIff.mp only⟩
    simp [Verdict.ofStatements,refusedAs,more]
  | _ :: _ :: _ => rfl

theorem classifyPassed {p : Parser} {sql : String} {d : Dialect} {found : List Statement}
    (read : p.parse d sql = .ok found) (reads : Reads found) : p.classify d sql = .read := by
  simp only [Parser.classify,read,verdictPassed reads]

theorem classifyRefused {p : Parser} {sql : String} {d : Dialect} {found : List Statement}
    (read : p.parse d sql = .ok found) (other : ¬Reads found) :
    p.classify d sql = .other (refusedAs found) := by
  simp only [Parser.classify,read,verdictRefused other]

theorem classifyUnread {p : Parser} {sql : String} {d : Dialect} {error : String}
    (unread : p.parse d sql = .error error) : p.classify d sql = @Verdict.unparsed error := by
  simp only [Parser.classify,unread]

section Answers
variable {p : Parser} {g : Guard} {sql : String}

theorem decidePassed {d : Dialect} {found : List Statement} (decides : Decides p sql d found)
    (reads : Reads found) : decide (p.classify .postgres sql) (p.classify .mysql sql) = .ok () := by
  cases decides with
  | primary read =>
    rw [classifyPassed read reads]
    rfl
  | secondary unread read =>
    rw [classifyUnread unread,classifyPassed read reads]
    rfl

theorem decideRefused {d : Dialect} {found : List Statement} (decides : Decides p sql d found)
    (other : ¬Reads found) : decide (p.classify .postgres sql) (p.classify .mysql sql) =
      .error (.notRead (refusedAs found) d) := by
  cases decides with
  | primary read =>
    rw [classifyRefused read other]
    rfl
  | secondary unread read =>
    rw [classifyUnread unread,classifyRefused read other]
    rfl

theorem checkWithClear (clear : ∀ keyword ∈ g.keywords, ¬Occurs keyword sql) :
    g.checkWith p sql = decide (p.classify .postgres sql) (p.classify .mysql sql) := by
  rw [checkWith,keywordNoneIff.mpr clear]

theorem checkClear (clear : ∀ keyword ∈ g.keywords, ¬Occurs keyword sql) :
    g.check sql = decide (.of .postgres sql) (.of .mysql sql) := checkWithClear clear

theorem checkPassed (clear : g.keyword? sql = none) (reads : Verdict.of .postgres sql = .read) :
    g.check sql = .ok () := by
  rw [checkClear (keywordNoneIff.mp clear),reads]
  rfl

theorem checkOfJudged {answer : Except Refusal Unit} (judged : Judged p g sql answer) :
    g.checkWith p sql = answer := by
  cases judged with
  | keyword first => rw [checkWith,keywordSomeIff.mpr first]
  | passed clear decides reads => rw [checkWithClear clear,decidePassed decides reads]
  | refused clear decides other => rw [checkWithClear clear,decideRefused decides other]
  | unparsed clear primary secondary =>
    rw [checkWithClear clear,classifyUnread primary,classifyUnread secondary]
    rfl

variable (p g sql) in
theorem someJudged : ∃ answer, Judged p g sql answer := by
  cases found : g.keyword? sql with
  | some keyword => exact ⟨_,.keyword (keywordSomeIff.mp found)⟩
  | none =>
    have clear := keywordNoneIff.mp found
    have decided {d found} (decides : Decides p sql d found) : ∃ answer, Judged p g sql answer := by
      by_cases reads : Reads found
      · exact ⟨_,.passed clear decides reads⟩
      · exact ⟨_,.refused clear decides reads⟩
    cases primary : p.parse .postgres sql with
    | ok found => exact decided (.primary primary)
    | error unread =>
      cases secondary : p.parse .mysql sql with
      | ok found => exact decided (.secondary primary secondary)
      | error => exact ⟨_,.unparsed clear primary secondary⟩

variable (p g sql) in
theorem judgedCheck : Judged p g sql (g.checkWith p sql) := by
  obtain ⟨answer,judged⟩ := someJudged p g sql
  rw [checkOfJudged judged]
  exact judged

theorem checkIffJudged {answer : Except Refusal Unit} :
    g.checkWith p sql = answer ↔ Judged p g sql answer := by
  constructor
  · rintro rfl
    exact judgedCheck p g sql
  · exact checkOfJudged

end Answers

end Guard
end Querent
