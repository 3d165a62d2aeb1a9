import Querent.Proofs.Sql.Quiet.Change

/-! From tokens that are a single query, a harm is only read where one of its keywords is among them. -/
namespace Querent.Sql
open Reader

structure Always {α : Type} (p : α → Prop) (r : Reader α) : Prop where
  holds : ∀ {ts x rest}, r ts = .ok (x,rest) → p x

section Rules
variable {α β : Type} {p : α → Prop} {q : β → Prop}

theorem Always.ofPure {x : α} (holds : p x) : Always p (pure x) where
  holds := by
    rintro _ _ _ ⟨⟩
    exact holds

theorem Always.behind {r : Reader α} {k : α → Reader β} (next : ∀ x, Always q (k x)) :
    Always q (r >>= k) where
  holds := by
    intro ts y rest read
    obtain ⟨x,left,_,after⟩ := bindOk read
    exact (next x).holds after

end Rules

section Harmless
variable [Concern]

instance : Tameness Statement := ⟨fun s => ∀ q, s = .query q → Tame q⟩

instance tameCommand (label : String) : Tame (Statement.command label) :=
  ⟨by simp [Tameness.tame]⟩

theorem tameStatement {q : Query} (tame : Tame q) : Tame (Statement.query q) where
  holds := by
    rintro _ ⟨⟩
    exact tame

structure Gives {α : Type} (p : α → Prop) (r : Reader α) : Prop where
  holds : ∀ {ts x rest}, Unmarked ts → r ts = .ok (x,rest) → p x

section Rules
variable {α β : Type} {p : α → Prop} {q : β → Prop}

theorem Always.gives {r : Reader α} (always : Always p r) : Gives p r :=
  ⟨fun _ read => always.holds read⟩

theorem Gives.behind [Tameness α] {r : Reader α} {k : α → Reader β} (quiet : Quiet r)
    (next : ∀ x, Tame x → Gives q (k x)) : Gives q (r >>= k) where
  holds := by
    intro ts y rest unmarked read
    obtain ⟨x,left,before,after⟩ := bindOk read
    obtain ⟨tame,kept⟩ := quiet.keeps unmarked before
    exact (next x tame).holds kept after

theorem Gives.followed {r : Reader α} {k : α → Reader β} (first : Gives p r)
    (next : ∀ x, p x → Always q (k x)) : Gives q (r >>= k) where
  holds := by
    intro ts y rest unmarked read
    obtain ⟨x,left,before,after⟩ := bindOk read
    exact (next x (first.holds unmarked before)).holds after

end Rules

theorem statementTame [Grammar] [QuietGrammar] : Gives Tame Command.statement := by
  unfold Command.statement
  refine .behind inferInstance fun first _ => .behind inferInstance fun sees _ => ?_
  split
  · exact .behind inferInstance fun q tame => (Always.ofPure (tameStatement tame)).gives
  · refine Always.gives ?_
    split
    · exact .behind fun _ => .behind fun _ => .behind fun _ => .ofPure (tameCommand "INSERT")
    · refine .behind fun found => ?_
      split
      · exact .ofPure (tameCommand _)
      · exact .behind fun _ => .behind fun _ => .ofPure (tameCommand _)

theorem firstTame [Grammar] (tame : Gives Tame Grammar.statement) (n : Nat) (delimited : Bool) :
    Gives (fun found => ∀ s ∈ found.head?, Tame s) (Script.statementsFor n delimited) := by
  have empty : ∀ s ∈ ([] : List Statement).head?, Tame s := by simp
  induction n generalizing delimited with
  | zero => exact ⟨by rintro _ _ _ _ ⟨⟩⟩
  | succ n ih =>
    unfold Script.statementsFor
    refine .behind inferInstance fun semicolon _ => ?_
    split
    · exact ih true
    · refine .behind inferInstance fun t _ => ?_
      split
      · exact (Always.ofPure empty).gives
      · refine .behind inferInstance fun ends _ => ?_
        split
        · exact (Always.ofPure empty).gives
        · refine .behind inferInstance fun _ _ => tame.followed fun s first => ?_
          refine .behind fun rest => .ofPure ?_
          simpa using first

theorem freeOfUnmarked {d : Dialect} {ts : List Lexeme} {q : Query} (unmarked : Unmarked ts)
    (parsed : Script.parser.statements d ts = .ok [.query q]) : (Node.query q).Free Concern.harm := by
  have deep : Gives Tame (Grammar.ofDepth d Grammar.maxDepth).statement :=
    @statementTame _ (Grammar.ofDepth d (Grammar.maxDepth - 1)) (ofDepthQuiet d _)
  have first : Gives (fun found => ∀ s ∈ found.head?, Tame s)
      (@Script.statements (Grammar.ofDepth d Grammar.maxDepth)) :=
    .behind Quiet.getQuiet fun _ _ => @firstTame _ (Grammar.ofDepth d Grammar.maxDepth) deep _ true
  simp only [Script.parser] at parsed
  split at parsed
  · rename_i found _ given
    cases parsed
    have tame := first.holds unmarked given
    exact ((tame _ rfl).holds q rfl).holds
  · contradiction

end Harmless

theorem parserSpells (d : Dialect) : Script.parser.Spells d := by
  intro ts q h parsed harms
  refine Classical.not_forall_not.mp fun clear => harms ?_
  exact @freeOfUnmarked ⟨h⟩ d ts q (fun t member mark => clear t ⟨member,mark⟩) parsed

end Querent.Sql
