import Querent.Proofs.Sql.Quiet.Query
import Querent.Sql.Script

/-! Changes of rows in the place of a query are read quietly. Where they are looked for, none is read. -/
namespace Querent.Sql
open Reader Change

set_option synthInstance.maxSize 100000

namespace Quiet
variable [Concern]

instance onConflictQuiet : Quiet onConflict := by
  unfold onConflict
  infer_instance

variable [Grammar]

instance seesQueryQuiet : Quiet seesQuery := by
  unfold seesQuery
  dsimp only
  infer_instance

variable [QuietGrammar]

instance assignmentQuiet : Quiet assignment := by
  unfold assignment
  infer_instance

instance assignmentsQuiet : Quiet assignments := by
  unfold assignments
  infer_instance

instance changeConditionQuiet : Quiet Change.condition := by
  unfold Change.condition
  infer_instance

instance returningQuiet : Quiet returning := by
  unfold returning
  infer_instance

instance orderAndLimitQuiet : Quiet orderAndLimit := by
  unfold orderAndLimit
  infer_instance

instance onDuplicateQuiet : Quiet onDuplicate := by
  unfold onDuplicate
  infer_instance

instance insertColumnsQuiet : Quiet insertColumns := by
  unfold insertColumns
  infer_instance

instance insertPriorityQuiet : Quiet insertPriority := by
  unfold insertPriority
  infer_instance

instance insertRowsQuiet : Quiet insertRows := by
  unfold insertRows
  infer_instance

instance insertNamesQuiet : Quiet insertNames := by
  unfold insertNames
  infer_instance

instance insertQuiet : Quiet Change.insert := by
  unfold Change.insert
  dsimp only
  infer_instance

instance updateQuiet : Quiet update := by
  unfold update
  infer_instance

instance deleteQuiet : Quiet delete := by
  unfold delete
  infer_instance

instance mergeClauseQuiet : Quiet mergeClause := by
  unfold mergeClause
  dsimp only
  refine bind inferInstance fun absent _ => bind inferInstance fun _ _ => bind inferInstance fun _ _ => ?_
  split
  · refine bind inferInstance fun _ _ => bind inferInstance fun bySource _ => ?_
    refine bind inferInstance fun _ _ => bind inferInstance fun _ _ => bind inferInstance fun key _ => ?_
    split <;> infer_instance
  · refine bind inferInstance fun bySource _ => bind inferInstance fun _ _ => ?_
    refine bind inferInstance fun _ _ => bind inferInstance fun key _ => ?_
    split <;> infer_instance

instance mergeQuiet : Quiet merge := by
  unfold merge
  infer_instance

instance changeQuiet : Quiet Change.change? := by
  unfold Change.change?
  refine bind inferInstance fun found _ => ?_
  split <;> infer_instance

theorem changeYields : Yields (fun found => Concern.harm = .change → found = none) Change.change? := by
  by_cases harm : Concern.harm = .change
  · refine .ofIdle none (fun _ => rfl) fun unmarked => ?_
    have marked : ∀ key ∈ ["INSERT", "UPDATE", "DELETE", "MERGE"], key ∈ Concern.harm.marks := by
      rw [harm]
      exact fun _ member => member
    simp only [Change.change?,Bind.bind,StateT.bind,Except.bind,keyAmongUnseen marked unmarked]
    rfl
  · exact .ofQuiet changeQuiet fun _ here => absurd here harm

end Quiet

theorem ofDepthQuiet [Concern] (d : Dialect) (n : Nat) : @QuietGrammar _ (Grammar.ofDepth d n) := by
  induction n with
  | zero =>
    exact @QuietGrammar.mk _ (Grammar.ofDepth d 0) (fun _ => Quiet.throwQuiet _) (Quiet.throwQuiet _)
  | succ n ih =>
    exact @QuietGrammar.mk _ (Grammar.ofDepth d (n + 1))
      (fun tightness => @Quiet.tighterQuiet _ (Grammar.ofDepth d n) ih tightness)
      (@Quiet.queryQuiet _ (Grammar.ofDepth d n) ih _ (@Quiet.changeYields _ (Grammar.ofDepth d n) ih))

end Querent.Sql
