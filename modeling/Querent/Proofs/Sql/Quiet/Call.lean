import Querent.Proofs.Sql.Quiet.Basic
import Querent.Sql.Call

/-! Types and calls are read quietly. -/
namespace Querent.Sql.Quiet
open Reader DataType Call

set_option synthInstance.maxSize 100000

theorem starAfterSuffix {table found : Name} {ts rest : List Lexeme}
    (after : starAfter table ts = some (some (found,rest))) : rest <:+ ts := by
  have below (first second : Lexeme) (left : List Lexeme) : left <:+ first :: second :: left :=
    (List.suffix_cons second left).trans (List.suffix_cons first (second :: left))
  fun_induction starAfter table ts with
  | case1 =>
    cases after
    exact below ..
  | case2 _ _ _ _ _ ih => exact (ih after).trans (below ..)
  | case3 _ _ _ _ _ ih => exact (ih after).trans (below ..)
  | case4 _ _ _ _ _ ih => exact (ih after).trans (below ..)
  | case5 => contradiction
  | case6 => simp at after

variable [Concern] [Grammar]

section Types

instance charactersQuiet : Quiet characters := by
  unfold characters
  infer_instance

instance sizeQuiet : Quiet size := by
  unfold size
  infer_instance

instance precisionQuiet : Quiet precision := by
  unfold precision
  infer_instance

instance scaleQuiet : Quiet scale := by
  unfold scale
  infer_instance

instance precisionAndScaleQuiet : Quiet precisionAndScale := by
  unfold precisionAndScale
  infer_instance

instance zoneQuiet : Quiet zone := by
  unfold zone
  refine bind inferInstance fun found _ => ?_
  split <;> infer_instance

instance modifiersQuiet : Quiet modifiers := by
  unfold modifiers
  have item : Quiet (do
      match ← next with
      | .word _ => pure ()
      | .number _ => pure ()
      | .constant .plain _ => pure ()
      | _ => fail : Reader Unit) := by
    refine bind inferInstance fun t _ => ?_
    split <;> infer_instance
  infer_instance

instance bracketsQuiet : Quiet brackets := by
  unfold brackets
  infer_instance

instance plainForQuiet (n : Nat) : Quiet (plainFor n) := by
  induction n with
  | zero => exact failQuiet
  | succ n ih =>
    unfold plainFor
    refine bind inferInstance fun key _ => ?_
    dsimp only
    -- One case for every word that begins a type.
    repeat' split
    all_goals infer_instance

instance anyQuiet : Quiet any := by
  unfold any
  infer_instance

instance startsBuiltInQuiet : Quiet startsBuiltIn := by
  unfold startsBuiltIn
  infer_instance

end Types

section Calls
variable [QuietGrammar]

instance orderItemQuiet : Quiet orderItem := by
  unfold orderItem
  infer_instance

instance orderItemsQuiet : Quiet orderItems := by
  unfold orderItems
  infer_instance

instance listedQuiet (clause : List String) (item : Reader Expr) [Quiet item] :
    Quiet (listed clause item) := by
  unfold listed
  infer_instance

instance starOrExprQuiet : Quiet starOrExpr where
  keeps := by
    intro ts e rest unmarked read
    have shorter {left : List Lexeme} (suffix : left <:+ ts) : Unmarked left :=
      fun t member => unmarked t (suffix.mem member)
    have qualified {w : Word} {left : List Lexeme} (suffix : left <:+ ts)
        (read : (match starAfter [w] left with
          | some (some (table, rest)) => .ok (.star table,rest)
          | some none => expr ts
          | none => .error .mismatch) = Except.ok (e,rest)) : Tame e ∧ Unmarked rest := by
      split at read
      · rename_i after
        cases read
        exact ⟨inferInstance,shorter ((starAfterSuffix after).trans suffix)⟩
      · exact exprQuiet.keeps unmarked read
      · contradiction
    unfold starOrExpr at read
    dsimp only at read
    split at read
    · cases read
      exact ⟨inferInstance,shorter (List.suffix_cons ..)⟩
    · exact qualified (List.suffix_cons ..) read
    · exact qualified (List.suffix_cons ..) read
    · exact exprQuiet.keeps unmarked read

instance argumentSignQuiet : Quiet argumentSign := by
  unfold argumentSign
  have sign : Quiet (do
      match ← next with
      | .symbol s => require (s == "=>" || (isPostgres && (s == ":" || s == ":=")))
      | _ => fail : Reader Unit) := by
    refine bind inferInstance fun t _ => ?_
    split <;> infer_instance
  infer_instance

instance argumentQuiet : Quiet argument := by
  unfold argument
  dsimp only
  refine bind inferInstance fun found tame => ?_
  split
  · have := tame.ofSome
    infer_instance
  · infer_instance

instance nullClauseQuiet : Quiet nullClause := by
  unfold nullClause
  infer_instance

instance returningClauseQuiet : Quiet returningClause := by
  unfold returningClause
  infer_instance

instance fillerQuiet : Quiet filler := by
  unfold filler
  refine bind inferInstance fun token _ => ?_
  split <;> infer_instance

instance overflowClauseQuiet : Quiet overflowClause := by
  unfold overflowClause
  infer_instance

instance constantTokenQuiet : Quiet constantToken := by
  unfold constantToken
  refine bind inferInstance fun t _ => ?_
  split <;> infer_instance

instance argumentsQuiet : Quiet arguments := by
  unfold arguments
  dsimp only
  infer_instance

instance nullTreatmentQuiet : Quiet nullTreatment := by
  unfold nullTreatment
  infer_instance

instance boundQuiet : Quiet bound := by
  unfold bound
  dsimp only
  infer_instance

instance frameQuiet : Quiet frame := by
  unfold frame
  infer_instance

instance windowQuiet : Quiet window := by
  unfold window
  dsimp only
  refine bind inferInstance fun token _ => ?_
  split <;> infer_instance

instance callQuiet (function : Name) : Quiet (call function) := by
  unfold call
  dsimp only
  infer_instance

end Calls

end Querent.Sql.Quiet
