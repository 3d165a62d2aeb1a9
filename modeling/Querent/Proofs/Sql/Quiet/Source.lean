import Querent.Proofs.Sql.Quiet.Expression
import Querent.Sql.From

/-! Sources of rows are read quietly. -/
namespace Querent.Sql.Quiet
open Reader From

set_option synthInstance.maxSize 100000

variable [Concern]

instance aliasQuiet (reserved : List String) : Quiet (alias? reserved) := by
  unfold alias?
  refine bind inferInstance fun explicit _ => bind inferInstance fun t _ => ?_
  split <;> infer_instance

variable [Grammar]

instance columnDefinitionsQuiet : Quiet columnDefinitions := by
  unfold columnDefinitions
  infer_instance

instance tableAliasQuiet : Quiet tableAlias := by
  unfold tableAlias
  infer_instance

variable [QuietGrammar]

instance anyWordQuiet : Quiet anyWord := by
  unfold anyWord
  refine bind inferInstance fun t _ => ?_
  split <;> infer_instance

instance amountQuiet : Quiet amount := by
  unfold amount
  dsimp only
  infer_instance

instance bucketQuiet : Quiet bucket := by
  unfold bucket
  infer_instance

instance sampleQuiet : Quiet sample := by
  unfold sample
  dsimp only
  infer_instance

instance labelledQuiet : Quiet labelled := by
  unfold labelled
  infer_instance

instance aggregateQuiet : Quiet aggregate := by
  unfold aggregate
  refine bind inferInstance fun t _ => ?_
  split <;> infer_instance

instance pivotValuesQuiet : Quiet pivotValues := by
  unfold pivotValues
  infer_instance

instance pivotQuiet : Quiet pivot := by
  unfold pivot
  dsimp only
  infer_instance

instance unpivotQuiet : Quiet unpivot := by
  unfold unpivot
  infer_instance

instance pivotsForQuiet (n : Nat) (source : Source) [Tame source] : Quiet (pivotsFor n source) := by
  induction n generalizing source with
  | zero => exact pureQuiet source
  | succ n ih =>
    unfold pivotsFor
    refine bind inferInstance fun found _ => ?_
    split
    · infer_instance
    · dsimp only
      infer_instance

instance pivotsQuiet (source : Source) [Tame source] : Quiet (pivots source) := by
  unfold pivots
  infer_instance

instance indexHintQuiet : Quiet indexHint := by
  unfold indexHint
  dsimp only
  infer_instance

instance tableHintsQuiet : Quiet tableHints := by
  unfold tableHints
  infer_instance

instance derivedQuiet : Quiet derived := by
  unfold derived
  infer_instance

instance functionArgumentsQuiet : Quiet functionArguments := by
  unfold functionArguments
  infer_instance

instance lateralQuiet : Quiet lateral := by
  unfold lateral
  infer_instance

instance unnestQuiet : Quiet unnest := by
  unfold unnest
  infer_instance

instance documentColumnForQuiet (n : Nat) : Quiet (documentColumnFor n) := by
  induction n with
  | zero => exact failQuiet
  | succ n ih =>
    unfold documentColumnFor
    have fallback : Quiet (do
        match ← keyAmong ["NULL", "ERROR", "DEFAULT"] with
        | "DEFAULT" => discard Expression.constant
        | _ => pure ()
        key "ON"
        discard (keyAmong ["EMPTY", "ERROR"]) : Reader Unit) := by
      refine bind inferInstance fun key _ => ?_
      dsimp only
      split <;> infer_instance
    infer_instance

instance documentQuiet : Quiet document := by
  unfold document
  infer_instance

instance openJsonQuiet : Quiet openJson := by
  unfold openJson
  infer_instance

instance xmlColumnQuiet : Quiet xmlColumn := by
  unfold xmlColumn
  infer_instance

instance xmlTableQuiet : Quiet xmlTable := by
  unfold xmlTable
  dsimp only
  infer_instance

instance tableQuiet : Quiet table := by
  unfold table
  dsimp only
  infer_instance

instance conditionQuiet : Quiet condition := by
  unfold condition
  infer_instance

instance jointQuiet : Quiet joint? := by
  unfold joint?
  refine bind inferInstance fun _ _ => bind inferInstance fun _ _ => ?_
  split
  · refine bind inferInstance fun kind _ => ?_
    split <;> infer_instance
  · refine bind inferInstance fun _ _ => ?_
    split
    · infer_instance
    · refine bind inferInstance fun _ _ => ?_
      split
      · infer_instance
      · refine bind inferInstance fun _ _ => bind inferInstance fun next _ => ?_
        split <;> infer_instance

instance matchingQuiet : Quiet matching := by
  unfold matching
  infer_instance

instance joinsForQuiet (factor : Reader Source) [Quiet factor] (n : Nat) (left : Source)
    [Tame left] : Quiet (joinsFor factor n left) := by
  induction n generalizing left with
  | zero => exact pureQuiet left
  | succ n ih =>
    unfold joinsFor
    refine bind inferInstance fun found _ => ?_
    split
    · infer_instance
    · dsimp only
      infer_instance

instance opensQuiet (key : String) : Quiet (opens key) := by
  unfold opens
  infer_instance

instance factorForQuiet (n : Nat) : Quiet (factorFor n) := by
  induction n with
  | zero => exact failQuiet
  | succ n ih =>
    unfold factorFor
    have inner : Quiet (do
        match ← attempt derived with
        | some source => pivots source
        | none =>
          let inner ← factorFor n
          let joined ← joinsFor (factorFor n) ((← get).length) inner
          require (isJoined joined)
          symbol ")"
          tableAlias
          return .group joined : Reader Source) := by
      refine bind inferInstance fun found tame => ?_
      split
      · have := tame.ofSome
        infer_instance
      · infer_instance
    infer_instance

instance factorQuiet : Quiet factor := by
  unfold factor
  infer_instance

instance joinedQuiet : Quiet joined := by
  unfold joined
  infer_instance

end Querent.Sql.Quiet
