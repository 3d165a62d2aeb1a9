import Querent.Proofs.Sql.Quiet.Call
import Querent.Sql.Expression

/-! Expressions are read quietly. -/
namespace Querent.Sql.Quiet
open Reader Expression

set_option synthInstance.maxSize 100000

variable [Concern]

instance : Tameness Step := ⟨fun s => ∀ e ∈ s.exprs, Tame e⟩

instance tamePart (e : Expr) [tame : Tame e] : Tame (Step.part e) :=
  ⟨by simpa [Tameness.tame,Step.exprs] using tame⟩

instance tameIndex (bounds : List Expr) [tame : Tame bounds] : Tame (Step.index bounds) :=
  ⟨tame.holds⟩

instance tameStarStep : Tame Step.star := ⟨by simp [Tameness.tame,Step.exprs]⟩

instance tameSteps (steps : List Step) [tame : Tame steps] :
    Tame (steps.flatMap Step.exprs) where
  holds := by
    intro e member
    obtain ⟨s,outer,inner⟩ := List.mem_flatMap.mp member
    exact (tame.holds s outer).holds e inner

variable [Grammar]

instance constantQuiet : Quiet constant := by
  unfold constant
  refine bind inferInstance fun t _ => ?_
  split
  · infer_instance
  · refine bind inferInstance fun _ _ => bind inferInstance fun ts _ => ?_
    split <;> infer_instance
  · infer_instance
  · infer_instance
  · infer_instance

instance numberQuiet : Quiet number := by
  unfold number
  refine bind inferInstance fun e _ => ?_
  split <;> infer_instance

instance timeFieldQuiet : Quiet timeField := by
  unfold timeField
  infer_instance

instance intervalUnitQuiet : Quiet intervalUnit := by
  unfold intervalUnit
  infer_instance

variable [QuietGrammar]

instance aboveQuiet (level : Level) : Quiet (above level) := QuietGrammar.tighter _

instance intervalQuiet (value : Reader Expr) [Quiet value] : Quiet (interval value) := by
  unfold interval
  dsimp only
  infer_instance

instance typedQuiet (value : Reader Expr) [Quiet value] : Quiet (typed value) := by
  unfold typed
  refine bind inferInstance fun kind _ => ?_
  cases kind <;> infer_instance

instance existenceQuiet : Quiet existence := by
  unfold existence
  infer_instance

instance choiceQuiet : Quiet choice := by
  unfold choice
  dsimp only
  infer_instance

instance convertQuiet : Quiet convert := by
  unfold convert
  dsimp only
  infer_instance

instance castQuiet : Quiet cast := by
  unfold Expression.cast
  infer_instance

instance extractQuiet : Quiet extract := by
  unfold extract
  dsimp only
  infer_instance

instance roundingQuiet (label : String) : Quiet (rounding label) := by
  unfold rounding
  infer_instance

instance positionQuiet (function : Word) : Quiet (position function) := by
  unfold position
  refine bind inferInstance fun found tame => ?_
  split
  · have := tame.ofSome
    infer_instance
  · infer_instance

instance substringQuiet : Quiet substring := by
  unfold substring
  infer_instance

instance overlayQuiet : Quiet overlay := by
  unfold overlay
  infer_instance

instance trimQuiet : Quiet trim := by
  unfold trim
  infer_instance

instance elementsQuiet : Quiet elements := by
  unfold elements
  infer_instance

instance negationQuiet : Quiet negation := by
  unfold negation
  infer_instance

instance searchQuiet : Quiet search := by
  unfold search
  dsimp only
  infer_instance

instance momentQuiet (function : Word) : Quiet (moment function) := by
  unfold moment
  infer_instance

instance reservedQuiet (value : Reader Expr) [Quiet value] (w : Word) :
    Quiet (reserved value w) := by
  unfold reserved
  dsimp only
  split
  all_goals infer_instance

instance nameOrCallQuiet (w : Word) : Quiet (named w) := by
  unfold named
  refine bind inferInstance fun t _ => ?_
  split <;> infer_instance

instance ofWordQuiet (value : Reader Expr) [Quiet value] (w : Word) : Quiet (ofWord value w) where
  keeps := by
    intro ts e rest unmarked read
    have plainly {left : List Lexeme} (read : named w ts = .ok (e,left)) :
        Tame e ∧ Unmarked left := (nameOrCallQuiet w).keeps unmarked read
    unfold ofWord at read
    split at read
    · rename_i special
      cases read
      obtain ⟨tame,kept⟩ := (reservedQuiet value w).keeps unmarked special
      exact ⟨tame.holds _ rfl,kept⟩
    · exact plainly read
    · split at read
      · contradiction
      · split at read
        · rename_i plain
          cases read
          exact plainly plain
        · contradiction

instance groupedQuiet : Quiet grouped := by
  unfold grouped
  refine bind inferInstance fun key _ => ?_
  split
  · infer_instance
  · refine bind inferInstance fun items tame => bind inferInstance fun _ _ => ?_
    split
    · rename_i e
      have : Tame e := tame.holds e List.mem_cons_self
      infer_instance
    · infer_instance

instance bracedQuiet : Quiet braced := by
  unfold braced
  dsimp only
  refine bind inferInstance fun found tame => ?_
  split
  · have := tame.ofSome
    infer_instance
  · infer_instance

instance ofSymbolQuiet (s : String) : Quiet (ofSymbol s) := by
  unfold ofSymbol
  infer_instance

instance firstForQuiet (n : Nat) : Quiet (firstFor n) := by
  induction n with
  | zero => exact failQuiet
  | succ n ih =>
    unfold firstFor
    dsimp only
    refine bind inferInstance fun _ _ => ?_
    split <;> refine bind inferInstance fun found tame => ?_
    all_goals
      split
      · have := tame.ofSome
        infer_instance
      · refine bind inferInstance fun t _ => ?_
        split <;> infer_instance

instance firstQuiet : Quiet first := by
  unfold first
  infer_instance

instance subscriptQuiet : Quiet subscript := by
  unfold subscript
  dsimp only
  infer_instance

instance stepQuiet : Quiet step? := by
  unfold step?
  have part : Quiet (do
      match ← peek with
      | some (.constant .plain s) => skip; return some (.part (.name [⟨s,some '\'',""⟩]))
      | some (.parameter s) => skip; return some (.part (.name [⟨s,none,""⟩]))
      | _ =>
        let valid : Reader Expr := do
          let e ← first
          require (isStep e)
          return e
        match ← attempt valid with
        | some e => return some (.part e)
        | none => return some (.part (.name [← word])) : Reader (Option Step)) := by
    refine bind inferInstance fun t _ => ?_
    split
    · infer_instance
    · infer_instance
    · refine bind inferInstance fun found tame => ?_
      split
      · have := tame.ofSome
        infer_instance
      · infer_instance
  infer_instance

instance stepsForQuiet (n : Nat) : Quiet (stepsFor n) := by
  induction n with
  | zero => exact pureQuiet []
  | succ n ih =>
    unfold stepsFor
    refine bind inferInstance fun found tame => ?_
    split
    · infer_instance
    · infer_instance
    · have := tame.ofSome
      infer_instance

instance compoundQuiet (root : Expr) [Tame root] : Quiet (compound root) := by
  unfold compound
  refine bind inferInstance fun _ _ => bind inferInstance fun steps tame => ?_
  dsimp only
  split
  · split <;> infer_instance
  · split
    · infer_instance
    · split <;> infer_instance

instance nextLevelQuiet : Quiet nextLevel := by
  unfold nextLevel
  refine bind inferInstance fun t _ => ?_
  split
  · infer_instance
  · split <;> infer_instance
  · infer_instance

instance rightSideQuiet (level : Level) (comparable : Bool) :
    Quiet (rightSide level comparable) := by
  unfold rightSide
  dsimp only
  refine bind inferInstance fun found _ => ?_
  split <;> infer_instance

section Left
variable (left : Expr) [Tame left]

instance isTestQuiet : Quiet (isTest left) := by
  unfold isTest
  refine bind inferInstance fun _ _ => bind inferInstance fun found _ => ?_
  split <;> infer_instance

instance membershipQuiet : Quiet (membership left) := by
  unfold membership
  have within : Quiet (do
      match ← attempt Grammar.query with
      | some q => return .form "IN" [left,.query q]
      | none => return .form "IN" (left :: (← commas expr)) : Reader Expr) := by
    refine bind inferInstance fun found tame => ?_
    split
    · have := tame.ofSome
      infer_instance
    · infer_instance
  infer_instance

instance rangeQuiet : Quiet (range left) := by
  unfold Expression.range
  infer_instance

instance patternQuiet (label : String) : Quiet (pattern label left) := by
  unfold pattern
  infer_instance

instance testQuiet : Quiet (test left) := by
  unfold test
  dsimp only
  refine bind inferInstance fun negated _ => bind inferInstance fun key _ => ?_
  split <;> infer_instance

instance spelledQuiet : Quiet spelled := by
  unfold spelled
  infer_instance

instance ofOperatorWordQuiet (level : Level) (key : String) :
    Quiet (ofOperatorWord left level key) := by
  unfold ofOperatorWord
  split <;> infer_instance

instance ofOperatorSymbolQuiet (level : Level) (s : String) :
    Quiet (ofOperatorSymbol left level s) := by
  unfold ofOperatorSymbol
  infer_instance

end Left

instance operatorsForQuiet (tightness n : Nat) (left : Expr) [Tame left] :
    Quiet (operatorsFor tightness n left) := by
  induction n generalizing left with
  | zero => exact pureQuiet left
  | succ n ih =>
    unfold operatorsFor
    refine bind inferInstance fun found _ => ?_
    split
    · infer_instance
    · split
      · infer_instance
      · refine bind inferInstance fun t _ => ?_
        split
        · exact bind inferInstance fun _ _ => bind inferInstance fun e _ => ih e
        · exact bind inferInstance fun e _ => ih e
        · infer_instance

instance tighterQuiet (tightness : Nat) : Quiet (tighter tightness) := by
  unfold tighter
  dsimp only
  infer_instance

end Querent.Sql.Quiet
