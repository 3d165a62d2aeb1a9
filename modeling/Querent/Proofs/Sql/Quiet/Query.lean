import Querent.Proofs.Sql.Quiet.Source
import Querent.Sql.Selection

/-! Queries are read quietly. A table that takes rows and a lock are only read behind a keyword of theirs,
so that where they are looked for and no such keyword is a token, there are none. -/
namespace Querent.Sql
open Reader

variable [Concern]

structure Yields {α : Type} (p : α → Prop) (r : Reader α) : Prop where
  gives : ∀ {ts x rest}, Unmarked ts → r ts = .ok (x,rest) → p x ∧ Unmarked rest

namespace Yields
variable {α β : Type} {p : α → Prop} {q : β → Prop}

theorem followed [Tameness β] {r : Reader α} {k : α → Reader β} (first : Yields p r)
    (next : ∀ x, p x → Quiet (k x)) : Quiet (r >>= k) where
  keeps := by
    intro ts y rest unmarked read
    obtain ⟨x,left,before,after⟩ := bindOk read
    obtain ⟨holds,kept⟩ := first.gives unmarked before
    exact (next x holds).keeps kept after

theorem behind [Tameness α] {r : Reader α} {k : α → Reader β} (quiet : Quiet r)
    (next : ∀ x, Yields q (k x)) : Yields q (r >>= k) where
  gives := by
    intro ts z rest unmarked read
    obtain ⟨x,left,before,after⟩ := bindOk read
    exact (next x).gives (quiet.keeps unmarked before).2 after

theorem ofQuiet [Tameness α] {r : Reader α} (quiet : Quiet r) (holds : ∀ x, p x) : Yields p r :=
  ⟨fun unmarked read => ⟨holds _,(quiet.keeps unmarked read).2⟩⟩

theorem ofPure {x : α} (holds : p x) : Yields p (pure x) where
  gives := by
    rintro ts _ _ unmarked ⟨⟩
    exact ⟨holds,unmarked⟩

theorem ofIdle {r : Reader α} (x : α) (holds : p x)
    (idle : ∀ {ts}, Unmarked ts → r ts = .ok (x,ts)) : Yields p r where
  gives := by
    intro ts y rest unmarked read
    cases (idle unmarked).symm.trans read
    exact ⟨holds,unmarked⟩

theorem ofStop {r : Reader α} (stop : Stop) (stops : ∀ {ts}, Unmarked ts → r ts = .error stop) :
    Yields p r where
  gives := by
    intro ts y rest unmarked read
    cases (stops unmarked).symm.trans read

end Yields

theorem headUnmarked {ts : List Lexeme} (unmarked : Unmarked ts) :
    keyOf (ts[0]?.map (·.token)) ∉ Concern.harm.marks := by
  cases ts with
  | nil => cases Concern.harm <;> decide
  | cons t rest => exact unmarked t List.mem_cons_self

theorem keyAmongUnseen {keys : List String} (marked : ∀ key ∈ keys, key ∈ Concern.harm.marks)
    {ts : List Lexeme} (unmarked : Unmarked ts) : keyAmong? keys ts = .ok (none,ts) := by
  have absent : keys.contains (keyOf (ts[0]?.map (·.token))) = false := by
    rw [List.contains_eq_mem,decide_eq_false_iff_not]
    exact fun member => headUnmarked unmarked (marked _ member)
  have step : keyAmong? keys ts = (if keys.contains (keyOf (ts[0]?.map (·.token))) then do
      skip; return some (keyOf (ts[0]?.map (·.token))) else return none : Reader _) ts := rfl
  rw [step,absent]
  rfl

theorem keyUnseen {key : String} (marked : key ∈ Concern.harm.marks) {ts : List Lexeme}
    (unmarked : Unmarked ts) : key? key ts = .ok (false,ts) := by
  have absent : (keyOf (ts[0]?.map (·.token)) == key) = false := by
    rw [beq_eq_false_iff_ne]
    rintro rfl
    exact headUnmarked unmarked marked
  have step : key? key ts = (if keyOf (ts[0]?.map (·.token)) == key then do
      skip; return true else return false : Reader _) ts := rfl
  rw [step,absent]
  rfl

namespace Quiet
open Selection

set_option synthInstance.maxSize 100000

instance targetQuiet : Quiet target := by
  unfold target
  infer_instance

theorem targetYields :
    Yields (fun into => Concern.harm = .target → into = none) (optional (key? "INTO") target) := by
  by_cases harm : Concern.harm = .target
  · refine .ofIdle none (fun _ => rfl) fun unmarked => ?_
    have marked : "INTO" ∈ Concern.harm.marks := by
      rw [harm]
      exact List.mem_singleton_self _
    simp only [Reader.optional,Bind.bind,StateT.bind,Except.bind,keyUnseen marked unmarked]
    rfl
  · exact .ofQuiet (optionalQuiet _ _) fun _ here => absurd here harm

variable [Grammar]

instance documentFormQuiet : Quiet documentForm := by
  unfold documentForm
  refine bind inferInstance fun found _ => ?_
  split <;> infer_instance

instance locksForQuiet (n : Nat) : Quiet (locksFor n) := by
  induction n with
  | zero => exact pureQuiet []
  | succ n ih =>
    unfold locksFor
    infer_instance

theorem locksForYields (n : Nat) :
    Yields (fun locks => Concern.harm = .lock → locks = []) (locksFor n) := by
  by_cases harm : Concern.harm = .lock
  · cases n with
    | zero => exact .ofPure fun _ => rfl
    | succ n =>
      unfold locksFor
      refine .behind (keyMaybeQuiet "FOR") fun seen => ?_
      split
      · exact .ofPure fun _ => rfl
      · refine .behind documentFormQuiet fun form => ?_
        split
        · exact .ofPure fun _ => rfl
        · refine .ofStop .mismatch fun unmarked => ?_
          have marked : ∀ key ∈ ["UPDATE", "SHARE"], key ∈ Concern.harm.marks := by
            rw [harm]
            exact fun _ member => member
          simp only [keyAmong,Bind.bind,StateT.bind,Except.bind,keyAmongUnseen marked unmarked]
          rfl
  · exact .ofQuiet (locksForQuiet n) fun _ here => absurd here harm

theorem locksYields : Yields (fun locks => Concern.harm = .lock → locks = []) locks :=
  .behind getQuiet fun _ => locksForYields _

variable [QuietGrammar]

instance distinctionQuiet : Quiet distinction := by
  unfold distinction
  infer_instance

instance topQuiet : Quiet top := by
  unfold top
  dsimp only
  refine bind inferInstance fun _ _ => ?_
  split
  · infer_instance
  · refine bind inferInstance fun _ _ => ?_
    split
    · infer_instance
    · refine bind inferInstance fun t _ => ?_
      split <;> infer_instance

instance itemQuiet : Quiet item := by
  unfold item
  infer_instance

instance lateralViewQuiet : Quiet lateralView := by
  unfold lateralView
  infer_instance

instance groupTupleQuiet (alone : Bool) : Quiet (groupTuple alone) := by
  unfold groupTuple
  infer_instance

instance groupItemQuiet : Quiet groupItem := by
  unfold groupItem
  infer_instance

instance groupsQuiet : Quiet groups := by
  unfold groups
  dsimp only
  infer_instance

instance namedWindowQuiet : Quiet namedWindow := by
  unfold namedWindow
  infer_instance

instance windowsQuiet : Quiet windows := by
  unfold windows
  dsimp only
  infer_instance

instance selectQuiet : Quiet select := by
  unfold select
  dsimp only
  refine bind inferInstance fun _ _ => bind inferInstance fun distinction _ => ?_
  refine bind inferInstance fun top _ => bind inferInstance fun _ _ => ?_
  split <;> refine bind inferInstance fun items _ => ?_
  all_goals
    refine targetYields.followed fun into spares => ?_
    have (sources : List Source) (clauses : List Expr) [Tame sources] [Tame clauses] :
        Tame (Body.select items into sources clauses) := tameSelect items sources clauses spares
    infer_instance

instance rowQuiet : Quiet row := by
  unfold row
  infer_instance

instance wholeTableQuiet : Quiet wholeTable := by
  unfold wholeTable
  refine bind inferInstance fun first _ => bind inferInstance fun second _ => ?_
  refine bind inferInstance fun _ _ => bind inferInstance fun third _ => ?_
  refine bind inferInstance fun _ _ => ?_
  split <;> infer_instance

instance setOperatorQuiet : Quiet setOperator? := by
  unfold setOperator?
  refine bind inferInstance fun key _ => ?_
  split <;> infer_instance

instance setQuantifierQuiet : Quiet setQuantifier := by
  unfold setQuantifier
  infer_instance

instance simpleBodyQuiet : Quiet simpleBody := by
  unfold simpleBody
  infer_instance

instance combinedForQuiet (n tightness : Nat) (left : Body) [Tame left] :
    Quiet (combinedFor n tightness left) := by
  induction n generalizing tightness left with
  | zero => exact pureQuiet left
  | succ n ih =>
    unfold combinedFor
    refine bind inferInstance fun found _ => ?_
    split <;> infer_instance

instance bodyQuiet : Quiet body := by
  unfold body
  infer_instance

instance namedQuiet : Quiet named := by
  unfold named
  dsimp only
  infer_instance

instance offsetQuiet : Quiet offset := by
  unfold offset
  infer_instance

instance limitsQuiet : Quiet limits := by
  unfold limits
  dsimp only
  infer_instance

instance fetchQuiet : Quiet fetch := by
  unfold fetch
  dsimp only
  infer_instance

theorem queryQuiet {change? : Reader (Option String)}
    (changes : Yields (fun found => Concern.harm = .change → found = none) change?) :
    Quiet (Selection.query change?) := by
  unfold Selection.query
  dsimp only
  refine bind inferInstance fun _ _ => ?_
  split
  -- Only behind WITH is there one keyword more.
  refine bind inferInstance fun _ _ => ?_
  all_goals
    refine bind inferInstance fun named _ => changes.followed fun found spares => ?_
    split
    · rename_i label
      have := tameChange label fun here => Option.some_ne_none _ (spares here)
      have := tameQuery named (.change label) [] fun _ => rfl
      infer_instance
    · refine bind inferInstance fun body _ => bind inferInstance fun order _ => ?_
      refine bind inferInstance fun limits _ => bind inferInstance fun fetch _ => ?_
      refine locksYields.followed fun locks spares => ?_
      have := tameQuery named body (order ++ limits ++ fetch) spares
      infer_instance

end Quiet

end Querent.Sql
