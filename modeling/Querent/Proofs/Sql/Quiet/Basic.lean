import Querent.Proofs.Sql.Harm

/-! Readers that are quiet: from tokens without the keywords of one harm they read nothing that does
this harm, and they leave such tokens. A reader that is put together from quiet ones is quiet, which is
found by looking at how it is put together. -/
namespace Querent.Sql
open Reader

class Concern where
  harm : Harm

def Unmarked [Concern] (ts : List Lexeme) : Prop :=
  ∀ t ∈ ts, keyOf (some t.token) ∉ Concern.harm.marks

class Tameness (α : Type) where
  tame : α → Prop

class Tame {α : Type} [Tameness α] (x : α) : Prop where
  holds : Tameness.tame x

/-- A reader that takes unmarked tokens for tame values, and leaves unmarked tokens. -/
class Quiet [Concern] {α : Type} [Tameness α] (r : Reader α) : Prop where
  keeps : ∀ {ts x rest}, Unmarked ts → r ts = .ok (x,rest) → Tame x ∧ Unmarked rest

section Values
variable {α β : Type}

instance (priority := low) plain : Tameness α := ⟨fun _ => True⟩

instance (priority := low) tamePlain (x : α) : Tame x := ⟨trivial⟩

instance [Concern] : Tameness Expr := ⟨fun e => (Node.expr e).Free Concern.harm⟩

instance [Concern] : Tameness Source := ⟨fun s => (Node.source s).Free Concern.harm⟩

instance [Concern] : Tameness Body := ⟨fun b => (Node.body b).Free Concern.harm⟩

instance [Concern] : Tameness Query := ⟨fun q => (Node.query q).Free Concern.harm⟩

instance [Concern] : Tameness Lexeme := ⟨fun t => keyOf (some t.token) ∉ Concern.harm.marks⟩

instance [Tameness α] : Tameness (List α) := ⟨fun xs => ∀ x ∈ xs, Tame x⟩

instance [Tameness α] : Tameness (Option α) := ⟨fun found => ∀ x, found = some x → Tame x⟩

instance (priority := low) tamePlains (xs : List α) : @Tame (List α) (@instTamenessList α plain) xs :=
  ⟨fun _ _ => ⟨trivial⟩⟩

instance (priority := low) tamePlainOption (found : Option α) :
    @Tame (Option α) (@instTamenessOption α plain) found :=
  ⟨fun _ _ => ⟨trivial⟩⟩

variable [Tameness α] [Tameness β]

instance tameGiven (x : {x : α // Tame x}) : Tame x.val := x.property

instance tameNil : Tame ([] : List α) := ⟨by simp [Tameness.tame]⟩

instance tameCons (x : α) (xs : List α) [first : Tame x] [rest : Tame xs] : Tame (x :: xs) where
  holds := by
    intro y member
    rcases List.mem_cons.mp member with rfl | member
    · exact first
    · exact rest.holds y member

instance tameAppend (xs ys : List α) [first : Tame xs] [second : Tame ys] : Tame (xs ++ ys) where
  holds := by
    intro x member
    rcases List.mem_append.mp member with member | member
    · exact first.holds x member
    · exact second.holds x member

instance tameFlatten (xss : List (List α)) [tame : Tame xss] : Tame xss.flatten where
  holds := by
    intro x member
    obtain ⟨xs,outer,inner⟩ := List.mem_flatten.mp member
    exact (tame.holds xs outer).holds x inner

instance tameNone : Tame (none : Option α) := ⟨by simp [Tameness.tame]⟩

instance tameSome (x : α) [tame : Tame x] : Tame (some x) where
  holds := by
    rintro y ⟨⟩
    exact tame

instance tameIte (c : Prop) [Decidable c] (x y : α) [yes : Tame x] [no : Tame y] :
    Tame (if c then x else y) := by
  split
  · exact yes
  · exact no

theorem Tame.ofSome {x : α} (tame : Tame (some x)) : Tame x := tame.holds x rfl

instance tameToList (found : Option α) [tame : Tame found] : Tame found.toList where
  holds := by
    intro x member
    exact tame.holds x (Option.mem_toList.mp member)

end Values

theorem bindOk {α β : Type} {r : Reader α} {k : α → Reader β} {ts rest : List Lexeme} {y : β}
    (read : (r >>= k) ts = .ok (y,rest)) :
    ∃ x left, r ts = .ok (x,left) ∧ k x left = .ok (y,rest) := by
  cases before : r ts with
  | error stop => simp [Bind.bind,StateT.bind,Except.bind,before] at read
  | ok given =>
    obtain ⟨x,left⟩ := given
    simp only [Bind.bind,StateT.bind,Except.bind,before] at read
    exact ⟨x,left,rfl,read⟩

namespace Quiet
variable [Concern] {α β : Type} [Tameness α] [Tameness β]

theorem bind {r : Reader α} {k : α → Reader β} (first : Quiet r)
    (second : ∀ x, Tame x → Quiet (k x)) : Quiet (r >>= k) where
  keeps := by
    intro ts y rest unmarked read
    obtain ⟨x,left,before,after⟩ := bindOk read
    obtain ⟨tame,kept⟩ := first.keeps unmarked before
    exact (second x tame).keeps kept after

instance bindQuiet (r : Reader α) (k : α → Reader β) [first : Quiet r]
    [second : ∀ x : {x : α // Tame x}, Quiet (k x.val)] : Quiet (r >>= k) :=
  first.bind fun x tame => second ⟨x,tame⟩

instance pureQuiet (x : α) [tame : Tame x] : Quiet (pure x : Reader α) where
  keeps := by
    rintro ts _ _ unmarked ⟨⟩
    exact ⟨tame,unmarked⟩

instance mapQuiet (f : α → β) (r : Reader α) [Quiet r] [∀ x : {x : α // Tame x}, Tame (f x.val)] :
    Quiet (f <$> r) :=
  bindQuiet r fun x => pure (f x)

instance discardQuiet (r : Reader α) [Quiet r] : Quiet (discard r) :=
  mapQuiet (fun _ => PUnit.unit) r

instance iteQuiet (c : Prop) [Decidable c] (r s : Reader α) [yes : Quiet r] [no : Quiet s] :
    Quiet (if c then r else s) := by
  split
  · exact yes
  · exact no

instance throwQuiet (stop : Stop) : Quiet (throw stop : Reader α) := ⟨by rintro _ _ _ _ ⟨⟩⟩

instance failQuiet : Quiet (fail : Reader α) := throwQuiet .mismatch

theorem unmarkedTame {ts : List Lexeme} : Tame ts ↔ Unmarked ts :=
  ⟨fun tame t member => (tame.holds t member).holds,fun unmarked => ⟨fun t member => ⟨unmarked t member⟩⟩⟩

instance getQuiet : Quiet (get : Reader (List Lexeme)) where
  keeps := by
    rintro ts _ _ unmarked ⟨⟩
    exact ⟨unmarkedTame.mpr unmarked,unmarked⟩

instance setQuiet (ts : List Lexeme) [tame : Tame ts] : Quiet (set ts : Reader PUnit) where
  keeps := by
    rintro _ _ _ _ ⟨⟩
    exact ⟨inferInstance,unmarkedTame.mp tame⟩

theorem unmarkedDrop {ts : List Lexeme} (unmarked : Unmarked ts) (n : Nat) : Unmarked (ts.drop n) :=
  fun t member => unmarked t (List.mem_of_mem_drop member)

instance skipQuiet : Quiet skip where
  keeps := by
    rintro ts _ _ unmarked ⟨⟩
    exact ⟨inferInstance,unmarkedDrop unmarked 1⟩

instance attemptQuiet (r : Reader α) [quiet : Quiet r] : Quiet (attempt r) where
  keeps := by
    intro ts x rest unmarked read
    unfold attempt at read
    split at read
    · rename_i y left before
      cases read
      obtain ⟨tame,kept⟩ := quiet.keeps unmarked before
      exact ⟨inferInstance,kept⟩
    · cases read
      exact ⟨inferInstance,unmarked⟩
    · contradiction

instance requireQuiet (condition : Bool) : Quiet (require condition) := by
  unfold require
  infer_instance

instance aheadQuiet (n : Nat) : Quiet (ahead? n) := by
  unfold ahead?
  infer_instance

instance peekQuiet : Quiet peek := aheadQuiet 0

instance nextQuiet : Quiet next := by
  unfold next
  refine bind inferInstance fun ts tame => ?_
  split
  · infer_instance
  · rename_i t rest
    have : Tame rest := ⟨fun u member => tame.holds u (List.mem_cons_of_mem t member)⟩
    infer_instance

instance keyAheadQuiet (n : Nat) : Quiet (keyAhead n) := by
  unfold keyAhead
  infer_instance

instance peekKeyQuiet : Quiet peekKey := keyAheadQuiet 0

instance seesKeyQuiet (key : String) : Quiet (seesKey key) := by
  unfold seesKey
  infer_instance

instance seesSymbolQuiet (s : String) : Quiet (seesSymbol s) := by
  unfold seesSymbol
  infer_instance

instance keyMaybeQuiet (key : String) : Quiet (key? key) := by
  unfold key?
  infer_instance

instance keyAmongMaybeQuiet (keys : List String) : Quiet (keyAmong? keys) := by
  unfold keyAmong?
  infer_instance

instance keysMaybeQuiet (keys : List String) : Quiet (keys? keys) where
  keeps := by
    intro ts found rest unmarked read
    unfold keys? at read
    split at read <;> cases read
    · exact ⟨inferInstance,unmarkedDrop unmarked _⟩
    · exact ⟨inferInstance,unmarked⟩

instance keyQuiet (key : String) : Quiet (Reader.key key) := by
  unfold Reader.key
  infer_instance

instance keysQuiet (keys : List String) : Quiet (Reader.keys keys) := by
  unfold Reader.keys
  infer_instance

instance keyAmongQuiet (keys : List String) : Quiet (keyAmong keys) := by
  unfold keyAmong
  refine bind inferInstance fun found _ => ?_
  split <;> infer_instance

instance symbolMaybeQuiet (s : String) : Quiet (symbol? s) := by
  unfold symbol?
  infer_instance

instance symbolQuiet (s : String) : Quiet (symbol s) := by
  unfold symbol
  infer_instance

instance givenQuiet (condition : Bool) (r : Reader Bool) [Quiet r] : Quiet (given condition r) := by
  unfold given
  infer_instance

instance optionalQuiet (condition : Reader Bool) (r : Reader α) [Quiet condition] [Quiet r] :
    Quiet (optional condition r) := by
  unfold Reader.optional
  infer_instance

instance manyForQuiet (step : Reader (Option α)) [quiet : Quiet step] (n : Nat) :
    Quiet (manyFor step n) := by
  induction n with
  | zero => exact pureQuiet []
  | succ n ih =>
    refine bind quiet fun found tame => ?_
    split
    · have := tame.ofSome
      infer_instance
    · infer_instance

instance manyQuiet (step : Reader (Option α)) [Quiet step] : Quiet (many step) := by
  unfold many
  infer_instance

instance separatedQuiet (separator : Reader Bool) (item : Reader α) [Quiet separator]
    [Quiet item] : Quiet (separated separator item) := by
  unfold separated
  infer_instance

instance commasQuiet (item : Reader α) [Quiet item] : Quiet (commas item) := by
  unfold commas
  infer_instance

instance parensQuiet (r : Reader α) [Quiet r] : Quiet (parens r) := by
  unfold parens
  infer_instance

instance tupleQuiet (item : Reader α) [Quiet item] : Quiet (tuple item) := by
  unfold tuple
  infer_instance

instance tuple0Quiet (item : Reader α) [Quiet item] : Quiet (tuple0 item) := by
  unfold tuple0
  infer_instance

instance wordQuiet : Quiet word := by
  unfold word
  refine bind inferInstance fun t _ => ?_
  split <;> infer_instance

instance nameQuiet : Quiet name := by
  unfold name
  infer_instance

instance columnsQuiet : Quiet columns := by
  unfold columns
  infer_instance

instance countQuiet : Quiet count := by
  unfold count
  refine bind inferInstance fun t _ => ?_
  split <;> infer_instance

instance stringQuiet : Quiet string := by
  unfold string
  refine bind inferInstance fun t _ => ?_
  split <;> infer_instance

end Quiet

section Trees
variable [Concern]
open Node

theorem tameParts {parts : List Expr} (tame : Tame parts) :
    ∀ c ∈ parts.map Node.expr, c.Free Concern.harm :=
  List.forall_mem_map.mpr fun e member => (tame.holds e member).holds

theorem tameSources {sources : List Source} (tame : Tame sources) :
    ∀ c ∈ sources.map Node.source, c.Free Concern.harm :=
  List.forall_mem_map.mpr fun s member => (tame.holds s member).holds

theorem tameQueries {named : List Query} (tame : Tame named) :
    ∀ c ∈ named.map Node.query, c.Free Concern.harm :=
  List.forall_mem_map.mpr fun q member => (tame.holds q member).holds

theorem freeCons {c : Node} {cs : List Node} (first : c.Free Concern.harm)
    (rest : ∀ c ∈ cs, c.Free Concern.harm) : ∀ d ∈ c :: cs, d.Free Concern.harm :=
  List.forall_mem_cons.mpr ⟨first,rest⟩

instance tameName (parts : Name) : Tame (Expr.name parts) := ⟨freeIff.mpr ⟨trivial,List.forall_mem_nil _⟩⟩

instance tameStar (table : Name) : Tame (Expr.star table) := ⟨freeIff.mpr ⟨trivial,List.forall_mem_nil _⟩⟩

instance tameConstant (t : Token) : Tame (Expr.constant t) := ⟨freeIff.mpr ⟨trivial,List.forall_mem_nil _⟩⟩

instance tameCall (function : Name) (parts : List Expr) [tame : Tame parts] :
    Tame (Expr.call function parts) :=
  ⟨freeIff.mpr ⟨trivial,tameParts tame⟩⟩

instance tameForm (label : String) (parts : List Expr) [tame : Tame parts] :
    Tame (Expr.form label parts) :=
  ⟨freeIff.mpr ⟨trivial,tameParts tame⟩⟩

instance tamePath (root : Expr) (steps : List Expr) [first : Tame root] [rest : Tame steps] :
    Tame (Expr.path root steps) :=
  ⟨freeIff.mpr ⟨trivial,freeCons first.holds (tameParts rest)⟩⟩

instance tameNested (q : Query) [tame : Tame q] : Tame (Expr.query q) :=
  ⟨freeIff.mpr ⟨trivial,List.forall_mem_singleton.mpr tame.holds⟩⟩

instance tameTable (name : Name) (parts : List Expr) [tame : Tame parts] :
    Tame (Source.table name parts) :=
  ⟨freeIff.mpr ⟨trivial,tameParts tame⟩⟩

instance tameDerived (q : Query) (parts : List Expr) [first : Tame q] [rest : Tame parts] :
    Tame (Source.query q parts) :=
  ⟨freeIff.mpr ⟨trivial,freeCons first.holds (tameParts rest)⟩⟩

instance tamePivot (s : Source) (parts : List Expr) [first : Tame s] [rest : Tame parts] :
    Tame (Source.pivot s parts) :=
  ⟨freeIff.mpr ⟨trivial,freeCons first.holds (tameParts rest)⟩⟩

instance tameJoin (left : Source) (operator : String) (right : Source) (on : List Expr)
    [first : Tame left] [second : Tame right] [condition : Tame on] :
    Tame (Source.join left operator right on) :=
  ⟨freeIff.mpr ⟨trivial,freeCons first.holds (freeCons second.holds (tameParts condition))⟩⟩

instance tameGroup (s : Source) [tame : Tame s] : Tame (Source.group s) :=
  ⟨freeIff.mpr ⟨trivial,List.forall_mem_singleton.mpr tame.holds⟩⟩

theorem tameSelect (items : List Expr) {into : Option Name} (sources : List Source)
    (clauses : List Expr) (spares : Concern.harm = .target → into = none) [first : Tame items]
    [second : Tame sources] [third : Tame clauses] :
    Tame (Body.select items into sources clauses) where
  holds := by
    refine freeIff.mpr ⟨?_,?_⟩
    · cases harm : Concern.harm with
      | target => exact spares harm
      | lock | change => trivial
    · intro c member
      rcases List.mem_append.mp member with member | member
      · rcases List.mem_append.mp member with member | member
        · exact tameParts first c member
        · exact tameSources second c member
      · exact tameParts third c member

instance tameParenthesized (q : Query) [tame : Tame q] : Tame (Body.query q) :=
  ⟨freeIff.mpr ⟨trivial,List.forall_mem_singleton.mpr tame.holds⟩⟩

instance tameValues (rows : List Expr) [tame : Tame rows] : Tame (Body.values rows) :=
  ⟨freeIff.mpr ⟨trivial,tameParts tame⟩⟩

instance tameWhole (table : Name) : Tame (Body.table table) := ⟨freeIff.mpr ⟨trivial,List.forall_mem_nil _⟩⟩

instance tameCombine (operator : String) (left right : Body) [first : Tame left]
    [second : Tame right] : Tame (Body.combine operator left right) :=
  ⟨freeIff.mpr ⟨trivial,freeCons first.holds (List.forall_mem_singleton.mpr second.holds)⟩⟩

theorem tameChange (label : String) (spares : Concern.harm ≠ .change) : Tame (Body.change label) where
  holds := by
    refine freeIff.mpr ⟨?_,List.forall_mem_nil _⟩
    cases harm : Concern.harm with
    | change => exact spares harm
    | lock | target => trivial

theorem tameQuery (named : List Query) (body : Body) (clauses : List Expr) {locks : List String}
    (spares : Concern.harm = .lock → locks = []) [first : Tame named] [second : Tame body]
    [third : Tame clauses] : Tame (Query.mk named body clauses locks) where
  holds := by
    refine freeIff.mpr ⟨?_,freeCons second.holds ?_⟩
    · cases harm : Concern.harm with
      | lock => exact spares harm
      | target | change => trivial
    · intro c member
      rcases List.mem_append.mp member with member | member
      · exact tameQueries first c member
      · exact tameParts third c member

end Trees

class QuietGrammar [Concern] [Grammar] : Prop where
  tighter : ∀ tightness, Quiet (Grammar.tighter tightness)
  query : Quiet Grammar.query

attribute [instance] QuietGrammar.tighter QuietGrammar.query

instance exprQuiet [Concern] [Grammar] [QuietGrammar] : Quiet expr := QuietGrammar.tighter 0

end Querent.Sql
