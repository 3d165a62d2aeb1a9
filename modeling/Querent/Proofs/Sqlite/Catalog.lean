import Querent.Proofs.Sqlite.Selection
import Querent.Sqlite.Catalog

/-! What a store tells of its tables. Those are listed whose names are not taken for the engine's own; the
pattern that tells them apart also fits other names. -/
namespace Querent.Sqlite
open Plan

def Reserved (name : String) : Prop := "sqlite_".toList <+: name.toList.map Char.toLower

def Mistaken (name : String) : Prop :=
  ∃ c rest, name.toList.map Char.toLower = "sqlite".toList ++ c :: rest ∧ c ≠ '_'

instance (name : String) : Decidable (Reserved name) := inferInstanceAs (Decidable (_ <+: _))

theorem sameNameIff {a b : String} :
    sameName a b = true ↔ a.toList.map Char.toUpper = b.toList.map Char.toUpper := beq_iff_eq

theorem sameNameSelf (name : String) : sameName name name = true := sameNameIff.mpr rfl

theorem sameNameComm (a b : String) : sameName a b = sameName b a := by
  rw [Bool.eq_iff_iff,sameNameIff,sameNameIff,eq_comm]

namespace Pattern

theorem fitsWord {word pattern text : List Char} (plain : ∀ c ∈ word, c ≠ '%' ∧ c ≠ '_') :
    fits (word ++ pattern) text = true ↔ ∃ start rest, text = start ++ rest ∧
      start.map Char.toLower = word.map Char.toLower ∧ fits pattern rest = true := by
  induction word generalizing text with
  | nil =>
    constructor
    · exact fun fit => ⟨[],text,rfl,rfl,fit⟩
    · rintro ⟨start,rest,rfl,same,fit⟩
      rw [List.map_eq_nil_iff.mp same]
      exact fit
  | cons p word ih =>
    obtain ⟨⟨percent,underscore⟩,plain⟩ := List.forall_mem_cons.mp plain
    cases text with
    | nil =>
      rw [List.cons_append,fits]
      constructor
      · intro fit
        contradiction
      · rintro ⟨start,rest,split,same,-⟩
        obtain ⟨rfl,rfl⟩ := List.append_eq_nil_iff.mp split.symm
        simp at same
      all_goals assumption
    | cons c text =>
      rw [List.cons_append,fits,Bool.and_eq_true,beq_iff_eq,ih plain]
      constructor
      · rintro ⟨here,start,rest,rfl,same,fit⟩
        exact ⟨c :: start,rest,rfl,by rw [List.map_cons,List.map_cons,same,here],fit⟩
      · rintro ⟨start,rest,split,same,fit⟩
        cases start with
        | nil => simp at same
        | cons first start =>
          obtain ⟨rfl,rfl⟩ := List.cons.inj split
          obtain ⟨here,same⟩ := List.cons.inj same
          exact ⟨here.symm,start,rest,rfl,same,fit⟩
      all_goals assumption

theorem fitsAnyAndMore {text : List Char} : fits ['_','%'] text = true ↔ text ≠ [] := by
  cases text with
  | nil => simp [fits]
  | cons c rest =>
    have ending (cs : List Char) : someEnd (fits []) cs = true := by
      induction cs with
      | nil => rfl
      | cons c cs ih => rw [someEnd,ih,Bool.or_true]
    exact ⟨fun _ => List.cons_ne_nil c rest,fun _ => ending rest⟩

end Pattern

theorem likeIff {name : String} :
    Pattern.isLike "sqlite_%" name = true ↔ Reserved name ∨ Mistaken name := by
  have plain : ∀ c ∈ "sqlite".toList, c ≠ '%' ∧ c ≠ '_' := by simp
  have lower : "sqlite".toList.map Char.toLower = "sqlite".toList := rfl
  have pattern : "sqlite_%".toList = "sqlite".toList ++ ['_','%'] := rfl
  have reserved : "sqlite_".toList = "sqlite".toList ++ ['_'] := rfl
  rw [Pattern.isLike,pattern,Pattern.fitsWord plain,lower]
  simp only [Pattern.fitsAnyAndMore]
  constructor
  · -- the underscore of the pattern takes one character of any kind
    rintro ⟨start,rest,split,same,some⟩
    obtain ⟨c,rest,rfl⟩ := List.exists_cons_of_ne_nil some
    have lowered : name.toList.map Char.toLower =
        "sqlite".toList ++ c.toLower :: rest.map Char.toLower := by
      rw [split,List.map_append,same,List.map_cons]
    by_cases underscore : c.toLower = '_'
    · refine .inl ⟨rest.map Char.toLower,?_⟩
      rw [reserved,lowered,underscore,List.append_assoc,List.singleton_append]
    · exact .inr ⟨c.toLower,rest.map Char.toLower,lowered,underscore⟩
  · have found {c : Char} {rest : List Char}
        (lowered : name.toList.map Char.toLower = "sqlite".toList ++ c :: rest) :
        ∃ start rest, name.toList = start ++ rest ∧ start.map Char.toLower = "sqlite".toList ∧
          rest ≠ [] := by
      obtain ⟨start,more,split,same,same'⟩ := List.map_eq_append_iff.mp lowered
      refine ⟨start,more,split,same,?_⟩
      rintro rfl
      simp at same'
    rintro (⟨rest,lowered⟩ | ⟨c,rest,lowered,-⟩)
    · rw [reserved,List.append_assoc] at lowered
      exact found lowered.symm
    · exact found lowered

def tablesCondition : Expr :=
  .infixed .and (.infixed .equal (.column none "type" false) (.constant (.text "table")))
    (.prefixed .no (.infixed .like (.column none "name" false) (.constant (.text "sqlite_%"))))

theorem tablesRead : (Reader.nextStatement.run (Script.opened tablesStatement.sql).1).run
    (Script.opened tablesStatement.sql).2 =
      .ok (some (.query (columnQuery "sqlite_master" "name" tablesCondition)),[]) := by
  cbv

theorem tablesLength : (Script.opened tablesStatement.sql).2.length = 16 := by
  decide +kernel

theorem tablesEnd : (Reader.nextStatement.run (Script.opened tablesStatement.sql).1).run [] =
    .ok (none,[]) := by
  cbv

def catalogFrame : Frame :=
  [⟨some "sqlite_master","type",.text,false⟩, ⟨some "sqlite_master","name",.text,false⟩,
    ⟨some "sqlite_master","tbl_name",.text,false⟩, ⟨some "sqlite_master","rootpage",.integer,false⟩,
    ⟨some "sqlite_master","sql",.text,false⟩]

theorem catalogFramed : named "sqlite_master" (Store.catalogColumns.map fun c =>
    ⟨none,c.name,c.affinity,false⟩) = catalogFrame := by
  decide +kernel

theorem typeFound : inFrames none "type" 0 [catalogFrame] =
    .ok (some (0,0,⟨some "sqlite_master","type",.text,false⟩)) := by
  cbv

theorem nameFound : inFrames none "name" 0 [catalogFrame] =
    .ok (some (0,1,⟨some "sqlite_master","name",.text,false⟩)) := by
  cbv

def tablesTest (c : Context) : Value :=
  Operation.infixed .and
    (Operation.infixed .equal (place 0 0 c) (Affinity.store .text (.text "table")))
    (Operation.prefixed .no (Operation.infixed .like (place 0 1 c) (.text "sqlite_%")))

theorem tablesResolves {s : Scope} {n : Nat} (framed : s.frames.take 1 = [catalogFrame]) :
    Resolves (deeper (n + 4)) s tablesCondition .none tablesTest := by
  have type : Resolves (deeper (n + 2)) s (.column none "type" false) .text (place 0 0) :=
    resolvesColumn (framed ▸ typeFound)
  have name : Resolves (deeper (n + 1)) s (.column none "name" false) .text (place 0 1) :=
    resolvesColumn (framed ▸ nameFound)
  have table : Resolves (deeper (n + 3)) s
      (.infixed .equal (.column none "type" false) (.constant (.text "table"))) .none _ :=
    resolvesInfixed type (resolvesConstant _)
  have like : Resolves (deeper (n + 2)) s
      (.infixed .like (.column none "name" false) (.constant (.text "sqlite_%"))) .none _ :=
    resolvesInfixed name (resolvesConstant _)
  exact resolvesInfixed table (resolvesPrefixed Prefix.noConfusion like)

theorem compareText {a b : String} : (Value.text a).compare (.text b) = .eq ↔ a = b := by
  constructor
  · intro equal
    change Value.compareOctets (Text.octetsOf a) (Text.octetsOf b) = .eq at equal
    rw [Value.compareOctets] at equal
    split at equal
    · contradiction
    · split at equal
      · contradiction
      · rename_i before after
        exact Text.eqOfIncomparable (by simpa [Text.precedes] using before)
          (by simpa [Text.precedes] using after)
  · rintro rfl
    change Value.compareOctets (Text.octetsOf a) (Text.octetsOf a) = .eq
    rw [Value.compareOctets,if_neg (List.lt_irrefl _),if_neg (List.lt_irrefl _)]

theorem truthBool (b : Bool) : (Value.bool b).truth = some b := by
  cases b <;> rfl

theorem tablesTestFor (kind name : String) (rest : List Value) :
    holdsFor tablesTest (.text kind :: .text name :: rest) =
      (kind == "table" && !Pattern.isLike "sqlite_%" name) := by
  have equal : Operation.infixed .equal (.text kind) (Affinity.store .text (.text "table")) =
      .bool (kind == "table") := by
    change Operation.truthValue (some (decide ((Value.text kind).compare (.text "table") = .eq))) = _
    rw [Operation.truthValue]
    exact congrArg Value.bool (decide_eq_decide.mpr compareText)
  have unlike : Operation.prefixed .no (Operation.infixed .like (.text name) (.text "sqlite_%")) =
      .bool (!Pattern.isLike "sqlite_%" name) := by
    change Operation.truthValue ((Value.bool (Pattern.isLike "sqlite_%" name)).truth.map (!·)) = _
    rw [truthBool]
    rfl
  change decide ((Operation.infixed .and (Operation.infixed .equal (.text kind) _)
    (Operation.prefixed .no (Operation.infixed .like (.text name) _))).truth = some true) = _
  rw [equal,unlike,Operation.infixed,truthBool,truthBool]
  cases kind == "table" <;> cases Pattern.isLike "sqlite_%" name <;> rfl

def Store.listed (s : Store) : List (String × String × String) :=
  s.entries.filter fun e => e.1 == "table" && !Pattern.isLike "sqlite_%" e.2.1

theorem catalogFiltered (s : Store) :
    (s.catalog.rows.filter (holdsFor tablesTest)).map (fun row => place 0 1 (alone row)) =
      (s.listed.map (·.2.1)).map .text := by
  have rows : s.catalog.rows = s.entries.zipIdx.map fun (e, i) =>
    [.text e.1, .text e.2.1, .text e.2.2, .integer (if e.1 = "view" then 0 else i + 2), .null] := rfl
  have entries := List.zipIdx_map_fst 0 s.entries
  rw [rows,List.filter_map,List.map_map,List.map_map,Store.listed]
  conv_rhs => rw [← entries,List.filter_map,List.map_map]
  congr 1
  refine List.filter_congr fun e _ => ?_
  exact tablesTestFor e.1.1 e.1.2.1 _

theorem permTexts {vs : List Value} {names : List String} (perm : vs.Perm (names.map .text)) :
    ∃ names' : List String, vs = names'.map .text ∧ names'.Perm names := by
  let read (v : Value) := v.text?.getD ""
  have back : (names.map .text).map read = names := by
    rw [List.map_map]
    exact List.map_id names
  refine ⟨vs.map read,?_,back ▸ perm.map read⟩
  rw [List.map_map]
  refine (List.map_id vs).symm.trans (List.map_congr_left fun v member => ?_)
  obtain ⟨name,-,rfl⟩ := List.mem_map.mp (perm.mem_iff.mp member)
  rfl

theorem tablesRun {s : Store} (found : s.table? "sqlite_master" = some s.catalog) :
    ∃ names : List String, Script.run s tablesStatement.sql =
        names.map (fun name => .ok [("name",.text name)]) ∧
      names.Perm (s.listed.map (·.2.1)) := by
  obtain ⟨rows,ran,perm⟩ := columnQueryRun (n := 32) found catalogFramed nameFound (tablesResolves rfl)
  have texts := perm.map fun row => place 0 1 (alone row)
  rw [catalogFiltered] at texts
  obtain ⟨names,named,perm⟩ := permTexts texts
  refine ⟨names,?_,perm⟩
  have begins : Script.run s tablesStatement.sql =
      Script.runFrom s (Script.opened tablesStatement.sql).1
        ((Script.opened tablesStatement.sql).2.length + 1) (Script.opened tablesStatement.sql).2 := rfl
  -- the text is one statement, behind which nothing is left
  rw [begins,Script.runFrom,tablesRead]
  simp only [tablesLength,Statement.run,ran]
  rw [Script.runFrom,tablesEnd]
  simp only [List.append_nil,List.map_map]
  have rows := congrArg (List.map fun v => (.ok [("name",v)] : Except Fault (List (String × Value)))) named
  rw [List.map_map,List.map_map] at rows
  exact rows

end Querent.Sqlite
