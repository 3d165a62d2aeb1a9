import Querent.Proofs.Guard.Judgment
import Querent.Proofs.Text.Case

/-! The keywords that a guard looks for, and the texts in which it finds them. What is configured adds
to the mandatory keywords; a text is refused wherever a keyword of the list reads in lower case as it
does alone. -/
namespace Querent.Guard
open Text (Steady lower)

def compared (keyword : String) : String := Text.lowercased (Text.trimmed keyword)

theorem comparedSome {keyword : String} (some : Text.trimmed keyword ≠ "") : compared keyword ≠ "" := by
  intro nothing
  have empty : lower (Text.trimmed keyword).toList = [] := by
    simpa [compared,Text.lowercased] using nothing
  exact Text.lowerSome (by simpa using some) empty

theorem memAdded {k : String} {keywords before : List String} :
    k ∈ keywords.foldl add before ↔ k ∈ before ∨ k ≠ "" ∧ ∃ keyword ∈ keywords, compared keyword = k := by
  induction keywords generalizing before with
  | nil => simp
  | cons keyword keywords ih =>
    have one : add before keyword =
        if compared keyword = "" ∨ compared keyword ∈ before then before else before ++ [compared keyword] := rfl
    rw [List.foldl_cons,ih,one]
    split
    · grind
    · grind

theorem memKeywords {k : String} {keywords : List String} :
    k ∈ (ofKeywords keywords).keywords ↔
      k ∈ mandatory ∨ k ≠ "" ∧ ∃ keyword ∈ keywords, compared keyword = k := memAdded

theorem memConfigured {keyword : String} {keywords : List String} (listed : keyword ∈ keywords)
    (some : Text.trimmed keyword ≠ "") : compared keyword ∈ (ofKeywords keywords).keywords :=
  memKeywords.mpr (.inr ⟨comparedSome some,keyword,listed,rfl⟩)

def RefusesKeyword (g : Guard) (sql : String) : Prop := ∃ found, g.check sql = .error (.keyword found)

theorem refusedOfOccurs {g : Guard} {keyword sql : String} (listed : keyword ∈ g.keywords)
    (occurs : Occurs keyword sql) : g.RefusesKeyword sql := by
  cases found : g.keyword? sql with
  | some first => exact ⟨first,by simp [check,checkWith,found]⟩
  | none => exact absurd occurs (keywordNoneIff.mp found keyword listed)

theorem clearOfPassed {g : Guard} {sql : String} (passed : g.check sql = .ok ()) :
    ∀ keyword ∈ g.keywords, ¬Occurs keyword sql := by
  intro keyword listed occurs
  obtain ⟨found,refused⟩ := refusedOfOccurs listed occurs
  simp [passed] at refused

theorem occursOfSteady {keyword sql : String} {before part after : List Char}
    (text : sql.toList = before ++ part ++ after) (reads : lower part = keyword.toList)
    (steady : Steady before part after) : Occurs keyword sql := by
  rw [Occurs,text,← reads]
  exact Text.lowerInside steady

def Extends (more fewer : List String) : Prop :=
  ∀ keyword ∈ fewer, Text.trimmed keyword ≠ "" → ∃ other ∈ more, compared other = compared keyword

theorem memExtended {more fewer : List String} (extends_ : Extends more fewer) {k : String}
    (listed : k ∈ (ofKeywords fewer).keywords) : k ∈ (ofKeywords more).keywords := by
  rw [memKeywords] at listed ⊢
  rcases listed with always | ⟨some,keyword,configured,rfl⟩
  · exact .inl always
  · have visible : Text.trimmed keyword ≠ "" := by
      intro blank
      simp [compared,blank,Text.lowercased,lower,Text.lowerFrom] at some
    exact .inr ⟨some,extends_ keyword configured visible⟩

inductive Alike : Except Refusal Unit → Except Refusal Unit → Prop where
  | same {answer} : Alike answer answer
  | keywords {one other} : Alike (.error (.keyword one)) (.error (.keyword other))

theorem passedOfFewer {more fewer : Guard} {sql : String}
    (fewer_ : ∀ k ∈ fewer.keywords, k ∈ more.keywords) (passed : more.check sql = .ok ()) :
    fewer.check sql = .ok () := by
  have clear := clearOfPassed passed
  rw [checkClear fun k listed => clear k (fewer_ k listed),← checkClear clear,passed]

theorem alikeOfSame {one other : Guard} (same : ∀ k, k ∈ one.keywords ↔ k ∈ other.keywords)
    (sql : String) : Alike (one.check sql) (other.check sql) := by
  by_cases clear : ∀ k ∈ one.keywords, ¬Occurs k sql
  · rw [checkClear clear,checkClear fun k listed => clear k ((same k).mpr listed)]
    exact .same
  · simp only [Classical.not_forall,Classical.not_not] at clear
    obtain ⟨k,listed,occurs⟩ := clear
    obtain ⟨first,refused⟩ := refusedOfOccurs listed occurs
    obtain ⟨second,refused'⟩ := refusedOfOccurs ((same k).mp listed) occurs
    rw [refused,refused']
    exact .keywords

theorem mandatoryAscii : ∀ k ∈ mandatory, ∀ c ∈ k.toList, c.toNat < 128 := by
  have letters : mandatory.all (·.toList.all (·.toNat < 128)) = true := by decide
  simpa only [List.all_eq_true,decide_eq_true_eq] using letters

theorem asciiOfToLower {c : Char} (ascii : c.toLower.toNat < 128) : c.toNat < 128 := by
  unfold Char.toLower at ascii
  split at ascii
  · rename_i capital
    exact Nat.lt_of_le_of_lt (UInt32.le_iff_toNat_le.mp capital.2) (by decide)
  · exact ascii

theorem mandatoryRefused (keywords : List String) {sql : String} {part : List Char}
    (inside : part <:+: sql.toList) (spelled : String.ofList (part.map Char.toLower) ∈ mandatory) :
    (ofKeywords keywords).RefusesKeyword sql := by
  obtain ⟨before,after,text⟩ := inside
  have ascii : ∀ c ∈ part, c.toNat < 128 := by
    intro c member
    have letters := mandatoryAscii _ spelled
    rw [String.toList_ofList] at letters
    exact asciiOfToLower (letters _ (List.mem_map_of_mem member))
  have plain : 'Σ' ∉ part := fun member => absurd (ascii _ member) (by decide)
  have reads : lower part = (String.ofList (part.map Char.toLower)).toList := by
    rw [Text.lowerAscii ascii,String.toList_ofList]
  exact refusedOfOccurs (memKeywords.mpr (.inl spelled))
    (occursOfSteady text.symm reads (Text.steadyWithoutSigma plain before after))

theorem configurationTightens (one other : List String) (sql : String) :
    (∀ part, part <:+: sql.toList → String.ofList (part.map Char.toLower) ∈ mandatory →
      (ofKeywords one).RefusesKeyword sql) ∧
    (Extends other one → (ofKeywords other).check sql = .ok () → (ofKeywords one).check sql = .ok ()) ∧
    (Extends one other → Extends other one →
      Alike ((ofKeywords one).check sql) ((ofKeywords other).check sql)) := by
  refine ⟨fun part inside spelled => mandatoryRefused one inside spelled,?_,?_⟩
  · intro extends_ passed
    exact passedOfFewer (fun k listed => memExtended extends_ listed) passed
  · intro first second
    exact alikeOfSame (fun k => ⟨memExtended second,memExtended first⟩) sql

theorem respelledKeywordsAlike :
    (ofKeywords ["ssn"]).RefusesKeyword "SELECT PassWord FROM t" ∧
    (ofKeywords ["ssn"]).check "SELECT a FROM t" = .ok () ∧
    Alike ((ofKeywords ["ssn"]).check "SELECT Ssn") ((ofKeywords [" SSN","\t","ssn "]).check "SELECT Ssn") := by
  have more : Extends [" SSN","\t","ssn "] ["ssn"] := by
    simp only [Extends,List.forall_mem_singleton]
    exact fun _ => ⟨" SSN",by decide,by decide +kernel⟩
  have fewer : Extends ["ssn"] [" SSN","\t","ssn "] := by
    intro keyword listed some
    refine ⟨"ssn",by decide,?_⟩
    simp only [List.mem_cons,List.not_mem_nil,or_false] at listed
    rcases listed with rfl | rfl | rfl
    · decide +kernel
    · exact absurd (by decide +kernel) some
    · decide +kernel
  have passed : (ofKeywords [" SSN","\t","ssn "]).check "SELECT a FROM t" = .ok () :=
    checkPassed (by decide +kernel) (by decide +kernel)
  have spelled := (configurationTightens ["ssn"] [] "SELECT PassWord FROM t").1 "PassWord".toList
    ⟨"SELECT ".toList," FROM t".toList,by decide +kernel⟩ (by decide +kernel)
  exact ⟨spelled,(configurationTightens _ _ _).2.1 more passed,
    (configurationTightens _ _ _).2.2 fewer more⟩

end Querent.Guard
