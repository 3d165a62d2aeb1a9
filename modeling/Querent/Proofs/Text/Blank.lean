import Mathlib.Data.List.DropRight
import Mathlib.Data.List.TakeWhile
import Querent.Text.Blank

/-! Trimming finds the one part of a text that has only white space around it and none at its ends. -/
namespace Querent.Text

abbrev Blank (cs : List Char) : Prop := ∀ c ∈ cs, isBlank c = true

def NeatStart (cs : List Char) : Prop := ∀ c ∈ cs.head?, isBlank c = false

def NeatEnd (cs : List Char) : Prop := ∀ c ∈ cs.getLast?, isBlank c = false

def Neat (cs : List Char) : Prop := NeatStart cs ∧ NeatEnd cs

def Visible (s : String) : Prop := ∃ c ∈ s.toList, isBlank c = false

theorem visibleIff {s : String} : Visible s ↔ ¬isBlankText s = true := by
  simp [Visible,isBlankText,allBlank]

theorem blankNil : Blank [] := nofun

theorem blankAppend {cs ds : List Char} : Blank (cs ++ ds) ↔ Blank cs ∧ Blank ds := List.forall_mem_append

theorem trimEndSame (cs : List Char) : trimEnd cs = cs.rdropWhile isBlank := by
  induction cs with
  | nil => rfl
  | cons c rest ih =>
    rw [trimEnd,ih]
    simp only [List.rdropWhile,List.reverse_cons,List.dropWhile_append,List.dropWhile_cons,
      List.dropWhile_nil]
    cases kept : rest.reverse.dropWhile isBlank with
    | nil => cases isBlank c <;> rfl
    | cons d more => cases back : (d :: more).reverse <;> simp_all

theorem neatStartDrop (cs : List Char) : NeatStart (trimStart cs) := by
  intro c first
  have visible := List.head?_dropWhile_not isBlank cs
  rw [trimStart] at first
  simpa [Option.mem_def.mp first] using visible

theorem neatEndTrim (cs : List Char) : NeatEnd (trimEnd cs) := by
  intro c last
  rw [trimEndSame] at last
  obtain ⟨some,rfl⟩ := List.mem_getLast?_eq_getLast last
  simpa using List.rdropWhile_last_not isBlank cs some

theorem trimStartBlank {blanks kept : List Char} (blank : Blank blanks) (neat : NeatStart kept) :
    trimStart (blanks ++ kept) = kept := by
  rw [trimStart,List.dropWhile_append_of_pos blank]
  cases kept with
  | nil => rfl
  | cons c rest => simp [neat c rfl]

theorem trimEndBlank {kept blanks : List Char} (neat : NeatEnd kept) (blank : Blank blanks) :
    trimEnd (kept ++ blanks) = kept := by
  rw [trimEndSame,List.rdropWhile,List.reverse_append,
    List.dropWhile_append_of_pos (by simpa using blank)]
  exact List.rdropWhile_eq_self_iff.mpr fun some => by simp [neat _ (List.getLast?_eq_getLast_of_ne_nil some)]

theorem trimEndSplit (cs : List Char) : ∃ after, Blank after ∧ cs = trimEnd cs ++ after := by
  refine ⟨cs.rtakeWhile isBlank,fun _ => List.mem_rtakeWhile_imp,?_⟩
  rw [trimEndSame,List.rdropWhile_append_rtakeWhile]

theorem trimStartSplit (cs : List Char) : ∃ before, Blank before ∧ cs = before ++ trimStart cs :=
  ⟨cs.takeWhile isBlank,fun _ => List.mem_takeWhile_imp,List.takeWhile_append_dropWhile.symm⟩

theorem neatStartAppend {cs : List Char} (some : cs ≠ []) (ds : List Char) :
    NeatStart (cs ++ ds) ↔ NeatStart cs := by
  rw [NeatStart,NeatStart,List.head?_append_of_ne_nil cs some]

theorem neatEndAppend {ds : List Char} (some : ds ≠ []) (cs : List Char) :
    NeatEnd (cs ++ ds) ↔ NeatEnd ds := by
  rw [NeatEnd,NeatEnd,List.getLast?_append_of_ne_nil cs some]

theorem neatEndRight {cs ds : List Char} (neat : NeatEnd (cs ++ ds)) : NeatEnd ds := by
  by_cases some : ds = []
  · simp [NeatEnd,some]
  · exact (neatEndAppend some cs).mp neat

theorem blankNeat {cs : List Char} (blank : Blank cs) (neat : NeatEnd cs) : cs = [] := by
  cases last : cs.getLast? with
  | none => simpa using last
  | some c =>
    have visible := neat c last
    simp [blank c (List.mem_of_getLast? last)] at visible

theorem trimSplit (cs : List Char) :
    ∃ before after, Blank before ∧ Blank after ∧ cs = before ++ trim cs ++ after := by
  obtain ⟨before,blank,start⟩ := trimStartSplit cs
  obtain ⟨after,blank',finish⟩ := trimEndSplit (trimStart cs)
  refine ⟨before,after,blank,blank',?_⟩
  rw [trim,List.append_assoc,← finish,← start]

theorem neatTrim (cs : List Char) : Neat (trim cs) := by
  obtain ⟨after,_,whole⟩ := trimEndSplit (trimStart cs)
  refine ⟨?_,neatEndTrim _⟩
  by_cases some : trim cs = []
  · simp [NeatStart,some]
  · rw [← neatStartAppend some after,trim,← whole]
    exact neatStartDrop cs

theorem trimAround {before kept after : List Char} (blank : Blank before) (neat : Neat kept)
    (blank' : Blank after) : trim (before ++ kept ++ after) = kept := by
  rw [trim,List.append_assoc]
  cases kept with
  | nil =>
    have all : Blank (before ++ after) := blankAppend.mpr ⟨blank,blank'⟩
    rw [List.nil_append,← List.append_nil (before ++ after),trimStartBlank all neat.1]
    rfl
  | cons c rest =>
    rw [trimStartBlank blank ((neatStartAppend (by simp) after).mpr neat.1),trimEndBlank neat.2 blank']

theorem trimSelf {cs : List Char} : trim cs = cs ↔ Neat cs := by
  constructor
  · intro same
    rw [← same]
    exact neatTrim cs
  · intro neat
    simpa using trimAround blankNil neat blankNil

theorem trimBlank {before after : List Char} (blank : Blank before) (blank' : Blank after)
    (cs : List Char) : trim (before ++ cs ++ after) = trim cs := by
  obtain ⟨outer,outer',first,last,whole⟩ := trimSplit cs
  calc trim (before ++ cs ++ after)
      = trim (before ++ (outer ++ trim cs ++ outer') ++ after) := by rw [← whole]
    _ = trim ((before ++ outer) ++ trim cs ++ (outer' ++ after)) := by simp only [List.append_assoc]
    _ = trim cs := trimAround (blankAppend.mpr ⟨blank,first⟩) (neatTrim cs) (blankAppend.mpr ⟨last,blank'⟩)

end Querent.Text
