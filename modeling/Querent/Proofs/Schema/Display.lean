import Querent.Backend.Prompt
import Querent.Proofs.Text.Joined

/-! The text of a schema tells it from all others, as long as no name or type holds what follows it there. -/
namespace Querent.Schema
open Backend (Prompt)
open Text (Free Parts)

abbrev comma : List Char := [',',' ']

structure LegibleColumn (c : String × String) : Prop where
  space : ' ' ∉ c.1.toList
  comma : ',' ∉ c.1.toList
  line : '\n' ∉ c.1.toList
  typeLine : '\n' ∉ c.2.toList
  typeComma : ¬Schema.comma <:+: c.2.toList

instance (c : String × String) : Decidable (LegibleColumn c) :=
  decidable_of_iff (' ' ∉ c.1.toList ∧ ',' ∉ c.1.toList ∧ '\n' ∉ c.1.toList ∧ '\n' ∉ c.2.toList ∧
    ¬Schema.comma <:+: c.2.toList)
    ⟨fun ⟨space,comma,line,typeLine,typeComma⟩ => ⟨space,comma,line,typeLine,typeComma⟩,
      fun legible => ⟨legible.space,legible.comma,legible.line,legible.typeLine,legible.typeComma⟩⟩

def columnText (c : String × String) : List Char := c.1.toList ++ [' '] ++ c.2.toList

theorem columnInjective {c d : String × String} (legible : LegibleColumn c) (legible' : LegibleColumn d)
    (same : columnText c = columnText d) : c = d := by
  obtain ⟨name,type⟩ := Text.cutUnique (List.cons_ne_nil _ _) (Text.freeOne legible.space)
    (Text.freeOne legible'.space) same
  exact Prod.ext (String.toList_inj.mp name) (String.toList_inj.mp type)

theorem columnFree {c : String × String} (legible : LegibleColumn c) : Free comma (columnText c) := by
  intro inside
  have front : ',' ∉ c.1.toList ++ [' '] := by simpa using legible.comma
  have behind : comma <:+: c.2.toList ++ [','] := Text.infixBehind front (by simpa [columnText] using inside)
  rcases List.infix_concat_iff.mp behind with last | type
  · obtain ⟨before,same⟩ := last
    have ends := congrArg List.getLast? same
    simp at ends
  · exact legible.typeComma type

theorem columnLine {c : String × String} (legible : LegibleColumn c) : '\n' ∉ columnText c := by
  simp [columnText,legible.line,legible.typeLine]

def columnsText (columns : Columns) : List Char := comma.intercalate (columns.entries.map columnText)

def lineText (t : String × Columns) : List Char := t.1.toList ++ ['('] ++ (columnsText t.2 ++ [')'])

structure LegibleTable (t : String × Columns) : Prop where
  bracket : '(' ∉ t.1.toList
  line : '\n' ∉ t.1.toList
  columns : ∀ c ∈ t.2.entries, LegibleColumn c

instance (t : String × Columns) : Decidable (LegibleTable t) :=
  decidable_of_iff ('(' ∉ t.1.toList ∧ '\n' ∉ t.1.toList ∧ ∀ c ∈ t.2.entries, LegibleColumn c)
    ⟨fun ⟨bracket,line,columns⟩ => ⟨bracket,line,columns⟩,
      fun legible => ⟨legible.bracket,legible.line,legible.columns⟩⟩

theorem mapInjective {α β : Type} {f : α → β} {holds : α → Prop}
    (injective : ∀ {x y}, holds x → holds y → f x = f y → x = y) {xs ys : List α}
    (all : ∀ x ∈ xs, holds x) (all' : ∀ y ∈ ys, holds y) (same : xs.map f = ys.map f) : xs = ys := by
  induction xs generalizing ys with
  | nil => simpa using same.symm
  | cons x xs ih =>
    cases ys with
    | nil => contradiction
    | cons y ys =>
      obtain ⟨first,later⟩ := List.forall_mem_cons.mp all
      obtain ⟨first',later'⟩ := List.forall_mem_cons.mp all'
      obtain ⟨here,others⟩ := List.cons.inj same
      rw [injective first first' here,ih later later' others]

theorem columnsParts {columns : Columns} (legible : ∀ c ∈ columns.entries, LegibleColumn c) :
    Parts comma (columns.entries.map columnText) := by
  intro x member
  obtain ⟨c,inside,rfl⟩ := List.mem_map.mp member
  exact ⟨columnFree (legible c inside),by simp [columnText]⟩

theorem columnsInjective {columns columns' : Columns}
    (legible : ∀ c ∈ columns.entries, LegibleColumn c) (legible' : ∀ c ∈ columns'.entries, LegibleColumn c)
    (same : columnsText columns = columnsText columns') : columns = columns' := by
  have texts := Text.joinedInjective (List.cons_ne_nil _ _) (columnsParts legible) (columnsParts legible') same
  exact Dictionary.ext (mapInjective columnInjective legible legible' texts)

theorem lineInjective {t u : String × Columns} (legible : LegibleTable t) (legible' : LegibleTable u)
    (same : lineText t = lineText u) : t = u := by
  obtain ⟨name,columns⟩ := Text.cutUnique (List.cons_ne_nil _ _) (Text.freeOne legible.bracket)
    (Text.freeOne legible'.bracket) same
  exact Prod.ext (String.toList_inj.mp name)
    (columnsInjective legible.columns legible'.columns (List.append_cancel_right columns))

theorem lineFree {t : String × Columns} (legible : LegibleTable t) : Free ['\n'] (lineText t) := by
  have columns : '\n' ∉ columnsText t.2 := by
    intro member
    rcases Text.memJoined member with separator | ⟨x,part,inside⟩
    · simp at separator
    · obtain ⟨c,listed,rfl⟩ := List.mem_map.mp part
      exact columnLine (legible.columns c listed) inside
  exact Text.freeOne (by simp [lineText,legible.line,columns])

def Legible (s : Schema) : Prop := ∀ t ∈ s.tables.entries, LegibleTable t

instance (s : Schema) : Decidable s.Legible :=
  inferInstanceAs (Decidable (∀ t ∈ s.tables.entries, LegibleTable t))

theorem columnsLine (columns : Columns) :
    (", ".intercalate (columns.entries.map fun c => c.1 ++ " " ++ c.2)).toList = columnsText columns := by
  rw [String.toList_intercalate,List.map_map]
  exact congrArg _ (List.map_congr_left fun c _ => by simp [columnText])

theorem tableLine (t : String × Columns) : (tableText t.1 t.2).toList = lineText t := by
  simp only [tableText,String.toList_append,columnsLine]
  simp [lineText]

theorem displayLines (s : Schema) : s.display.toList = ['\n'].intercalate (s.tables.entries.map lineText) := by
  rw [display,String.toList_intercalate,List.map_map]
  exact congrArg _ (List.map_congr_left fun t _ => tableLine t)

theorem linesParts {s : Schema} (legible : s.Legible) : Parts ['\n'] (s.tables.entries.map lineText) := by
  intro x member
  obtain ⟨t,inside,rfl⟩ := List.mem_map.mp member
  exact ⟨lineFree (legible t inside),by simp [lineText]⟩

theorem displayInjective {s s' : Schema} (legible : s.Legible) (legible' : s'.Legible)
    (same : s.display = s'.display) : s = s' := by
  have lines := congrArg String.toList same
  rw [displayLines,displayLines] at lines
  have texts := Text.joinedInjective (List.cons_ne_nil _ _) (linesParts legible) (linesParts legible') lines
  have entries := mapInjective lineInjective legible legible' texts
  obtain ⟨tables⟩ := s
  obtain ⟨tables'⟩ := s'
  exact congrArg Schema.mk (Dictionary.ext entries)

theorem displaysApart {s s' : Schema} (legible : s.Legible) (legible' : s'.Legible) :
    (s.display = s'.display ↔ s = s') ∧ ∀ question question',
      (Prompt.forQuery s question).system = (Prompt.forQuery s' question').system ↔ s = s' := by
  have told : s.display = s'.display ↔ s = s' :=
    ⟨displayInjective legible legible',congrArg display⟩
  refine ⟨told,fun question question' => ?_⟩
  rw [← told]
  constructor
  · intro same
    exact String.append_right_inj _ |>.mp same
  · intro same
    rw [Prompt.forQuery,Prompt.forQuery,same]

theorem columnlessApart : ∃ s s' : Schema, s.Legible ∧ s'.Legible ∧
    s = ofColumns [("t",[("a","numeric(10,2)")]), ("u",[])] ∧
    s' = ofColumns [("t",[("a","numeric(10,2)")]), ("u",[("","")])] ∧ s.display ≠ s'.display := by
  have legible : (ofColumns [("t",[("a","numeric(10,2)")]), ("u",[])]).Legible := by decide +kernel
  have legible' : (ofColumns [("t",[("a","numeric(10,2)")]), ("u",[("","")])]).Legible := by
    decide +kernel
  have apart : ofColumns [("t",[("a","numeric(10,2)")]), ("u",[])] ≠
      ofColumns [("t",[("a","numeric(10,2)")]), ("u",[("","")])] := by decide +kernel
  exact ⟨_,_,legible,legible',rfl,rfl,fun same => apart ((displaysApart legible legible').1.mp same)⟩

end Querent.Schema
