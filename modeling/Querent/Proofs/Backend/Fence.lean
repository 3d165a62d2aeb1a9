import Mathlib.Data.List.TakeDrop
import Querent.Backend.Fence
import Querent.Proofs.Text.Blank
import Querent.Proofs.Text.Cut

/-! The query in what a backend writes: between the fences, if the text begins with one, less a word on
the opening line that is no part of the query. `Unwraps` says it without the order in which the text
is cut, and there is one such query in every text. -/
namespace Querent.Backend.Fence
open Text (isBlank trim trimEnd trimStart Blank Neat NeatStart NeatEnd spanAppend)

-- A word may be empty.
def Word (cs : List Char) : Prop := ∀ c ∈ cs, isBlank c = false

def firstWord (cs : List Char) : List Char := cs.takeWhile (!isBlank ·)

inductive Tagged : (tag gap line : List Char) → Prop where
  | named {tag gap line} (language : isLanguage tag = true) (apart : gap = [] ↔ line = []) :
      Tagged tag gap line
  | unnamed {line} (other : isLanguage (firstWord line) = false) : Tagged [] [] line

inductive Holds : (inner query : List Char) → Prop where
  | below {lead word trail above query below} (unbroken : '\n' ∉ lead ++ word ++ trail)
      (blank : Blank (lead ++ trail ++ above ++ below)) (visible : Word word) (neat : Neat query)
      (more : above ++ query ++ below ≠ []) :
      Holds (lead ++ word ++ trail ++ '\n' :: (above ++ query ++ below)) query
  | beside {lead tag gap line trail more below} (unbroken : '\n' ∉ lead ++ (tag ++ gap ++ line) ++ trail)
      (blank : Blank (lead ++ gap ++ trail ++ below)) (tagged : Tagged tag gap line) (neat : Neat line)
      (neat' : Neat (line ++ more)) (lines : ∀ c ∈ (more ++ below).head?, c = '\n')
      (spread : (more ++ below).length ≤ 1 ∨ ¬Word (tag ++ gap ++ line)) :
      Holds (lead ++ (tag ++ gap ++ line) ++ trail ++ (more ++ below)) (line ++ more)

inductive Closed : (inner closing : List Char) → Prop where
  | fence {inner} : Closed inner mark
  | bare {inner} (neat : NeatEnd inner) (unfenced : ¬mark <:+ inner) : Closed inner []

inductive Unwraps : (raw query : List Char) → Prop where
  | bare {before query after} (blank : Blank before) (blank' : Blank after) (neat : Neat query)
      (unfenced : ¬mark <+: query) : Unwraps (before ++ query ++ after) query
  | fenced {before inner closing after query} (blank : Blank before) (blank' : Blank after)
      (closed : Closed inner closing) (holds : Holds inner query) :
      Unwraps (before ++ (mark ++ inner ++ closing) ++ after) query

theorem blankLower {c : Char} (blank : isBlank c = true) : c.toLower = c := by
  unfold Char.toLower
  split
  · rename_i capital
    have low : 65 ≤ c.toNat := UInt32.le_iff_toNat_le.mp capital.1
    have high : c.toNat ≤ 90 := UInt32.le_iff_toNat_le.mp capital.2
    simp only [isBlank,Text.blanks,Text.withinCons,Text.withinNil,Text.Span.holds,Bool.or_false,
      Bool.or_eq_true,Bool.and_eq_true,decide_eq_true_eq] at blank
    omega
  · rfl

theorem languageLetters : ∀ name ∈ languages, ∀ c ∈ name.toList, isBlank c = false := by
  have letters : languages.all (·.toList.all (!isBlank ·)) = true := by decide
  simpa only [List.all_eq_true,Bool.not_eq_true'] using letters

theorem languageWord {tag : List Char} (language : isLanguage tag = true) : Word tag := by
  intro c member
  have letters := languageLetters _ (List.contains_iff_mem.mp language)
  rw [String.toList_ofList] at letters
  cases blank : isBlank c with
  | false => rfl
  | true =>
    have same := letters _ (List.mem_map_of_mem member)
    rw [blankLower blank,blank] at same
    contradiction

theorem languageSome {tag : List Char} (language : isLanguage tag = true) : tag ≠ [] := by
  intro empty
  rw [empty] at language
  exact absurd language (by decide)

theorem neatWord {word : List Char} (visible : Word word) : Neat word :=
  ⟨fun c first => visible c (List.mem_of_head? first),fun c last => visible c (List.mem_of_getLast? last)⟩

theorem wordIff {cs : List Char} : cs.any isBlank = false ↔ Word cs := by simp [Word]

theorem firstLineSplit {line tail : List Char} (unbroken : '\n' ∉ line)
    (lines : ∀ c ∈ tail.head?, c = '\n') : firstLine (line ++ tail) = (trim line,tail.drop 1) := by
  have all : ∀ c ∈ line, (c != '\n') = true := by
    intro c member
    simpa using ne_of_mem_of_not_mem member unbroken
  rw [firstLine,spanAppend all fun c first => by simp [lines c first]]

theorem blankBreak : Blank ['\n'] := List.forall_mem_singleton.mpr (by decide)

def inside (inner : List Char) : List Char :=
  let (first, rest) := firstLine inner
  let first := queryPart first rest
  if first.isEmpty then trim rest else trim (first ++ '\n' :: rest)

-- The line break is white space, so that it does not matter which of the two branches is taken.
theorem insideSplit {line tail : List Char} (unbroken : '\n' ∉ line) (lines : ∀ c ∈ tail.head?, c = '\n') :
    inside (line ++ tail) = trim (queryPart (trim line) (tail.drop 1) ++ tail) := by
  rw [inside,firstLineSplit unbroken lines]
  dsimp only
  generalize queryPart (trim line) (tail.drop 1) = kept
  cases tail with
  | nil =>
    have after := Text.trimBlank Text.blankNil blankBreak kept
    cases kept with
    | nil => simp
    | cons c kept => simpa using after
  | cons c rest =>
    cases lines c rfl
    have before := Text.trimBlank blankBreak Text.blankNil rest
    cases kept with
    | nil => simpa using before.symm
    | cons c kept => simp

theorem queryPartWord {word rest : List Char} (visible : Word word) (more : rest ≠ []) :
    queryPart word rest = [] := by
  simp [queryPart,wordIff.mpr visible,more]

theorem queryPartTagged {tag gap line rest : List Char} (tagged : Tagged tag gap line) (blank : Blank gap)
    (spread : rest = [] ∨ ¬Word (tag ++ gap ++ line)) :
    queryPart (tag ++ gap ++ line) rest = gap.drop 1 ++ line := by
  have stays : (!rest.isEmpty && !(tag ++ gap ++ line).any isBlank) = false := by
    rcases spread with none | blanks
    · simp [none]
    · rw [← wordIff,Bool.not_eq_false] at blanks
      rw [blanks,Bool.not_true,Bool.and_false]
  rw [queryPart,stays]
  cases tagged with
  | named language apart =>
    have starts : ∀ c ∈ (gap ++ line).head?, isBlank c = true := by
      cases gap with
      | nil => simp [apart.mp rfl]
      | cons b gap =>
        intro c first
        cases first
        exact blank b List.mem_cons_self
    have letters : ∀ c ∈ tag, (!isBlank c) = true := fun c member => by simp [languageWord language c member]
    rw [List.append_assoc,spanAppend letters fun c first => by simp [starts c first]]
    cases gap with
    | nil => simp [language,apart.mp rfl]
    | cons b gap => simp [language]
  | unnamed other =>
    rw [firstWord] at other
    simp [List.span_eq_takeWhile_dropWhile,other]

theorem neatTagged {tag gap line : List Char} (tagged : Tagged tag gap line) (neat : Neat line) :
    Neat (tag ++ gap ++ line) := by
  cases tagged with
  | unnamed other => exact neat
  | named language apart =>
    have visible := neatWord (languageWord language)
    rw [List.append_assoc]
    refine ⟨(Text.neatStartAppend (languageSome language) _).mpr visible.1,?_⟩
    cases line with
    | nil => simpa [apart.mpr rfl] using visible.2
    | cons c line => simpa [← List.append_assoc] using (Text.neatEndAppend (by simp) (tag ++ gap)).mpr neat.2

theorem insideOfHolds {inner query : List Char} (holds : Holds inner query) : inside inner = query := by
  cases holds with
  | @below lead word trail above query below unbroken blank visible neat more =>
    simp only [Text.blankAppend] at blank
    obtain ⟨⟨⟨first,last⟩,outer⟩,outer'⟩ := blank
    have outer_ : Blank ('\n' :: above) := Text.blankAppend.mpr ⟨blankBreak,outer⟩
    rw [insideSplit unbroken (by simp),Text.trimAround first (neatWord visible) last,
      queryPartWord visible (by simpa using more)]
    have enclosed := Text.trimAround outer_ neat outer'
    exact enclosed
  | @beside lead tag gap line trail more below unbroken blank tagged neat neat' lines spread =>
    simp only [Text.blankAppend] at blank
    obtain ⟨⟨⟨first,between⟩,last⟩,outer⟩ := blank
    have rest : (more ++ below).drop 1 = [] ∨ ¬Word (tag ++ gap ++ line) := by
      rw [List.drop_eq_nil_iff]
      exact spread
    have left : Blank (gap.drop 1) := fun c member => between c (List.mem_of_mem_drop member)
    rw [insideSplit unbroken lines,Text.trimAround first (neatTagged tagged neat) last,
      queryPartTagged tagged between rest]
    calc trim (gap.drop 1 ++ line ++ (more ++ below))
        = trim (gap.drop 1 ++ (line ++ more) ++ below) := by simp only [List.append_assoc]
      _ = line ++ more := Text.trimAround left neat' outer

theorem withoutClosed {inner closing : List Char} (closed : Closed inner closing) :
    withoutClosing (inner ++ closing) = inner := by
  cases closed with
  | fence => simp [withoutClosing]
  | bare _ unfenced => simp [withoutClosing,unfenced]

theorem wordMark : Word mark := by
  have letters : mark.any isBlank = false := by decide
  exact wordIff.mp letters

theorem neatClosed {inner closing : List Char} (closed : Closed inner closing) :
    NeatEnd (inner ++ closing) := by
  cases closed with
  | fence => exact (Text.neatEndAppend (by decide) inner).mpr (neatWord wordMark).2
  | bare neat => simpa using neat

theorem stripFenced {raw opened : List Char} (text : trim raw = mark ++ opened) :
    strip raw = inside (withoutClosing (trimEnd opened)) := by
  have fenced : mark.isPrefixOf (mark ++ opened) = true := by simp
  rw [strip,text,if_pos fenced,List.drop_left]
  rfl

theorem stripOfUnwraps {raw query : List Char} (unwraps : Unwraps raw query) : strip raw = query := by
  cases unwraps with
  | bare blank blank' neat unfenced =>
    rw [strip,Text.trimAround blank neat blank',if_neg (by simpa using unfenced)]
  | @fenced before inner closing after _ blank blank' closed holds =>
    have visible := neatClosed closed
    have neat : Neat (mark ++ (inner ++ closing)) := by
      refine ⟨(Text.neatStartAppend (by decide) _).mpr (neatWord wordMark).1,?_⟩
      cases rest : inner ++ closing with
      | nil => exact (neatWord wordMark).2
      | cons c more =>
        rw [rest] at visible
        exact (Text.neatEndAppend (by simp) mark).mpr visible
    have text : trim (before ++ (mark ++ inner ++ closing) ++ after) = mark ++ (inner ++ closing) := by
      rw [List.append_assoc mark]
      exact Text.trimAround blank neat blank'
    have whole : trimEnd (inner ++ closing) = inner ++ closing := by
      simpa using Text.trimEndBlank visible Text.blankNil
    rw [stripFenced text,whole,withoutClosed closed,insideOfHolds holds]

theorem someClosed {opened : List Char} (neat : NeatEnd opened) :
    ∃ inner closing, opened = inner ++ closing ∧ Closed inner closing := by
  by_cases fenced : mark <:+ opened
  · obtain ⟨inner,rfl⟩ := fenced
    exact ⟨inner,mark,rfl,.fence⟩
  · exact ⟨opened,[],(List.append_nil opened).symm,.bare neat fenced⟩

theorem lineSplit (inner : List Char) :
    ∃ line tail, inner = line ++ tail ∧ '\n' ∉ line ∧ ∀ c ∈ tail.head?, c = '\n' := by
  refine ⟨inner.takeWhile (· != '\n'),inner.dropWhile (· != '\n'),List.takeWhile_append_dropWhile.symm,?_,?_⟩
  · intro member
    simpa using List.mem_takeWhile_imp member
  · intro c first
    have stop := List.head?_dropWhile_not (· != '\n') inner
    simpa [Option.mem_def.mp first] using stop

theorem wordSplit (cs : List Char) :
    ∃ rest, cs = firstWord cs ++ rest ∧ Word (firstWord cs) ∧ ∀ c ∈ rest.head?, isBlank c = true := by
  refine ⟨cs.dropWhile (!isBlank ·),List.takeWhile_append_dropWhile.symm,?_,?_⟩
  · intro c member
    simpa using List.mem_takeWhile_imp member
  · intro c first
    have stop := List.head?_dropWhile_not (!isBlank ·) cs
    simpa [Option.mem_def.mp first] using stop

theorem gapIff {gap rest : List Char} (split : rest = gap ++ trimStart rest) (blank : Blank gap)
    (starts : ∀ c ∈ rest.head?, isBlank c = true) (neat : NeatEnd rest) :
    gap = [] ↔ trimStart rest = [] := by
  constructor
  · intro none
    have visible := Text.neatStartDrop rest
    rw [none,List.nil_append] at split
    rw [← split] at visible
    cases rest with
    | nil => exact split.symm
    | cons c rest => exact nomatch (visible c rfl).symm.trans (starts c rfl)
  · intro none
    rw [none,List.append_nil] at split
    exact Text.blankNeat blank (split ▸ neat)

theorem someTagged {first : List Char} (neat : Neat first) :
    ∃ tag gap line, first = tag ++ gap ++ line ∧ Blank gap ∧ Neat line ∧ Tagged tag gap line := by
  by_cases language : isLanguage (firstWord first) = true
  · obtain ⟨rest,whole,_,starts⟩ := wordSplit first
    obtain ⟨gap,blank,split⟩ := Text.trimStartSplit rest
    have last : NeatEnd rest := by
      rw [whole] at neat
      exact Text.neatEndRight neat.2
    have last' : NeatEnd (trimStart rest) := by
      rw [split] at last
      exact Text.neatEndRight last
    refine ⟨firstWord first,gap,trimStart rest,?_,blank,⟨Text.neatStartDrop rest,last'⟩,
      .named language (gapIff split blank starts last)⟩
    rw [List.append_assoc,← split,← whole]
  · exact ⟨[],[],first,rfl,nofun,neat,.unnamed (by simpa using language)⟩

theorem taggedWord {tag gap : List Char} (tagged : Tagged tag gap []) : Word (tag ++ gap ++ []) := by
  cases tagged with
  | named language apart =>
    rw [apart.mpr rfl,List.append_nil,List.append_nil]
    exact languageWord language
  | unnamed => exact nofun

theorem breakBlank {tail : List Char} (lines : ∀ c ∈ tail.head?, c = '\n') (short : tail.length ≤ 1) :
    Blank tail := by
  match tail with
  | [] => exact nofun
  | [c] =>
    cases lines c rfl
    exact blankBreak

theorem neatBeside {tag gap line tail : List Char} (tagged : Tagged tag gap line) (neat : Neat line)
    (lines : ∀ c ∈ tail.head?, c = '\n') (spread : tail.length ≤ 1 ∨ ¬Word (tag ++ gap ++ line)) :
    Neat (line ++ trimEnd tail) := by
  cases line with
  | nil =>
    have short := spread.resolve_right (not_not_intro (taggedWord tagged))
    have none : trimEnd tail = [] := by
      simpa using Text.trimEndBlank neat.2 (breakBlank lines short)
    rw [none]
    exact neat
  | cons c line =>
    refine ⟨(Text.neatStartAppend (by simp) _).mpr neat.1,?_⟩
    cases more : trimEnd tail with
    | nil => simpa using neat.2
    | cons d more_ =>
      have visible := Text.neatEndTrim tail
      rw [more] at visible
      exact (Text.neatEndAppend (by simp) _).mpr visible

theorem holdsBelow {line rest : List Char} (unbroken : '\n' ∉ line) (word : Word (trim line))
    (some : rest ≠ []) : Holds (line ++ '\n' :: rest) (trim rest) := by
  obtain ⟨lead,trail,first,last,split⟩ := Text.trimSplit line
  obtain ⟨above,below,outer,outer',split'⟩ := Text.trimSplit rest
  have blank : Blank (lead ++ trail ++ above ++ below) := by
    simp only [Text.blankAppend]
    exact ⟨⟨⟨first,last⟩,outer⟩,outer'⟩
  rw [split] at unbroken
  have holds := Holds.below unbroken blank word (Text.neatTrim rest) (split' ▸ some)
  rwa [← split',← split] at holds

theorem holdsBeside {line tail : List Char} (unbroken : '\n' ∉ line) (lines : ∀ c ∈ tail.head?, c = '\n')
    (spread : tail.length ≤ 1 ∨ ¬Word (trim line)) : ∃ query, Holds (line ++ tail) query := by
  obtain ⟨lead,trail,first,last,split⟩ := Text.trimSplit line
  obtain ⟨tag,gap,query,whole,between,neat,tagged⟩ := someTagged (Text.neatTrim line)
  obtain ⟨below,outer,split'⟩ := Text.trimEndSplit tail
  have blank : Blank (lead ++ gap ++ trail ++ below) := by
    simp only [Text.blankAppend]
    exact ⟨⟨⟨first,between⟩,last⟩,outer⟩
  rw [whole] at spread
  have neat' := neatBeside tagged neat lines spread
  rw [split'] at lines spread
  rw [split,whole] at unbroken
  have holds := Holds.beside unbroken blank tagged neat neat' lines spread
  rw [← split',← whole,← split] at holds
  exact ⟨query ++ trimEnd tail,holds⟩

theorem someHolds (inner : List Char) : ∃ query, Holds inner query := by
  obtain ⟨line,tail,rfl,unbroken,lines⟩ := lineSplit inner
  by_cases word : Word (trim line)
  · match tail with
    | [] => exact holdsBeside unbroken lines (.inl (by simp))
    | [c] => exact holdsBeside unbroken lines (.inl (by simp))
    | c :: d :: rest =>
      cases lines c rfl
      exact ⟨trim (d :: rest),holdsBelow unbroken word (by simp)⟩
  · exact holdsBeside unbroken lines (.inr word)

theorem someUnwraps (raw : List Char) : ∃ query, Unwraps raw query := by
  obtain ⟨before,after,blank,blank',split⟩ := Text.trimSplit raw
  have neat := Text.neatTrim raw
  by_cases fenced : mark <+: trim raw
  · obtain ⟨opened,text⟩ := fenced
    rw [← text] at neat split
    obtain ⟨inner,closing,rfl,closed⟩ := someClosed (Text.neatEndRight neat.2)
    obtain ⟨query,holds⟩ := someHolds inner
    rw [split,← List.append_assoc mark]
    exact ⟨query,.fenced blank blank' closed holds⟩
  · rw [split]
    exact ⟨trim raw,.bare blank blank' neat fenced⟩

theorem stripIffUnwraps {raw query : List Char} : strip raw = query ↔ Unwraps raw query := by
  constructor
  · intro same
    obtain ⟨other,unwraps⟩ := someUnwraps raw
    rwa [← same,stripOfUnwraps unwraps]
  · exact stripOfUnwraps

end Querent.Backend.Fence
