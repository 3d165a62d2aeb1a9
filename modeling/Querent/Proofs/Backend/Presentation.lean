import Querent.Proofs.Backend.Fence

/-! What normalizing leaves of a text, and the texts that are presentations of one query. -/
namespace Querent.Backend.Fence
open Text (isBlank Blank Neat NeatEnd)

def visible (cs : List Char) : List Char := cs.filter (!isBlank ·)

inductive Dropped : (opening word closing : List Char) → Prop where
  | nothing : Dropped [] [] []
  | opened {word} (visible : Word word) : Dropped mark word []
  | closed {word} (visible : Word word) : Dropped mark word mark

theorem visibleAppend (cs ds : List Char) : visible (cs ++ ds) = visible cs ++ visible ds :=
  List.filter_append ..

theorem visibleBlank {cs : List Char} (blank : Blank cs) : visible cs = [] := by
  simpa [visible] using blank

theorem visibleWord {cs : List Char} (word : Word cs) : visible cs = cs := by
  simpa [visible,Word] using word

theorem visibleBreak (cs : List Char) : visible ('\n' :: cs) = visible cs :=
  List.filter_cons_of_neg (by decide)

theorem visibleHolds {inner query : List Char} (holds : Holds inner query) :
    ∃ word, Word word ∧ visible inner = word ++ visible query := by
  cases holds with
  | @below lead word trail above query below unbroken blank word_ neat more =>
    simp only [Text.blankAppend] at blank
    obtain ⟨⟨⟨first,last⟩,outer⟩,outer'⟩ := blank
    refine ⟨word,word_,?_⟩
    simp [visibleAppend,visibleBreak,visibleBlank first,visibleBlank last,visibleBlank outer,
      visibleBlank outer',visibleWord word_]
  | @beside lead tag gap line trail more below unbroken blank tagged neat neat' lines spread =>
    simp only [Text.blankAppend] at blank
    obtain ⟨⟨⟨first,between⟩,last⟩,outer⟩ := blank
    have word : Word tag := by
      cases tagged with
      | named language => exact languageWord language
      | unnamed => exact nofun
    refine ⟨tag,word,?_⟩
    simp [visibleAppend,visibleBlank first,visibleBlank between,visibleBlank last,visibleBlank outer,
      visibleWord word]

theorem droppedOfUnwraps {raw query : List Char} (unwraps : Unwraps raw query) :
    ∃ opening word closing, Dropped opening word closing ∧
      visible raw = opening ++ word ++ visible query ++ closing := by
  cases unwraps with
  | bare blank blank' neat unfenced =>
    refine ⟨[],[],[],.nothing,?_⟩
    simp [visibleAppend,visibleBlank blank,visibleBlank blank']
  | fenced blank blank' closed holds =>
    obtain ⟨word,word_,same⟩ := visibleHolds holds
    cases closed with
    | fence =>
      refine ⟨mark,word,mark,.closed word_,?_⟩
      simp [visibleAppend,visibleBlank blank,visibleBlank blank',visibleWord wordMark,same]
    | bare =>
      refine ⟨mark,word,[],.opened word_,?_⟩
      simp [visibleAppend,visibleBlank blank,visibleBlank blank',visibleWord wordMark,same]

theorem neatHolds {inner query : List Char} (holds : Holds inner query) : Neat query := by
  cases holds with
  | below _ _ _ neat => exact neat
  | beside _ _ _ _ neat' => exact neat'

theorem neatUnwraps {raw query : List Char} (unwraps : Unwraps raw query) : Neat query := by
  cases unwraps with
  | bare _ _ neat => exact neat
  | fenced _ _ _ holds => exact neatHolds holds

theorem unwrapsBare {query : List Char} (neat : Neat query) (unfenced : ¬mark <+: query) :
    Unwraps query query := by
  simpa using Unwraps.bare Text.blankNil Text.blankNil neat unfenced

theorem normalizedIff {raw query : String} : normalized raw = query ↔ Unwraps raw.toList query.toList := by
  rw [← stripIffUnwraps,normalized]
  constructor
  · intro same
    rw [← same,String.toList_ofList]
  · intro same
    rw [same,String.ofList_toList]

structure Normal (raw query : String) : Prop where
  neat : Neat query.toList
  unwraps : ∀ other : String, Unwraps raw.toList other.toList ↔ other = query
  dropped : ∃ opening word closing, Dropped opening word closing ∧
    visible raw.toList = opening ++ word ++ visible query.toList ++ closing
  again : ¬mark <+: query.toList → normalized query = query

theorem normalizedNormal (raw : String) : Normal raw (normalized raw) where
  neat := neatUnwraps (normalizedIff.mp rfl)
  unwraps other := by rw [← normalizedIff,eq_comm]
  dropped := droppedOfUnwraps (normalizedIff.mp rfl)
  again unfenced := normalizedIff.mpr (unwrapsBare (neatUnwraps (normalizedIff.mp rfl)) unfenced)

inductive Presents (query : List Char) : (raw : List Char) → Prop where
  | plain {before after} (blank : Blank before) (blank' : Blank after) (unfenced : ¬mark <+: query) :
      Presents query (before ++ query ++ after)
  | lines {before tag after} (blank : Blank before) (blank' : Blank after) (word : Word tag) :
      Presents query (before ++ mark ++ tag ++ ['\n'] ++ query ++ ['\n'] ++ mark ++ after)
  | unclosed {before tag after} (blank : Blank before) (blank' : Blank after) (word : Word tag)
      (unfenced : ¬mark <:+ query) : Presents query (before ++ mark ++ tag ++ ['\n'] ++ query ++ after)
  | tagged {before tag gap after} (blank : Blank before) (blank' : Blank after)
      (language : isLanguage tag = true) (between : Blank gap) (apart : gap ≠ [])
      (unbroken : '\n' ∉ gap ++ query) :
      Presents query (before ++ mark ++ tag ++ gap ++ query ++ mark ++ after)
  | inline {before after} (blank : Blank before) (blank' : Blank after) (unbroken : '\n' ∉ query)
      (other : isLanguage (firstWord query) = false) :
      Presents query (before ++ mark ++ query ++ mark ++ after)

theorem wordUnbroken {word : List Char} (visible : Word word) : '\n' ∉ word :=
  fun member => absurd (visible _ member) (by decide)

theorem holdsLines {tag query below : List Char} (word : Word tag) (neat : Neat query) (some : query ≠ [])
    (blank : Blank below) : Holds (tag ++ '\n' :: (query ++ below)) query := by
  have alone : Word (Text.trim tag) := by rwa [Text.trimSelf.mpr (neatWord word)]
  have rest : Text.trim (query ++ below) = query := Text.trimAround Text.blankNil neat blank
  have holds := holdsBelow (wordUnbroken word) alone (show query ++ below ≠ [] by simp [some])
  rwa [rest] at holds

theorem holdsTagged {tag gap query : List Char} (tagged : Tagged tag gap query) (blank : Blank gap)
    (unbroken : '\n' ∉ tag ++ gap ++ query) (neat : Neat query) : Holds (tag ++ gap ++ query) query := by
  have unbroken' : '\n' ∉ [] ++ (tag ++ gap ++ query) ++ [] := by simpa using unbroken
  have blank' : Blank ([] ++ gap ++ [] ++ []) := by simpa using blank
  have neat' : Neat (query ++ []) := by simpa using neat
  simpa using Holds.beside unbroken' blank' tagged neat neat' (by simp) (by simp)

theorem unfencedLine {query : List Char} (unfenced : ¬mark <:+ query) (tag : List Char) :
    ¬mark <:+ tag ++ '\n' :: query := by
  intro fenced
  rcases List.suffix_or_suffix_of_suffix fenced (List.suffix_append tag ('\n' :: query)) with inside | longer
  · rcases List.suffix_cons_iff.mp inside with same | inside
    · cases same
    · exact unfenced inside
  · exact absurd (longer.subset List.mem_cons_self) (by decide)

theorem unwrapsOfPresents {query raw : List Char} (some : query ≠ []) (neat : Neat query)
    (presents : Presents query raw) : Unwraps raw query := by
  cases presents with
  | plain blank blank' unfenced => exact .bare blank blank' neat unfenced
  | lines blank blank' word =>
    simpa using Unwraps.fenced blank blank' .fence (holdsLines word neat some blankBreak)
  | @unclosed _ tag _ blank blank' word unfenced =>
    have finish : NeatEnd (tag ++ '\n' :: query) := by
      simpa using (Text.neatEndAppend some (tag ++ ['\n'])).mpr neat.2
    have closed := Closed.bare finish (unfencedLine unfenced tag)
    have holds : Holds (tag ++ '\n' :: query) query := by
      simpa using holdsLines word neat some Text.blankNil
    simpa using Unwraps.fenced blank blank' closed holds
  | @tagged _ tag gap _ blank blank' language between apart unbroken =>
    have unbroken_ : '\n' ∉ tag ++ gap ++ query := by
      simpa [wordUnbroken (languageWord language)] using unbroken
    have tagged : Tagged tag gap query := .named language (by simp [apart,some])
    simpa using Unwraps.fenced blank blank' .fence (holdsTagged tagged between unbroken_ neat)
  | inline blank blank' unbroken other =>
    simpa using Unwraps.fenced blank blank' .fence (holdsTagged (.unnamed other) nofun unbroken neat)

theorem presentationsAgree {query raw : String} (some : query ≠ "") (neat : Text.trimmed query = query)
    (presents : Presents query.toList raw.toList) : normalized raw = query := by
  have neat' : Neat query.toList := by
    rw [← Text.trimSelf]
    simpa [Text.trimmed] using congrArg String.toList neat
  exact normalizedIff.mpr (unwrapsOfPresents (by simpa using some) neat' presents)

theorem quotedNamePresented :
    Presents "SELECT \x60a\x60".toList "\x60\x60\x60MySQL\tSELECT \x60a\x60\x60\x60\x60\n".toList ∧
      normalized "\x60\x60\x60MySQL\tSELECT \x60a\x60\x60\x60\x60\n" = "SELECT \x60a\x60" := by
  have presents : Presents "SELECT \x60a\x60".toList
      "\x60\x60\x60MySQL\tSELECT \x60a\x60\x60\x60\x60\n".toList :=
    @Presents.tagged _ [] "MySQL".toList ['\t'] ['\n'] Text.blankNil blankBreak
      (by decide) (List.forall_mem_singleton.mpr (by decide)) (by decide) (by decide)
  exact ⟨presents,presentationsAgree (by decide) (by decide) presents⟩

end Querent.Backend.Fence
