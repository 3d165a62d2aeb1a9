import Querent.Backend.Provider
import Querent.Proofs.Dictionary
import Querent.Proofs.Dispatcher.Asking
import Querent.Proofs.Json.Strings
import Querent.Proofs.Text.Blank
import Querent.Proofs.Text.Case

/-! Which backend a name finds. The names of the kinds and the names of a registry are two tables; they agree
on every name, whatever can be set up. -/
namespace Querent.Backend
open Text (Blank isBlank isOwn)

theorem aliasOwn {kind : Kind} {word : String} (listed : word ∈ kind.aliases) :
    ∀ c ∈ word.toList, isOwn c = true := by
  have all : kind.aliases.all (·.toList.all isOwn) = true := by cases kind <;> decide
  exact List.all_eq_true.mp (List.all_eq_true.mp all word listed)

theorem nameInjective {kind other : Kind} (same : kind.name = other.name) : kind = other := by
  revert same
  cases kind <;> cases other <;> decide

theorem aliasesApart {kind other : Kind} {word : String} (here : word ∈ kind.aliases)
    (there : word ∈ other.aliases) : kind = other := by
  revert here there
  cases kind <;> cases other <;> simp [Kind.aliases] <;> rintro (rfl | rfl) <;> decide

theorem ofNameIff {name : String} {kind : Kind} :
    Kind.ofName? name = some kind ↔ lookupName name ∈ kind.aliases := by
  unfold Kind.ofName?
  constructor
  · intro found
    simpa using List.find?_some found
  · intro here
    cases found : Kind.all.find? fun kind => kind.aliases.contains (lookupName name) with
    | none =>
      have all : kind ∈ Kind.all := by cases kind <;> decide
      exact absurd here (by simpa using List.find?_eq_none.mp found kind all)
    | some other =>
      have there : lookupName name ∈ other.aliases := by simpa using List.find?_some found
      rw [aliasesApart here there]

def Spelled (kind : Kind) (name : String) : Prop :=
  ∃ before word after, Blank before ∧ Blank after ∧ name.toList = before ++ word ++ after ∧
    String.ofList (word.map Char.toLower) ∈ kind.aliases

theorem lookupNameAlias {kind : Kind} {word name : String} (listed : word ∈ kind.aliases) :
    lookupName name = word ↔ (Text.trim name.toList).map Char.toLower = word.toList := by
  rw [← Text.lowerOwn (aliasOwn listed),lookupName,Text.lowercased,Text.trimmed,String.toList_ofList]
  constructor
  · rintro rfl
    rw [String.toList_ofList]
  · intro same
    rw [same,String.ofList_toList]

theorem neatOwn {word : List Char} (own : ∀ c ∈ word.map Char.toLower, isOwn c = true) :
    Text.Neat word := by
  have visible : ∀ c ∈ word, isBlank c = false := fun c member =>
    (Text.ownLetter (own _ (List.mem_map_of_mem member))).visible
  exact ⟨fun c first => visible c (List.mem_of_mem_head? first),
    fun c last => visible c (List.mem_of_mem_getLast? last)⟩

theorem ofNameSpelled (name : String) (kind : Kind) : Kind.ofName? name = some kind ↔ Spelled kind name := by
  rw [ofNameIff]
  constructor
  · intro listed
    obtain ⟨before,after,blank,blank',whole⟩ := Text.trimSplit name.toList
    refine ⟨before,_,after,blank,blank',whole,?_⟩
    rw [(lookupNameAlias listed).mp rfl,String.ofList_toList]
    exact listed
  · rintro ⟨before,word,after,blank,blank',whole,listed⟩
    have own := aliasOwn listed
    rw [String.toList_ofList] at own
    have same : lookupName name = String.ofList (word.map Char.toLower) := by
      rw [lookupNameAlias listed,whole,Text.trimAround blank (neatOwn own) blank',String.toList_ofList]
    exact same ▸ listed

def Usable (c : BackendsConfig) : Kind → Prop
  | .ollama => c.ollama.enabled = true
  | .openai => ∃ key, c.openai.apiKey = some key ∧ Text.Visible key
  | .gemini => ∃ key, c.gemini.apiKey = some key ∧ Text.Visible key

inductive SetUp (c : BackendsConfig) : Provider → Prop where
  | ollama (enabled : c.ollama.enabled = true) : SetUp c (.ollama c.ollama)
  | openai {key} (given : c.openai.apiKey = some key) (visible : Text.Visible key) :
      SetUp c (.openai c.openai key)
  | gemini {key} (given : c.gemini.apiKey = some key) (visible : Text.Visible key) :
      SetUp c (.gemini c.gemini key)

theorem usableIff {c : BackendsConfig} {kind : Kind} :
    Usable c kind ↔ ∃ p, SetUp c p ∧ p.kind = kind := by
  constructor
  · intro usable
    cases kind with
    | ollama => exact ⟨_,.ollama usable,rfl⟩
    | openai =>
      obtain ⟨key,given,visible⟩ := usable
      exact ⟨_,.openai given visible,rfl⟩
    | gemini =>
      obtain ⟨key,given,visible⟩ := usable
      exact ⟨_,.gemini given visible,rfl⟩
  · rintro ⟨p,setUp,rfl⟩
    cases setUp with
    | ollama enabled => exact enabled
    | openai given visible | gemini given visible => exact ⟨_,given,visible⟩

theorem keyIff {kind : Kind} {given : Option String} {key : String} :
    Provider.key kind given = .ok key ↔ given = some key ∧ Text.Visible key := by
  unfold Provider.key
  cases given with
  | none => simp
  | some other =>
    by_cases visible : Text.Visible other
    · have kept : Text.isBlankText other = false := Bool.eq_false_iff.mpr (Text.visibleIff.mp visible)
      simp only [Option.filter_some,kept,Bool.not_false,if_true,Except.ok.injEq,Option.some.injEq]
      exact ⟨fun same => ⟨same,same ▸ visible⟩,And.left⟩
    · have blank : Text.isBlankText other = true := not_not.mp (mt Text.visibleIff.mpr visible)
      simp only [Option.filter_some,blank,Bool.not_true,Bool.false_eq_true,if_false,reduceCtorEq,false_iff]
      rintro ⟨same,visible'⟩
      exact visible (Option.some.inj same ▸ visible')

theorem openaiIff {c : OpenAiConfig} {p : Provider} : Provider.openai? c = .ok p ↔
    ∃ key, (c.apiKey = some key ∧ Text.Visible key) ∧ p = .openai c key := by
  rw [Provider.openai?,Json.Reader.mapOk]
  simp only [keyIff]

theorem geminiIff {c : GeminiConfig} {p : Provider} : Provider.gemini? c = .ok p ↔
    ∃ key, (c.apiKey = some key ∧ Text.Visible key) ∧ p = .gemini c key := by
  rw [Provider.gemini?,Json.Reader.mapOk]
  simp only [keyIff]

theorem setUpIff {c : BackendsConfig} {p : Provider} : SetUp c p ↔
    ((c.ollama.enabled = true ∧ p = .ollama c.ollama) ∨ Provider.openai? c.openai = .ok p) ∨
      Provider.gemini? c.gemini = .ok p := by
  rw [openaiIff,geminiIff]
  constructor
  · intro setUp
    cases setUp with
    | ollama enabled => exact .inl (.inl ⟨enabled,rfl⟩)
    | openai given visible => exact .inl (.inr ⟨_,⟨given,visible⟩,rfl⟩)
    | gemini given visible => exact .inr ⟨_,⟨given,visible⟩,rfl⟩
  · rintro ((⟨enabled,rfl⟩ | ⟨key,⟨given,visible⟩,rfl⟩) | ⟨key,⟨given,visible⟩,rfl⟩)
    · exact .ollama enabled
    · exact .openai given visible
    · exact .gemini given visible

namespace Registry
variable {β : Type}

theorem getRegisterAll (words : List String) (normal : ∀ word ∈ words, lookupName word = word)
    (r : Registry β) (b : β) (key : String) :
    (words.foldl (fun r name => r.register name b) r).backends.get? key =
      if key ∈ words then some b else r.backends.get? key := by
  induction words generalizing r with
  | nil => simp
  | cons word words ih =>
    obtain ⟨own,others⟩ := List.forall_mem_cons.mp normal
    rw [List.foldl_cons,ih others,register,own,Dictionary.getInsert]
    by_cases later : key ∈ words
    · simp [later]
    · simp [later]

theorem getRegisterKind (r : Registry β) (kind : Kind) (b : β) (key : String) :
    (r.registerKind kind b).backends.get? key = if key ∈ kind.aliases then some b else r.backends.get? key :=
  getRegisterAll kind.aliases (by cases kind <;> decide +kernel) r b key

def Holds (r : Registry Provider) (class_ : Provider → Prop) : Prop :=
  ∀ key p, r.backends.get? key = some p ↔ key ∈ p.kind.aliases ∧ class_ p

theorem holdsEmpty : Holds empty fun _ => False := by
  intro key p
  have none : (empty : Registry Provider).backends.get? key = none := rfl
  simp [none]

theorem holdsConfigured {r : Registry Provider} {class_ : Provider → Prop} (x : Except Failure Provider)
    (holds : Holds r class_) (other : ∀ p q, x = .ok p → class_ q → q.kind ≠ p.kind) :
    Holds (r.addConfigured x) fun p => class_ p ∨ x = .ok p := by
  intro key p
  cases x with
  | error failure => simpa [addConfigured] using holds key p
  | ok q =>
    rw [addConfigured,getRegisterKind]
    split
    · rename_i here
      simp only [Option.some.injEq,Except.ok.injEq]
      constructor
      · rintro rfl
        exact ⟨here,.inr rfl⟩
      · rintro ⟨there,held | same⟩
        · exact absurd (aliasesApart there here) (other q p rfl held)
        · exact same
    · rename_i elsewhere
      simp only [holds key p,Except.ok.injEq]
      constructor
      · exact fun ⟨there,held⟩ => ⟨there,.inl held⟩
      · rintro ⟨there,held | rfl⟩
        · exact ⟨there,held⟩
        · exact absurd there elsewhere

variable {c : BackendsConfig} {r : Registry Provider}

theorem ollamaConfigured (c : BackendsConfig) :
    Holds (if c.ollama.enabled then empty.addConfigured (.ok (.ollama c.ollama)) else empty)
      fun p => c.ollama.enabled = true ∧ p = .ollama c.ollama := by
  cases c.ollama.enabled with
  | false => simpa using holdsEmpty
  | true =>
    have holds := holdsConfigured (.ok (.ollama c.ollama)) holdsEmpty fun _ _ _ => False.elim
    simpa [eq_comm] using holds

-- Each kind has names of its own, so that none of the three backends takes the place of another.
theorem configured (ok : ofConfig c = .ok r) : Holds r (SetUp c) := by
  obtain ⟨_,-,same⟩ := Json.Reader.bindOk ok
  obtain rfl := Except.ok.inj same
  have openai := holdsConfigured (Provider.openai? c.openai) (ollamaConfigured c) ?_
  · have gemini := holdsConfigured (Provider.gemini? c.gemini) openai ?_
    · exact fun key p => (gemini key p).trans (and_congr_right fun _ => setUpIff.symm)
    · rintro p q made (⟨-,rfl⟩ | before)
      · obtain ⟨_,-,rfl⟩ := geminiIff.mp made
        nofun
      · obtain ⟨_,-,rfl⟩ := geminiIff.mp made
        obtain ⟨_,-,rfl⟩ := openaiIff.mp before
        nofun
  · rintro p q made ⟨-,rfl⟩
    obtain ⟨_,-,rfl⟩ := openaiIff.mp made
    nofun

theorem refusedIff : (∃ failure, ofConfig c = .error failure) ↔ Kind.ofName? c.default = none := by
  unfold ofConfig Kind.named
  cases Kind.ofName? c.default <;> simp [bind,Except.bind,pure,Except.pure]

theorem refusedTold {failure : Failure} (refused : ofConfig c = .error failure) :
    failure = .unknown (lookupName c.default) := by
  unfold ofConfig Kind.named at refused
  cases known : Kind.ofName? c.default with
  | none =>
    rw [known] at refused
    exact (Except.error.inj refused).symm
  | some kind =>
    rw [known] at refused
    contradiction

theorem getIff (ok : ofConfig c = .ok r) {name : String} {p : Provider} :
    r.get? name = some p ↔ Kind.ofName? name = some p.kind ∧ SetUp c p :=
  (configured ok (lookupName name) p).trans (and_congr_left fun _ => ofNameIff.symm)

theorem foundIff (ok : ofConfig c = .ok r) (name : String) (kind : Kind) :
    (∃ p, r.get? name = some p ∧ p.kind = kind) ↔ Kind.ofName? name = some kind ∧ Usable c kind := by
  rw [usableIff]
  constructor
  · rintro ⟨p,found,rfl⟩
    obtain ⟨named,setUp⟩ := (getIff ok).mp found
    exact ⟨named,p,setUp,rfl⟩
  · rintro ⟨named,p,setUp,rfl⟩
    exact ⟨p,(getIff ok).mpr ⟨named,setUp⟩,rfl⟩

theorem memNames (ok : ofConfig c = .ok r) (name : String) :
    name ∈ r.names ↔ ∃ kind, Usable c kind ∧ name ∈ kind.aliases := by
  rw [names,Dictionary.memNames]
  constructor
  · rintro ⟨p,found⟩
    obtain ⟨listed,setUp⟩ := (configured ok name p).mp found
    exact ⟨p.kind,usableIff.mpr ⟨p,setUp,rfl⟩,listed⟩
  · rintro ⟨kind,usable,listed⟩
    obtain ⟨p,setUp,rfl⟩ := usableIff.mp usable
    exact ⟨p,(configured ok name p).mpr ⟨listed,setUp⟩⟩

theorem namesAscending (r : Registry β) : r.names.Pairwise fun a b => Text.precedes a b = true := by
  rw [names,Dictionary.names,List.pairwise_map]
  exact r.backends.ascending

def connected (network : Network) (r : Registry Provider) : Registry Backend :=
  ⟨r.backends.map (·.backend network)⟩

theorem getConnected (network : Network) (r : Registry Provider) (name : String) :
    (r.connected network).get? name = (r.get? name).map (·.backend network) :=
  Dictionary.getMap _ r.backends (lookupName name)

structure Unnamed (c : BackendsConfig) (r : Registry Provider) (rules : Dispatcher.Rules) (w : World)
    (d : Dispatcher) (m : Message) (a : Attached) (question : String) : Prop where
  backends : ∃ network, w.backends = r.connected network
  default : rules.defaultBackend = c.default
  attached : d.attached = some a
  kind : m.kind = Message.askKind
  payload : Dispatcher.payload AskRequest.ofJson AskRequest.check m = .ok ⟨question,none⟩

section Unnamed
variable {rules : Dispatcher.Rules} {w : World} {d : Dispatcher} {m : Message} {a : Attached}
  {question : String}

theorem dispatchUnnamed (unnamed : Unnamed c r rules w d m a question) : d.dispatch rules w (.message m) =
    ⟨d,(d.ask rules w m).1,Dispatcher.respond w Response.askKind (d.ask rules w m).2⟩ := by
  have other : ¬m.kind = Message.attachKind := by
    rw [unnamed.kind]
    decide
  simp only [Dispatcher.dispatch,Dispatcher.handle,if_neg other,if_pos unnamed.kind]

theorem reached (ok : ofConfig c = .ok r) (unnamed : Unnamed c r rules w d m a question) (kind : Kind) :
    .generate kind.name a.schema question ∈ (d.dispatch rules w (.message m)).events ↔
      Kind.ofName? c.default = some kind ∧ Usable c kind := by
  obtain ⟨network,backends⟩ := unnamed.backends
  rw [dispatchUnnamed unnamed,Dispatcher.generatesIff unnamed.attached unnamed.payload,← foundIff ok]
  simp only [Option.getD_none,unnamed.default,backends,getConnected,Option.map_eq_some_iff,and_true]
  constructor
  · rintro ⟨_,⟨p,found,rfl⟩,same⟩
    exact ⟨p,found,(nameInjective same).symm⟩
  · rintro ⟨p,found,rfl⟩
    exact ⟨_,⟨p,found,rfl⟩,rfl⟩

theorem unreached (ok : ofConfig c = .ok r) (unnamed : Unnamed c r rules w d m a question)
    (unusable : ∀ kind, Kind.ofName? c.default = some kind → ¬Usable c kind) :
    d.dispatch rules w (.message m) =
      ⟨d,[],Dispatcher.respond w Response.askKind (.error (.conversion (.unknownBackend c.default)))⟩ := by
  obtain ⟨network,backends⟩ := unnamed.backends
  have missing : r.get? c.default = none := by
    cases found : r.get? c.default with
    | none => rfl
    | some p =>
      obtain ⟨named,usable⟩ := (foundIff ok c.default p.kind).mp ⟨p,found,rfl⟩
      exact absurd usable (unusable p.kind named)
  have nobody : w.backends.get? c.default = none := by
    rw [backends,getConnected,missing]
    rfl
  rw [dispatchUnnamed unnamed]
  simp [Dispatcher.ask,unnamed.attached,unnamed.payload,unnamed.default,Conversion.answer,nobody,
    Except.mapError]

end Unnamed

structure Serves (c : BackendsConfig) (r : Registry Provider) : Prop where
  found : ∀ name kind, (∃ p, r.get? name = some p ∧ p.kind = kind) ↔
    Kind.ofName? name = some kind ∧ Usable c kind
  setUp : ∀ name p, r.get? name = some p → SetUp c p
  ascending : r.names.Pairwise fun a b => Text.precedes a b = true
  listed : ∀ name, name ∈ r.names ↔ ∃ kind, Usable c kind ∧ name ∈ kind.aliases
  reached : ∀ rules w d m a question, Unnamed c r rules w d m a question → ∀ kind,
    .generate kind.name a.schema question ∈ (d.dispatch rules w (.message m)).events ↔
      Kind.ofName? c.default = some kind ∧ Usable c kind
  unreached : ∀ rules w d m a question, Unnamed c r rules w d m a question →
    (∀ kind, Kind.ofName? c.default = some kind → ¬Usable c kind) → d.dispatch rules w (.message m) =
      ⟨d,[],Dispatcher.respond w Response.askKind (.error (.conversion (.unknownBackend c.default)))⟩

structure Configures (c : BackendsConfig) : Prop where
  refused : (∃ failure, ofConfig c = .error failure) ↔ Kind.ofName? c.default = none
  told : ∀ failure, ofConfig c = .error failure → failure = .unknown (lookupName c.default)
  named : ∀ name kind, Kind.ofName? name = some kind ↔ Spelled kind name
  serves : ∀ r, ofConfig c = .ok r → Serves c r

theorem configures (c : BackendsConfig) : Configures c where
  refused := refusedIff
  told _ := refusedTold
  named := ofNameSpelled
  serves r ok := {
    found := foundIff ok
    setUp := fun _ _ found => ((getIff ok).mp found).2
    ascending := namesAscending r
    listed := memNames ok
    reached := fun _ _ _ _ _ _ unnamed => reached ok unnamed
    unreached := fun _ _ _ _ _ _ unnamed => unreached ok unnamed }

theorem defaultReached : ∃ c r rules w d m a, ofConfig c = .ok r ∧ c.default = " GPT\n" ∧
    Unnamed c r rules w d m a "How many?" ∧
    .generate "openai" a.schema "How many?" ∈ (d.dispatch rules w (.message m)).events := by
  let c : BackendsConfig := { default := " GPT\n", openai := { apiKey := "k" } }
  have named : Kind.ofName? c.default = some .openai := by decide +kernel
  obtain ⟨r,made⟩ : ∃ r, ofConfig c = .ok r := by
    cases made : ofConfig c with
    | ok r => exact ⟨r,rfl⟩
    | error failure => cases named.symm.trans (refusedIff.mp ⟨failure,made⟩)
  let w : World := ⟨⟨0,0⟩,r.connected fun _ => none,fun _ _ => .ok (),
    fun _ _ => ⟨.ok [],fun _ => .ok []⟩,fun _ _ => []⟩
  let rules : Dispatcher.Rules := ⟨⟨⟨["password"]⟩,5⟩,c.default⟩
  let attach : Message := ⟨Message.attachKind,
    .object [("engine",.text "sqlite"), ("db",.text "main"), ("url",.text "first")],⟨0,0⟩⟩
  let ask : Message := ⟨Message.askKind,.object [("question",.text "How many?")],⟨0,0⟩⟩
  let a : Attached := ⟨⟨0,.sqlite,"first"⟩,"main",.empty⟩
  let d : Dispatcher := (Dispatcher.initial.dispatch rules w (.message attach)).state
  have unnamed : Unnamed c r rules w d ask a "How many?" := ⟨⟨_,rfl⟩,rfl,rfl,rfl,rfl⟩
  have usable : Usable c .openai := ⟨"k",rfl,Text.visibleIff.mpr (by decide +kernel)⟩
  exact ⟨c,r,rules,w,d,ask,a,made,rfl,unnamed,
    (((configures c).serves r made).reached _ _ _ _ _ _ unnamed .openai).mpr ⟨named,usable⟩⟩

-- A key of white space is none, and the default need not be among the backends.
example : (ofConfig { default := " GPT\n", openai := { apiKey := " " }, gemini := { apiKey := "k" } }).map
    (·.names) = .ok ["gemini","llama","ollama"] := by decide +kernel

end Registry
end Querent.Backend
