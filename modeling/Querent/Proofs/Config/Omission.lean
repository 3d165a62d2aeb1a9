import Querent.Proofs.Config.Accepted
import Querent.Proofs.Config.Settings
import Querent.Proofs.Toml.Distinct

/-! Configurations of documents that leave something out. A piece that is taken away is as if it had said
what the default says, and it makes no difference whether a default is spelled out, its section is empty, or
there is no section. -/
namespace Querent
open Toml (Members Proper Setting Tabular without)

namespace Toml.Setting
variable {σ : Type} {s : Setting σ} {ms : Members} {base r r' : σ}

theorem toldIff (told : s.Told ms base r) : s.Told ms base r' ↔ s.get r' = s.get r := by
  rw [Told] at told ⊢
  cases found : s.at? ms with
  | none =>
    rw [found] at told
    exact ⟨fun same => same.trans told.symm,fun same => same.trans told⟩
  | some v =>
    rw [found] at told
    exact ⟨fun read => Except.ok.inj (read.symm.trans told),fun same => same ▸ told⟩

theorem toldAbsent (absent : s.at? ms = none) : s.Told ms base r ↔ s.get r = s.get base := by
  rw [Told,absent]

theorem acceptedTold (told : s.Told ms base r) : s.Accepted ms := by
  intro v found
  rw [Told,found] at told
  exact ⟨s.get r,told⟩

theorem toldSame {ms' : Members} (same : s.at? ms' = s.at? ms) :
    s.Told ms' base r ↔ s.Told ms base r := by
  rw [Told,Told,same]

def Scalar (s : Setting σ) : Prop := ∀ inner x, s.read (.table inner) ≠ .ok x

end Toml.Setting

namespace Config
variable {d d' : Members} {c c' : Config} {path : List String} {name : String} {s : Setting Config}

theorem scalarSettings : ∀ s ∈ settings, s.Scalar := by
  simp [settings,parts,Toml.RecordPart.record,Toml.RecordPart.leaf,Toml.RecordField.setting,Setting.within,
    Setting.Scalar,ServerConfig.settings,ServerConfig.fields,SessionConfig.settings,SessionConfig.fields,
    GuardConfig.settings,GuardConfig.fields,DatabaseConfig.settings,DatabaseConfig.fields,
    BackendsConfig.settings,BackendsConfig.parts,OllamaConfig.settings,OllamaConfig.fields,
    OpenAiConfig.settings,OpenAiConfig.fields,GeminiConfig.settings,GeminiConfig.fields,Toml.asText,
    Toml.asBoolean,Toml.asSingle,Toml.asList,asU64,asU32,asSize,Toml.asNatural,Toml.wrongKind,Except.map]

theorem ofTomlIff (proper : Proper (.table d)) (tabular : ∀ s ∈ settings, Tabular s.path d) :
    ofToml d = .ok c ↔ ∀ s ∈ settings, s.Told d {} c := settles.readIff proper tabular

def Reset (path : List String) (name : String) (c c' : Config) : Prop :=
  ∀ s ∈ settings, s.get c' = if path ++ [name] <+: s.path ++ [s.name] then s.get {} else s.get c

def withoutAll (pieces : List (List String × String)) (d : Members) : Members :=
  pieces.foldl (fun d p => without p.1 p.2 d) d

def Covered (pieces : List (List String × String)) (s : Setting Config) : Prop :=
  ∃ p ∈ pieces, p.1 ++ [p.2] <+: s.path ++ [s.name]

instance (pieces : List (List String × String)) (s : Setting Config) : Decidable (Covered pieces s) :=
  inferInstanceAs (Decidable (∃ p ∈ pieces, p.1 ++ [p.2] <+: s.path ++ [s.name]))

def ResetAll (pieces : List (List String × String)) (c c' : Config) : Prop :=
  ∀ s ∈ settings, s.get c' = if Covered pieces s then s.get {} else s.get c

theorem coveredCons {p : List String × String} {pieces : List (List String × String)} :
    Covered (p :: pieces) s ↔ p.1 ++ [p.2] <+: s.path ++ [s.name] ∨ Covered pieces s := by
  simp only [Covered,List.mem_cons,or_and_right,exists_or,exists_eq_left]

theorem lookupTold (told : s.Told d {} c) (scalar : s.Scalar)
    (beside : ¬path ++ [name] <+: s.path ++ [s.name]) : s.at? (without path name d) = s.at? d := by
  refine Toml.lookupKept beside fun inner table => ?_
  obtain ⟨x,read⟩ := Setting.acceptedTold told (.table inner) table
  exact scalar inner x read

theorem toldWithout (told : s.Told d {} c) (scalar : s.Scalar) : s.Told (without path name d) {} c' ↔
    s.get c' = if path ++ [name] <+: s.path ++ [s.name] then s.get {} else s.get c := by
  split
  · rename_i covered
    exact Setting.toldAbsent (Toml.lookupGone d covered)
  · rename_i beside
    rw [Setting.toldSame (lookupTold told scalar beside)]
    exact Setting.toldIff told

theorem acceptedWithout (told : s.Told d {} c) (scalar : s.Scalar) :
    s.Accepted (without path name d) := by
  by_cases covered : path ++ [name] <+: s.path ++ [s.name]
  · intro v found
    rw [Setting.at?,Toml.lookupGone d covered] at found
    contradiction
  · intro v found
    rw [lookupTold told scalar covered] at found
    exact Setting.acceptedTold told v found

section Accepted
variable (proper : Proper (.table d)) (tabular : ∀ s ∈ settings, Tabular s.path d) (ok : ofToml d = .ok c)
include proper tabular ok

theorem withoutAccepted (path : List String) (name : String) :
    ∃ c', ofToml (without path name d) = .ok c' := by
  have told := (ofTomlIff proper tabular).mp ok
  refine settles.accepts _ (Toml.properWithout proper path name) ?_ ?_
  · exact fun s member => Toml.tabularWithout (tabular s member) path name
  · exact fun s member => acceptedWithout (told s member) (scalarSettings s member)

theorem withoutIff (path : List String) (name : String) (c' : Config) :
    ofToml (without path name d) = .ok c' ↔ Reset path name c c' := by
  have told := (ofTomlIff proper tabular).mp ok
  rw [ofTomlIff (Toml.properWithout proper path name) fun s member =>
    Toml.tabularWithout (tabular s member) path name]
  exact forall₂_congr fun s member => toldWithout (told s member) (scalarSettings s member)

theorem withoutAllAccepted (pieces : List (List String × String)) :
    ∃ c', ofToml (withoutAll pieces d) = .ok c' ∧ ResetAll pieces c c' := by
  induction pieces generalizing d c with
  | nil => exact ⟨c,ok,fun s _ => by simp [Covered]⟩
  | cons p rest ih =>
    obtain ⟨c₁,first⟩ := withoutAccepted proper tabular ok p.1 p.2
    have once := (withoutIff proper tabular ok p.1 p.2 c₁).mp first
    obtain ⟨c',last,further⟩ := ih (Toml.properWithout proper p.1 p.2)
      (fun s member => Toml.tabularWithout (tabular s member) p.1 p.2) first
    refine ⟨c',last,fun s member => ?_⟩
    rw [further s member,once s member]
    by_cases own : p.1 ++ [p.2] <+: s.path ++ [s.name]
    · rw [if_pos own,if_pos (coveredCons.mpr (.inl own)),ite_self]
    · have others : Covered (p :: rest) s ↔ Covered rest s := coveredCons.trans (or_iff_right own)
      rw [if_neg own]
      simp only [others]

theorem alikeAccepted (proper' : Proper (.table d')) (tabular' : ∀ s ∈ settings, Tabular s.path d')
    (alike : ∀ s ∈ settings, s.at? d' = s.at? d ∨ s.Told d' {} {} ∧ s.Told d {} {}) :
    ofToml d' = .ok c := by
  have told := (ofTomlIff proper tabular).mp ok
  refine (ofTomlIff proper' tabular').mpr fun s member => ?_
  rcases alike s member with same | ⟨plain,plain'⟩
  · exact (Setting.toldSame same).mpr (told s member)
  · have default : s.get c = s.get {} := (Setting.toldIff plain').mp (told s member)
    exact (Setting.toldIff plain).mpr default

end Accepted

def Plain (d : Members) (s : Setting Config) : Prop := ∀ v, s.at? d = some v → s.read v = .ok (s.get {})

theorem toldPlain (plain : Plain d s) : s.Told d {} {} := by
  rw [Setting.Told]
  cases found : s.at? d with
  | none => rfl
  | some v => exact plain v found

structure Omits (d : Members) (c : Config) : Prop where
  told : ∀ s ∈ settings, s.Told d {} c
  accepted : ∀ path name, ∃ c', ofToml (without path name d) = .ok c'
  reset : ∀ path name c', ofToml (without path name d) = .ok c' ↔ Reset path name c c'
  combined : ∀ pieces, ∃ c', ofToml (withoutAll pieces d) = .ok c' ∧ ResetAll pieces c c'
  written : ∀ pieces text, Toml.read? text.toList = some (withoutAll pieces d) →
    ∃ c', parse text = .ok c' ∧ ResetAll pieces c c'
  alike : ∀ text d', Toml.read? text.toList = some d' → (∀ s ∈ settings, Tabular s.path d') →
    (∀ s ∈ settings, s.at? d' = s.at? d ∨ Plain d' s ∧ Plain d s) → parse text = .ok c

theorem omissionsDefault {text : String} (written : Toml.read? text.toList = some d)
    (tables : ∀ s ∈ settings, Tabular s.path d) (ok : parse text = .ok c) : Omits d c := by
  have proper := Toml.readProper written
  have ok : ofToml d = .ok c := (parseIff written).mp ok
  have combined := withoutAllAccepted proper tables ok
  have told := (ofTomlIff proper tables).mp ok
  refine ⟨told,withoutAccepted proper tables ok,withoutIff proper tables ok,combined,?_,?_⟩
  · intro pieces text' written'
    obtain ⟨c',accepted,reset⟩ := combined pieces
    exact ⟨c',(parseIff written').mpr accepted,reset⟩
  · intro text' d' written' tables' alike
    refine (parseIff written').mpr (alikeAccepted proper tables ok (Toml.readProper written') tables' ?_)
    exact fun s member => (alike s member).imp_right (.imp toldPlain toldPlain)

theorem omitsTwoTables : ∃ d,
    Toml.read? "[session]\nping_interval_secs = 5\n[backends.ollama]\nenabled = false\n".toList = some d ∧
      Omits d { session := { pingInterval := 5 }, backends := { ollama := { enabled := false } } } := by
  have read : (Toml.read? "[session]\nping_interval_secs = 5\n[backends.ollama]\nenabled = false\n".toList).any
      (fun d => decide (∀ s ∈ settings, Tabular s.path d)) = true := by decide +kernel
  obtain ⟨d,written,tables⟩ := (Option.any_eq_true _ _).mp read
  have ok : (parse "[session]\nping_interval_secs = 5\n[backends.ollama]\nenabled = false\n").toOption =
      some { session := { pingInterval := 5 }, backends := { ollama := { enabled := false } } } := by
    decide +kernel
  exact ⟨d,written,omissionsDefault written (of_decide_eq_true tables) (parsedOk ok)⟩

example : (parse "").toOption = some {} := by decide +kernel
example : (parse "[server]\n").toOption = some {} := by decide +kernel
example : (parse "[server]\nbind = \"0.0.0.0:8080\"\n").toOption = some {} := by decide +kernel

end Config
end Querent
