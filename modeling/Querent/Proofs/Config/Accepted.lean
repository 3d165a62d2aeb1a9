import Querent.Config.Reader
import Querent.Proofs.Record.Members

/-! Configurations that are read from a text. Their numbers have room in the types that they are read for,
however the sections are written. -/
namespace Querent

namespace Record
variable {α σ : Type}

def Upholds (slots : List (Slot (Update α σ))) (P : σ → Prop) : Prop :=
  ∀ slot ∈ slots, ∀ v update, slot.read v = .ok update → ∀ r, P r → P (update r)

variable {slots : List (Slot (Update α σ))} {P : σ → Prop} {before r : σ}

theorem holdsOfMembers (upholds : Upholds slots P) {seen : List String} {ms : List (String × α)}
    (holds : P before) (ok : ofMembers slots seen before ms = .ok r) : P r := by
  induction ms generalizing seen before with
  | nil =>
    rw [ofMembers] at ok
    split at ok <;> cases ok
    exact holds
  | cons m rest ih =>
    obtain ⟨name,v⟩ := m
    cases found : Slot.find? slots name with
    | none =>
      rw [ofMembersNone found] at ok
      exact ih holds ok
    | some slot =>
      obtain ⟨-,update,took,ok⟩ := (ofMembersSome found).mp ok
      exact ih (upholds slot (findSome found).1 v update took before holds) ok

theorem holdsOfElements (upholds : Upholds slots P) {count : String} {index : Nat} {vs rest : List α}
    (holds : P before) (ok : ofElements count index slots before vs = .ok (r,rest)) : P r := by
  induction slots generalizing index before vs with
  | nil =>
    rw [ofElements] at ok
    cases ok
    exact holds
  | cons slot slots ih =>
    have further : Upholds slots P := fun other member => upholds other (List.mem_cons_of_mem _ member)
    cases vs with
    | nil =>
      rw [ofElements] at ok
      split at ok
      · contradiction
      · exact ih further holds ok
    | cons v vs =>
      rw [ofElements] at ok
      cases took : slot.read v with
      | error fault =>
        rw [took] at ok
        contradiction
      | ok update =>
        rw [took] at ok
        exact ih further (upholds slot List.mem_cons_self v update took before holds) ok

end Record

namespace Toml
open Record (Upholds Slot Update)

variable {α σ : Type} {slots : List (Slot (Update Toml σ))} {P : σ → Prop}

theorem holdsOfRecord (upholds : Upholds slots P) {name : String} {default r : σ} {v : Toml}
    (holds : P default) (ok : asRecord name slots default v = .ok r) : P r := by
  cases v with
  | table ms => exact Record.holdsOfMembers upholds holds ok
  | moment => exact Record.holdsOfMembers upholds holds ok
  | array vs =>
    rw [asRecord] at ok
    cases read : Record.ofElements (Record.counted name slots.length) 0 slots default vs with
    | error fault =>
      rw [read] at ok
      contradiction
    | ok whole =>
      rw [read] at ok
      cases ok
      exact Record.holdsOfElements upholds holds read
  | _ => contradiction

theorem upholdsNil : Upholds ([] : List (Slot (Update Toml σ))) P := nofun

theorem upholdsCons {name : String} {read : Toml → Except Record.Fault α} {set : α → σ → σ}
    (own : ∀ v x, read v = .ok x → ∀ r, P r → P (set x r)) (further : Upholds slots P) :
    Upholds (slot name read set :: slots) P := by
  intro other member v update took r holds
  rcases List.mem_cons.mp member with rfl | member
  · rw [slot] at took
    cases ok : read v with
    | error fault => simp [ok,Except.map] at took
    | ok x =>
      simp only [ok,Except.map,Except.ok.injEq] at took
      exact took ▸ own v x ok r holds
  · exact further other member v update took r holds

theorem naturalBelow {bound n : Nat} {expected : String} {v : Toml}
    (ok : asNatural bound expected v = .ok n) : n < bound := by
  cases v with
  | integer i =>
    rw [asNatural] at ok
    split at ok
    · contradiction
    · split at ok
      · rename_i within
        cases ok
        omega
      · contradiction
  | _ => contradiction

end Toml

open Toml (upholdsCons upholdsNil naturalBelow)

structure SessionConfig.Fits (c : SessionConfig) : Prop where
  readDeadline : c.readDeadline < Bits.count 64
  pingInterval : c.pingInterval < Bits.count 64
  inboundCapacity : c.inboundCapacity < Bits.count 64
  outboundCapacity : c.outboundCapacity < Bits.count 64

structure DatabaseConfig.Fits (c : DatabaseConfig) : Prop where
  maxConnections : c.maxConnections < Bits.count 32
  acquireTimeout : c.acquireTimeout < Bits.count 64
  maxResultRows : c.maxResultRows < Bits.count 64

structure Config.Fits (c : Config) : Prop where
  session : c.session.Fits
  database : c.database.Fits
  requestTimeout : c.backends.requestTimeout < Bits.count 64

theorem SessionConfig.fitsDefault : Fits {} := by constructor <;> decide

theorem SessionConfig.fitsOfToml {v : Toml} {c : SessionConfig} (ok : ofToml v = .ok c) : c.Fits := by
  refine Toml.holdsOfRecord ?_ fitsDefault ok
  refine upholdsCons ?_ (upholdsCons ?_ (upholdsCons ?_ (upholdsCons ?_ upholdsNil)))
  · exact fun v n read c fits => { fits with readDeadline := naturalBelow read }
  · exact fun v n read c fits => { fits with pingInterval := naturalBelow read }
  · exact fun v n read c fits => { fits with inboundCapacity := naturalBelow read }
  · exact fun v n read c fits => { fits with outboundCapacity := naturalBelow read }

theorem DatabaseConfig.fitsDefault : Fits {} := by constructor <;> decide

theorem DatabaseConfig.fitsOfToml {v : Toml} {c : DatabaseConfig} (ok : ofToml v = .ok c) : c.Fits := by
  refine Toml.holdsOfRecord ?_ fitsDefault ok
  refine upholdsCons ?_ (upholdsCons ?_ (upholdsCons ?_ upholdsNil))
  · exact fun v n read c fits => { fits with maxConnections := naturalBelow read }
  · exact fun v n read c fits => { fits with acquireTimeout := naturalBelow read }
  · exact fun v n read c fits => { fits with maxResultRows := naturalBelow read }

theorem BackendsConfig.fitsOfToml {v : Toml} {c : BackendsConfig} (ok : ofToml v = .ok c) :
    c.requestTimeout < Bits.count 64 := by
  refine Toml.holdsOfRecord (P := fun c => c.requestTimeout < Bits.count 64) ?_ (by decide) ok
  refine upholdsCons ?_ (upholdsCons ?_ (upholdsCons ?_ (upholdsCons ?_ (upholdsCons ?_ upholdsNil))))
  · exact fun _ _ _ _ fits => fits
  · exact fun v n read c fits => naturalBelow read
  · exact fun _ _ _ _ fits => fits
  · exact fun _ _ _ _ fits => fits
  · exact fun _ _ _ _ fits => fits

namespace Config
variable {d : List (String × Toml)} {c : Config} {text : String}

theorem parseIff (written : Toml.read? text.toList = some d) : parse text = .ok c ↔ ofToml d = .ok c := by
  rw [parse,written]
  dsimp only
  cases ofToml d <;> simp

theorem parsedOk (ok : (parse text).toOption = some c) : parse text = .ok c := by
  cases read : parse text with
  | error fault =>
    rw [read] at ok
    contradiction
  | ok c' =>
    rw [read] at ok
    exact congrArg _ (Option.some.inj ok)

theorem fitsOfToml (ok : ofToml d = .ok c) : c.Fits := by
  have default : Fits {} := ⟨SessionConfig.fitsDefault,DatabaseConfig.fitsDefault,by decide⟩
  refine Toml.holdsOfRecord ?_ default ok
  refine upholdsCons ?_ (upholdsCons ?_ (upholdsCons ?_ (upholdsCons ?_ (upholdsCons ?_ upholdsNil))))
  · exact fun _ _ _ _ fits => { fits with }
  · exact fun v session read c fits => { fits with session := SessionConfig.fitsOfToml read }
  · exact fun _ _ _ _ fits => { fits with }
  · exact fun v database read c fits => { fits with database := DatabaseConfig.fitsOfToml read }
  · exact fun v backends read c fits => { fits with requestTimeout := BackendsConfig.fitsOfToml read }

theorem fitsOfParse (ok : parse text = .ok c) : c.Fits := by
  cases written : Toml.read? text.toList with
  | none =>
    rw [parse,written] at ok
    contradiction
  | some d => exact fitsOfToml ((parseIff written).mp ok)

end Config
end Querent
