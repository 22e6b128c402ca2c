import Rover.Campaign
import Rover.Proofs.Coupling

namespace Rover

open Flight

def Cell.IsCharted (c : Cell) : Prop :=
  Ansi.strip c ≠ "[?]"

instance (c : Cell) : Decidable c.IsCharted :=
  inferInstanceAs (Decidable (_ ≠ _))

theorem Cell.IsCharted.terrain {c : Cell} (h : c.IsCharted) :
    Cell.terrain (Ansi.strip c) ≠ .uncharted := by
  unfold Cell.terrain
  split
  all_goals first | decide | exact fun _ => h ‹_›

/-- A coupling under which lots are harmless: they are the same on both sides,
or there is no ground on which they decide anything. -/
structure Tandem (exact : Prop) (sound : Cell → Prop)
    (R : World → World → Prop) : Prop extends Coupling exact sound R where
  draw : ∀ {n}, 0 < n →
    Coupled R (fun a b => a < n ∧ b < n ∧ (exact → b = a)) (draw n) (draw n)
  fair : exact ∨ ∀ c, sound c → Cell.IsCharted c

variable {exact : Prop} {sound : Cell → Prop} {R : World → World → Prop}

section Parts

variable {α : Type} {rel : α → α → Prop} (h : Coupling exact sound R)
include h

private theorem coupled_endMission : Coupled R rel endMission endMission := by
  refine coupled_seq (coupled_say h _) fun _ => ?_
  refine coupled_seq (coupled_loadBar h _ _) fun _ => ?_
  exact coupled_seq (coupled_millis h _) fun _ => coupled_throw _

private theorem coupled_stopWith (message : Message) :
    Coupled R Eq (stopWith message) (stopWith message) := by
  refine coupled_seq (coupled_say h _) fun _ => ?_
  exact coupled_seq (coupled_millis h _) fun _ => coupled_endMission h

private theorem coupled_loseSignal : Coupled R rel loseSignal loseSignal := by
  iterate 2
    refine coupled_seq (coupled_tell h _ _) fun _ => ?_
    refine coupled_seq (coupled_loadBar h _ _) fun _ => ?_
  refine coupled_seq (coupled_say h _) fun _ => ?_
  refine coupled_seq (coupled_millis h _) fun _ => ?_
  refine coupled_mission_bind h fun m _ _ _ _ hsame => ?_
  refine coupled_seq (coupled_say_named h rfl fun hexact => ?_) fun _ => ?_
  · rw [hsame hexact]
  · exact coupled_seq (coupled_millis h _) fun _ => coupled_endMission h

theorem coupled_crash : Coupled R Eq crash crash := by
  refine coupled_seq (coupled_say h _) fun _ => ?_
  refine coupled_seq (coupled_millis h _) fun _ => ?_
  refine coupled_mission_bind h fun m _ _ _ _ hsame => ?_
  refine coupled_seq (coupled_say_named h rfl fun hexact => ?_) fun _ => ?_
  · rw [hsame hexact]
  refine coupled_seq (coupled_tell h _ _) fun _ => ?_
  refine coupled_seq (coupled_loadBar h _ _) fun _ => ?_
  refine coupled_seq (coupled_tell h _ _) fun _ => ?_
  refine coupled_seq (coupled_millis h _) fun _ => ?_
  refine coupled_mission_bind h fun m _ _ _ _ hsame => ?_
  refine coupled_seq (coupled_say_named h rfl fun hexact => ?_) fun _ => ?_
  · rw [hsame hexact]
  refine coupled_seq (coupled_millis h _) fun _ => ?_
  refine coupled_seq (coupled_tell h _ _) fun _ => ?_
  exact coupled_seq (coupled_millis h _) fun _ => coupled_endMission h

private theorem coupled_drive (direction : Direction) :
    Coupled R Eq (drive direction) (drive direction) := by
  refine coupled_seq (coupled_position h) fun p => ?_
  refine coupled_mission_bind h fun m _ _ _ _ _ => ?_
  refine coupled_ite ?_ (coupled_loseSignal h)
  refine coupled_bind (coupled_readCell h p) fun _ _ _ => ?_
  refine coupled_mission_bind h fun m _ _ _ hm _ => ?_
  refine coupled_seq (coupled_putCell h p hm.block) fun _ => ?_
  refine coupled_bind (coupled_readCell h _) ?_
  rintro entered _ ⟨rfl, hentered⟩
  refine coupled_seq (coupled_update h (fun m hm => ?_) fun _ _ _ _ => rfl)
    fun _ => coupled_putCell h _ h.rover
  exact ⟨hm.grid, hentered⟩

private theorem coupled_collect : Coupled R Eq collect collect := by
  have hrest : Coupled R Eq (do
      say .sampleCollected
      update ({ · with onboard := true })
      millis 1000
      say (.collectionPraise (← mission).operatorName)
      millis 2500 : Flight Unit) (do
      say .sampleCollected
      update ({ · with onboard := true })
      millis 1000
      say (.collectionPraise (← mission).operatorName)
      millis 2500) := by
    refine coupled_seq (coupled_say h _) fun _ => ?_
    refine coupled_seq (coupled_adjust h (fun _ => ⟨rfl, rfl⟩)
      fun _ _ _ _ => rfl) fun _ => ?_
    refine coupled_seq (coupled_millis h _) fun _ => ?_
    refine coupled_mission_bind h fun m _ _ _ _ hsame => ?_
    refine coupled_seq (coupled_say_named h rfl fun hexact => ?_)
      fun _ => coupled_millis h _
    rw [hsame hexact]
  refine coupled_mission_bind h fun m _ _ _ _ _ => coupled_ite ?_ ?_
  · refine coupled_seq (coupled_tell h _ _) fun _ => ?_
    refine coupled_seq (coupled_loadBar h _ _) fun _ => ?_
    refine coupled_seq (coupled_position h) fun p => ?_
    refine coupled_mission_bind h fun m _ _ _ _ _ => ?_
    refine coupled_ite ?_ hrest
    exact coupled_seq (coupled_putCell h p h.path) fun _ => hrest
  · exact coupled_seq (coupled_say h _) fun _ => coupled_millis h _

private theorem coupled_payBonus : Coupled R Eq payBonus payBonus := by
  refine coupled_mission_bind h fun m _ _ _ _ _ => ?_
  refine coupled_bind
    (coupled_ofOption _ (Bonus.ofBytes? (m.memory - m.scriptSize))) ?_
  rintro amount _ ⟨rfl, -⟩
  exact coupled_seq (coupled_say h _) fun _ => coupled_millis h _

theorem coupled_flare : Coupled R Eq flare flare := by
  refine coupled_mission_bind h fun m _ _ _ _ _ => ?_
  refine coupled_seq (coupled_adjust h (fun _ => ⟨rfl, rfl⟩)
    fun _ _ _ _ => rfl) fun _ => ?_
  refine coupled_seq (coupled_say h _) fun _ => ?_
  exact coupled_seq (coupled_tell h _ _) fun _ => coupled_loadBar h _ _

theorem coupled_interfere (drain : Int) :
    Coupled R Eq (interfere drain) (interfere drain) := by
  refine coupled_seq (coupled_adjust h (fun _ => ⟨rfl, rfl⟩)
    fun _ _ _ _ => rfl) fun _ => ?_
  refine coupled_seq (coupled_say h _) fun _ => ?_
  refine coupled_seq (coupled_tell h _ _) fun _ => ?_
  refine coupled_seq (coupled_loadBar h _ _) fun _ => ?_
  refine coupled_mission_bind h fun m _ _ _ _ _ => ?_
  exact coupled_ite (coupled_stopWith h _) (coupled_pure rfl)

theorem coupled_recharge : Coupled R Eq recharge recharge := by
  have hbar := coupled_loadBar h .green 2000
  refine coupled_mission_bind h fun m _ _ _ _ _ => ?_
  refine coupled_seq (coupled_adjust h (fun _ => ⟨rfl, rfl⟩)
    fun _ _ _ _ => rfl) fun _ => ?_
  refine coupled_seq (coupled_say h _) fun _ => ?_
  refine coupled_mission_bind h fun m _ _ _ _ _ => ?_
  refine coupled_ite (coupled_seq (coupled_tell h _ _) fun _ => hbar) ?_
  exact coupled_ite (coupled_seq (coupled_tell h _ _) fun _ => hbar) hbar

theorem coupled_showMap : Coupled R Eq showMap showMap := by
  refine coupled_mission_bind h fun m _ _ _ _ _ => ?_
  refine coupled_seq (coupled_clearScreen h) fun _ => ?_
  refine coupled_seq (coupled_forM fun row => coupled_log h _) fun _ => ?_
  iterate 4 refine coupled_seq (coupled_say h _) fun _ => ?_
  exact coupled_say h _

end Parts

section Commands

variable {f g : Flight Unit} (h : Tandem exact sound R)
include h

private theorem coupled_reportGround (terrain : Terrain) :
    Coupled R Eq (reportGround terrain) (reportGround terrain) := by
  cases terrain with
  | path =>
    refine coupled_bind (h.draw (by decide)) fun a b hlots => ?_
    refine coupled_say_named h.toCoupling rfl fun hexact => ?_
    rw [hlots.2.2 hexact]
  | uncharted =>
    refine coupled_seq (coupled_tell h.toCoupling _ _) fun _ => ?_
    exact coupled_tell h.toCoupling _ _
  | base => exact coupled_tell h.toCoupling _ _
  | sample => exact coupled_tell h.toCoupling _ _
  | charger => exact coupled_tell h.toCoupling _ _
  | _ => exact coupled_pure rfl

private theorem coupled_observe : Coupled R Eq observe observe := by
  refine coupled_seq (coupled_tell h.toCoupling _ _) fun _ => ?_
  refine coupled_seq (coupled_loadBar h.toCoupling _ _) fun _ => ?_
  refine coupled_mission_bind h.toCoupling fun m _ _ _ _ _ => ?_
  refine coupled_seq (coupled_reportGround h m.ground) fun _ => ?_
  exact coupled_millis h.toCoupling _

private theorem coupled_explore (hexact : exact) :
    Coupled R Eq explore explore := by
  refine coupled_seq (coupled_position h.toCoupling) fun p => ?_
  refine coupled_seq (coupled_putCell h.toCoupling p h.rover) fun _ => ?_
  refine coupled_bind (h.draw (by decide)) fun a b hlots => ?_
  rw [hlots.2.2 hexact]
  refine coupled_ite (coupled_flare h.toCoupling) ?_
  refine coupled_bind (h.draw (by decide)) fun a b hlots => ?_
  rw [hlots.2.2 hexact]
  exact coupled_interfere h.toCoupling _

/-- The one ground on which a lot decides is uncharted. -/
private theorem coupled_encounter {terrain : Terrain}
    (hterrain : exact ∨ terrain ≠ .uncharted) :
    Coupled R Eq (encounter terrain) (encounter terrain) := by
  cases terrain with
  | uncharted =>
    rcases hterrain with hexact | hcharted
    · exact coupled_explore h hexact
    · exact absurd rfl hcharted
  | charger => exact coupled_recharge h.toCoupling
  | obstacle => exact coupled_crash h.toCoupling
  | _ => exact coupled_pure rfl

private theorem coupled_settle : Coupled R Eq settle settle := by
  refine coupled_mission_bind h.toCoupling fun m _ _ _ hm _ => ?_
  have hground : exact ∨ m.ground ≠ .uncharted :=
    h.fair.imp id fun hcharted => (hcharted m.block hm.block).terrain
  refine coupled_seq (coupled_encounter h hground) fun _ => ?_
  exact coupled_showMap h.toCoupling

variable (hfg : Coupled R Eq f g)
include hfg

private theorem coupled_leaveSector :
    Coupled R Eq (leaveSector f) (leaveSector g) := by
  refine coupled_seq (coupled_prompt h.toCoupling _) fun answer => ?_
  refine coupled_ite ?_ (coupled_endMission h.toCoupling)
  exact coupled_seq (coupled_adjust h.toCoupling (fun _ => ⟨rfl, rfl⟩)
    fun _ _ _ _ => rfl) fun _ => hfg

private theorem coupled_deliver : Coupled R Eq (deliver f) (deliver g) := by
  have hleave := coupled_leaveSector h hfg
  have hmiss : ∀ message, Coupled R Eq
      (do say message; millis 1500 : Flight Unit)
      (do say message; millis 1500) := fun message =>
    coupled_seq (coupled_say h.toCoupling message)
      fun _ => coupled_millis h.toCoupling _
  refine coupled_mission_bind h.toCoupling fun m _ _ _ _ hsame => ?_
  refine coupled_ite ?_ (coupled_ite (hmiss _) (hmiss _))
  refine coupled_seq (coupled_tell h.toCoupling _ _) fun _ => ?_
  refine coupled_seq (coupled_loadBar h.toCoupling _ _) fun _ => ?_
  refine coupled_seq (coupled_say h.toCoupling _) fun _ => ?_
  refine coupled_seq
    (coupled_say_named h.toCoupling rfl fun hexact => ?_) fun _ => ?_
  · rw [hsame hexact]
  refine coupled_seq (coupled_millis h.toCoupling _) fun _ => ?_
  refine coupled_ite ?_ hleave
  exact coupled_seq (coupled_payBonus h.toCoupling) fun _ => hleave

private theorem coupled_command (c : Command) :
    Coupled R Eq (c.run f) (c.run g) := by
  unfold Command.run
  refine coupled_seq (coupled_adjust h.toCoupling (fun _ => ⟨rfl, rfl⟩)
    fun _ _ _ _ => rfl) fun _ => ?_
  cases c with
  | move direction => exact coupled_drive h.toCoupling direction
  | observe => exact coupled_observe h
  | collect => exact coupled_collect h.toCoupling
  | deliver => exact coupled_deliver h hfg
  | finish => exact coupled_pure rfl

end Commands

private theorem coupled_repeated {body body' : Flight Unit}
    (hbody : Coupled R Eq body body') (rounds : Nat) :
    Coupled R Eq (repeated body rounds) (repeated body' rounds) := by
  induction rounds with
  | zero => exact coupled_pure rfl
  | succ rounds ih => exact coupled_seq hbody fun _ => ih

mutual

theorem coupled_run {f g : Flight Unit} (h : Tandem exact sound R)
    (hfg : Coupled R Eq f g) :
    ∀ i : Instruction, Coupled R Eq (i.run f) (i.run g)
  | .command c => by
    rw [Instruction.run, Instruction.run]
    exact coupled_seq (coupled_command h hfg c) fun _ => coupled_settle h
  | .branch condition yes no => by
    rw [Instruction.run, Instruction.run]
    refine coupled_mission_bind h.toCoupling fun m _ _ _ _ _ => ?_
    refine coupled_bind (coupled_ofExcept (condition.decide m)) ?_
    rintro outcome _ ⟨rfl, -⟩
    cases outcome with
    | none => exact coupled_pure rfl
    | some outcome =>
      cases outcome with
      | true =>
        exact coupled_seq (coupled_run h hfg yes)
          fun _ => coupled_millis h.toCoupling _
      | false =>
        exact coupled_seq (coupled_run h hfg no)
          fun _ => coupled_millis h.toCoupling _
  | .loop count body => by
    rw [Instruction.run, Instruction.run]
    refine coupled_bind (coupled_ofExcept _) ?_
    rintro rounds _ ⟨rfl, -⟩
    exact coupled_repeated
      (coupled_runEach h hfg (coupled_millis h.toCoupling _) body) rounds
  | .burst count body => by
    rw [Instruction.run, Instruction.run]
    refine coupled_bind (coupled_ofExcept _) ?_
    rintro rounds _ ⟨rfl, -⟩
    exact coupled_repeated
      (coupled_runEach h hfg (coupled_pure rfl) body) rounds.toNat
  | .skip => by
    rw [Instruction.run, Instruction.run]
    exact coupled_pure rfl
  | .unknown => by
    rw [Instruction.run, Instruction.run]
    exact coupled_settle h

theorem coupled_runEach {f g after : Flight Unit}
    (h : Tandem exact sound R) (hfg : Coupled R Eq f g)
    (hafter : Coupled R Eq after after) :
    ∀ body : List Instruction, Coupled R Eq
      (Instruction.runEach f after body) (Instruction.runEach g after body)
  | [] => by
    rw [Instruction.runEach, Instruction.runEach]
    exact coupled_pure rfl
  | i :: rest => by
    rw [Instruction.runEach, Instruction.runEach]
    refine coupled_seq (coupled_run h hfg i) fun _ => ?_
    exact coupled_seq hafter fun _ => coupled_runEach h hfg hafter rest

end

section Campaign

variable {f g : Flight Unit} (h : Tandem exact sound R)
include h

theorem coupled_loadSector : Coupled R Eq loadSector loadSector := by
  refine coupled_mission_bind h.toCoupling fun m _ _ _ _ _ => ?_
  refine coupled_get_bind fun w w' hw => ?_
  rw [h.atlas hw]
  refine coupled_bind (coupled_ofOption _ (w.atlas.sector? m.level)) ?_
  rintro sector _ ⟨rfl, hsector⟩
  refine coupled_bind (coupled_ofOption _ sector.executions) ?_
  rintro executions _ ⟨rfl, -⟩
  refine coupled_seq (coupled_adjust h.toCoupling (fun _ => ⟨rfl, rfl⟩)
    fun _ _ _ _ => rfl) fun _ => ?_
  refine coupled_bind (coupled_ofOption _ sector.memory) ?_
  rintro memory _ ⟨rfl, -⟩
  refine coupled_seq (coupled_adjust h.toCoupling (fun _ => ⟨rfl, rfl⟩)
    fun _ _ _ _ => rfl) fun _ => ?_
  refine coupled_bind (coupled_ofOption _ sector.battery) ?_
  rintro battery _ ⟨rfl, -⟩
  refine coupled_seq (coupled_update h.toCoupling (fun m hm => ?_)
    fun _ _ _ _ => rfl) fun _ => ?_
  · exact ⟨fun _ hrow => absurd hrow List.not_mem_nil, hm.block⟩
  refine coupled_bind (coupled_ofOption _ sector.map) ?_
  rintro map _ ⟨rfl, hmap⟩
  refine coupled_seq (coupled_update h.toCoupling (fun m hm => ?_)
    fun _ _ _ _ => rfl) fun _ => coupled_showMap h.toCoupling
  exact ⟨h.maps hw hsector hmap, hm.block⟩

theorem coupled_approachSector :
    Coupled R Eq approachSector approachSector := by
  have hshow : ∀ lot : Nat, lot < 90 →
      (Message.sectorLocked (10 + lot)).isShowable = true := by
    intro lot hlot
    have hnumber : Numeral.isShowable (10 + lot) = true :=
      Numeral.isShowable_of_lt (by omega)
    simp [Message.isShowable, Message.numbers, hnumber]
  refine coupled_seq (coupled_tell h.toCoupling _ _) fun _ => ?_
  refine coupled_seq (coupled_millis h.toCoupling _) fun _ => ?_
  iterate 2 refine coupled_seq (coupled_tell h.toCoupling _ _) fun _ => ?_
  refine coupled_seq (coupled_millis h.toCoupling _) fun _ => ?_
  refine coupled_seq (coupled_tell h.toCoupling _ _) fun _ => ?_
  refine coupled_seq (coupled_loadBar h.toCoupling _ _) fun _ => ?_
  refine coupled_seq (coupled_tell h.toCoupling _ _) fun _ => ?_
  refine coupled_seq (coupled_millis h.toCoupling _) fun _ => ?_
  refine coupled_bind (h.draw (by decide)) ?_
  rintro a b ⟨ha, hb, hsame⟩
  have hboth := (hshow a ha).trans (hshow b hb).symm
  refine coupled_seq
    (coupled_say_named h.toCoupling hboth fun hexact => ?_) fun _ => ?_
  · rw [hsame hexact]
  refine coupled_seq (coupled_millis h.toCoupling _) fun _ => ?_
  refine coupled_seq (coupled_tell h.toCoupling _ _) fun _ => ?_
  exact coupled_millis h.toCoupling _

theorem coupled_compileScript (script : List String) :
    Coupled R Eq (compileScript script) (compileScript script) := by
  refine coupled_seq (coupled_say h.toCoupling _) fun _ => ?_
  refine coupled_seq (coupled_loadBar h.toCoupling _ _) fun _ => ?_
  refine coupled_mission_bind h.toCoupling fun m _ _ _ _ _ => ?_
  exact coupled_seq (coupled_adjust h.toCoupling (fun _ => ⟨rfl, rfl⟩)
    fun _ _ _ _ => rfl) fun _ => coupled_pure rfl

theorem coupled_loadScript (script : List String) :
    Coupled R Eq (loadScript script) (loadScript script) := by
  refine coupled_seq (coupled_compileScript h script) fun size => ?_
  refine coupled_seq (coupled_adjust h.toCoupling (fun _ => ⟨rfl, rfl⟩)
    fun _ _ _ _ => rfl) fun _ => ?_
  refine coupled_seq (coupled_say h.toCoupling _) fun _ => ?_
  exact coupled_millis h.toCoupling _

theorem coupled_rejectScript (script : List String) :
    Coupled R Eq (rejectScript script) (rejectScript script) := by
  refine coupled_seq (coupled_compileScript h script) fun size => ?_
  refine coupled_mission_bind h.toCoupling fun m _ _ _ _ _ => ?_
  iterate 2 refine coupled_seq (coupled_say h.toCoupling _) fun _ => ?_
  exact coupled_millis h.toCoupling _

theorem coupled_readLines (limit number : Nat) :
    Coupled R Eq (readLines limit number) (readLines limit number) := by
  induction limit generalizing number with
  | zero => exact coupled_throw _
  | succ limit ih =>
    refine coupled_seq (coupled_prompt h.toCoupling _) fun line => ?_
    refine coupled_seq (coupled_adjust h.toCoupling (fun _ => ⟨rfl, rfl⟩)
      fun _ _ _ _ => rfl) fun _ => ?_
    refine coupled_ite (coupled_pure rfl) ?_
    exact coupled_seq (ih _) fun _ => coupled_pure rfl

theorem coupled_readScript : Coupled R Eq readScript readScript := by
  refine coupled_get_bind fun w w' hw => ?_
  rw [h.inputs hw]
  exact coupled_readLines h _ _

theorem coupled_startSector (hfg : Coupled R Eq f g) :
    Coupled R Eq (startSector f) (startSector g) := by
  refine coupled_seq (coupled_approachSector h) fun _ => ?_
  refine coupled_seq (coupled_loadSector h) fun _ => ?_
  refine coupled_mission_bind h.toCoupling fun m _ _ _ _ hsame => ?_
  refine coupled_seq
    (coupled_say_named h.toCoupling rfl fun hexact => ?_) fun _ => hfg
  rw [hsame hexact]

theorem coupled_runLine (hfg : Coupled R Eq f g) (line : String) :
    Coupled R Eq (runLine f line) (runLine g line) := by
  have hrun := coupled_run h (coupled_startSector h hfg)
    (Instruction.parse line)
  refine coupled_seq (coupled_seq hrun fun _ => ?_) fun _ => ?_
  · refine coupled_seq (coupled_millis h.toCoupling _) fun _ => ?_
    refine coupled_mission_bind h.toCoupling fun m _ _ _ _ _ => ?_
    exact coupled_ite (coupled_stopWith h.toCoupling _) (coupled_pure rfl)
  · refine coupled_mission_bind h.toCoupling fun m _ _ _ _ _ => ?_
    exact coupled_ite (coupled_stopWith h.toCoupling _) (coupled_pure rfl)

theorem coupled_executeScript (hfg : Coupled R Eq f g)
    (script : List String) :
    Coupled R Eq (executeScript f script) (executeScript g script) := by
  refine coupled_mission_bind h.toCoupling fun m _ _ _ _ _ => ?_
  refine coupled_ite ?_ ?_
  · refine coupled_seq (coupled_loadScript h script) fun _ => ?_
    refine coupled_seq (coupled_forM (coupled_runLine h hfg)) fun _ => ?_
    refine coupled_mission_bind h.toCoupling fun m _ _ _ _ _ => ?_
    exact coupled_ite hfg (coupled_pure rfl)
  · exact coupled_seq (coupled_rejectScript h script) fun _ => hfg

theorem coupled_composeWithin (limit : Nat) :
    Coupled R Eq (composeWithin limit) (composeWithin limit) := by
  induction limit with
  | zero => exact coupled_throw _
  | succ limit ih =>
    exact coupled_seq (coupled_readScript h)
      fun script => coupled_executeScript h ih script

theorem coupled_compose : Coupled R Eq compose compose := by
  refine coupled_get_bind fun w w' hw => ?_
  rw [h.inputs hw]
  exact coupled_composeWithin h _

theorem coupled_orient : Coupled R Eq orient orient := by
  refine coupled_seq (coupled_forM fun item => ?_) fun _ => ?_
  · refine coupled_seq (coupled_tell h.toCoupling _ _) fun _ => ?_
    exact coupled_seq (coupled_millis h.toCoupling _)
      fun _ => coupled_log h.toCoupling _
  · refine coupled_seq (coupled_ask h.toCoupling _) fun _ => ?_
    exact coupled_startSector h (coupled_compose h)

theorem coupled_openTerminal : Coupled R Eq openTerminal openTerminal := by
  refine coupled_seq (coupled_clearScreen h.toCoupling) fun _ => ?_
  refine coupled_seq (coupled_tell h.toCoupling _ _) fun _ => ?_
  refine coupled_seq (coupled_millis h.toCoupling _) fun _ => ?_
  refine coupled_seq (coupled_tell h.toCoupling _ _) fun _ => ?_
  refine coupled_seq (coupled_loadBar h.toCoupling _ _) fun _ => ?_
  exact coupled_log h.toCoupling _

theorem coupled_greet (name : String) :
    Coupled R Eq (greet name) (greet name) := by
  refine coupled_seq (coupled_log h.toCoupling _) fun _ => ?_
  refine coupled_seq (coupled_tell h.toCoupling _ _) fun _ => ?_
  refine coupled_seq (coupled_loadBar h.toCoupling _ _) fun _ => ?_
  refine coupled_seq (coupled_say h.toCoupling _) fun _ => ?_
  refine coupled_seq (coupled_millis h.toCoupling _) fun _ => ?_
  refine coupled_seq (coupled_tell h.toCoupling _ _) fun _ => ?_
  refine coupled_seq (coupled_loadBar h.toCoupling _ _) fun _ => ?_
  refine coupled_seq (coupled_say h.toCoupling _) fun _ => ?_
  refine coupled_seq (coupled_millis h.toCoupling _) fun _ => ?_
  iterate 4
    refine coupled_seq (coupled_tell h.toCoupling _ _) fun _ => ?_
    refine coupled_seq (coupled_millis h.toCoupling _) fun _ => ?_
  exact coupled_log h.toCoupling _

theorem coupled_beginCampaign :
    Coupled R Eq beginCampaign beginCampaign := by
  refine coupled_seq (coupled_openTerminal h) fun _ => ?_
  refine coupled_seq (coupled_prompt h.toCoupling _) fun name => ?_
  refine coupled_seq (coupled_adjust h.toCoupling (fun _ => ⟨rfl, rfl⟩)
    fun _ _ _ _ => rfl) fun _ => ?_
  refine coupled_seq (coupled_greet h name) fun _ => ?_
  refine coupled_seq (coupled_prompt h.toCoupling _) fun answer => ?_
  refine coupled_seq (coupled_log h.toCoupling _) fun _ => ?_
  refine coupled_ite ?_ ?_
  · refine coupled_seq (coupled_tell h.toCoupling _ _) fun _ => ?_
    refine coupled_seq (coupled_loadBar h.toCoupling _ _) fun _ => ?_
    exact coupled_startSector h (coupled_compose h)
  · refine coupled_seq (coupled_tell h.toCoupling _ _) fun _ => ?_
    refine coupled_seq (coupled_loadBar h.toCoupling _ _) fun _ => ?_
    exact coupled_orient h

end Campaign

end Rover
