import Mathlib.Data.List.Induction
import Switchboard.Proofs.Argument.Negotiation
import Switchboard.Proofs.Device.RadioMembers

/-!
The table of a member of a run. What its requests do to it is a turn of the table; what others do leaves it
alone, and its own transmissions are recorded on it by name. So what every turn keeps holds of every table.
-/

namespace Switchboard

/-- What transmissions leave of a table, one after the other: each that was sent is recorded by its name. -/
def recordAll : List (RadioJob × Transmission) → List Switch → List Switch
  | [], switches => switches
  | (job, outcome) :: rest, switches =>
    recordAll rest (if outcome = .sent then Switch.record job.switch job.on switches else switches)

/-- The transmissions of a log that are for a table. -/
def ranFor (table : Nat) (log : List RadioEvent) : List (RadioJob × Transmission) :=
  (ranIn log).filter fun ran => ran.1.table == table

theorem ranFor_append (table : Nat) (log later : List RadioEvent) :
    ranFor table (log ++ later) = ranFor table log ++ ranFor table later := by
  simp only [ranFor, ranIn, List.filterMap_append, List.filter_append]

theorem ranFor_ran (table : Nat) (entry : Waiting RadioJob) (outcome : Transmission) :
    ranFor table [.ran entry outcome] =
      if entry.job.table = table then [(entry.job, outcome)] else [] := by
  by_cases own : entry.job.table = table
  · simp [ranFor, ranIn, RadioEvent.ran?, own]
  · simp [ranFor, ranIn, RadioEvent.ran?, own]

theorem recordAll_append (ran later : List (RadioJob × Transmission)) (switches : List Switch) :
    recordAll (ran ++ later) switches = recordAll later (recordAll ran switches) := by
  induction ran generalizing switches with
  | nil => rfl
  | cons first rest ih => exact ih _

theorem map_config_recordAll (ran : List (RadioJob × Transmission)) (switches : List Switch) :
    (recordAll ran switches).map Switch.config = switches.map Switch.config := by
  induction ran generalizing switches with
  | nil => rfl
  | cons first rest ih =>
      rw [recordAll, ih]
      split
      · exact Switch.map_config_record _ _ _
      · rfl

theorem map_name_recordAll (ran : List (RadioJob × Transmission)) (switches : List Switch) :
    (recordAll ran switches).map Switch.name = switches.map Switch.name :=
  Switch.map_name_of_config (map_config_recordAll ran switches)

namespace RadioRun

variable {R D : Type} [Radio R] {r : RadioRun R D} {n : Nat} {member : RfSwitch}

/-- What happens in the steps of a run that has begun. -/
def since (r : RadioRun R D) (steps : List RadioStep) : List RadioEvent :=
  (r.play steps).log.drop r.log.length

theorem log_step (r : RadioRun R D) (s : RadioStep) : ∃ events, (r.step s).log = r.log ++ events := by
  cases s with
  | join connection seed => exact ⟨_, rfl⟩
  | request m p =>
      cases found : r.members[m]? with
      | none => exact ⟨[], by rw [step, found, List.append_nil]⟩
      | some other => exact ⟨_, by rw [step_request p found]⟩
  | close m =>
      cases found : r.members[m]? with
      | none => exact ⟨[], by rw [step, found, List.append_nil]⟩
      | some other => exact ⟨_, by rw [step_close found]⟩
  | work => exact ⟨_, rfl⟩

theorem log_play (r : RadioRun R D) (steps : List RadioStep) :
    (r.play steps).log = r.log ++ r.since steps := by
  have grows : ∃ events, (r.play steps).log = r.log ++ events := by
    induction steps generalizing r with
    | nil => exact ⟨[], (List.append_nil _).symm⟩
    | cons s rest ih =>
        obtain ⟨first, log⟩ := r.log_step s
        obtain ⟨later, all⟩ := ih (r.step s)
        exact ⟨first ++ later, by rw [← List.append_assoc, ← log]; exact all⟩
  obtain ⟨events, log⟩ := grows
  rw [since, log, List.drop_left]

theorem since_cons (r : RadioRun R D) (s : RadioStep) (rest : List RadioStep) :
    r.since (s :: rest) = r.since [s] ++ (r.step s).since rest := by
  have all : r.log ++ r.since (s :: rest) = ((r.step s).play rest).log := (r.log_play (s :: rest)).symm
  have first : (r.step s).log = r.log ++ r.since [s] := r.log_play [s]
  rw [log_play, first, List.append_assoc] at all
  exact List.append_cancel_left all

theorem since_singleton {s : RadioStep} {events : List RadioEvent} (log : (r.step s).log = r.log ++ events) :
    r.since [s] = events := by
  have all : (r.step s).log = r.log ++ r.since [s] := r.log_play [s]
  exact List.append_cancel_left (all.symm.trans log)

/-- A step that asks a member for nothing leaves the member, and its table but for what is recorded on it. -/
theorem switches_step (d : Distinct r) (found : r.members[n]? = some member) {s : RadioStep}
    (quiet : ∀ p, s ≠ .request n p) :
    (r.step s).members[n]? = some member ∧
      member.switches (r.step s).hardware =
        recordAll (ranFor member.table (r.since [s])) (member.switches r.hardware) := by
  have bound := d.member_table_lt found
  cases s with
  | join connection seed =>
      have events : r.since [.join connection seed] = [_] := since_singleton rfl
      rw [events]
      constructor
      · exact (List.getElem?_append_left (List.getElem?_eq_some_iff.mp found).1).trans found
      · exact congrArg (Option.getD · []) (List.getElem?_append_left bound)
  | request m p =>
      have apart : m ≠ n := by
        rintro rfl
        exact quiet p rfl
      cases there : r.members[m]? with
      | none =>
          have same : r.step (.request m p) = r := by rw [step, there]
          have events : r.since [.request m p] = [] := since_singleton (by rw [same, List.append_nil])
          rw [events, same]
          exact ⟨found, rfl⟩
      | some other =>
          have tables : other.table ≠ member.table := apart_of_nodup_map d.tables found there apart
          have log := congrArg RadioRun.log (step_request p there)
          rw [since_singleton log, step_request p there]
          constructor
          · exact (List.getElem?_set_ne apart).trans found
          · exact (rfTurn_process other r.hardware p).table_of_ne tables bound
  | close m =>
      cases there : r.members[m]? with
      | none =>
          have same : r.step (.close m) = r := by rw [step, there]
          have events : r.since [.close m] = [] := since_singleton (by rw [same, List.append_nil])
          rw [events, same]
          exact ⟨found, rfl⟩
      | some other =>
          have log := congrArg RadioRun.log (step_close there)
          rw [since_singleton log, step_close there]
          exact ⟨found, rfl⟩
  | work =>
      have events : r.since [.work] = [nextTake r.hardware] := since_singleton rfl
      rw [events]
      refine ⟨found, ?_⟩
      have worked := worked r.hardware
      rw [step]
      generalize nextTake r.hardware = e, r.hardware.stepRadio = next at worked ⊢
      cases worked with
      | idle => rfl
      | skipped => rfl
      | @ran entry rest _ _ _ =>
          rw [ranFor_ran]
          split
          case isTrue own =>
            rw [RfSwitch.switches, RfSwitch.switches, ← own]
            exact Hardware.table_runRadio_self (h := r.hardware.taking rest) (own ▸ bound)
          case isFalse apart => exact Hardware.table_runRadio_of_ne apart

/-- While a member asks for nothing, its table is what its transmissions leave of it. -/
theorem switches_play (d : Distinct r) (found : r.members[n]? = some member) {steps : List RadioStep}
    (quiet : ∀ s ∈ steps, ∀ p, s ≠ .request n p) :
    (r.play steps).members[n]? = some member ∧
      member.switches (r.play steps).hardware =
        recordAll (ranFor member.table (r.since steps)) (member.switches r.hardware) := by
  induction steps generalizing r with
  | nil =>
      have nothing : r.since [] = [] := List.drop_length
      rw [nothing]
      exact ⟨found, rfl⟩
  | cons s rest ih =>
      obtain ⟨first, later⟩ := List.forall_mem_cons.mp quiet
      obtain ⟨there, switches⟩ := switches_step d found first
      obtain ⟨stays, all⟩ := ih (d.step s) there later
      refine ⟨stays, ?_⟩
      rw [since_cons, ranFor_append, recordAll_append, ← switches]
      exact all

end RadioRun

/-- What can become of the table of an instance with some first switches. -/
inductive TableTurn (seed : List SwitchConfig) (before : List Switch) : List Switch → Prop
  | recorded (ran : List (RadioJob × Transmission)) : TableTurn seed before (recordAll ran before)
  | added (s : Switch) : Text.Plain s.name → (∀ t ∈ before, t.name ≠ s.name) →
      TableTurn seed before (before ++ [s])
  | removed (name : String) : TableTurn seed before (before.filter fun s => s.name != name)
  | restarted : TableTurn seed before (seed.map Switch.ofConfig)

/-- A switch is taught under a plain name. -/
theorem plain_of_ready_add {data : Option String} {name : String} {onCode offCode : UInt32}
    (ready : Negotiation.negotiate data (CommandArguments.schema AddSwitchArguments) =
      .ready (AddSwitchArguments.mk name onCode offCode)) : Text.Plain name := by
  obtain ⟨values, taken⟩ := exists_ofValues_of_ready ready
  exact (AddSwitchArguments.ofValues_eq_ok_iff.mp taken).1.plain

theorem RfTurn.tableTurn {R D : Type} {r : RfSwitch} {h : Hardware R D} {p : Payload}
    {result : Payload × RfSwitch × Hardware R D} (turn : RfTurn r h p result)
    (bound : r.table < h.tables.length) :
    TableTurn r.seed (r.switches h) (result.2.1.switches result.2.2) := by
  cases turn with
  | told => exact .recorded []
  | queued => exact .recorded []
  | added _ s _ _ _ free taught =>
      have plain : Text.Plain s.name := plain_of_ready_add taught
      change TableTurn r.seed (r.switches h) ((h.setTable r.table _).table r.table)
      rw [Hardware.table_setTable_self _ bound]
      exact .added s plain free
  | removed _ name =>
      change TableTurn r.seed (r.switches h) ((h.setTable r.table _).table r.table)
      rw [Hardware.table_setTable_self _ bound]
      exact .removed name
  | restarted =>
      simp only [RfSwitch.switches, Hardware.table, List.getElem?_concat_length]
      exact .restarted

/-- A rule for the tables of instances with some first switches holds of each member of a run. -/
def Tabled {R D : Type} (Rule : List SwitchConfig → List Switch → Prop) (r : RadioRun R D) : Prop :=
  ∀ (n : Nat) (member : RfSwitch), r.members[n]? = some member → Rule member.seed (member.switches r.hardware)

namespace Tabled

variable {R D : Type} [Radio R] {r : RadioRun R D} {Rule : List SwitchConfig → List Switch → Prop}

theorem step (fresh : ∀ seed, Rule seed (seed.map Switch.ofConfig))
    (kept : ∀ seed before after, Rule seed before → TableTurn seed before after → Rule seed after)
    (d : Distinct r) (h : Tabled Rule r) (s : RadioStep) : Tabled Rule (r.step s) := by
  intro n next found'
  cases found : r.members[n]? with
  | some member =>
      by_cases asks : ∃ p, s = .request n p
      · obtain ⟨p, rfl⟩ := asks
        have turn := rfTurn_process member r.hardware p
        have bound := d.member_table_lt found
        rw [RadioRun.step_request p found] at found' ⊢
        obtain rfl : (member.process p r.hardware).2.1 = next :=
          Option.some.inj ((List.getElem?_set_self (List.getElem?_eq_some_iff.mp found).1).symm.trans found')
        have turned := turn.tableTurn bound
        rw [← turn.seed_eq] at turned
        exact kept _ _ _ (turn.seed_eq ▸ h n member found) turned
      · have quiet : ∀ p, s ≠ .request n p := fun p same => asks ⟨p, same⟩
        obtain ⟨stays, switches⟩ := RadioRun.switches_step d found quiet
        obtain rfl : member = next := Option.some.inj (stays.symm.trans found')
        rw [switches]
        exact kept _ _ _ (h n member found) (.recorded _)
  | none =>
      have listed : (r.members.map RfSwitch.setup ++ s.joins)[n]? = some next.setup := by
        rw [← r.setups_step, List.getElem?_map, found', Option.map_some]
      have beyond : r.members.length ≤ n := List.getElem?_eq_none_iff.mp found
      cases s with
      | join connection seed =>
          obtain rfl : next = (RfSwitch.start seed connection r.hardware).1 := by
            rw [RadioRun.step, List.getElem?_append_right beyond] at found'
            exact List.mem_singleton.mp (List.mem_of_getElem? found')
          have switches : (RfSwitch.start seed connection r.hardware).1.switches
              (r.step (.join connection seed)).hardware = seed.map Switch.ofConfig := by
            exact congrArg (Option.getD · []) List.getElem?_concat_length
          rw [switches]
          exact fresh seed
      | _ => simp [RadioStep.joins, found] at listed

theorem play (fresh : ∀ seed, Rule seed (seed.map Switch.ofConfig))
    (kept : ∀ seed before after, Rule seed before → TableTurn seed before after → Rule seed after)
    (radio : R) (dongle : D) (hasRadio hasDongle : Bool) (steps : List RadioStep) :
    Tabled Rule ((RadioRun.attached radio dongle hasRadio hasDongle).play steps) := by
  have all (r : RadioRun R D) (d : Distinct r) (h : Tabled Rule r) : Tabled Rule (r.play steps) := by
    induction steps generalizing r with
    | nil => exact h
    | cons s rest ih => exact ih _ (d.step s) (h.step fresh kept d s)
  exact all _ (.attached radio dongle hasRadio hasDongle) nofun

end Tabled

/-- A simulated radio with one member that has just joined. -/
def oneMember (seed : List SwitchConfig) : RadioRun SimulatedRadio Unit :=
  (RadioRun.attached {} () true false).play [.join "c" seed]

end Switchboard
