import Mathlib.Data.List.Induction
import Mathlib.Data.List.Nodup
import Switchboard.Proofs.Device.RfTurns
import Switchboard.Proofs.Hardware.RadioJobs

/-!
Recorded states of switches. A state is recorded only when a transmission for the name of the switch has
succeeded while the switch stood in the table. The transmission has the code of the switch itself when the
names of the first table are distinct and no switch is added while a transmission with another code waits
under its name. Without that it can be the code of an earlier switch.
-/

namespace Switchboard

def SwitchConfig.code (c : SwitchConfig) (on : Bool) : UInt32 :=
  if on then c.onCode else c.offCode

theorem Switch.code_eq (s : Switch) (on : Bool) : s.code on = s.config.code on := rfl

inductive SwitchStep
  | request (p : Payload)
  /-- The worker of the radio takes a job. -/
  | work

structure SwitchRun (R D : Type) where
  protocol : RfSwitch
  hardware : Hardware R D

namespace SwitchRun

variable {R D : Type} [Radio R]

def entries (r : SwitchRun R D) : List Switch :=
  r.protocol.switches r.hardware

/-- The transmission that the worker makes next, if it succeeds. -/
def sends? (r : SwitchRun R D) : Option RadioJob :=
  match r.hardware.radioQueue.take? with
  | some (some job, _) =>
    if (Radio.transmit r.hardware.radio job.code).1 = .sent then some job else none
  | _ => none

def step (r : SwitchRun R D) : SwitchStep → SwitchRun R D
  | .request p =>
    let (_, protocol, hardware) := r.protocol.process p r.hardware
    { protocol, hardware }
  | .work => { r with hardware := r.hardware.stepRadio }

def after (r : SwitchRun R D) (steps : List SwitchStep) : SwitchRun R D :=
  steps.foldl step r

def start (radio : R) (dongle : D) (hasRadio hasDongle : Bool) (connection : String)
    (seed : List SwitchConfig) : SwitchRun R D :=
  let (protocol, hardware) := RfSwitch.start seed connection (.attach radio dongle hasRadio hasDongle)
  { protocol, hardware }

theorem after_concat (r : SwitchRun R D) (steps : List SwitchStep) (x : SwitchStep) :
    r.after (steps ++ [x]) = (r.after steps).step x := by
  simp [after]

/-- A step that adds no switch under whose name a transmission with another code waits. -/
def Clean (r : SwitchRun R D) (x : SwitchStep) : Prop :=
  ∀ s ∈ (r.step x).entries, (∀ t ∈ r.entries, t.name ≠ s.name) →
    ∀ w ∈ r.hardware.radioQueue.waiting, w.job.table = (r.step x).protocol.table →
      w.job.switch = s.name → w.job.code = s.code w.job.on

end SwitchRun

/-- A transmission of a code for the name of an entry has succeeded, and the entry stands in the table in
use since before that. -/
inductive Confirmed {R D : Type} [Radio R] (r : SwitchRun R D) :
    List SwitchStep → SwitchConfig → Bool → UInt32 → Prop
  | sent {steps : List SwitchStep} {job : RadioJob} {c : SwitchConfig} :
    (r.after steps).sends? = some job → job.table = (r.after steps).protocol.table →
      c ∈ (r.after steps).entries.map Switch.config → job.switch = c.name →
        Confirmed r (steps ++ [.work]) c job.on job.code
  | later {steps : List SwitchStep} {c : SwitchConfig} {on : Bool} {code : UInt32} (x : SwitchStep) :
    Confirmed r steps c on code → c ∈ (r.after (steps ++ [x])).entries.map Switch.config →
      (r.after (steps ++ [x])).protocol.table = (r.after steps).protocol.table →
        Confirmed r (steps ++ [x]) c on code

namespace SwitchRun

section entries

variable {R D : Type} {r : SwitchRun R D}

theorem entries_setTable (bound : r.protocol.table < r.hardware.tables.length) (negotiator : Negotiator)
    (switches : List Switch) :
    entries
      { protocol := { r.protocol with negotiator }
        hardware := r.hardware.setTable r.protocol.table switches } = switches :=
  Hardware.table_setTable_self switches bound

theorem entries_newTable (switches : List Switch) (negotiator : Negotiator) :
    entries
      { protocol := { r.protocol with table := r.hardware.tables.length, negotiator }
        hardware := { r.hardware with tables := r.hardware.tables ++ [switches] } } = switches := by
  simp [entries, RfSwitch.switches, Hardware.table]

end entries

variable {R D : Type} [Radio R] {r : SwitchRun R D} {job : RadioJob}

theorem waits_of_sends? (sends : r.sends? = some job) :
    ∃ lease, ⟨lease, job⟩ ∈ r.hardware.radioQueue.waiting := by
  rw [sends?] at sends
  split at sends
  · next taken =>
      split at sends
      · cases sends
        obtain ⟨w, waiting, impossible | same⟩ := JobQueue.waiting_of_take? taken
        · cases impossible
        · rw [Option.some.injEq] at same
          rw [same, waiting]
          exact ⟨w.lease, List.mem_cons_self⟩
      · cases sends
  · cases sends

theorem waits_of_step_work {w : Waiting RadioJob}
    (waits : w ∈ (r.step .work).hardware.radioQueue.waiting) :
    w ∈ r.hardware.radioQueue.waiting := by
  rw [step, Hardware.stepRadio] at waits
  split at waits
  · exact waits
  · next queue taken =>
      obtain ⟨first, waiting, -⟩ := JobQueue.waiting_of_take? taken
      exact waiting ▸ List.mem_cons_of_mem _ waits
  · next job queue taken =>
      obtain ⟨first, waiting, -⟩ := JobQueue.waiting_of_take? taken
      exact waiting ▸ List.mem_cons_of_mem _ (Hardware.waits_of_runRadio waits)

theorem tables_step_work (r : SwitchRun R D) :
    (r.step .work).hardware.tables =
      match r.sends? with
      | some job => (r.hardware.setTable job.table
          (Switch.record job.switch job.on (r.hardware.table job.table))).tables
      | none => r.hardware.tables := by
  rw [step, Hardware.stepRadio, sends?]
  cases taken : r.hardware.radioQueue.take? with
  | none => rfl
  | some next =>
      obtain ⟨job, queue⟩ := next
      cases job with
      | none => rfl
      | some job =>
          dsimp only
          rw [Hardware.runRadio_tables]
          split
          · rfl
          · rfl

theorem entries_step_work (bound : r.protocol.table < r.hardware.tables.length) :
    (r.step .work).entries =
      match r.sends? with
      | some job =>
        if job.table = r.protocol.table then Switch.record job.switch job.on r.entries else r.entries
      | none => r.entries := by
  have tables := r.tables_step_work
  have after : (r.step .work).entries =
      (r.step .work).hardware.tables[r.protocol.table]?.getD [] := rfl
  rw [after, tables]
  cases r.sends? with
  | none => rfl
  | some job =>
      dsimp only
      split
      case isTrue same =>
        rw [same]
        exact Hardware.table_setTable_self _ bound
      case isFalse apart => exact Hardware.table_setTable_of_ne _ apart

theorem map_config_step_work (bound : r.protocol.table < r.hardware.tables.length) :
    (r.step .work).entries.map Switch.config = r.entries.map Switch.config := by
  rw [entries_step_work bound]
  split
  · split
    · exact Switch.map_config_record _ _ _
    · rfl
  · rfl

/-- What can have become of an entry in a step: it is new and has no state, it was there before, or a
transmission for its name has just succeeded. -/
theorem entry_step (bound : r.protocol.table < r.hardware.tables.length) (x : SwitchStep) {s : Switch}
    (mem : s ∈ (r.step x).entries) :
    s.state = none ∨
      (r.step x).protocol.table = r.protocol.table ∧
        (s ∈ r.entries ∨
          ∃ job, x = .work ∧ r.sends? = some job ∧ job.table = r.protocol.table ∧
            s.name = job.switch ∧ s.state = some job.on ∧
            s.config ∈ r.entries.map Switch.config) := by
  cases x with
  | request p =>
      have turn := rfTurn_process r.protocol r.hardware p
      simp only [step] at mem ⊢
      generalize r.protocol.process p r.hardware = result at turn mem ⊢
      cases turn with
      | told => exact .inr ⟨rfl, .inl mem⟩
      | queued => exact .inr ⟨rfl, .inl mem⟩
      | added negotiator t quiet due fresh free =>
          rw [entries_setTable bound] at mem
          rcases List.mem_append.mp mem with old | new
          · exact .inr ⟨rfl, .inl old⟩
          · exact .inl (List.mem_singleton.mp new ▸ fresh)
      | removed negotiator name =>
          rw [entries_setTable bound] at mem
          exact .inr ⟨rfl, .inl (List.mem_filter.mp mem).1⟩
      | restarted =>
          rw [entries_newTable] at mem
          obtain ⟨config, -, rfl⟩ := List.mem_map.mp mem
          exact .inl rfl
  | work =>
      refine .inr ⟨rfl, ?_⟩
      rw [entries_step_work bound] at mem
      cases sends : r.sends? with
      | none =>
          rw [sends] at mem
          exact .inl mem
      | some job =>
          rw [sends] at mem
          dsimp only at mem
          split at mem
          · next same =>
              have configs := List.mem_map_of_mem (f := Switch.config) mem
              rw [Switch.map_config_record] at configs
              rcases Switch.mem_record mem with old | ⟨name, state⟩
              · exact .inl old
              · exact .inr ⟨job, rfl, rfl, same, name, state, configs⟩
          · exact .inl mem

end SwitchRun

structure Placed {R D : Type} (seed : List SwitchConfig) (r : SwitchRun R D) : Prop where
  seed_eq : r.protocol.seed = seed
  table_lt : r.protocol.table < r.hardware.tables.length
  jobs_lt : ∀ w ∈ r.hardware.radioQueue.waiting, w.job.table < r.hardware.tables.length

namespace Placed

variable {R D : Type} [Radio R] {seed : List SwitchConfig} {r : SwitchRun R D}

omit [Radio R] in
theorem start (radio : R) (dongle : D) (hasRadio hasDongle : Bool) (connection : String)
    (seed : List SwitchConfig) :
    Placed seed (SwitchRun.start radio dongle hasRadio hasDongle connection seed) := by
  refine ⟨rfl, Nat.zero_lt_one, ?_⟩
  intro w waits
  cases hasRadio <;> cases waits

theorem step (h : Placed seed r) (x : SwitchStep) : Placed seed (r.step x) := by
  cases x with
  | request p =>
      have turn := rfTurn_process r.protocol r.hardware p
      refine ⟨turn.seed_eq.trans h.seed_eq, turn.table_lt h.table_lt, ?_⟩
      intro w waits
      refine Nat.lt_of_lt_of_le ?_ turn.length_tables_le
      rcases turn.waits_or_due waits with old | ⟨jobs, due, mem⟩
      · exact h.jobs_lt w old
      · exact (of_mem_due due mem).1 ▸ h.table_lt
  | work =>
      have length : (r.step .work).hardware.tables.length = r.hardware.tables.length := by
        rw [SwitchRun.tables_step_work]
        split
        · exact List.length_set
        · rfl
      refine ⟨h.seed_eq, length ▸ h.table_lt, ?_⟩
      intro w waits
      exact length ▸ h.jobs_lt w (SwitchRun.waits_of_step_work waits)

theorem after (h : Placed seed r) (steps : List SwitchStep) : Placed seed (r.after steps) := by
  induction steps using List.reverseRecOn with
  | nil => exact h
  | append_singleton steps x ih =>
      rw [SwitchRun.after_concat]
      exact ih.step x

end Placed

/-- Whatever a state is recorded on was confirmed, by a transmission of a fitting code. -/
def Recorded {R D : Type} [Radio R] (r : SwitchRun R D) (steps : List SwitchStep)
    (fits : SwitchConfig → Bool → UInt32 → Prop) : Prop :=
  ∀ s ∈ (r.after steps).entries, ∀ on, s.state = some on →
    ∃ code, fits s.config on code ∧ Confirmed r steps s.config on code

section runs

variable {R D : Type} [Radio R] {r : SwitchRun R D} {steps : List SwitchStep}
  {fits : SwitchConfig → Bool → UInt32 → Prop}

theorem Recorded.start (radio : R) (dongle : D) (hasRadio hasDongle : Bool) (connection : String)
    (seed : List SwitchConfig) :
    Recorded (SwitchRun.start radio dongle hasRadio hasDongle connection seed) [] fits := by
  intro s mem on recorded
  obtain ⟨config, -, rfl⟩ := List.mem_map.mp mem
  cases recorded

theorem Recorded.step (h : Recorded r steps fits)
    (bound : (r.after steps).protocol.table < (r.after steps).hardware.tables.length) (x : SwitchStep)
    (fitting : ∀ job, (r.after steps).sends? = some job → job.table = (r.after steps).protocol.table →
      ∀ s ∈ (r.after steps).entries, s.name = job.switch → fits s.config job.on job.code) :
    Recorded r (steps ++ [x]) fits := by
  intro s mem on recorded
  have listed := List.mem_map_of_mem (f := Switch.config) mem
  rw [SwitchRun.after_concat] at mem
  rcases SwitchRun.entry_step bound x mem with fresh | ⟨table, old | sent⟩
  · rw [fresh] at recorded
    cases recorded
  · obtain ⟨code, fit, confirmed⟩ := h s old on recorded
    exact ⟨code, fit, .later x confirmed listed (by rw [SwitchRun.after_concat, table])⟩
  · obtain ⟨job, rfl, sends, same, name, state, before⟩ := sent
    rw [state, Option.some.injEq] at recorded
    obtain ⟨t, there, config⟩ := List.mem_map.mp before
    have named : t.name = job.switch := (congrArg SwitchConfig.name config).trans name
    subst recorded
    exact ⟨job.code, config ▸ fitting job sends same t there named, .sent sends same before name.symm⟩

end runs

/-- Each transmission that waits has the code of the entry whose state it would record. -/
structure Matched {R D : Type} (r : SwitchRun R D) : Prop where
  names : (r.entries.map Switch.name).Nodup
  codes : ∀ w ∈ r.hardware.radioQueue.waiting, w.job.table = r.protocol.table → ∀ s ∈ r.entries,
    s.name = w.job.switch → w.job.code = s.code w.job.on

namespace Matched

variable {R D : Type} {seed : List SwitchConfig} {r : SwitchRun R D}

theorem names_ofConfig (distinct : (seed.map SwitchConfig.name).Nodup) :
    ((seed.map Switch.ofConfig).map Switch.name).Nodup := by
  rw [List.map_map]
  exact distinct

theorem start (radio : R) (dongle : D) (hasRadio hasDongle : Bool) (connection : String)
    (distinct : (seed.map SwitchConfig.name).Nodup) :
    Matched (SwitchRun.start radio dongle hasRadio hasDongle connection seed) := by
  refine ⟨names_ofConfig distinct, ?_⟩
  intro w waits
  cases hasRadio <;> cases waits

variable [Radio R]

theorem request (h : Matched r) (placed : Placed seed r) (distinct : (seed.map SwitchConfig.name).Nodup)
    {p : Payload} (clean : r.Clean (.request p)) : Matched (r.step (.request p)) := by
  have turn := rfTurn_process r.protocol r.hardware p
  simp only [SwitchRun.Clean, SwitchRun.step] at clean ⊢
  generalize r.protocol.process p r.hardware = result at turn clean ⊢
  cases turn with
  | told => exact ⟨h.names, h.codes⟩
  | queued negotiator announces due =>
      refine ⟨h.names, ?_⟩
      intro w waits table s mem named
      rcases List.mem_append.mp waits with old | new
      · exact h.codes w old table s mem named
      · obtain ⟨job, asked, rfl⟩ := List.mem_map.mp new
        obtain ⟨-, t, listed, named', code⟩ := of_mem_due due asked
        -- Names are distinct, so the job was made from the entry that it would record on.
        have same : t = s := List.inj_on_of_nodup_map h.names listed mem (named'.trans named.symm)
        exact same ▸ code
  | added negotiator t quiet due fresh free =>
      rw [SwitchRun.entries_setTable placed.table_lt] at clean
      constructor
      · rw [SwitchRun.entries_setTable placed.table_lt]
        exact Switch.nodup_names_concat h.names free
      · intro w waits table s mem named
        rw [SwitchRun.entries_setTable placed.table_lt] at mem
        rcases List.mem_append.mp mem with old | new
        · exact h.codes w waits table s old named
        · rw [List.mem_singleton.mp new] at named ⊢
          exact clean t (List.mem_append_right _ List.mem_cons_self) free w waits table named.symm
  | removed negotiator name =>
      constructor
      · rw [SwitchRun.entries_setTable placed.table_lt]
        exact h.names.sublist (List.filter_sublist.map _)
      · intro w waits table s mem named
        rw [SwitchRun.entries_setTable placed.table_lt] at mem
        exact h.codes w waits table s (List.mem_filter.mp mem).1 named
  | restarted =>
      constructor
      · rw [SwitchRun.entries_newTable, placed.seed_eq]
        exact names_ofConfig distinct
      · intro w waits table
        -- The new table is behind all that the waiting transmissions record in.
        exact absurd table (Nat.ne_of_lt (placed.jobs_lt w waits))

theorem work (h : Matched r) (placed : Placed seed r) : Matched (r.step .work) := by
  have configs := SwitchRun.map_config_step_work placed.table_lt
  constructor
  · rw [Switch.map_name_of_config configs]
    exact h.names
  · intro w waits table s mem named
    have listed := List.mem_map_of_mem (f := Switch.config) mem
    rw [configs] at listed
    obtain ⟨t, there, same⟩ := List.mem_map.mp listed
    have codes := h.codes w (SwitchRun.waits_of_step_work waits) table t there
      ((congrArg SwitchConfig.name same).trans named)
    rw [codes, Switch.code_eq, same, ← Switch.code_eq]

theorem step (h : Matched r) (placed : Placed seed r) (distinct : (seed.map SwitchConfig.name).Nodup)
    {x : SwitchStep} (clean : r.Clean x) : Matched (r.step x) := by
  cases x with
  | request p => exact h.request placed distinct clean
  | work => exact h.work placed

end Matched

theorem recorded_own {R D : Type} [Radio R] {seed : List SwitchConfig} {r : SwitchRun R D}
    {steps : List SwitchStep} (placed : Placed seed r)
    (recorded : Recorded r [] fun c on code => code = c.code on) (matched : Matched r)
    (distinct : (seed.map SwitchConfig.name).Nodup)
    (clean : ∀ before x, before ++ [x] <+: steps → (r.after before).Clean x) :
    (Recorded r steps fun c on code => code = c.code on) ∧ Matched (r.after steps) := by
  induction steps using List.reverseRecOn with
  | nil => exact ⟨recorded, matched⟩
  | append_singleton steps x ih =>
      obtain ⟨earlier, matched⟩ := ih fun before y start =>
        clean before y (start.trans (List.prefix_append _ _))
      have here := placed.after steps
      constructor
      · refine earlier.step here.table_lt x ?_
        intro job sends table s mem named
        obtain ⟨lease, waits⟩ := SwitchRun.waits_of_sends? sends
        exact matched.codes _ waits table s mem named
      · rw [SwitchRun.after_concat]
        exact matched.step here distinct (clean steps x List.prefix_rfl)

/-- What every run of a protocol on a radio keeps to. -/
structure RecordLaw {R D : Type} [Radio R] (seed : List SwitchConfig) (start : SwitchRun R D)
    (steps : List SwitchStep) : Prop where
  /-- A recorded state was confirmed for the name while the entry stood in the table. -/
  named : ∀ s ∈ (start.after steps).entries, ∀ on, s.state = some on →
    ∃ code, Confirmed start steps s.config on code
  /-- With distinct names, and no switch added while a transmission with another code waits under its
  name, it was confirmed by the entry's own code. -/
  own : (seed.map SwitchConfig.name).Nodup →
    (∀ before x, before ++ [x] <+: steps → (start.after before).Clean x) →
      ∀ s ∈ (start.after steps).entries, ∀ on, s.state = some on →
        Confirmed start steps s.config on (s.code on)

theorem record_law {R D : Type} [Radio R] (radio : R) (dongle : D) (hasRadio hasDongle : Bool)
    (connection : String) (seed : List SwitchConfig) (steps : List SwitchStep) :
    RecordLaw seed (SwitchRun.start radio dongle hasRadio hasDongle connection seed) steps := by
  have first := Placed.start radio dongle hasRadio hasDongle connection seed
  constructor
  -- Any code fits here, so nothing has to be known of the transmissions that wait.
  · have recorded : Recorded (SwitchRun.start radio dongle hasRadio hasDongle connection seed) steps
        fun _ _ _ => True := by
      induction steps using List.reverseRecOn with
      | nil => exact .start radio dongle hasRadio hasDongle connection seed
      | append_singleton steps x ih =>
          exact ih.step (first.after steps).table_lt x fun _ _ _ _ _ _ => trivial
    intro s mem on state
    obtain ⟨code, -, confirmed⟩ := recorded s mem on state
    exact ⟨code, confirmed⟩
  · intro distinct clean s mem on state
    have matched := Matched.start radio dongle hasRadio hasDongle connection distinct
    obtain ⟨own, -⟩ := recorded_own first (.start radio dongle hasRadio hasDongle connection seed)
      matched distinct clean
    obtain ⟨code, rfl, confirmed⟩ := own s mem on state
    exact confirmed

theorem Confirmed.exists_sends {R D : Type} [Radio R] {r : SwitchRun R D} {steps : List SwitchStep}
    {c : SwitchConfig} {on : Bool} {code : UInt32} (h : Confirmed r steps c on code) :
    ∃ before since, steps = before ++ .work :: since ∧
      (r.after before).sends?.map RadioJob.code = some code := by
  induction h with
  | sent sends =>
      rename_i steps job c table listed named
      exact ⟨steps, [], rfl, by rw [sends, Option.map_some]⟩
  | later x _ _ _ ih =>
      obtain ⟨before, since, rfl, sends⟩ := ih
      exact ⟨before, since ++ [x], by rw [List.append_assoc, List.cons_append], sends⟩

def lampRun : SwitchRun SimulatedRadio Unit :=
  .start {} () true false "c" [⟨"lamp", 1, 2⟩]

/-- A lamp is switched on, removed and taught anew with other codes before the radio sends the first code. -/
def taughtAnew : List SwitchStep :=
  [.request { Payload.request "SwitchOn" with data := some "\x7b\"switch\":\"lamp\"\x7d" },
    .request { Payload.request "RemoveSwitch" with data := some "\x7b\"switch\":\"lamp\"\x7d" },
    .request
      { Payload.request "AddSwitch" with
        data := some "\x7b\"name\":\"lamp\",\"on_code\":5,\"off_code\":6\x7d" },
    .work]

/-- The new lamp is recorded on although its own code was never sent. -/
theorem recorded_without_own_code :
    ⟨"lamp", 5, 6, some true⟩ ∈ (lampRun.after taughtAnew).entries ∧
      ¬Confirmed lampRun taughtAnew ⟨"lamp", 5, 6⟩ true 5 := by
  refine ⟨by decide +kernel, ?_⟩
  intro confirmed
  obtain ⟨before, since, same, sends⟩ := confirmed.exists_sends
  -- Only the last step is one of the worker, and it sends the code of the lamp that was removed.
  have last : before = taughtAnew.take 3 := by
    rcases before with _ | ⟨a, _ | ⟨b, _ | ⟨c, _ | ⟨d, rest⟩⟩⟩⟩ <;>
      simp [taughtAnew] at same ⊢
    exact ⟨same.1.symm, same.2.1.symm, same.2.2.1.symm⟩
  have code : (lampRun.after (taughtAnew.take 3)).sends?.map RadioJob.code = some 1 := by
    decide +kernel
  rw [last, code] at sends
  cases sends

end Switchboard
