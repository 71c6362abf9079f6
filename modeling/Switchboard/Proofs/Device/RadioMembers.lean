import Mathlib.Data.List.Nodup
import Switchboard.Proofs.Device.RadioRun

/-!
The members of a run of the radio. Each keeps what it joined with, and its table and its lease are its own.
-/

namespace Switchboard

/-- The connection and the first switches of an instance that joins. -/
def RadioStep.joins : RadioStep → List (String × List SwitchConfig)
  | .join connection seed => [(connection, seed)]
  | _ => []

/-- What an instance was started with. -/
def RfSwitch.setup (r : RfSwitch) : String × List SwitchConfig :=
  (r.connection, r.seed)

namespace RadioRun

variable {R D : Type} [Radio R]

/-- A run that has not begun. -/
def attached (radio : R) (dongle : D) (hasRadio hasDongle : Bool) : RadioRun R D where
  hardware := .attach radio dongle hasRadio hasDongle

def play (r : RadioRun R D) (steps : List RadioStep) : RadioRun R D :=
  steps.foldl step r

theorem setups_step (r : RadioRun R D) (s : RadioStep) :
    (r.step s).members.map RfSwitch.setup = r.members.map RfSwitch.setup ++ s.joins := by
  cases s with
  | join connection seed => exact List.map_append
  | request n p =>
      refine Eq.trans ?_ (List.append_nil _).symm
      cases found : r.members[n]? with
      | none => rw [step, found]
      | some member =>
          have turn := rfTurn_process member r.hardware p
          rw [step_request p found]
          exact map_set_same found (congrArg₂ Prod.mk turn.connection_eq turn.seed_eq)
  | close n =>
      refine Eq.trans ?_ (List.append_nil _).symm
      cases found : r.members[n]? with
      | none => rw [step, found]
      | some member => rw [step_close found]
  | work => exact (List.append_nil _).symm

/-- Each member keeps what it joined with. -/
theorem setups_play (r : RadioRun R D) (steps : List RadioStep) :
    (r.play steps).members.map RfSwitch.setup =
      r.members.map RfSwitch.setup ++ steps.flatMap RadioStep.joins := by
  induction steps generalizing r with
  | nil => exact (List.append_nil _).symm
  | cons s rest ih =>
      rw [List.flatMap_cons, ← List.append_assoc, ← r.setups_step, ← ih]
      rfl

end RadioRun

/-- The tables and leases in use are all different, and nothing is written to a table that is yet to come. -/
structure Distinct {R D : Type} (r : RadioRun R D) : Prop where
  tables : (r.members.map RfSwitch.table).Nodup
  tables_lt : ∀ table ∈ r.members.map RfSwitch.table, table < r.hardware.tables.length
  leases : (r.members.map RfSwitch.lease).Nodup
  leases_lt : ∀ lease ∈ r.members.map RfSwitch.lease, lease < r.hardware.radioQueue.nextLease
  jobs_lt : ∀ w ∈ r.hardware.radioQueue.waiting, w.job.table < r.hardware.tables.length

namespace Distinct

variable {R D : Type} [Radio R] {r : RadioRun R D}

omit [Radio R] in
theorem member_table_lt (h : Distinct r) {n : Nat} {member : RfSwitch} (found : r.members[n]? = some member) :
    member.table < r.hardware.tables.length :=
  h.tables_lt _ (List.mem_map_of_mem (List.mem_of_getElem? found))

omit [Radio R] in
theorem attached (radio : R) (dongle : D) (hasRadio hasDongle : Bool) :
    Distinct (RadioRun.attached radio dongle hasRadio hasDongle) := by
  refine ⟨List.nodup_nil, nofun, List.nodup_nil, nofun, ?_⟩
  intro w waits
  cases hasRadio <;> cases waits

theorem join (h : Distinct r) (connection : String) (seed : List SwitchConfig) :
    Distinct (r.step (.join connection seed)) := by
  have tables : (r.step (.join connection seed)).members.map RfSwitch.table =
      r.members.map RfSwitch.table ++ [r.hardware.tables.length] := List.map_append
  have leases : (r.step (.join connection seed)).members.map RfSwitch.lease =
      r.members.map RfSwitch.lease ++ [r.hardware.radioQueue.nextLease] := List.map_append
  have length : (r.step (.join connection seed)).hardware.tables.length =
      r.hardware.tables.length + 1 := List.length_append
  refine ⟨?_, ?_, ?_, ?_, ?_⟩
  · rw [tables]
    exact nodup_concat_of_lt h.tables h.tables_lt
  · intro table mem
    rw [tables, List.mem_append, List.mem_singleton] at mem
    rw [length]
    rcases mem with old | rfl
    · exact Nat.lt_succ_of_lt (h.tables_lt table old)
    · exact Nat.lt_succ_self _
  · rw [leases]
    exact nodup_concat_of_lt h.leases h.leases_lt
  · intro lease mem
    rw [leases, List.mem_append, List.mem_singleton] at mem
    rcases mem with old | rfl
    · exact Nat.lt_succ_of_lt (h.leases_lt lease old)
    · exact Nat.lt_succ_self _
  · intro w waits
    rw [length]
    exact Nat.lt_succ_of_lt (h.jobs_lt w waits)

theorem request (h : Distinct r) (n : Nat) (p : Payload) : Distinct (r.step (.request n p)) := by
  cases found : r.members[n]? with
  | none =>
      rw [RadioRun.step, found]
      exact h
  | some member =>
      have turn := rfTurn_process member r.hardware p
      have bound := h.member_table_lt found
      have leases : (r.members.set n (member.process p r.hardware).2.1).map RfSwitch.lease =
          r.members.map RfSwitch.lease := map_set_same found turn.lease_eq
      rw [RadioRun.step_request p found]
      refine ⟨?_, ?_, leases ▸ h.leases, ?_, ?_⟩
      · rcases turn.table_eq_or with kept | new
        · rw [map_set_same found kept]
          exact h.tables
        · rw [List.map_set, new]
          exact h.tables.set fun old => Nat.lt_irrefl _ (h.tables_lt _ old)
      · intro table mem
        rw [List.map_set] at mem
        rcases List.mem_or_eq_of_mem_set mem with old | rfl
        · exact Nat.lt_of_lt_of_le (h.tables_lt table old) turn.length_tables_le
        · exact turn.table_lt bound
      · intro lease mem
        rw [leases] at mem
        rw [turn.radioQueue_eq]
        exact h.leases_lt lease mem
      · intro w waits
        refine Nat.lt_of_lt_of_le ?_ turn.length_tables_le
        rcases turn.waits_or_due waits with old | ⟨jobs, due, mem⟩
        · exact h.jobs_lt w old
        · exact (of_mem_due due mem).1 ▸ bound

theorem close (h : Distinct r) (n : Nat) : Distinct (r.step (.close n)) := by
  cases found : r.members[n]? with
  | none =>
      rw [RadioRun.step, found]
      exact h
  | some member =>
      rw [RadioRun.step_close found]
      refine ⟨h.tables, h.tables_lt, h.leases, ?_, ?_⟩
      · intro lease mem
        rw [RfSwitch.close, JobQueue.cancel_nextLease]
        exact h.leases_lt lease mem
      · intro w waits
        rw [RfSwitch.close, JobQueue.cancel_waiting] at waits
        exact h.jobs_lt w waits

theorem work (h : Distinct r) : Distinct (r.step .work) := by
  have worked := RadioRun.worked r.hardware
  rw [RadioRun.step]
  generalize RadioRun.nextTake r.hardware = e, r.hardware.stepRadio = next at worked
  cases worked with
  | idle => exact ⟨h.tables, h.tables_lt, h.leases, h.leases_lt, h.jobs_lt⟩
  | skipped _ waiting _ =>
      refine ⟨h.tables, h.tables_lt, h.leases, h.leases_lt, ?_⟩
      intro w waits
      exact h.jobs_lt w (waiting ▸ List.mem_cons_of_mem _ waits)
  | @ran entry rest _ waiting _ =>
      have length := Hardware.length_tables_runRadio (r.hardware.taking rest) entry.job
      refine ⟨h.tables, ?_, h.leases, ?_, ?_⟩
      · intro table mem
        exact Nat.lt_of_lt_of_eq (h.tables_lt table mem) length.symm
      · intro lease mem
        rw [Hardware.runRadio_radioQueue]
        split
        · exact h.leases_lt lease mem
        · exact h.leases_lt lease mem
      · intro w waits
        have later : w ∈ rest := Hardware.waits_of_runRadio waits
        exact Nat.lt_of_lt_of_eq (h.jobs_lt w (waiting ▸ List.mem_cons_of_mem _ later)) length.symm

theorem step (h : Distinct r) (s : RadioStep) : Distinct (r.step s) := by
  cases s with
  | join connection seed => exact h.join connection seed
  | request n p => exact h.request n p
  | close n => exact h.close n
  | work => exact h.work

theorem play (h : Distinct r) (steps : List RadioStep) : Distinct (r.play steps) := by
  induction steps generalizing r with
  | nil => exact h
  | cons s rest ih => exact ih (h.step s)

end Distinct

end Switchboard
