import Mathlib.Data.List.Basic
import Switchboard.Hardware.Basic
import Switchboard.Proofs.Hardware.QueueRun

/-!
What the worker of the radio does with a job: what it transmits, what it tells the connection, what it
records in a table, and what it leaves as it was.
-/

namespace Switchboard

namespace Switch

/-- What an entry of a table is apart from its state. -/
def config (s : Switch) : SwitchConfig where
  name := s.name
  onCode := s.onCode
  offCode := s.offCode

theorem map_config_record (name : String) (on : Bool) (switches : List Switch) :
    (record name on switches).map config = switches.map config := by
  induction switches with
  | nil => rfl
  | cons s rest ih =>
      rw [record]
      split
      · rfl
      · rw [List.map_cons, List.map_cons, ih]

theorem mem_record {name : String} {on : Bool} {switches : List Switch} {s : Switch}
    (mem : s ∈ record name on switches) : s ∈ switches ∨ s.name = name ∧ s.state = some on := by
  induction switches with
  | nil => exact .inl mem
  | cons first rest ih =>
      rw [record] at mem
      split at mem
      · next same =>
          rcases List.mem_cons.mp mem with rfl | old
          · exact .inr ⟨beq_iff_eq.mp same, rfl⟩
          · exact .inl (List.mem_cons_of_mem _ old)
      · rcases List.mem_cons.mp mem with rfl | later
        · exact .inl List.mem_cons_self
        · exact (ih later).imp_left (List.mem_cons_of_mem _)

theorem map_name_of_config {switches others : List Switch}
    (same : switches.map config = others.map config) : switches.map name = others.map name := by
  have names := congrArg (List.map SwitchConfig.name) same
  rw [List.map_map, List.map_map] at names
  exact names

theorem nodup_names_concat {switches : List Switch} {s : Switch} (names : (switches.map name).Nodup)
    (free : ∀ t ∈ switches, t.name ≠ s.name) : ((switches ++ [s]).map name).Nodup := by
  rw [List.map_append, List.nodup_append]
  refine ⟨names, List.pairwise_singleton _ _, ?_⟩
  intro given listed other new
  obtain ⟨t, mem, rfl⟩ := List.mem_map.mp listed
  rw [List.map_singleton, List.mem_singleton] at new
  exact new ▸ free t mem

/-- Only the first entry of a name is recorded on. -/
theorem getElem?_record (name : String) (on : Bool) (switches : List Switch) (i : Nat) :
    (record name on switches)[i]? = switches[i]?.map fun s =>
      if s.name = name ∧ s.name ∉ (switches.take i).map Switch.name then { s with state := some on }
      else s := by
  induction switches generalizing i with
  | nil => rfl
  | cons first rest ih =>
      rw [record]
      split
      case isTrue found =>
        obtain rfl := beq_iff_eq.mp found
        cases i with
        | zero => simp
        | succ i =>
            have shadowed (s : Switch) :
                ¬(s.name = first.name ∧ s.name ∉ ((first :: rest).take (i + 1)).map Switch.name) := by
              rintro ⟨same, new⟩
              exact new (same ▸ List.mem_cons_self)
            simp only [List.getElem?_cons_succ, if_neg (shadowed _), Option.map_id']
      case isFalse apart =>
        have other : first.name ≠ name := fun same => apart (beq_iff_eq.mpr same)
        cases i with
        | zero => simp [other]
        | succ i =>
            rw [List.getElem?_cons_succ, List.getElem?_cons_succ, ih]
            refine Option.map_congr fun s _ => ?_
            refine if_congr ?_ rfl rfl
            rw [List.take_succ_cons, List.map_cons, List.mem_cons, not_or]
            refine and_congr_right fun same => ?_
            rw [same, and_iff_right (Ne.symm other)]

end Switch

def transmitAll {R : Type} [Radio R] (radio : R) : List UInt32 → List Transmission × R
  | [] => ([], radio)
  | code :: rest =>
    let (outcome, radio) := Radio.transmit radio code
    let (outcomes, radio) := transmitAll radio rest
    (outcome :: outcomes, radio)

theorem transmitAll_concat {R : Type} [Radio R] (radio : R) (codes : List UInt32) (code : UInt32) :
    transmitAll radio (codes ++ [code]) =
      ((transmitAll radio codes).1 ++ [(Radio.transmit (transmitAll radio codes).2 code).1],
        (Radio.transmit (transmitAll radio codes).2 code).2) := by
  induction codes generalizing radio with
  | nil => rfl
  | cons first rest ih => simp only [List.cons_append, transmitAll, ih]

/-- What a transmission tells: the switch and what came of it. -/
def RadioJob.verdict (job : RadioJob) : Transmission → String
  | .sent => job.switch ++ " is " ++ (if job.on then "on" else "off")
  | .failed failure => job.action ++ " failed for " ++ job.switch ++ ": " ++ failure.message
  | .crashed => ""

def RadioJob.result (job : RadioJob) (outcome : Transmission) : Payload where
  key := "RfSwitchProtocol"
  action := some job.action
  response := some (job.verdict outcome)
  commands := job.commands

namespace Hardware

section tables

variable {R D : Type} {h : Hardware R D} {n m : Nat}

theorem table_setTable_self (switches : List Switch) (bound : n < h.tables.length) :
    (h.setTable n switches).table n = switches := by
  rw [table, setTable, List.getElem?_set_self bound, Option.getD_some]

theorem table_setTable_of_ne (switches : List Switch) (apart : n ≠ m) :
    (h.setTable n switches).table m = h.table m := by
  rw [table, setTable, List.getElem?_set_ne apart, table]

end tables

variable {R D : Type} [Radio R] {h : Hardware R D}

/-- A transmission that does not crash leaves the queue as it is and puts its result, and nothing else, into
the outbox. -/
theorem runRadio_of_alive (job : RadioJob) (alive : (Radio.transmit h.radio job.code).1 ≠ .crashed) :
    (h.runRadio job).radioQueue = h.radioQueue ∧
      (h.runRadio job).outbox =
        h.outbox ++ [(job.connection, job.result (Radio.transmit h.radio job.code).1)] := by
  rw [runRadio]
  cases transmitted : Radio.transmit h.radio job.code with
  | mk outcome radio =>
      rw [transmitted] at alive
      cases outcome with
      | sent => exact ⟨rfl, rfl⟩
      | failed failure => exact ⟨rfl, rfl⟩
      | crashed => exact absurd rfl alive

theorem runRadio_radio (job : RadioJob) :
    (h.runRadio job).radio = (Radio.transmit h.radio job.code).2 := by
  rw [runRadio]
  cases Radio.transmit h.radio job.code with
  | mk outcome radio => cases outcome <;> rfl

theorem runRadio_dongleQueue (h : Hardware R D) (job : RadioJob) :
    (h.runRadio job).dongleQueue = h.dongleQueue := by
  rw [runRadio]
  cases Radio.transmit h.radio job.code with
  | mk outcome radio => cases outcome <;> rfl

theorem runRadio_tables (h : Hardware R D) (job : RadioJob) :
    (h.runRadio job).tables =
      if (Radio.transmit h.radio job.code).1 = .sent then
        (h.setTable job.table (Switch.record job.switch job.on (h.table job.table))).tables
      else h.tables := by
  rw [runRadio]
  cases Radio.transmit h.radio job.code with
  | mk outcome radio => cases outcome <;> rfl

theorem runRadio_radioQueue (h : Hardware R D) (job : RadioJob) :
    (h.runRadio job).radioQueue =
      if (Radio.transmit h.radio job.code).1 = .crashed then h.radioQueue.crash else h.radioQueue := by
  rw [runRadio]
  cases Radio.transmit h.radio job.code with
  | mk outcome radio => cases outcome <;> rfl

theorem length_tables_runRadio (h : Hardware R D) (job : RadioJob) :
    (h.runRadio job).tables.length = h.tables.length := by
  rw [runRadio_tables]
  split
  · exact List.length_set
  · rfl

theorem table_runRadio_self {job : RadioJob} (bound : job.table < h.tables.length) :
    (h.runRadio job).table job.table =
      if (Radio.transmit h.radio job.code).1 = .sent then
        Switch.record job.switch job.on (h.table job.table)
      else h.table job.table := by
  rw [table, runRadio_tables]
  split
  · exact table_setTable_self _ bound
  · rfl

theorem table_runRadio_of_ne {job : RadioJob} {n : Nat} (apart : job.table ≠ n) :
    (h.runRadio job).table n = h.table n := by
  rw [table, runRadio_tables]
  split
  · exact table_setTable_of_ne _ apart
  · rfl

theorem waits_of_runRadio {job : RadioJob} {w : Waiting RadioJob}
    (waits : w ∈ (h.runRadio job).radioQueue.waiting) : w ∈ h.radioQueue.waiting := by
  rw [runRadio] at waits
  cases transmitted : Radio.transmit h.radio job.code with
  | mk outcome radio =>
      rw [transmitted] at waits
      cases outcome with
      | sent => exact waits
      | failed failure => exact waits
      | crashed => cases waits

theorem stepRadio_of_nil (nothing : h.radioQueue.waiting = []) : h.stepRadio = h := by
  rw [stepRadio, JobQueue.take?_of_nil nothing]

/-- The hardware when the first job is taken. -/
def taking (h : Hardware R D) (rest : List (Waiting RadioJob)) : Hardware R D :=
  { h with
    radioQueue := { h.radioQueue with waiting := rest, queued := h.radioQueue.queued - 1 } }

theorem stepRadio_of_cons {entry : Waiting RadioJob} {rest : List (Waiting RadioJob)}
    (running : h.radioQueue.worker = .running) (waiting : h.radioQueue.waiting = entry :: rest) :
    h.stepRadio =
      if h.radioQueue.isCancelled entry.lease then h.taking rest
      else (h.taking rest).runRadio entry.job := by
  rw [stepRadio, JobQueue.take?_of_cons running waiting]
  cases h.radioQueue.isCancelled entry.lease <;> rfl

theorem stepRadio_of_stopped (stopped : h.radioQueue.worker ≠ .running) : h.stepRadio = h := by
  rw [stepRadio, JobQueue.take?_of_stopped stopped]

theorem settleRadio_of_stopped (stopped : h.radioQueue.worker ≠ .running) : h.settleRadio = h :=
  List.foldl_fixed' (fun _ => stepRadio_of_stopped stopped) _

theorem settleRadio_of_nil (nothing : h.radioQueue.waiting = []) : h.settleRadio = h := by
  rw [settleRadio, nothing, List.foldl_nil]

section steady

variable (steady : ∀ (radio : R) code, (Radio.transmit radio code).1 ≠ .crashed) {w : Waiting RadioJob}
  {rest : List (Waiting RadioJob)} (running : h.radioQueue.worker = .running)
  (waiting : h.radioQueue.waiting = w :: rest)
include steady running waiting

theorem stepRadio_running :
    h.stepRadio.radioQueue.worker = .running ∧ h.stepRadio.radioQueue.waiting = rest := by
  rw [stepRadio_of_cons running waiting]
  split
  case isTrue => exact ⟨running, rfl⟩
  case isFalse =>
    rw [(runRadio_of_alive w.job (steady _ _)).1]
    exact ⟨running, rfl⟩

theorem settleRadio_of_cons : h.settleRadio = h.stepRadio.settleRadio := by
  rw [settleRadio, settleRadio, (stepRadio_running steady running waiting).2, waiting, List.foldl_cons]

end steady

theorem settleRadio_settleRadio (steady : ∀ (radio : R) code, (Radio.transmit radio code).1 ≠ .crashed)
    (h : Hardware R D) : h.settleRadio.settleRadio = h.settleRadio := by
  by_cases running : h.radioQueue.worker = .running
  · generalize waiting : h.radioQueue.waiting = all
    induction all generalizing h with
    | nil => rw [settleRadio_of_nil waiting, settleRadio_of_nil waiting]
    | cons w rest ih =>
        obtain ⟨running', waiting'⟩ := stepRadio_running steady running waiting
        rw [settleRadio_of_cons steady running waiting]
        exact ih h.stepRadio running' waiting'
  · rw [settleRadio_of_stopped running, settleRadio_of_stopped running]

end Hardware

end Switchboard
