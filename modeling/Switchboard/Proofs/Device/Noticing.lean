import Switchboard.Proofs.Device.DongleMembers
import Switchboard.Proofs.Device.ZigBeeAlike
import Switchboard.Proofs.Replay

/-!
What an instance of the dongle's protocol notices: that it is asked, that it closes, and what its own jobs
find on the network. An instance that has hardware to itself and is told the same gives the same replies.
-/

namespace Switchboard

/-- What an instance notices. -/
inductive Noticed
  | asked (p : Payload)
  /-- A job of its own has found these devices on the network. -/
  | found (devices : List NetworkDevice)
  | closed

/-- An instance that has hardware to itself and is told what its jobs find. -/
structure LoneZigBee where
  protocol : ZigBee
  hardware : Hardware Unit Unit

namespace LoneZigBee

def start (config : ZigBeeConfig) (connection : String) (hasDongle : Bool) : LoneZigBee :=
  let (protocol, hardware) := ZigBee.start config connection (.attach () () false hasDongle)
  { protocol, hardware }

def devices (x : LoneZigBee) : List NetworkDevice :=
  x.protocol.devices x.hardware

def notice (x : LoneZigBee) : Noticed → LoneZigBee
  | .asked p =>
    let (_, protocol, hardware) := x.protocol.process p x.hardware
    { protocol, hardware }
  | .found devices => { x with hardware := x.hardware.setCache x.protocol.cache devices }
  | .closed => { x with hardware := x.protocol.close x.hardware }

def reply? (x : LoneZigBee) : Noticed → Option Payload
  | .asked p => some (x.protocol.process p x.hardware).1
  | _ => none

/-- An instance as a machine that is fed what it notices. -/
def machine : Machine LoneZigBee Noticed where
  step := notice
  reply? := reply?

end LoneZigBee

/-- The devices that a command would find on the network, if it finds any out. -/
def Hardware.lookup {D : Type} [Dongle D] (dongle : D) (command : DongleCommand) :
    Option (List NetworkDevice) :=
  (Dongle.devices (perform dongle command).2).1.toOption

theorem Hardware.cachesAfter_eq {R D : Type} [Dongle D] (h : Hardware R D) (job : DongleJob) :
    h.cachesAfter job =
      ((lookup h.dongle job.command).map (h.caches.set job.cache)).getD h.caches := by
  rw [cachesAfter, lookup]
  cases (Dongle.devices (perform h.dongle job.command).2).1 <;> rfl

namespace DongleRun

variable {R D : Type} [Dongle D] (view : EventView D)

/-- The reply of a member in a step. -/
def reply? (r : DongleRun R D) (n : Nat) : DongleStep → Option Payload
  | .request m p =>
    if m = n then r.members[n]?.map fun member => (member.process p r.hardware).1 else none
  | _ => none

/-- A run as a machine that gives the replies of a member. -/
def machine (n : Nat) : Machine (DongleRun R D) DongleStep where
  step := step view
  reply? r s := r.reply? n s

def owns (r : DongleRun R D) (n : Nat) (entry : Waiting DongleJob) : Bool :=
  r.members[n]?.any fun member => member.lease == entry.lease

/-- What a member notices of a step. -/
def notices (r : DongleRun R D) (n : Nat) : DongleStep → Option Noticed
  | .request m p => if m = n then some (.asked p) else none
  | .close m => if m = n then some .closed else none
  | .work =>
    match nextTake view r.hardware with
    | .ran visit =>
      if r.owns n visit.entry then
        (Hardware.lookup r.hardware.dongle visit.entry.job.command).map .found
      else none
    | _ => none
  | _ => none

def noticed (n : Nat) (r : DongleRun R D) (steps : List DongleStep) : List Noticed :=
  (machine view n).noticed (notices view · n) r steps

end DongleRun

/-- A run, and an instance that was started alone and sees what a member sees. -/
def Resumed {R D : Type} (n : Nat) (r : DongleRun R D) (x : LoneZigBee) : Prop :=
  Housed r ∧ ∃ member, r.members[n]? = some member ∧
    ZigBee.Alike member r.hardware x.protocol x.hardware

namespace Resumed

variable {R D : Type} [Dongle D] {view : EventView D} {n : Nat} {member : ZigBee} {r : DongleRun R D}
  {x : LoneZigBee}

omit [Dongle D] in
theorem bound (found : r.members[n]? = some member) : n < r.members.length :=
  (List.getElem?_eq_some_iff.mp found).1

variable (view) in
theorem asked (found : r.members[n]? = some member)
    (a : ZigBee.Alike member r.hardware x.protocol x.hardware) (p : Payload) :
    r.reply? n (.request n p) = x.reply? (.asked p) ∧
      ∃ next, (r.step view (.request n p)).members[n]? = some next ∧
        ZigBee.Alike next (r.step view (.request n p)).hardware (x.notice (.asked p)).protocol
          (x.notice (.asked p)).hardware := by
  obtain ⟨reply, alike⟩ := a.process p
  rw [DongleRun.step_request p found, DongleRun.reply?, if_pos rfl, found, Option.map_some, reply]
  exact ⟨rfl, _, List.getElem?_set_self (bound found), alike⟩

variable (view) in
/-- What another member asks for does not touch the cache. -/
theorem asked_other (d : Housed r) (found : r.members[n]? = some member)
    (a : ZigBee.Alike member r.hardware x.protocol x.hardware) {m : Nat} (apart : m ≠ n) (p : Payload) :
    (r.step view (.request m p)).members[n]? = some member ∧
      ZigBee.Alike member (r.step view (.request m p)).hardware x.protocol x.hardware := by
  cases there : r.members[m]? with
  | none =>
      rw [DongleRun.step, there]
      exact ⟨found, a⟩
  | some other =>
      have turn := zigBeeTurn_process other p r.hardware
      obtain ⟨ready, devices⟩ :=
        ZigBee.unseen_of_turn (z := member) turn (apart_of_nodup_map d.caches found there apart)
      rw [DongleRun.step_request p there]
      exact ⟨(List.getElem?_set_ne apart).trans found,
        a.unseen ready devices (Nat.le_of_eq turn.length_caches_eq.symm)⟩

variable (view) in
theorem closed (found : r.members[n]? = some member)
    (a : ZigBee.Alike member r.hardware x.protocol x.hardware) :
    (r.step view (.close n)).members[n]? = some member ∧
      ZigBee.Alike member (r.step view (.close n)).hardware (x.notice .closed).protocol
        (x.notice .closed).hardware := by
  rw [DongleRun.step_close found]
  exact ⟨found, a.close⟩

variable (view) in
theorem closed_other (d : Housed r) (found : r.members[n]? = some member)
    (a : ZigBee.Alike member r.hardware x.protocol x.hardware) {m : Nat} (apart : m ≠ n) :
    (r.step view (.close m)).members[n]? = some member ∧
      ZigBee.Alike member (r.step view (.close m)).hardware x.protocol x.hardware := by
  cases there : r.members[m]? with
  | none =>
      rw [DongleRun.step, there]
      exact ⟨found, a⟩
  | some other =>
      have leases : (other.lease == member.lease) = false :=
        beq_eq_false_iff_ne.mpr (apart_of_nodup_map d.leases found there apart)
      rw [DongleRun.step_close there]
      refine ⟨found, a.unseen ?_ rfl (Nat.le_refl _)⟩
      rw [ZigBee.ready, JobQueue.leaseAvailable, ZigBee.close, JobQueue.isCancelled_cancel, leases,
        Bool.or_false, JobQueue.isAvailable, JobQueue.cancel_worker]
      rfl

/-- A job that ran writes what it found on the network into its cache, which is the one of its member. -/
theorem ran (d : Housed r) (found : r.members[n]? = some member)
    (a : ZigBee.Alike member r.hardware x.protocol x.hardware) {entry : Waiting DongleJob}
    {rest : List (Waiting DongleJob)} (waiting : r.hardware.dongleQueue.waiting = entry :: rest) :
    let y := LoneZigBee.machine.after x
      (if r.owns n entry then
        (Hardware.lookup r.hardware.dongle entry.job.command).map Noticed.found
      else none).toList
    ZigBee.Alike member ((r.hardware.takingDongle rest).runDongle entry.job) y.protocol y.hardware := by
  have waits : entry ∈ r.hardware.dongleQueue.waiting := waiting ▸ List.mem_cons_self
  have owns : r.owns n entry = true ↔ entry.job.cache = member.cache := by
    rw [DongleRun.owns, found, Option.any_some, beq_iff_eq, eq_comm, d.lease_eq_iff found waits]
  have caches : ((r.hardware.takingDongle rest).runDongle entry.job).caches =
      ((Hardware.lookup r.hardware.dongle entry.job.command).map
        (r.hardware.caches.set entry.job.cache)).getD r.hardware.caches := by
    rw [Hardware.runDongle_eq]
    exact Hardware.cachesAfter_eq _ _
  have ready : member.ready ((r.hardware.takingDongle rest).runDongle entry.job) =
      member.ready r.hardware := by
    rw [Hardware.runDongle_eq]
    rfl
  generalize (r.hardware.takingDongle rest).runDongle entry.job = next at caches ready ⊢
  cases seen : Hardware.lookup r.hardware.dongle entry.job.command with
  | none =>
      rw [seen] at caches
      rw [Option.map_none, ite_self]
      exact a.unseen ready (ZigBee.devices_of_caches caches)
        (Nat.le_of_eq (congrArg List.length caches).symm)
  | some devices =>
      rw [seen] at caches
      have written : next.caches = (r.hardware.setCache entry.job.cache devices).caches := caches
      have length : r.hardware.caches.length ≤ next.caches.length := by
        rw [written]
        exact Nat.le_of_eq List.length_set.symm
      -- By lease the job is the member's, by cache it writes to the member's: the two come to the same.
      by_cases mine : entry.job.cache = member.cache
      · rw [if_pos (owns.mpr mine)]
        rw [mine] at written
        exact (a.setCache devices).unseen ready (ZigBee.devices_of_caches written)
          (Nat.le_trans (Nat.le_of_eq List.length_set) length)
      · rw [if_neg fun own => mine (owns.mp own)]
        refine a.unseen ready ?_ length
        exact (ZigBee.devices_of_caches written).trans (ZigBee.devices_setCache_of_ne mine devices)

theorem worked (d : Housed r) (found : r.members[n]? = some member)
    (a : ZigBee.Alike member r.hardware x.protocol x.hardware) :
    let y := LoneZigBee.machine.after x (r.notices view n .work).toList
    ZigBee.Alike member (r.step view .work).hardware y.protocol y.hardware := by
  have worked := DongleRun.worked view r.hardware
  rw [DongleRun.step, DongleRun.notices]
  generalize DongleRun.nextTake view r.hardware = e, r.hardware.stepDongle = next at worked
  cases worked with
  | idle => exact a
  | skipped => exact a.unseen rfl rfl (Nat.le_refl _)
  | ran _ waiting _ => exact ran d found a waiting

/-- The worker does not make an instance reply. -/
theorem replies_work (r : DongleRun R D) (n : Nat) (x : LoneZigBee) :
    LoneZigBee.machine.replies x (r.notices view n .work).toList = [] := by
  rw [DongleRun.notices]
  split
  · split
    · next visit _ _ =>
        cases Hardware.lookup r.hardware.dongle visit.entry.job.command <;> rfl
    · rfl
  · rfl

variable (view) in
theorem matched (r : DongleRun R D) (x : LoneZigBee) (s : DongleStep) (resumed : Resumed n r x) :
    (DongleRun.machine view n).Matched LoneZigBee.machine (DongleRun.notices view · n) (Resumed n) r x s := by
  obtain ⟨d, member, found, a⟩ := resumed
  have housed : Housed ((DongleRun.machine view n).step r s) := d.step s
  cases s with
  | join connection config =>
      have length : (r.hardware.caches ++ [config.devices.map NetworkDevice.ofEntry]).length =
          r.hardware.caches.length + 1 := List.length_append
      refine ⟨rfl, housed, member, (List.getElem?_append_left (bound found)).trans found, ?_⟩
      refine a.unseen rfl ?_ (Nat.le_of_lt (Nat.lt_of_lt_of_eq (Nat.lt_succ_self _) length.symm))
      exact congrArg (Option.getD · []) (List.getElem?_append_left a.bound)
  | request m p =>
      by_cases same : m = n
      · subst same
        obtain ⟨reply, next, there, alike⟩ := asked view found a p
        exact .noticed (if_pos rfl) reply ⟨housed, next, there, alike⟩
      · obtain ⟨there, alike⟩ := asked_other view d found a same p
        exact .unnoticed (if_neg same) (if_neg same) ⟨housed, member, there, alike⟩
  | close m =>
      by_cases same : m = n
      · subst same
        obtain ⟨there, alike⟩ := closed view found a
        exact .noticed (if_pos rfl) rfl ⟨housed, member, there, alike⟩
      · obtain ⟨there, alike⟩ := closed_other view d found a same
        exact .unnoticed (if_neg same) rfl ⟨housed, member, there, alike⟩
  | work => exact ⟨(replies_work r n x).symm, housed, member, found, worked d found a⟩
  | raise events => exact ⟨rfl, housed, member, found, a.unseen rfl rfl (Nat.le_refl _)⟩

end Resumed

end Switchboard
