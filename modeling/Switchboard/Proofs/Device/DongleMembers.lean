import Mathlib.Data.List.Nodup
import Switchboard.Proofs.Device.DongleRun

/-!
The members of a run of the dongle. Each keeps what it joined with, and its cache and its lease are its own.
-/

namespace Switchboard

/-- The connection and the configuration of an instance that joins. -/
def DongleStep.joins : DongleStep → List (String × ZigBeeConfig)
  | .join connection config => [(connection, config)]
  | _ => []

/-- What an instance is started with that joins. -/
def setupOf (joined : String × ZigBeeConfig) : String × UInt8 × List NetworkDevice :=
  (joined.1, joined.2.channel, joined.2.devices.map NetworkDevice.ofEntry)

namespace DongleRun

variable {R D : Type} [Dongle D] (view : EventView D)

/-- A run that has not begun. -/
def attached (radio : R) (dongle : D) (hasRadio hasDongle : Bool) : DongleRun R D where
  hardware := .attach radio dongle hasRadio hasDongle

def play (r : DongleRun R D) (steps : List DongleStep) : DongleRun R D :=
  steps.foldl (step view) r

/-- The members that join in a step. -/
def newcomers (r : DongleRun R D) : DongleStep → List ZigBee
  | .join connection config => [(ZigBee.start config connection r.hardware).1]
  | _ => []

variable {view} {r : DongleRun R D}

/-- What no request changes of a member stays, and the members that join come behind. -/
theorem map_members_step {A : Type} (f : ZigBee → A)
    (kept : ∀ (z : ZigBee) p (h : Hardware R D), f (z.process p h).2.1 = f z) (r : DongleRun R D)
    (s : DongleStep) : (r.step view s).members.map f = r.members.map f ++ (r.newcomers s).map f := by
  cases s with
  | join connection config => exact List.map_append
  | request n p =>
      refine Eq.trans ?_ (List.append_nil _).symm
      cases found : r.members[n]? with
      | none => rw [step, found]
      | some member =>
          rw [step_request p found]
          exact map_set_same found (kept member p r.hardware)
  | close n =>
      refine Eq.trans ?_ (List.append_nil _).symm
      cases found : r.members[n]? with
      | none => rw [step, found]
      | some member => rw [step_close found]
  | work => exact (List.append_nil _).symm
  | raise events => exact (List.append_nil _).symm

theorem setups_step (r : DongleRun R D) (s : DongleStep) :
    (r.step view s).members.map ZigBee.setup =
      r.members.map ZigBee.setup ++ s.joins.map setupOf := by
  have kept (z : ZigBee) (p : Payload) (h : Hardware R D) : (z.process p h).2.1.setup = z.setup :=
    (zigBeeTurn_process z p h).setup_eq
  rw [map_members_step ZigBee.setup kept]
  cases s <;> rfl

/-- Each member keeps what it joined with. -/
theorem setups_play (view : EventView D) (r : DongleRun R D) (steps : List DongleStep) :
    (r.play view steps).members.map ZigBee.setup =
      r.members.map ZigBee.setup ++ (steps.flatMap DongleStep.joins).map setupOf := by
  induction steps generalizing r with
  | nil => exact (List.append_nil _).symm
  | cons s rest ih =>
      rw [List.flatMap_cons, List.map_append, ← List.append_assoc, ← r.setups_step, ← ih]
      rfl

end DongleRun

/-- Each member has a cache and a lease of its own, and every job that waits is for the cache of the member
whose lease it has. -/
structure Housed {R D : Type} (r : DongleRun R D) : Prop where
  caches : (r.members.map ZigBee.cache).Nodup
  caches_lt : ∀ cache ∈ r.members.map ZigBee.cache, cache < r.hardware.caches.length
  leases : (r.members.map ZigBee.lease).Nodup
  leases_lt : ∀ lease ∈ r.members.map ZigBee.lease, lease < r.hardware.dongleQueue.nextLease
  jobs : ∀ w ∈ r.hardware.dongleQueue.waiting, (w.lease, w.job.cache) ∈ r.members.map ZigBee.place

namespace Housed

variable {R D : Type} [Dongle D] {view : EventView D} {r : DongleRun R D}

omit [Dongle D] in
theorem attached (radio : R) (dongle : D) (hasRadio hasDongle : Bool) :
    Housed (DongleRun.attached radio dongle hasRadio hasDongle) := by
  refine ⟨List.nodup_nil, nofun, List.nodup_nil, nofun, ?_⟩
  intro w waits
  cases hasDongle <;> cases waits

omit [Dongle D] in
/-- A step that keeps the places of the members. -/
theorem kept (h : Housed r) {hardware : Hardware R D} {members : List ZigBee} {log : List DongleEvent}
    (places : members.map ZigBee.place = r.members.map ZigBee.place)
    (length : hardware.caches.length = r.hardware.caches.length)
    (nextLease : hardware.dongleQueue.nextLease = r.hardware.dongleQueue.nextLease)
    (jobs : ∀ w ∈ hardware.dongleQueue.waiting, (w.lease, w.job.cache) ∈ r.members.map ZigBee.place) :
    Housed { hardware, members, log } := by
  have caches : members.map ZigBee.cache = r.members.map ZigBee.cache := by
    have seconds := congrArg (List.map Prod.snd) places
    rw [List.map_map, List.map_map] at seconds
    exact seconds
  have leases : members.map ZigBee.lease = r.members.map ZigBee.lease := by
    have firsts := congrArg (List.map Prod.fst) places
    rw [List.map_map, List.map_map] at firsts
    exact firsts
  refine ⟨caches ▸ h.caches, ?_, leases ▸ h.leases, ?_, ?_⟩
  · rw [caches, length]
    exact h.caches_lt
  · rw [leases, nextLease]
    exact h.leases_lt
  · rw [places]
    exact jobs

omit [Dongle D] in
/-- The jobs of a member are those for its cache. -/
theorem lease_eq_iff (h : Housed r) {n : Nat} {member : ZigBee} (found : r.members[n]? = some member)
    {w : Waiting DongleJob} (waits : w ∈ r.hardware.dongleQueue.waiting) :
    w.lease = member.lease ↔ w.job.cache = member.cache := by
  obtain ⟨other, mem, place⟩ := List.mem_map.mp (h.jobs w waits)
  obtain ⟨lease, cache⟩ := Prod.mk.inj place
  obtain ⟨m, there⟩ := List.getElem?_of_mem mem
  by_cases same : m = n
  · subst same
    obtain rfl := Option.some.inj (there.symm.trans found)
    exact iff_of_true lease.symm cache.symm
  · refine iff_of_false ?_ ?_
    · rw [← lease]
      exact apart_of_nodup_map h.leases found there same
    · rw [← cache]
      exact apart_of_nodup_map h.caches found there same

theorem join (h : Housed r) (connection : String) (config : ZigBeeConfig) :
    Housed (r.step view (.join connection config)) := by
  have caches : (r.step view (.join connection config)).members.map ZigBee.cache =
      r.members.map ZigBee.cache ++ [r.hardware.caches.length] := List.map_append
  have leases : (r.step view (.join connection config)).members.map ZigBee.lease =
      r.members.map ZigBee.lease ++ [r.hardware.dongleQueue.nextLease] := List.map_append
  have length : (r.step view (.join connection config)).hardware.caches.length =
      r.hardware.caches.length + 1 := List.length_append
  refine ⟨?_, ?_, ?_, ?_, ?_⟩
  · rw [caches]
    exact nodup_concat_of_lt h.caches h.caches_lt
  · intro cache mem
    rw [caches, List.mem_append, List.mem_singleton] at mem
    rw [length]
    rcases mem with old | rfl
    · exact Nat.lt_succ_of_lt (h.caches_lt cache old)
    · exact Nat.lt_succ_self _
  · rw [leases]
    exact nodup_concat_of_lt h.leases h.leases_lt
  · intro lease mem
    rw [leases, List.mem_append, List.mem_singleton] at mem
    rcases mem with old | rfl
    · exact Nat.lt_succ_of_lt (h.leases_lt lease old)
    · exact Nat.lt_succ_self _
  · intro w waits
    rw [DongleRun.step, List.map_append]
    exact List.mem_append_left _ (h.jobs w waits)

theorem step (h : Housed r) (s : DongleStep) : Housed (r.step view s) := by
  cases s with
  | join connection config => exact h.join connection config
  | request n p =>
      cases found : r.members[n]? with
      | none =>
          rw [DongleRun.step, found]
          exact h
      | some member =>
          have turn := zigBeeTurn_process member p r.hardware
          have nextLease : (member.process p r.hardware).2.2.dongleQueue.nextLease =
              r.hardware.dongleQueue.nextLease := by
            obtain ⟨_, _, _, queue⟩ := turn.dongleQueue_eq
            rw [queue]
          rw [DongleRun.step_request p found]
          refine h.kept (map_set_same found turn.place_eq) turn.length_caches_eq nextLease ?_
          intro w waits
          rcases turn.waits_or_own waits with old | own
          · exact h.jobs w old
          · rw [own]
            exact List.mem_map_of_mem (List.mem_of_getElem? found)
  | close n =>
      cases found : r.members[n]? with
      | none =>
          rw [DongleRun.step, found]
          exact h
      | some member =>
          rw [DongleRun.step_close found]
          refine h.kept rfl rfl (JobQueue.cancel_nextLease _ _) ?_
          rw [ZigBee.close, JobQueue.cancel_waiting]
          exact h.jobs
  | work =>
      have worked := DongleRun.worked view r.hardware
      rw [DongleRun.step]
      generalize DongleRun.nextTake view r.hardware = e, r.hardware.stepDongle = next at worked
      cases worked with
      | idle => exact h.kept rfl rfl rfl h.jobs
      | skipped _ waiting _ =>
          refine h.kept rfl rfl rfl ?_
          intro w waits
          exact h.jobs w (waiting ▸ List.mem_cons_of_mem _ waits)
      | @ran entry rest _ waiting _ =>
          rw [Hardware.runDongle_eq]
          refine h.kept rfl (Hardware.length_cachesAfter _ _) rfl ?_
          intro w waits
          exact h.jobs w (waiting ▸ List.mem_cons_of_mem _ waits)
  | raise events => exact h.kept rfl rfl rfl h.jobs

theorem play (h : Housed r) (steps : List DongleStep) : Housed (r.play view steps) := by
  induction steps generalizing r with
  | nil => exact h
  | cons s rest ih => exact ih (h.step s)

end Housed

end Switchboard
