import Switchboard.Device.KnockKnock
import Switchboard.Proofs.Device.Renewal

/-!
Instances that start over. After a reset an instance on shared hardware answers as one does that has just
been started on hardware of its own and hears of its own transmissions only, when and how each of them ends.
Transmissions that waited at the reset keep to the table that was in use before.
-/

namespace Switchboard

namespace Renewed

variable {R D : Type} [Radio R] {n older : Nat} {member : RfSwitch} {r : RadioRun R D} {x : Lone}

/-- A reset starts a member over. -/
theorem start (d : Distinct r) (found : r.members[n]? = some member)
    (live : r.hardware.radioQueue.isCancelled member.lease = false) {p : Payload}
    (reset : p.effectiveAction = Action.reset) :
    Renewed n (r.step (.request n p)).hardware.radioQueue.waiting.length
      { member with table := r.hardware.tables.length, negotiator := {} } (r.step (.request n p))
      (Lone.start member.seed member.connection r.hardware.radioQueue.isAvailable) := by
  have resets : member.process p r.hardware = member.reset r.hardware := by
    simp only [RfSwitch.process, reset, Action.reset]
  rw [RadioRun.step_request p found, resets]
  refine ⟨?_, rfl, rfl, rfl, ?_, ?_, ?_, Nat.zero_lt_one, ?_, ?_⟩
  · exact List.getElem?_set_self (List.getElem?_eq_some_iff.mp found).1
  · rw [Lone.running_start, JobQueue.isAvailable, beq_iff_eq]
    rfl
  · rw [Lone.isCancelled_start]
    exact live
  · simp only [RfSwitch.reset, Hardware.newTable, RfSwitch.switches, Hardware.table,
      List.getElem?_concat_length]
    rfl
  · rw [Lone.waiting_start]
    exact List.forall_mem_nil _
  · intro _
    -- The new table has a number that no waiting job can have.
    rw [Lone.waiting_start]
    exact .begin _ fun w waits => Nat.ne_of_lt (d.jobs_lt w waits)

theorem undisturbed (d : Distinct r) (h : Renewed n older member r x) (old : 0 < older) :
    member.switches (r.step .work).hardware = member.switches r.hardware := by
  have silent : (Lone.machine.after x (Renewal.hears n ⟨r, older⟩ .work).toList).switches = x.switches := by
    refine x.switches_heard ?_ _
    intro entry
    rw [beq_eq_false_iff_ne.mpr (Nat.ne_of_gt old), Bool.false_and]
  rw [(h.worked d).switches, silent, h.switches]

end Renewed

/-- What it comes to for a member that it begins anew. -/
structure Restarted {R D : Type} [Radio R] (n : Nat) (v : Renewal R D) (fresh : Lone) : Prop where
  /-- Its replies are those of an instance that was just started and hears the same. -/
  replies : ∀ later, v.replies n later = Lone.machine.replies fresh (v.heard n later)
  /-- Its switches are as well. -/
  switches : ∀ later member, (v.after n later).run.members[n]? = some member →
    member.switches (v.after n later).run.hardware =
      (Lone.machine.after fresh (v.heard n later)).switches
  /-- A job from before changes no switch, whenever the worker comes to it. -/
  undisturbed : ∀ later member, (v.after n later).run.members[n]? = some member →
    0 < (v.after n later).older →
      member.switches ((v.after n later).run.step .work).hardware =
        member.switches (v.after n later).run.hardware
  /-- No arguments are waited for. -/
  pending : ∀ member, v.run.members[n]? = some member → member.negotiator.pending = none

theorem Renewed.restarted {R D : Type} [Radio R] {n : Nat} {member : RfSwitch} {v : Renewal R D} {x : Lone}
    (d : Distinct v.run) (h : Renewed n v.older member v.run x)
    (pending : member.negotiator.pending = none) : Restarted n v x := by
  have run (later : List RadioStep) :=
    Machine.replies_of_matched matched ⟨d, member, h⟩ later
  have followed (later : List RadioStep) {other : RfSwitch}
      (found : (v.after n later).run.members[n]? = some other) :
      Distinct (v.after n later).run ∧ Renewed n (v.after n later).older other (v.after n later).run
        (Lone.machine.after x (v.heard n later)) := by
    obtain ⟨_, distinct, next, renewed⟩ := run later
    obtain rfl := Option.some.inj (renewed.found.symm.trans found)
    exact ⟨distinct, renewed⟩
  refine ⟨fun later => (run later).1, ?_, ?_, ?_⟩
  · intro later other found
    exact (followed later found).2.switches
  · intro later other found old
    obtain ⟨distinct, renewed⟩ := followed later found
    exact renewed.undisturbed distinct old
  · intro other found
    obtain rfl := Option.some.inj (h.found.symm.trans found)
    exact pending

/-- The jokes as a machine that is fed requests. -/
def KnockKnock.machine : Machine KnockKnock Payload where
  step k p := (k.process p).2
  reply? k p := some (k.process p).1

/-- What resets do in a run of the radio switches, and to the jokes. -/
structure RestartLaw {R D : Type} [Radio R] (r : RadioRun R D)
    (setups : List (String × List SwitchConfig)) : Prop where
  /-- A member that has not closed starts over with what it joined with, and with a radio if there still is
  one. -/
  rfSwitch : ∀ n member connection seed p, r.members[n]? = some member →
    setups[n]? = some (connection, seed) →
    r.hardware.radioQueue.isCancelled member.lease = false → p.effectiveAction = Action.reset →
      Restarted n (.now (r.step (.request n p)))
        (.start seed connection r.hardware.radioQueue.isAvailable)
  knockKnock : ∀ (k : KnockKnock) p, p.effectiveAction = Action.reset → ∀ later,
    KnockKnock.machine.replies (k.process p).2 later = KnockKnock.machine.replies {} later

theorem restart_law {R D : Type} [Radio R] (radio : R) (dongle : D) (hasRadio hasDongle : Bool)
    (before : List RadioStep) :
    RestartLaw ((RadioRun.attached radio dongle hasRadio hasDongle).play before)
      (before.flatMap RadioStep.joins) := by
  have distinct := (Distinct.attached radio dongle hasRadio hasDongle).play before
  have setups := (RadioRun.attached radio dongle hasRadio hasDongle).setups_play before
  generalize (RadioRun.attached radio dongle hasRadio hasDongle).play before = r at distinct setups
  refine ⟨?_, ?_⟩
  · intro n member connection seed p found joined live reset
    have setup : member.setup = (connection, seed) := by
      rw [RadioRun.attached, List.map_nil, List.nil_append] at setups
      rw [← setups, List.getElem?_map, found, Option.map_some, Option.some.injEq] at joined
      exact joined
    obtain ⟨rfl, rfl⟩ := Prod.mk.inj setup
    exact (Renewed.start distinct found live reset).restarted (distinct.step (.request n p)) rfl
  · intro k p reset later
    have fresh : (k.process p).2 = {} := by
      rw [KnockKnock.process, reset]
      rfl
    rw [fresh]

/-- A transmission that waited at a reset is made after it, and its switch stands as at the start. -/
example :
    let r := (RadioRun.attached ({} : SimulatedRadio) () true false).play
      [.join "a" [⟨"lamp", 1, 2⟩], .request 0 (.request "AllOff"), .request 0 (.request "Reset"), .work]
    r.hardware.radio.sent = [2] ∧ r.members.map (·.switches r.hardware) = [[⟨"lamp", 1, 2, none⟩]] := by
  decide

end Switchboard
