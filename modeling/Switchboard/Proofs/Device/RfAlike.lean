import Switchboard.Proofs.Device.RfTurns
import Switchboard.Proofs.Hardware.RadioJobs

/-!
Radio switches that see the same of their hardware, be it one or two: the same entries under tables of
different numbers, and a radio that is ready for both leases or for neither. They take the same turn, each
with its own table and its own lease.
-/

namespace Switchboard

namespace RfSwitch

variable {R D R' D' : Type}

/-- Two instances that see the same. -/
structure Alike (r : RfSwitch) (h : Hardware R D) (q : RfSwitch) (g : Hardware R' D') : Prop where
  connection : r.connection = q.connection
  seed : r.seed = q.seed
  negotiator : r.negotiator = q.negotiator
  ready : r.ready h = q.ready g
  switches : r.switches h = q.switches g
  bound : r.table < h.tables.length
  bound' : q.table < g.tables.length

/-- What a turn does on both sides at once. -/
inductive Together (r : RfSwitch) (h : Hardware R D) (q : RfSwitch) (g : Hardware R' D') :
    Payload × RfSwitch × Hardware R D → Payload × RfSwitch × Hardware R' D' → Prop
  | told (reply : Payload) (negotiator : Negotiator) :
    Together r h q g (reply, { r with negotiator }, h) (reply, { q with negotiator }, g)
  | queued (reply : Payload) (negotiator : Negotiator) (jobs : List RadioJob) :
    (∀ job ∈ jobs, job.table = r.table ∧ job.connection = r.connection) →
      Together r h q g (reply, { r with negotiator }, h.queueing r.lease jobs)
        (reply, { q with negotiator },
          g.queueing q.lease (jobs.map fun job => { job with table := q.table }))
  | wrote (reply : Payload) (negotiator : Negotiator) (switches : List Switch) :
    Together r h q g (reply, { r with negotiator }, h.setTable r.table switches)
      (reply, { q with negotiator }, g.setTable q.table switches)
  | restarted (reply : Payload) (switches : List Switch) :
    Together r h q g
      (reply, { r with table := h.tables.length, negotiator := {} },
        { h with tables := h.tables ++ [switches] })
      (reply, { q with table := g.tables.length, negotiator := {} },
        { g with tables := g.tables ++ [switches] })

namespace Alike

variable {r q : RfSwitch} {h : Hardware R D} {g : Hardware R' D'}

theorem refl (r : RfSwitch) {h : Hardware R D} (bound : r.table < h.tables.length) : Alike r h r h :=
  ⟨rfl, rfl, rfl, rfl, rfl, bound, bound⟩

theorem queueing (a : Alike r h q g) (lease lease' : Nat) (jobs jobs' : List RadioJob) :
    Alike r (h.queueing lease jobs) q (g.queueing lease' jobs') :=
  ⟨a.connection, a.seed, a.negotiator, a.ready, a.switches, a.bound, a.bound'⟩

theorem setTable (a : Alike r h q g) (switches : List Switch) :
    Alike r (h.setTable r.table switches) q (g.setTable q.table switches) := by
  refine ⟨a.connection, a.seed, a.negotiator, a.ready, ?_, ?_, ?_⟩
  · rw [RfSwitch.switches, RfSwitch.switches, Hardware.table_setTable_self switches a.bound,
      Hardware.table_setTable_self switches a.bound']
  · exact Nat.lt_of_lt_of_eq a.bound List.length_set.symm
  · exact Nat.lt_of_lt_of_eq a.bound' List.length_set.symm

theorem newTable (a : Alike r h q g) (switches : List Switch) :
    Alike { r with table := h.tables.length, negotiator := {} } { h with tables := h.tables ++ [switches] }
      { q with table := g.tables.length, negotiator := {} } { g with tables := g.tables ++ [switches] } := by
  refine ⟨a.connection, a.seed, rfl, a.ready, ?_, ?_, ?_⟩
  · simp only [RfSwitch.switches, Hardware.table, List.getElem?_concat_length]
  · rw [List.length_append]
    exact Nat.lt_succ_self _
  · rw [List.length_append]
    exact Nat.lt_succ_self _

theorem commands (a : Alike r h q g) : r.commands h = q.commands g := by
  rw [RfSwitch.commands, RfSwitch.commands, a.ready, a.switches]

theorem reply (a : Alike r h q g) (action response : String) :
    r.reply h action response = q.reply g action response := by
  rw [RfSwitch.reply, RfSwitch.reply, a.commands]

theorem status (a : Alike r h q g) : r.status h = q.status g := by
  rw [RfSwitch.status, RfSwitch.status, a.ready, a.switches, a.negotiator]

theorem defaultSwitch (a : Alike r h q g) : r.defaultSwitch h = q.defaultSwitch g := by
  rw [RfSwitch.defaultSwitch, RfSwitch.defaultSwitch, a.switches]

theorem list (a : Alike r h q g) : r.list h = q.list g := by
  simp only [RfSwitch.list, a.switches, a.reply]

theorem job (a : Alike r h q g) (action switch : String) (code : UInt32) (on : Bool) :
    q.job g action switch code on = { r.job h action switch code on with table := q.table } := by
  rw [RfSwitch.job, RfSwitch.job, a.connection, a.commands]

theorem kept (a : Alike r h q g) : { q with negotiator := r.negotiator } = q := by
  rw [a.negotiator]

/-- Both only tell. -/
theorem tells (a : Alike r h q g) (action response : String) (negotiator : Negotiator) :
    Together r h q g (r.reply h action response, { r with negotiator }, h)
      (q.reply g action response, { q with negotiator }, g) := by
  rw [a.reply]
  exact .told _ _

/-- Both give the same reply and stay as they are. -/
theorem stays (a : Alike r h q g) {reply reply' : Payload} (same : reply = reply') :
    Together r h q g (reply, r, h) (reply', q, g) := by
  have told : Together r h q g (reply, r, h) (reply, { q with negotiator := r.negotiator }, g) :=
    .told reply r.negotiator
  rw [a.kept] at told
  rw [← same]
  exact told

theorem challenges (a : Alike r h q g) (schema : ArgumentSchema) (negotiator : Negotiator) :
    Together r h q g (schema.challenge rfSwitchKey (r.commands h), { r with negotiator }, h)
      (schema.challenge rfSwitchKey (q.commands g), { q with negotiator }, g) := by
  rw [a.commands]
  exact .told _ _

theorem queues (a : Alike r h q g) (action response : String) (negotiator : Negotiator)
    {jobs jobs' : List RadioJob} (same : jobs' = jobs.map fun job => { job with table := q.table })
    (own : ∀ job ∈ jobs, job.table = r.table ∧ job.connection = r.connection) :
    Together r h q g
      (r.reply (h.queueing r.lease jobs) action response, { r with negotiator },
        h.queueing r.lease jobs)
      (q.reply (g.queueing q.lease jobs') action response, { q with negotiator },
        g.queueing q.lease jobs') := by
  rw [(a.queueing r.lease q.lease jobs jobs').reply, same]
  exact .queued _ _ _ own

theorem execute (a : Alike r h q g) (ready : r.ready h = true) (negotiator : Negotiator)
    (action switch : String) (on : Bool) :
    Together r h q g
      ((r.execute h action switch on).1, { r with negotiator }, (r.execute h action switch on).2)
      ((q.execute g action switch on).1, { q with negotiator }, (q.execute g action switch on).2) := by
  rw [RfSwitch.execute, RfSwitch.execute, ← a.switches]
  cases (r.switches h).find? fun s => s.name == switch with
  | none => exact a.tells _ _ _
  | some s =>
      simp only [transmit_of_ready ready, transmit_of_ready (a.ready.symm.trans ready)]
      refine a.queues _ _ _ (congrArg (fun job => [job]) (a.job _ _ _ _)) ?_
      intro job mem
      rw [List.mem_singleton.mp mem]
      exact ⟨rfl, rfl⟩

theorem switchTo (a : Alike r h q g) (action : String) (on : Bool) (data : Option String) :
    Together r h q g (r.switchTo h action on data) (q.switchTo g action on data) := by
  simp only [RfSwitch.switchTo, ← a.ready]
  split
  case isTrue => exact a.stays (a.reply _ _)
  case isFalse ready =>
    rw [Bool.not_eq_true', Bool.not_eq_false] at ready
    simp only [Negotiator.negotiate, ← a.defaultSwitch]
    generalize (Negotiation.negotiate data _ : Negotiation SwitchArguments) = outcome
    cases outcome with
    | ready arguments => exact a.execute ready _ _ _ _
    | challenge schema => exact a.challenges _ _
    | malformed reason => exact a.tells _ _ _

theorem allOff (a : Alike r h q g) :
    Together r h q g ((r.allOff h).1, r, (r.allOff h).2) ((q.allOff g).1, q, (q.allOff g).2) := by
  rw [RfSwitch.allOff, RfSwitch.allOff, ← a.ready]
  split
  case isTrue => exact a.stays (a.reply _ _)
  case isFalse ready =>
    rw [Bool.not_eq_true', Bool.not_eq_false] at ready
    simp only [transmitOff_of_ready ready, transmitOff_of_ready (a.ready.symm.trans ready), ← a.switches]
    have same : ((r.switches h).map fun s => q.job g "AllOff" s.name s.offCode false) =
        ((r.switches h).map fun s => r.job h "AllOff" s.name s.offCode false).map
          fun job => { job with table := q.table } := by
      rw [List.map_map]
      refine List.map_congr_left ?_
      intro s _
      exact a.job _ _ _ _
    have own : ∀ job ∈ (r.switches h).map fun s => r.job h "AllOff" s.name s.offCode false,
        job.table = r.table ∧ job.connection = r.connection := by
      intro job mem
      obtain ⟨s, _, rfl⟩ := List.mem_map.mp mem
      exact ⟨rfl, rfl⟩
    have queued := a.queues "AllOff"
      ("Executing AllOff on " ++ toString (r.switches h).length ++ " switches…") r.negotiator same own
    rw [a.kept] at queued
    exact queued

/-- Both edit their tables alike, or neither does. -/
theorem edits (a : Alike r h q g) (useless : List Switch → Bool) (edit : List Switch → List Switch)
    (action refusal response : String) (negotiator : Negotiator) :
    Together r h q g
      (if useless (r.switches h) then (r.reply h action refusal, { r with negotiator }, h)
      else (r.reply (h.setTable r.table (edit (r.switches h))) action response,
        { r with negotiator }, h.setTable r.table (edit (r.switches h))))
      (if useless (q.switches g) then (q.reply g action refusal, { q with negotiator }, g)
      else (q.reply (g.setTable q.table (edit (q.switches g))) action response,
        { q with negotiator }, g.setTable q.table (edit (q.switches g)))) := by
  rw [← a.switches]
  split
  case isTrue => exact a.tells _ _ _
  case isFalse =>
    rw [(a.setTable _).reply]
    exact .wrote _ _ _

theorem add (a : Alike r h q g) (data : Option String) :
    Together r h q g (r.add h data) (q.add g data) := by
  simp only [RfSwitch.add, Negotiator.negotiate]
  generalize (Negotiation.negotiate data _ : Negotiation AddSwitchArguments) = outcome
  cases outcome with
  | challenge schema => exact a.challenges _ _
  | malformed reason => exact a.tells _ _ _
  | ready arguments =>
      have edited := a.edits (fun switches => switches.any fun s => s.name == arguments.name)
        (· ++ [⟨arguments.name, arguments.onCode, arguments.offCode, none⟩]) "AddSwitch"
        ("Switch " ++ arguments.name ++ " already exists") ("Added switch " ++ arguments.name) {}
      exact edited

theorem remove (a : Alike r h q g) (data : Option String) :
    Together r h q g (r.remove h data) (q.remove g data) := by
  simp only [RfSwitch.remove, Negotiator.negotiate, ← a.defaultSwitch]
  generalize (Negotiation.negotiate data _ : Negotiation SwitchArguments) = outcome
  cases outcome with
  | challenge schema => exact a.challenges _ _
  | malformed reason => exact a.tells _ _ _
  | ready arguments =>
      have edited := a.edits
        (fun switches =>
          (switches.filter fun s => s.name != arguments.switch).length == switches.length)
        (fun switches => switches.filter fun s => s.name != arguments.switch) "RemoveSwitch"
        ("Unknown switch: " ++ arguments.switch) ("Removed switch " ++ arguments.switch) {}
      exact edited

theorem reset (a : Alike r h q g) : Together r h q g (r.reset h) (q.reset g) := by
  have after := a.newTable (r.seed.map Switch.ofConfig)
  have seeds : q.seed.map Switch.ofConfig = r.seed.map Switch.ofConfig := by rw [a.seed]
  simp only [RfSwitch.reset, Hardware.newTable, seeds, after.status, after.reply]
  exact .restarted _ _

/-- Instances that see the same take the same turn. -/
theorem process (a : Alike r h q g) (p : Payload) :
    Together r h q g (r.process p h) (q.process p g) := by
  rw [RfSwitch.process, RfSwitch.process]
  split
  · rw [a.status]
    exact a.stays (a.reply _ _)
  · exact a.reset
  · exact a.stays a.list
  · exact a.switchTo _ _ _
  · exact a.switchTo _ _ _
  · exact a.allOff
  · exact a.add _
  · exact a.remove _
  · exact a.stays (a.reply _ _)

end Alike

end RfSwitch

end Switchboard
