import Switchboard.Proofs.Hardware.RadioJobs
import Switchboard.Device.RfSwitch

/-!
Turns of the radio switches. A request asks for transmissions when it switches a known switch or all of
them. While the radio is ready, those and no others are queued, and the reply announces that they are;
any other request may change the table and queues nothing.
-/

namespace Switchboard

def transmitActions : List String :=
  ["SwitchOn", "SwitchOff", "AllOff"]

/-- A reply that announces transmissions. -/
def Announces (reply : Payload) : Prop :=
  (∃ action ∈ transmitActions, reply.action = some action) ∧
    ∃ rest, reply.response = some ("Executing " ++ rest)

theorem not_announces_of_action {reply : Payload} {action : String} (said : reply.action = some action)
    (other : action ∉ transmitActions) : ¬Announces reply := by
  rintro ⟨⟨transmits, mem, same⟩, -⟩
  rw [said, Option.some.injEq] at same
  exact other (same ▸ mem)

theorem not_announces_of_response {reply : Payload} {first rest : String}
    (said : reply.response = some (first ++ rest)) (apart : first.toList.head?.getD 'E' ≠ 'E') :
    ¬Announces reply := by
  rintro ⟨-, more, same⟩
  rw [said, Option.some.injEq] at same
  have letters := congrArg (fun text => text.toList.head?) same
  have executing : "Executing ".toList.head? = some 'E' := by decide
  simp only [String.toList_append, List.head?_append, executing, Option.some_or] at letters
  cases start : first.toList.head? with
  | none => exact apart (by rw [start, Option.getD_none])
  | some c =>
      rw [start, Option.some_or, Option.some.injEq] at letters
      exact apart (by rw [start, Option.getD_some, letters])

namespace Hardware

variable {R D : Type}

/-- The hardware when jobs of a lease have come in. -/
def queueing (h : Hardware R D) (lease : Nat) (jobs : List RadioJob) : Hardware R D :=
  { h with
    radioQueue :=
      { h.radioQueue with
        waiting := h.radioQueue.waiting ++ jobs.map (Waiting.mk lease)
        queued := h.radioQueue.queued + jobs.length } }

theorem queueing_nil (h : Hardware R D) (lease : Nat) : h.queueing lease [] = h := by
  simp [queueing]

theorem queueing_append (h : Hardware R D) (lease : Nat) (jobs more : List RadioJob) :
    h.queueing lease (jobs ++ more) = (h.queueing lease jobs).queueing lease more := by
  simp [queueing, Nat.add_assoc]

end Hardware

namespace RfSwitch

variable {R D : Type}

def job (r : RfSwitch) (h : Hardware R D) (action switch : String) (code : UInt32) (on : Bool) :
    RadioJob :=
  { table := r.table, connection := r.connection, action, switch, code, on
    commands := r.commands h }

/-- The transmission that a request to switch a known switch asks for. -/
def askedFor (r : RfSwitch) (h : Hardware R D) (action : String) (on : Bool) (data : Option String) :
    Option (List RadioJob) :=
  let description := if on then "Turn a switch on" else "Turn a switch off"
  match Negotiation.negotiate data
      (SwitchArguments.schemaFor action description (r.defaultSwitch h)) with
  | .ready (arguments : SwitchArguments) =>
    ((r.switches h).find? fun s => s.name == arguments.switch).map fun s =>
      [r.job h action arguments.switch (s.code on) on]
  | _ => none

/-- The transmissions that a request asks for: one, or one for each entry of the table in its order. -/
def asked (r : RfSwitch) (h : Hardware R D) (p : Payload) : Option (List RadioJob) :=
  match p.effectiveAction with
  | "SwitchOn" => r.askedFor h "SwitchOn" true p.data
  | "SwitchOff" => r.askedFor h "SwitchOff" false p.data
  | "AllOff" => some ((r.switches h).map fun s => r.job h "AllOff" s.name s.offCode false)
  | _ => none

/-- The transmissions that are queued for a request: those it asks for, while the radio is ready. -/
def due (r : RfSwitch) (h : Hardware R D) (p : Payload) : Option (List RadioJob) :=
  if r.ready h then r.asked h p else none

end RfSwitch

/-- What a request can do. -/
inductive RfTurn {R D : Type} (r : RfSwitch) (h : Hardware R D) (p : Payload) :
    Payload × RfSwitch × Hardware R D → Prop
  | told {reply : Payload} (negotiator : Negotiator) :
    ¬Announces reply → r.due h p = none →
      RfTurn r h p (reply, { r with negotiator }, h)
  | queued {reply : Payload} {jobs : List RadioJob} (negotiator : Negotiator) :
    Announces reply → r.due h p = some jobs →
      RfTurn r h p (reply, { r with negotiator }, h.queueing r.lease jobs)
  | added {reply : Payload} (negotiator : Negotiator) (s : Switch) :
    ¬Announces reply → r.due h p = none → s.state = none → (∀ t ∈ r.switches h, t.name ≠ s.name) →
    Negotiation.negotiate p.data (CommandArguments.schema AddSwitchArguments) =
        .ready (AddSwitchArguments.mk s.name s.onCode s.offCode) →
      RfTurn r h p (reply, { r with negotiator }, h.setTable r.table (r.switches h ++ [s]))
  | removed {reply : Payload} (negotiator : Negotiator) (name : String) :
    ¬Announces reply → r.due h p = none →
      RfTurn r h p (reply, { r with negotiator },
        h.setTable r.table ((r.switches h).filter fun s => s.name != name))
  | restarted {reply : Payload} :
    ¬Announces reply → r.due h p = none →
      RfTurn r h p (reply, { r with table := h.tables.length, negotiator := {} },
        { h with tables := h.tables ++ [r.seed.map Switch.ofConfig] })

section turns

variable {R D : Type} {r : RfSwitch} {h : Hardware R D}

theorem Negotiation.malformed_of_negotiate {α : Type} [CommandArguments α] {data : Option String}
    {schema : ArgumentSchema} {reason : String}
    (outcome : negotiate (α := α) data schema = .malformed reason) :
    ∃ rest, reason = "Could not read arguments for " ++ rest := by
  rw [negotiate] at outcome
  split at outcome
  · cases outcome
  · rw [ofData] at outcome
    split at outcome
    · next failure unread =>
        cases outcome
        exact ⟨schema.command ++ (": " ++ failure.message), by
          rw [String.append_assoc, String.append_assoc]⟩
    · split at outcome <;> cases outcome

theorem due_of_ready {p : Payload} (ready : r.ready h = true) : r.due h p = r.asked h p :=
  if_pos ready

theorem due_of_unready {p : Payload} (unready : ¬r.ready h = true) : r.due h p = none :=
  if_neg unready

theorem due_of_notMem {p : Payload} (other : p.effectiveAction ∉ transmitActions) :
    r.due h p = none := by
  have asks : r.asked h p = none := by
    rw [RfSwitch.asked]
    split
    · next action => exact absurd (by rw [action]; decide) other
    · next action => exact absurd (by rw [action]; decide) other
    · next action => exact absurd (by rw [action]; decide) other
    · rfl
  rw [RfSwitch.due, asks, ite_self]

/-- Each transmission that is due has a code of the entry that it names, in the table in use. -/
theorem of_mem_due {p : Payload} {jobs : List RadioJob} {job : RadioJob} (due : r.due h p = some jobs)
    (mem : job ∈ jobs) :
    job.table = r.table ∧ ∃ s ∈ r.switches h, s.name = job.switch ∧ job.code = s.code job.on := by
  have asks : r.asked h p = some jobs := by
    rw [RfSwitch.due, Option.ite_none_right_eq_some] at due
    exact due.2
  have one {action : String} {on : Bool} (asks : r.askedFor h action on p.data = some jobs) :
      job.table = r.table ∧ ∃ s ∈ r.switches h, s.name = job.switch ∧ job.code = s.code job.on := by
    rw [RfSwitch.askedFor] at asks
    split at asks
    · obtain ⟨s, found, rfl⟩ := Option.map_eq_some_iff.mp asks
      have named := List.find?_some found
      rw [beq_iff_eq] at named
      rw [List.mem_singleton.mp mem]
      exact ⟨rfl, s, List.mem_of_find?_eq_some found, named, rfl⟩
    · cases asks
  rw [RfSwitch.asked] at asks
  split at asks
  · exact one asks
  · exact one asks
  · cases asks
    obtain ⟨s, listed, rfl⟩ := List.mem_map.mp mem
    exact ⟨rfl, s, listed, rfl, rfl⟩
  · cases asks

theorem transmit_of_ready (ready : r.ready h = true) (action switch : String) (code : UInt32)
    (on : Bool) :
    r.transmit h action switch code on =
      .ok (h.queueing r.lease [r.job h action switch code on]) := by
  rw [RfSwitch.ready, JobQueue.leaseAvailable, Bool.and_eq_true, Bool.not_eq_true'] at ready
  have running : h.radioQueue.worker = .running := by simpa [JobQueue.isAvailable] using ready.2
  rw [RfSwitch.transmit, JobQueue.submit_of_running _ _ ready.1 running]
  rfl

theorem ready_queueing (lease : Nat) (jobs : List RadioJob) :
    r.ready (h.queueing lease jobs) = r.ready h := rfl

theorem transmitOff_of_ready (ready : r.ready h = true) (switches : List Switch) :
    r.transmitOff switches h =
      (.ok (), h.queueing r.lease (switches.map fun s => r.job h "AllOff" s.name s.offCode false)) := by
  induction switches generalizing h with
  | nil => rw [List.map_nil, h.queueing_nil, RfSwitch.transmitOff]
  | cons s rest ih =>
      have later := ih ((ready_queueing r.lease [r.job h "AllOff" s.name s.offCode false]).trans ready)
      simp only [RfSwitch.transmitOff, transmit_of_ready ready]
      rw [later, ← h.queueing_append]
      rfl

theorem rfTurn_execute {p : Payload} {action switch : String} {on : Bool} (ready : r.ready h = true)
    (negotiator : Negotiator) (acts : action ∈ transmitActions)
    (asks : r.asked h p = ((r.switches h).find? fun s => s.name == switch).map fun s =>
      [r.job h action switch (s.code on) on]) :
    RfTurn r h p ((r.execute h action switch on).1, { r with negotiator },
      (r.execute h action switch on).2) := by
  rw [← due_of_ready ready] at asks
  rw [RfSwitch.execute]
  split
  · next unknown =>
      rw [unknown] at asks
      exact .told negotiator (not_announces_of_response rfl (by decide)) asks
  · next s known =>
      rw [known] at asks
      rw [transmit_of_ready ready]
      refine .queued negotiator ⟨⟨action, acts, rfl⟩, action ++ (" " ++ (switch ++ "…")), ?_⟩ asks
      refine congrArg some ?_
      rw [String.append_assoc, String.append_assoc, String.append_assoc]

theorem rfTurn_switchTo {p : Payload} {action : String} {on : Bool}
    (acts : action ∈ transmitActions) (asks : r.asked h p = r.askedFor h action on p.data) :
    RfTurn r h p (r.switchTo h action on p.data) := by
  rw [RfSwitch.switchTo]
  split
  case isTrue unready =>
    rw [Bool.not_eq_true', ← Bool.not_eq_true] at unready
    refine .told r.negotiator ?_ (due_of_unready unready)
    exact not_announces_of_response (congrArg some (String.append_assoc ..)) (by decide)
  case isFalse ready =>
    rw [Bool.not_eq_true', Bool.not_eq_false] at ready
    have due := (due_of_ready ready).trans asks
    rw [RfSwitch.askedFor] at asks due
    simp only [Negotiator.negotiate]
    split
    · next arguments outcome =>
        rw [outcome] at asks
        exact rfTurn_execute ready _ acts asks
    · next schema outcome =>
        rw [outcome] at due
        exact .told _ (not_announces_of_action rfl (by decide)) due
    · next reason outcome =>
        rw [outcome] at due
        obtain ⟨rest, rfl⟩ := Negotiation.malformed_of_negotiate outcome
        exact .told _ (not_announces_of_response rfl (by decide)) due

theorem rfTurn_allOff {p : Payload}
    (asks : r.asked h p =
      some ((r.switches h).map fun s => r.job h "AllOff" s.name s.offCode false)) :
    RfTurn r h p ((r.allOff h).1, r, (r.allOff h).2) := by
  rw [RfSwitch.allOff]
  split
  case isTrue unready =>
    rw [Bool.not_eq_true', ← Bool.not_eq_true] at unready
    have said : "RF radio unavailable; AllOff is disabled" =
        "RF radio unavailable; " ++ "AllOff is disabled" := by decide
    refine .told r.negotiator ?_ (due_of_unready unready)
    exact not_announces_of_response (congrArg some said) (by decide)
  case isFalse ready =>
    rw [Bool.not_eq_true', Bool.not_eq_false] at ready
    have said : "Executing AllOff on " = "Executing " ++ "AllOff on " := by decide
    simp only [transmitOff_of_ready ready, said, String.append_assoc]
    exact .queued r.negotiator ⟨⟨"AllOff", by decide, rfl⟩, _, rfl⟩ ((due_of_ready ready).trans asks)

section others

variable {p : Payload} (other : p.effectiveAction ∉ transmitActions)

include other

/-- A request whose reply only tells. -/
theorem rfTurn_reply {reply : Payload} {action : String} (said : reply.action = some action)
    (quiet : action ∉ transmitActions) (negotiator : Negotiator) :
    RfTurn r h p (reply, { r with negotiator }, h) :=
  .told negotiator (not_announces_of_action said quiet) (due_of_notMem other)

theorem rfTurn_insert {known added : Payload} (s : Switch) (fresh : s.state = none)
    (taught : Negotiation.negotiate p.data (CommandArguments.schema AddSwitchArguments) =
      .ready (AddSwitchArguments.mk s.name s.onCode s.offCode))
    (known_said : known.action = some "AddSwitch") (added_said : added.action = some "AddSwitch")
    (negotiator : Negotiator) :
    RfTurn r h p
      (if (r.switches h).any fun t => t.name == s.name then (known, { r with negotiator }, h)
      else (added, { r with negotiator }, h.setTable r.table (r.switches h ++ [s]))) := by
  split
  case isTrue taken => exact rfTurn_reply other known_said (by decide) negotiator
  case isFalse free =>
    refine .added _ _ (not_announces_of_action added_said (by decide)) (due_of_notMem other) fresh ?_ taught
    intro t mem same
    exact free (List.any_eq_true.mpr ⟨t, mem, by rw [same, beq_self_eq_true]⟩)

theorem rfTurn_add : RfTurn r h p (r.add h p.data) := by
  rw [RfSwitch.add]
  simp only [Negotiator.negotiate]
  split
  · exact rfTurn_reply other rfl (by decide) _
  · exact rfTurn_reply other rfl (by decide) _
  · next arguments outcome =>
      refine rfTurn_insert other ⟨arguments.name, arguments.onCode, arguments.offCode, none⟩ rfl outcome
        ?_ ?_ _
      · rfl
      · rfl

theorem rfTurn_erase {unknown removed : Payload} (name : String)
    (unknown_said : unknown.action = some "RemoveSwitch")
    (removed_said : removed.action = some "RemoveSwitch") (negotiator : Negotiator) :
    RfTurn r h p
      (if ((r.switches h).filter fun s => s.name != name).length == (r.switches h).length then
        (unknown, { r with negotiator }, h)
      else (removed, { r with negotiator },
        h.setTable r.table ((r.switches h).filter fun s => s.name != name))) := by
  split
  case isTrue unknown => exact rfTurn_reply other unknown_said (by decide) negotiator
  case isFalse known =>
    exact .removed _ _ (not_announces_of_action removed_said (by decide)) (due_of_notMem other)

theorem rfTurn_remove : RfTurn r h p (r.remove h p.data) := by
  rw [RfSwitch.remove]
  simp only [Negotiator.negotiate]
  split
  · exact rfTurn_reply other rfl (by decide) _
  · exact rfTurn_reply other rfl (by decide) _
  · exact rfTurn_erase other _ rfl rfl _

end others

theorem rfTurn_process (r : RfSwitch) (h : Hardware R D) (p : Payload) :
    RfTurn r h p (r.process p h) := by
  rw [RfSwitch.process]
  split
  · next action => exact rfTurn_reply (by rw [action]; decide) rfl (by decide) _
  · next action =>
      have other : p.effectiveAction ∉ transmitActions := by
        rw [action]
        decide
      exact .restarted (not_announces_of_action rfl (by decide)) (due_of_notMem other)
  · next action => exact rfTurn_reply (by rw [action]; decide) rfl (by decide) _
  · next action => exact rfTurn_switchTo (by decide) (by simp only [RfSwitch.asked, action])
  · next action => exact rfTurn_switchTo (by decide) (by simp only [RfSwitch.asked, action])
  · next action => exact rfTurn_allOff (by simp only [RfSwitch.asked, action])
  · next action => exact rfTurn_add (by rw [action]; decide)
  · next action => exact rfTurn_remove (by rw [action]; decide)
  · next other _ _ _ on off allOff _ _ =>
      have quiet : p.effectiveAction ∉ transmitActions := by
        simp only [transmitActions, List.mem_cons, List.not_mem_nil, or_false, not_or]
        exact ⟨on, off, allOff⟩
      exact rfTurn_reply quiet rfl quiet _

end turns

namespace RfTurn

variable {R D : Type} {r : RfSwitch} {h : Hardware R D} {p : Payload}
  {result : Payload × RfSwitch × Hardware R D}

theorem announces_iff (turn : RfTurn r h p result) : Announces result.1 ↔ (r.due h p).isSome := by
  cases turn with
  | told _ quiet due => exact iff_of_false quiet (by simp [due])
  | queued _ announces due => exact iff_of_true announces (by simp [due])
  | added _ _ quiet due => exact iff_of_false quiet (by simp [due])
  | removed _ _ quiet due => exact iff_of_false quiet (by simp [due])
  | restarted quiet due => exact iff_of_false quiet (by simp [due])

theorem radioQueue_eq (turn : RfTurn r h p result) :
    result.2.2.radioQueue = (h.queueing r.lease ((r.due h p).getD [])).radioQueue := by
  cases turn with
  | told _ _ due => rw [due, Option.getD_none, h.queueing_nil]
  | queued _ _ due => rw [due, Option.getD_some]
  | added _ _ _ due => rw [due, Option.getD_none, h.queueing_nil, Hardware.setTable]
  | removed _ _ _ due => rw [due, Option.getD_none, h.queueing_nil, Hardware.setTable]
  | restarted _ due => rw [due, Option.getD_none, h.queueing_nil]

theorem waits_or_due (turn : RfTurn r h p result) {w : Waiting RadioJob}
    (waits : w ∈ result.2.2.radioQueue.waiting) :
    w ∈ h.radioQueue.waiting ∨ ∃ jobs, r.due h p = some jobs ∧ w.job ∈ jobs := by
  rw [turn.radioQueue_eq] at waits
  rcases List.mem_append.mp waits with old | new
  · exact .inl old
  · obtain ⟨job, mem, rfl⟩ := List.mem_map.mp new
    cases due : r.due h p with
    | none =>
        rw [due] at mem
        cases mem
    | some jobs =>
        rw [due] at mem
        exact .inr ⟨jobs, rfl, mem⟩

theorem length_tables_le (turn : RfTurn r h p result) :
    h.tables.length ≤ result.2.2.tables.length := by
  cases turn with
  | told => exact Nat.le_refl _
  | queued => exact Nat.le_refl _
  | added => exact Nat.le_of_eq List.length_set.symm
  | removed => exact Nat.le_of_eq List.length_set.symm
  | restarted =>
      rw [List.length_append]
      exact Nat.le_add_right _ _

theorem table_lt (turn : RfTurn r h p result) (bound : r.table < h.tables.length) :
    result.2.1.table < result.2.2.tables.length := by
  cases turn with
  | told => exact bound
  | queued => exact bound
  | added => exact Nat.lt_of_lt_of_eq bound List.length_set.symm
  | removed => exact Nat.lt_of_lt_of_eq bound List.length_set.symm
  | restarted =>
      rw [List.length_append]
      exact Nat.lt_succ_self _

/-- A table in use is kept or given up for a new one. -/
theorem table_eq_or (turn : RfTurn r h p result) :
    result.2.1.table = r.table ∨ result.2.1.table = h.tables.length := by
  cases turn with
  | told => exact .inl rfl
  | queued => exact .inl rfl
  | added => exact .inl rfl
  | removed => exact .inl rfl
  | restarted => exact .inr rfl

/-- The tables of others are left alone. -/
theorem table_of_ne (turn : RfTurn r h p result) {n : Nat} (apart : r.table ≠ n)
    (bound : n < h.tables.length) : result.2.2.table n = h.table n := by
  cases turn with
  | told => rfl
  | queued => rfl
  | added => exact Hardware.table_setTable_of_ne _ apart
  | removed => exact Hardware.table_setTable_of_ne _ apart
  | restarted => exact congrArg (Option.getD · []) (List.getElem?_append_left bound)

theorem connection_eq (turn : RfTurn r h p result) : result.2.1.connection = r.connection := by
  cases turn <;> rfl

theorem seed_eq (turn : RfTurn r h p result) : result.2.1.seed = r.seed := by
  cases turn <;> rfl

theorem lease_eq (turn : RfTurn r h p result) : result.2.1.lease = r.lease := by
  cases turn <;> rfl

theorem radio_eq (turn : RfTurn r h p result) : result.2.2.radio = h.radio := by
  cases turn <;> rfl

theorem outbox_eq (turn : RfTurn r h p result) : result.2.2.outbox = h.outbox := by
  cases turn <;> rfl

end RfTurn

end Switchboard
