import Switchboard.Proofs.Device.TableTurns

/-!
Switching everything off. One transmission is queued for each entry of a table, but each outcome is recorded
by name, on the first entry that has it. So every entry ends up off when the names in the table are distinct,
which adding, removing and resetting keep if the first switches have distinct names; otherwise an entry
behind another of its name keeps the state it had.
-/

namespace Switchboard

section recording

variable {ran : List (RadioJob × Transmission)} {switches : List Switch} {i : Nat}

theorem map_name_take_recordAll (ran : List (RadioJob × Transmission)) (switches : List Switch) (i : Nat) :
    ((recordAll ran switches).take i).map Switch.name = (switches.take i).map Switch.name := by
  rw [List.map_take, map_name_recordAll, List.map_take]

/-- What becomes of an entry of a table when all are switched off: it is off unless an earlier entry has
its name. -/
def offAt (switches : List Switch) (i : Nat) (s : Switch) : Switch :=
  if s.name ∈ (switches.take i).map Switch.name then s else { s with state := some false }

/-- An entry behind another of its name is never recorded on. -/
theorem getElem?_recordAll_shadowed (ran : List (RadioJob × Transmission)) {s : Switch}
    (found : switches[i]? = some s) (shadowed : s.name ∈ (switches.take i).map Switch.name) :
    (recordAll ran switches)[i]? = some s := by
  induction ran generalizing switches with
  | nil => exact found
  | cons first rest ih =>
      have names := map_name_take_recordAll [first] switches i
      have passed : (recordAll [first] switches)[i]? = some s := by
        obtain ⟨job, outcome⟩ := first
        rw [recordAll, recordAll]
        split
        · rw [Switch.getElem?_record, found, Option.map_some, if_neg fun first => first.2 shadowed]
        · exact found
      exact ih passed (names ▸ shadowed)

/-- Transmissions that switch off record it on the first entry of each name that they are for. -/
theorem getElem?_recordAll_off (sent : ∀ job ∈ ran, job.2 = .sent ∧ job.1.on = false) :
    (recordAll ran switches)[i]? = switches[i]?.map fun s =>
      if s.name ∈ ran.map (fun job => job.1.switch) ∧ s.name ∉ (switches.take i).map Switch.name then
        { s with state := some false }
      else s := by
  induction ran generalizing switches with
  | nil => simp [recordAll]
  | cons first rest ih =>
      obtain ⟨⟨succeeded, off⟩, later⟩ := List.forall_mem_cons.mp sent
      obtain ⟨job, outcome⟩ := first
      have names := map_name_take_recordAll [(job, outcome)] switches i
      rw [recordAll, recordAll, if_pos succeeded, off] at names
      rw [recordAll, if_pos succeeded, off, ih later, names, Switch.getElem?_record, Option.map_map]
      refine Option.map_congr fun s _ => ?_
      have named : s.name ∈ ((job, outcome) :: rest).map (fun job => job.1.switch) ↔
          s.name = job.switch ∨ s.name ∈ rest.map fun job => job.1.switch := List.mem_cons
      rw [Function.comp_apply]
      by_cases here : s.name = job.switch ∧ s.name ∉ (switches.take i).map Switch.name
      · rw [if_pos here]
        exact (ite_self _).trans (if_pos ⟨named.mpr (.inl here.1), here.2⟩).symm
      · rw [if_neg here]
        refine if_congr (and_congr_left fun new => ?_) rfl rfl
        rw [named, or_iff_right fun same => here ⟨same, new⟩]

/-- When every name is switched off, only the entries behind another of their name are left. -/
theorem getElem?_recordAll_all (earlier : List (RadioJob × Transmission))
    (sent : ∀ job ∈ ran, job.2 = .sent ∧ job.1.on = false)
    (all : switches.map Switch.name = ran.map fun job => job.1.switch) :
    (recordAll ran (recordAll earlier switches))[i]? = switches[i]?.map (offAt switches i) := by
  have configs : ((recordAll earlier switches)[i]?).map Switch.config = (switches[i]?).map Switch.config := by
    rw [← List.getElem?_map, ← List.getElem?_map, map_config_recordAll]
  rw [getElem?_recordAll_off sent, map_name_take_recordAll]
  cases found : switches[i]? with
  | none =>
      rw [found, Option.map_none, Option.map_eq_none_iff] at configs
      rw [configs, Option.map_none, Option.map_none]
  | some s =>
      by_cases shadowed : s.name ∈ (switches.take i).map Switch.name
      · rw [getElem?_recordAll_shadowed earlier found shadowed, Option.map_some, Option.map_some, offAt,
          if_pos shadowed, if_neg fun first => first.2 shadowed]
      · rw [found, Option.map_some, Option.map_eq_some_iff] at configs
        obtain ⟨t, there, same⟩ := configs
        obtain ⟨name, on, off⟩ : t.name = s.name ∧ t.onCode = s.onCode ∧ t.offCode = s.offCode :=
          SwitchConfig.mk.inj same
        have asked : s.name ∈ ran.map fun job => job.1.switch :=
          all ▸ List.mem_map_of_mem (List.mem_of_getElem? found)
        rw [there, Option.map_some, Option.map_some, offAt, if_neg shadowed, name, on, off,
          if_pos ⟨asked, shadowed⟩]

end recording

theorem notMem_take_of_nodup {α β : Type} {f : α → β} {xs : List α} (distinct : (xs.map f).Nodup) {i : Nat}
    {x : α} (found : xs[i]? = some x) : f x ∉ (xs.take i).map f := by
  rw [List.map_take]
  intro earlier
  obtain ⟨j, there⟩ := List.mem_iff_getElem?.mp earlier
  rw [List.getElem?_take] at there
  split at there
  case isTrue before =>
    have here : (xs.map f)[i]? = some (f x) := by rw [List.getElem?_map, found, Option.map_some]
    have bound := (List.getElem?_eq_some_iff.mp there).1
    exact Nat.ne_of_lt before ((List.getElem?_inj bound distinct).mp (there.trans here.symm))
  case isFalse => cases there

namespace RfSwitch

variable {R D : Type} {r : RfSwitch} {h : Hardware R D} {p : Payload}

/-- The transmissions that switch off each switch of the table, in its order. -/
def offJobs (r : RfSwitch) (h : Hardware R D) : List RadioJob :=
  (r.switches h).map fun s => r.job h "AllOff" s.name s.offCode false

theorem process_allOff (action : p.effectiveAction = "AllOff") (acknowledged : Announces (r.process p h).1) :
    (r.process p h).2 = (r, h.queueing r.lease (r.offJobs h)) := by
  have due := (rfTurn_process r h p).announces_iff.mp acknowledged
  have ready : r.ready h = true := by
    by_contra unready
    rw [due_of_unready unready] at due
    cases due
  simp only [process, action, allOff, ready, transmitOff_of_ready ready]
  rfl

/-- What a listing says of switches that are all off. -/
theorem list_of_off {switches : List Switch}
    (off : r.switches h = switches.map fun s => { s with state := some false }) :
    (r.list h).data = some (Json.Value.list
        (switches.map fun s => switchValue { s with state := some false })).compact ∧
      (r.list h).response = some (if switches.isEmpty then "No switches configured"
        else String.intercalate "\n" (switches.map fun s => s.name ++ ": off")) := by
  have line (s : Switch) : s.name ++ ": " ++ "off" = s.name ++ ": off" := by
    rw [String.append_assoc]
    rfl
  constructor
  · simp only [list, off, List.map_map]
    rfl
  · simp only [list, off, List.map_map, Function.comp_def, stateText, line, List.isEmpty_map]
    rfl

end RfSwitch

/-- Names that no other switch of a table has. -/
def NamesDistinct (seed : List SwitchConfig) (switches : List Switch) : Prop :=
  (seed.map SwitchConfig.name).Nodup → (switches.map Switch.name).Nodup

theorem NamesDistinct.fresh (seed : List SwitchConfig) : NamesDistinct seed (seed.map Switch.ofConfig) := by
  intro distinct
  rw [List.map_map]
  exact distinct

theorem NamesDistinct.kept {seed : List SwitchConfig} {before after : List Switch}
    (h : NamesDistinct seed before) (turn : TableTurn seed before after) : NamesDistinct seed after := by
  intro distinct
  have names := h distinct
  cases turn with
  | recorded ran =>
      rw [map_name_recordAll]
      exact names
  | added s plain free => exact Switch.nodup_names_concat names free
  | removed name => exact names.sublist (List.filter_sublist.map Switch.name)
  | restarted => exact NamesDistinct.fresh seed distinct

/-- What is left of the table of a member when it has switched everything off. -/
structure SwitchedOff {R D : Type} [Radio R] (n : Nat) (member : RfSwitch) (before after : RadioRun R D) :
    Prop where
  stays : after.members[n]? = some member
  /-- An entry is off, unless an earlier one has its name: then it is as it was. -/
  entries : ∀ i, (member.switches after.hardware)[i]? =
    (member.switches before.hardware)[i]?.map (offAt (member.switches before.hardware) i)
  /-- So all are off exactly when each that is behind another of its name was. -/
  off_iff : (∀ s ∈ member.switches after.hardware, s.state = some false) ↔
    ∀ i s, (member.switches before.hardware)[i]? = some s →
      s.name ∈ ((member.switches before.hardware).take i).map Switch.name → s.state = some false
  /-- The names in the table are distinct if the names of its first switches were. -/
  names : NamesDistinct member.seed (member.switches before.hardware)
  /-- Then every entry is off, and a listing says so. -/
  off : (member.seed.map SwitchConfig.name).Nodup →
    member.switches after.hardware =
      (member.switches before.hardware).map fun s => { s with state := some false }
  listed : (member.seed.map SwitchConfig.name).Nodup → ∀ q : Payload, q.effectiveAction = "ListSwitches" →
    (member.process q after.hardware).1.data = some (Json.Value.list
        ((member.switches before.hardware).map fun s =>
          RfSwitch.switchValue { s with state := some false })).compact ∧
      (member.process q after.hardware).1.response =
        some (if (member.switches before.hardware).isEmpty then "No switches configured"
          else String.intercalate "\n"
            ((member.switches before.hardware).map fun s => s.name ++ ": off"))

namespace SwitchedOff

variable {R D : Type} [Radio R] {n : Nat} {member : RfSwitch} {before after : RadioRun R D}

theorem of_entries (stays : after.members[n]? = some member)
    (entries : ∀ i, (member.switches after.hardware)[i]? =
      (member.switches before.hardware)[i]?.map (offAt (member.switches before.hardware) i))
    (names : NamesDistinct member.seed (member.switches before.hardware)) :
    SwitchedOff n member before after := by
  have off (distinct : (member.seed.map SwitchConfig.name).Nodup) : member.switches after.hardware =
      (member.switches before.hardware).map fun s => { s with state := some false } := by
    refine List.ext_getElem? fun i => ?_
    rw [entries, List.getElem?_map]
    refine Option.map_congr fun s found => ?_
    exact if_neg (notMem_take_of_nodup (names distinct) found)
  refine ⟨stays, entries, ⟨fun all i s found shadowed => ?_, fun shadowed t listed => ?_⟩, names, off, ?_⟩
  · refine all s (List.mem_of_getElem? (i := i) ?_)
    rw [entries, found, Option.map_some, offAt, if_pos shadowed]
  · obtain ⟨i, there⟩ := List.mem_iff_getElem?.mp listed
    rw [entries, Option.map_eq_some_iff] at there
    obtain ⟨s, found, rfl⟩ := there
    rw [offAt]
    split
    case isTrue behind => exact shadowed i s found behind
    case isFalse => rfl
  intro distinct q action
  have lists : (member.process q after.hardware).1 = member.list after.hardware := by
    simp only [RfSwitch.process, action]
  rw [lists]
  exact RfSwitch.list_of_off (off distinct)

end SwitchedOff

section law

variable {R D : Type} [Radio R] {r : RadioRun R D} {n : Nat} {member : RfSwitch} {p : Payload}

/-- Asking for it queues the transmissions and leaves the member and its table. -/
theorem step_allOff (found : r.members[n]? = some member) (action : p.effectiveAction = "AllOff")
    (acknowledged : Announces (member.process p r.hardware).1) :
    (r.step (.request n p)).members[n]? = some member ∧
      member.switches (r.step (.request n p)).hardware = member.switches r.hardware := by
  obtain ⟨reply, asked⟩ : ∃ reply, member.process p r.hardware =
      (reply, member, r.hardware.queueing member.lease (member.offJobs r.hardware)) :=
    ⟨_, Prod.ext rfl (RfSwitch.process_allOff action acknowledged)⟩
  rw [RadioRun.step_request p found, asked]
  exact ⟨List.getElem?_set_self (List.getElem?_eq_some_iff.mp found).1, rfl⟩

/-- Once the transmissions for all switches are sent, behind whatever the member had waiting before. -/
theorem switches_of_all_sent (d : Distinct r) (found : r.members[n]? = some member)
    (action : p.effectiveAction = "AllOff") (acknowledged : Announces (member.process p r.hardware).1)
    {later : List RadioStep} (quiet : ∀ s ∈ later, ∀ q, s ≠ .request n q)
    {earlier : List (RadioJob × Transmission)}
    (sent : ranFor member.table ((r.step (.request n p)).since later) =
      earlier ++ (member.offJobs r.hardware).map fun job => (job, .sent)) :
    ((r.step (.request n p)).play later).members[n]? = some member ∧
      ∀ i, (member.switches ((r.step (.request n p)).play later).hardware)[i]? =
        (member.switches r.hardware)[i]?.map (offAt (member.switches r.hardware) i) := by
  obtain ⟨there, kept⟩ := step_allOff found action acknowledged
  obtain ⟨stays, switches⟩ := RadioRun.switches_play (d.step (.request n p)) there quiet
  refine ⟨stays, fun i => ?_⟩
  rw [switches, sent, recordAll_append, kept]
  refine getElem?_recordAll_all earlier ?_ ?_
  · intro job mem
    obtain ⟨queued, listed, rfl⟩ := List.mem_map.mp mem
    obtain ⟨s, -, rfl⟩ := List.mem_map.mp listed
    exact ⟨rfl, rfl⟩
  · rw [RfSwitch.offJobs, List.map_map, List.map_map]
    rfl

theorem all_off_law (radio : R) (dongle : D) (hasRadio hasDongle : Bool) (steps later : List RadioStep)
    (reached : r = (RadioRun.attached radio dongle hasRadio hasDongle).play steps)
    (found : r.members[n]? = some member) (action : p.effectiveAction = "AllOff")
    (acknowledged : Announces (member.process p r.hardware).1)
    (quiet : ∀ s ∈ later, ∀ q, s ≠ .request n q)
    (sent : ∃ earlier, ranFor member.table ((r.step (.request n p)).since later) =
      earlier ++ (member.offJobs r.hardware).map fun job => (job, .sent)) :
    SwitchedOff n member r ((r.step (.request n p)).play later) := by
  have d : Distinct r := reached ▸ (Distinct.attached radio dongle hasRadio hasDongle).play steps
  have tabled : Tabled NamesDistinct r :=
    reached ▸ Tabled.play NamesDistinct.fresh (fun _ _ _ h turn => h.kept turn) radio dongle hasRadio
      hasDongle steps
  obtain ⟨earlier, sent⟩ := sent
  obtain ⟨stays, entries⟩ := switches_of_all_sent d found action acknowledged quiet sent
  exact .of_entries stays entries (tabled n member found)

end law

/-- A lamp and a fan are switched off, and both transmissions are sent. -/
theorem lamp_and_fan_off :
    SwitchedOff 0 ⟨"c", [⟨"lamp", 1, 2⟩, ⟨"fan", 3, 4⟩], 0, 1, {}⟩ (oneMember [⟨"lamp", 1, 2⟩, ⟨"fan", 3, 4⟩])
      (((oneMember [⟨"lamp", 1, 2⟩, ⟨"fan", 3, 4⟩]).step (.request 0 (Payload.request "AllOff"))).play
        [.work, .work]) := by
  refine all_off_law {} () true false [.join "c" [⟨"lamp", 1, 2⟩, ⟨"fan", 3, 4⟩]] [.work, .work] rfl rfl rfl
    ⟨⟨"AllOff", by decide, rfl⟩, "AllOff on 2 switches…", by decide +kernel⟩ ?_ ⟨[], by decide +kernel⟩
  simp

/-- Two switches share the name lamp. -/
def twoLamps : RadioRun SimulatedRadio Unit :=
  oneMember [⟨"lamp", 1, 2⟩, ⟨"lamp", 3, 4⟩]

def twoLampsOff : RadioRun SimulatedRadio Unit :=
  (twoLamps.step (.request 0 (Payload.request "AllOff"))).play [.work, .work]

/-- Switching them off is acknowledged and both transmissions are sent, but the second is not listed as off. -/
theorem second_lamp_not_off :
    (twoLamps.members.map fun member =>
        (member.process (Payload.request "AllOff") twoLamps.hardware).1.response) =
        [some "Executing AllOff on 2 switches…"] ∧
      (ranIn twoLampsOff.log).map (fun ran => (ran.1.code, ran.2)) = [(2, .sent), (4, .sent)] ∧
      twoLampsOff.hardware.table 0 = [⟨"lamp", 1, 2, some false⟩, ⟨"lamp", 3, 4, none⟩] ∧
      (twoLampsOff.members.map fun member =>
        (member.process (Payload.request "ListSwitches") twoLampsOff.hardware).1.response) =
        [some "lamp: off\nlamp: unknown"] := by
  decide +kernel

end Switchboard
