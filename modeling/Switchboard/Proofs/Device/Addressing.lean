import Switchboard.Proofs.Argument.Readable
import Switchboard.Proofs.Device.TableTurns

/-!
Addressing switches by name. A name is looked up without the blanks around it, and a blank name is none, so
a request reaches the listed switches that have plain names and no others. Taught names are always plain;
those of the first switches are taken as they come.
-/

namespace Switchboard

open Json Json.Value

/-- Data that gives a name for the switch. -/
def GivesSwitch (data name : String) : Prop :=
  ∃ v, Conveys (Text.trim data) v ∧ v "switch" = some name

theorem givesSwitch_flat (name : String) :
    GivesSwitch (Value.object [("switch", .text name)]).compact name := by
  have read : readValue (Value.object [("switch", .text name)]).compact =
      .ok (.object [("switch", .text name)]) := by
    refine readValue_compact (.object fun member which => ?_)
    obtain rfl := List.mem_singleton.mp which
    exact .text name
  rw [GivesSwitch, trim_compact_object]
  exact ⟨_, .flat read rfl, rfl⟩

theorem givesSwitch_schema {s : ArgumentSchema} {name : String} (filled : s.get? "switch" = some name) :
    GivesSwitch s.toJson name := by
  obtain ⟨members, object, echoes⟩ := s.echoes_toValue
  have read : readValue s.toJson = .ok s.toValue := readValue_compact (s.nested 124)
  rw [GivesSwitch, s.trim_toJson]
  exact ⟨_, .echoed (object ▸ read) echoes, filled⟩

section negotiating

variable {data name : String}

theorem ready_of_givesSwitch (gives : GivesSwitch data name) (solid : Text.trim name ≠ "")
    (schema : ArgumentSchema) :
    Negotiation.negotiate (some data) schema = .ready (SwitchArguments.mk (Text.trim name)) := by
  obtain ⟨v, conveys, given⟩ := gives
  have settles : Settles (SwitchArguments.FilledBy v) schema (Negotiation.negotiate (some data) schema) :=
    negotiate_conveyed conveys schema
  refine (settles.ready _).mpr ⟨?_, solid⟩
  rw [given, Option.map_some]

theorem challenge_of_givesSwitch (gives : GivesSwitch data name) (blank : Text.trim name = "")
    (schema : ArgumentSchema) :
    (Negotiation.negotiate (some data) schema : Negotiation SwitchArguments) = .challenge schema := by
  obtain ⟨v, conveys, given⟩ := gives
  have settles : Settles (SwitchArguments.FilledBy v) schema (Negotiation.negotiate (some data) schema) :=
    negotiate_conveyed conveys schema
  refine settles.challenge ?_
  rintro ⟨a, supplied, solid⟩
  rw [given, Option.map_some, blank] at supplied
  exact solid (Option.some.inj supplied).symm

theorem plain_of_ready_switch {data : Option String} {schema : ArgumentSchema} {name : String}
    (ready : Negotiation.negotiate data schema = .ready (SwitchArguments.mk name)) : Text.Plain name := by
  obtain ⟨values, taken⟩ := exists_ofValues_of_ready ready
  exact (SwitchArguments.ofValues_eq_ok_iff.mp taken).plain

theorem switch_unique {data : Option String} {schema : ArgumentSchema} {name other : String}
    (ready : Negotiation.negotiate data schema = .ready (SwitchArguments.mk name))
    (ready' : Negotiation.negotiate data schema = .ready (SwitchArguments.mk other)) : name = other :=
  congrArg SwitchArguments.switch (Negotiation.ready.inj (ready.symm.trans ready'))

end negotiating

/-- The requests that name a switch. -/
def nameActions : List String :=
  ["SwitchOn", "SwitchOff", "RemoveSwitch"]

section turns

variable {R D : Type} {r : RfSwitch} {h : Hardware R D}

/-- A reply to an action that says a text. -/
structure Answers (reply : Payload) (action text : String) : Prop where
  action : reply.action = some action
  response : reply.response = some text

/-- What a request does that is executed on a switch. -/
inductive Executed (r : RfSwitch) (h : Hardware R D) (s : Switch) :
    String → Payload × RfSwitch × Hardware R D → Prop
  | switched {action : String} {on : Bool} {reply : Payload} (negotiator : Negotiator) :
    (action, on) ∈ [("SwitchOn", true), ("SwitchOff", false)] →
      Answers reply action ("Executing " ++ action ++ " " ++ s.name ++ "…") →
        Executed r h s action
          (reply, { r with negotiator }, h.queueing r.lease [r.job h action s.name (s.code on) on])
  | removed {reply : Payload} (negotiator : Negotiator) :
    Answers reply "RemoveSwitch" ("Removed switch " ++ s.name) →
      Executed r h s "RemoveSwitch"
        (reply, { r with negotiator }, h.setTable r.table ((r.switches h).filter fun t => t.name != s.name))

/-- What a request that names a switch can do. -/
inductive NamedTurn (r : RfSwitch) (h : Hardware R D) (action : String) (data : Option String)
    (schema : ArgumentSchema) : Payload × RfSwitch × Hardware R D → Prop
  | executed {s : Switch} {result : Payload × RfSwitch × Hardware R D} :
    Negotiation.negotiate data schema = .ready (SwitchArguments.mk s.name) →
      (r.switches h).find? (fun t => t.name == s.name) = some s → Executed r h s action result →
        NamedTurn r h action data schema result
  | unknown {name : String} {reply : Payload} (negotiator : Negotiator) :
    Negotiation.negotiate data schema = .ready (SwitchArguments.mk name) →
      (∀ s ∈ r.switches h, s.name ≠ name) → Answers reply action ("Unknown switch: " ++ name) →
        NamedTurn r h action data schema (reply, { r with negotiator }, h)
  | asked (negotiator : Negotiator) :
    Negotiation.negotiate data schema = (.challenge schema : Negotiation SwitchArguments) →
      NamedTurn r h action data schema
        (schema.challenge rfSwitchKey (r.commands h), { r with negotiator }, h)
  | unread {reply : Payload} {reason : String} (negotiator : Negotiator) :
    Negotiation.negotiate data schema = (.malformed reason : Negotiation SwitchArguments) →
      Answers reply action reason → NamedTurn r h action data schema (reply, { r with negotiator }, h)

variable {data : Option String} {schema : ArgumentSchema}

theorem Negotiation.schema_of_challenge {α : Type} [CommandArguments α] {asked : ArgumentSchema}
    (outcome : (Negotiation.negotiate data schema : Negotiation α) = .challenge asked) : asked = schema := by
  rw [negotiate] at outcome
  split at outcome
  · exact (challenge.inj outcome).symm
  · rw [ofData] at outcome
    split at outcome
    · cases outcome
    · split at outcome
      · cases outcome
      · exact (challenge.inj outcome).symm

theorem namedTurn_execute (ready : r.ready h = true) {action : String} {on : Bool}
    (switching : (action, on) ∈ [("SwitchOn", true), ("SwitchOff", false)]) {name : String}
    (outcome : Negotiation.negotiate data schema = .ready (SwitchArguments.mk name))
    (negotiator : Negotiator) :
    NamedTurn r h action data schema ((r.execute h action name on).1, { r with negotiator },
      (r.execute h action name on).2) := by
  rw [RfSwitch.execute]
  cases found : (r.switches h).find? fun s => s.name == name with
  | none =>
      refine .unknown negotiator outcome ?_ ⟨rfl, rfl⟩
      intro s listed same
      exact List.find?_eq_none.mp found s listed (beq_iff_eq.mpr same)
  | some s =>
      have named : s.name = name := by simpa using List.find?_some found
      subst named
      simp only [transmit_of_ready ready]
      exact .executed outcome found (.switched negotiator switching ⟨rfl, rfl⟩)

theorem namedTurn_switchTo (ready : r.ready h = true) {action : String} {on : Bool}
    (switching : (action, on) ∈ [("SwitchOn", true), ("SwitchOff", false)]) (data : Option String) :
    NamedTurn r h action data
      (SwitchArguments.schemaFor action (if on then "Turn a switch on" else "Turn a switch off")
        (r.defaultSwitch h))
      (r.switchTo h action on data) := by
  rw [RfSwitch.switchTo, ready]
  generalize (if on then "Turn a switch on" else "Turn a switch off") = description
  simp only [Bool.not_true, Bool.false_eq_true, if_false, Negotiator.negotiate]
  split
  · next arguments outcome => exact namedTurn_execute ready switching outcome _
  · next schema outcome =>
      obtain rfl := Negotiation.schema_of_challenge outcome
      exact .asked _ outcome
  · next reason outcome => exact .unread _ outcome ⟨rfl, rfl⟩

theorem namedTurn_erase {name : String}
    (outcome : Negotiation.negotiate data schema = .ready (SwitchArguments.mk name))
    {unknown removed : Payload} (unknown_said : Answers unknown "RemoveSwitch" ("Unknown switch: " ++ name))
    (removed_said : Answers removed "RemoveSwitch" ("Removed switch " ++ name)) (negotiator : Negotiator) :
    NamedTurn r h "RemoveSwitch" data schema
      (if ((r.switches h).filter fun s => s.name != name).length == (r.switches h).length then
        (unknown, { r with negotiator }, h)
      else (removed, { r with negotiator },
        h.setTable r.table ((r.switches h).filter fun s => s.name != name))) := by
  cases found : (r.switches h).find? fun s => s.name == name with
  | none =>
      have others (s : Switch) (listed : s ∈ r.switches h) : s.name ≠ name := fun same =>
        List.find?_eq_none.mp found s listed (beq_iff_eq.mpr same)
      have kept : ((r.switches h).filter fun s => s.name != name) = r.switches h :=
        List.filter_eq_self.mpr fun s listed => bne_iff_ne.mpr (others s listed)
      rw [kept, BEq.rfl, if_pos rfl]
      exact .unknown negotiator outcome others unknown_said
  | some s =>
      have named : s.name = name := by simpa using List.find?_some found
      subst named
      have fewer : ((r.switches h).filter fun t => t.name != s.name).length < (r.switches h).length :=
        List.length_filter_lt_length_iff_exists.mpr ⟨s, List.mem_of_find?_eq_some found, by simp⟩
      rw [if_neg (by simpa using Nat.ne_of_lt fewer)]
      exact .executed outcome found (.removed negotiator removed_said)

theorem namedTurn_remove (data : Option String) :
    NamedTurn r h "RemoveSwitch" data
      (SwitchArguments.schemaFor "RemoveSwitch" "Forget a switch" (r.defaultSwitch h))
      (r.remove h data) := by
  rw [RfSwitch.remove]
  simp only [Negotiator.negotiate]
  split
  · next schema outcome =>
      obtain rfl := Negotiation.schema_of_challenge outcome
      exact .asked _ outcome
  · next reason outcome => exact .unread _ outcome ⟨rfl, rfl⟩
  · next arguments outcome => exact namedTurn_erase outcome ⟨rfl, rfl⟩ ⟨rfl, rfl⟩ _

/-- While the radio is ready, a request that names a switch takes such a turn, with a schema whose default is
the first switch. -/
theorem namedTurn_process (ready : r.ready h = true) {p : Payload} (named : p.effectiveAction ∈ nameActions) :
    ∃ description, NamedTurn r h p.effectiveAction p.data
      (SwitchArguments.schemaFor p.effectiveAction description (r.defaultSwitch h)) (r.process p h) := by
  rw [RfSwitch.process]
  simp only [nameActions, List.mem_cons, List.not_mem_nil, or_false] at named
  rcases named with action | action | action
  · rw [action]
    exact ⟨_, namedTurn_switchTo ready (by simp) p.data⟩
  · rw [action]
    exact ⟨_, namedTurn_switchTo ready (by simp) p.data⟩
  · rw [action]
    exact ⟨_, namedTurn_remove p.data⟩

/-- Every request that gives a name is executed on the first switch that has it. -/
def Addressed (r : RfSwitch) (h : Hardware R D) (name : String) : Prop :=
  ∀ (p : Payload) (data : String), p.effectiveAction ∈ nameActions → p.data = some data →
    GivesSwitch data name → ∃ s, (r.switches h).find? (fun t => t.name == name) = some s ∧
      Executed r h s p.effectiveAction (r.process p h)

theorem addressed_of_plain (ready : r.ready h = true) {s : Switch} (listed : s ∈ r.switches h)
    (plain : Text.Plain s.name) : Addressed r h s.name := by
  intro p data named given gives
  obtain ⟨description, turn⟩ := namedTurn_process ready named
  have solid : Text.trim s.name ≠ "" := plain.1.symm ▸ plain.2
  have ready' := ready_of_givesSwitch gives solid
    (SwitchArguments.schemaFor p.effectiveAction description (r.defaultSwitch h))
  rw [plain.1, ← given] at ready'
  generalize r.process p h = result at turn ⊢
  cases turn with
  | @executed first _ outcome found executed =>
      exact ⟨first, switch_unique outcome ready' ▸ found, executed⟩
  | unknown _ outcome others => exact absurd (switch_unique ready' outcome) (others s listed)
  | asked _ outcome => cases ready'.symm.trans outcome
  | unread _ outcome => cases ready'.symm.trans outcome

/-- A name that no switch has without the blanks around it is unknown, and nothing changes. -/
theorem unknown_of_givesSwitch (ready : r.ready h = true) {p : Payload}
    (named : p.effectiveAction ∈ nameActions) {data name : String} (given : p.data = some data)
    (gives : GivesSwitch data name) (solid : Text.trim name ≠ "")
    (others : ∀ s ∈ r.switches h, s.name ≠ Text.trim name) :
    (r.process p h).1.response = some ("Unknown switch: " ++ Text.trim name) ∧
      (r.process p h).2.2 = h := by
  obtain ⟨description, turn⟩ := namedTurn_process ready named
  have ready' := ready_of_givesSwitch gives solid
    (SwitchArguments.schemaFor p.effectiveAction description (r.defaultSwitch h))
  rw [← given] at ready'
  generalize r.process p h = result at turn ⊢
  cases turn with
  | @executed first _ outcome found =>
      exact absurd (switch_unique outcome ready') (others first (List.mem_of_find?_eq_some found))
  | unknown _ outcome _ said => exact ⟨switch_unique outcome ready' ▸ said.response, rfl⟩
  | asked _ outcome => cases ready'.symm.trans outcome
  | unread _ outcome => cases ready'.symm.trans outcome

/-- Where the data does not settle it, the switch is asked for, and nothing changes. -/
theorem asked_of_challenge (ready : r.ready h = true) {p : Payload} (named : p.effectiveAction ∈ nameActions)
    (asks : ∀ schema, Negotiation.negotiate p.data schema = (.challenge schema : Negotiation SwitchArguments)) :
    (r.process p h).1.action = some Action.commandInfo ∧ (r.process p h).2.2 = h := by
  obtain ⟨description, turn⟩ := namedTurn_process ready named
  have challenge := asks (SwitchArguments.schemaFor p.effectiveAction description (r.defaultSwitch h))
  generalize r.process p h = result at turn ⊢
  cases turn with
  | executed outcome => cases challenge.symm.trans outcome
  | unknown _ outcome => cases challenge.symm.trans outcome
  | asked => exact ⟨rfl, rfl⟩
  | unread _ outcome => cases challenge.symm.trans outcome

/-- No request that names a switch concerns one whose name is not plain. -/
theorem left_of_not_plain (ready : r.ready h = true) (bound : r.table < h.tables.length) {s : Switch}
    (listed : s ∈ r.switches h) (odd : ¬Text.Plain s.name) {p : Payload}
    (named : p.effectiveAction ∈ nameActions) :
    s ∈ (r.process p h).2.1.switches (r.process p h).2.2 ∧
      ∀ w ∈ (r.process p h).2.2.radioQueue.waiting, w ∈ h.radioQueue.waiting ∨ w.job.switch ≠ s.name := by
  obtain ⟨description, turn⟩ := namedTurn_process ready named
  generalize p.effectiveAction = action, r.process p h = result at turn ⊢
  cases turn with
  | @executed first _ outcome found executed =>
      have apart : s.name ≠ first.name := fun same => odd (same ▸ plain_of_ready_switch outcome)
      cases executed with
      | switched =>
          refine ⟨listed, fun w waits => ?_⟩
          rcases List.mem_append.mp waits with old | new
          · exact .inl old
          · rw [List.map_singleton, List.mem_singleton] at new
            exact .inr (new ▸ apart.symm)
      | removed =>
          refine ⟨?_, fun w waits => .inl waits⟩
          change s ∈ (h.setTable r.table _).table r.table
          rw [Hardware.table_setTable_self _ bound]
          exact List.mem_filter.mpr ⟨listed, bne_iff_ne.mpr apart⟩
  | unknown => exact ⟨listed, fun w waits => .inl waits⟩
  | asked => exact ⟨listed, fun w waits => .inl waits⟩
  | unread => exact ⟨listed, fun w waits => .inl waits⟩

theorem Executed.action {s : Switch} {action : String} {result : Payload × RfSwitch × Hardware R D}
    (executed : Executed r h s action result) : result.1.action = some action := by
  cases executed with
  | switched _ _ said => exact said.action
  | removed _ said => exact said.action

/-- The default of a challenge that is sent back unchanged is executed on the first switch. -/
theorem executed_of_default (ready : r.ready h = true) {first : Switch} {rest : List Switch}
    (table : r.switches h = first :: rest) (plain : Text.Plain first.name) {p : Payload}
    (named : p.effectiveAction ∈ nameActions) (asks : (r.process p h).1.action = some Action.commandInfo) :
    ∃ json received next, (r.process p h).1.data = some json ∧ (r.process p h).2 = (next, h) ∧
      ArgumentSchema.ofJson json = .ok received ∧
      Executed next h first p.effectiveAction (next.process (received.resubmission []) h) := by
  obtain ⟨description, turn⟩ := namedTurn_process ready named
  have default : r.defaultSwitch h = first.name := by rw [RfSwitch.defaultSwitch, table]; rfl
  have apart : some p.effectiveAction ≠ some Action.commandInfo := by
    intro same
    rw [Option.some.inj same] at named
    exact absurd named (by decide)
  generalize r.process p h = result at turn asks ⊢
  cases turn with
  | executed _ _ executed => exact absurd (executed.action.symm.trans asks) apart
  | unknown _ _ _ said => exact absurd (said.action.symm.trans asks) apart
  | unread _ _ said => exact absurd (said.action.symm.trans asks) apart
  | asked negotiator =>
      let next : RfSwitch := { r with negotiator }
      let offered := SwitchArguments.schemaFor p.effectiveAction description (r.defaultSwitch h)
      have addressed : Addressed next h first.name :=
        addressed_of_plain (r := next) ready (table ▸ List.mem_cons_self) plain
      have gives : GivesSwitch offered.toJson first.name := givesSwitch_schema (congrArg some default)
      obtain ⟨s, found, executed⟩ := addressed (offered.resubmission []) _ named rfl gives
      have same : (r.switches h).find? (fun t => t.name == first.name) = some first := by
        rw [table]
        exact List.find?_cons_of_pos BEq.rfl
      obtain rfl : s = first := Option.some.inj (found.symm.trans same)
      exact ⟨_, offered, next, rfl, rfl, offered.ofJson_toJson, executed⟩

end turns

/-- A listed name is plain, or it is one of the first switches'. -/
def NamesPlain (seed : List SwitchConfig) (switches : List Switch) : Prop :=
  ∀ name ∈ switches.map Switch.name, Text.Plain name ∨ name ∈ seed.map SwitchConfig.name

theorem NamesPlain.fresh (seed : List SwitchConfig) : NamesPlain seed (seed.map Switch.ofConfig) := by
  intro name listed
  rw [List.map_map] at listed
  exact .inr listed

theorem NamesPlain.kept {seed : List SwitchConfig} {before after : List Switch}
    (h : NamesPlain seed before) (turn : TableTurn seed before after) : NamesPlain seed after := by
  intro name listed
  cases turn with
  | recorded ran =>
      rw [map_name_recordAll] at listed
      exact h name listed
  | added s plain free =>
      rw [List.map_append, List.mem_append, List.map_singleton, List.mem_singleton] at listed
      rcases listed with old | rfl
      · exact h name old
      · exact .inl plain
  | removed other => exact h name ((List.filter_sublist.map Switch.name).subset listed)
  | restarted => exact NamesPlain.fresh seed name listed

/-- How the switches of an instance are addressed while its radio is ready. -/
structure Addressing {R D : Type} (r : RfSwitch) (h : Hardware R D) : Prop where
  /-- A name is given as a member of an object or as the entry of a schema. -/
  flat : ∀ name, GivesSwitch (Value.object [("switch", .text name)]).compact name
  filled : ∀ (s : ArgumentSchema) (name : String), s.get? "switch" = some name → GivesSwitch s.toJson name
  names : NamesPlain r.seed (r.switches h)
  plain : ∀ s ∈ r.switches h, Text.Plain s.name → Addressed r h s.name
  /-- With plain names for the first switches, every listed switch is addressed. -/
  all : (∀ config ∈ r.seed, Text.Plain config.name) → ∀ s ∈ r.switches h, Addressed r h s.name
  /-- A switch whose name is not plain stays listed, and no transmission is queued for it. -/
  odd : ∀ s ∈ r.switches h, ¬Text.Plain s.name → ∀ p : Payload, p.effectiveAction ∈ nameActions →
    s ∈ (r.process p h).2.1.switches (r.process p h).2.2 ∧
      ∀ w ∈ (r.process p h).2.2.radioQueue.waiting, w ∈ h.radioQueue.waiting ∨ w.job.switch ≠ s.name
  /-- Without a name, or with a blank one, the switch is asked for. -/
  asked : ∀ p : Payload, p.effectiveAction ∈ nameActions → p.data = none →
    (r.process p h).1.action = some Action.commandInfo ∧ (r.process p h).2.2 = h
  blank : ∀ (p : Payload) (data name : String), p.effectiveAction ∈ nameActions → p.data = some data →
    GivesSwitch data name → Text.trim name = "" →
      (r.process p h).1.action = some Action.commandInfo ∧ (r.process p h).2.2 = h
  /-- A name is unknown unless a switch has it without the blanks around it. -/
  unknown : ∀ (p : Payload) (data name : String), p.effectiveAction ∈ nameActions → p.data = some data →
    GivesSwitch data name → Text.trim name ≠ "" → (∀ s ∈ r.switches h, s.name ≠ Text.trim name) →
      (r.process p h).1.response = some ("Unknown switch: " ++ Text.trim name) ∧
        (r.process p h).2.2 = h
  /-- The default of a challenge is the first switch, and sent back unchanged it is executed on it. -/
  default : ∀ (first : Switch) (rest : List Switch), r.switches h = first :: rest →
    Text.Plain first.name → ∀ p : Payload, p.effectiveAction ∈ nameActions →
      (r.process p h).1.action = some Action.commandInfo →
      ∃ json received next, (r.process p h).1.data = some json ∧ (r.process p h).2 = (next, h) ∧
        ArgumentSchema.ofJson json = .ok received ∧
        Executed next h first p.effectiveAction (next.process (received.resubmission []) h)

theorem addressing_law {R D : Type} [Radio R] {r : RadioRun R D} {n : Nat} {member : RfSwitch} (radio : R)
    (dongle : D) (hasRadio hasDongle : Bool) (steps : List RadioStep)
    (reached : r = (RadioRun.attached radio dongle hasRadio hasDongle).play steps)
    (found : r.members[n]? = some member) (ready : member.ready r.hardware = true) :
    Addressing member r.hardware := by
  have d : Distinct r := reached ▸ (Distinct.attached radio dongle hasRadio hasDongle).play steps
  have bound := d.member_table_lt found
  have tabled : Tabled NamesPlain r :=
    reached ▸ Tabled.play NamesPlain.fresh (fun _ _ _ h turn => h.kept turn) radio dongle hasRadio hasDongle
      steps
  have names := tabled n member found
  refine ⟨givesSwitch_flat, fun _ _ => givesSwitch_schema, names, fun s => addressed_of_plain ready, ?_,
    fun s listed odd p => left_of_not_plain ready bound listed odd, ?_, ?_, ?_, ?_⟩
  · intro plain s listed
    refine addressed_of_plain ready listed ?_
    rcases names s.name (List.mem_map_of_mem listed) with already | first
    · exact already
    · obtain ⟨config, seeded, same⟩ := List.mem_map.mp first
      exact same ▸ plain config seeded
  · intro p named none
    refine asked_of_challenge ready named fun schema => ?_
    rw [none]
    rfl
  · intro p data name named given gives blank
    refine asked_of_challenge ready named fun schema => ?_
    rw [given]
    exact challenge_of_givesSwitch gives blank schema
  · intro p data name named given gives
    exact unknown_of_givesSwitch ready named given gives
  · intro first rest table plain p named asks
    exact executed_of_default ready table plain named asks

/-- A lamp that has just been set up. -/
theorem lamp_addressed :
    Addressing ⟨"c", [⟨"lamp", 1, 2⟩], 0, 1, {}⟩ (oneMember [⟨"lamp", 1, 2⟩]).hardware :=
  addressing_law {} () true false [.join "c" [⟨"lamp", 1, 2⟩]] (n := 0) rfl rfl (by decide)

/-- A lamp is listed with a blank before its name. Given exactly this name, which is also the default that
is offered for it, the switch is unknown. -/
theorem padded_lamp_unknown :
    let padded := oneMember [⟨" lamp", 1, 2⟩]
    let data := "\x7b\"switch\":\" lamp\"\x7d"
    GivesSwitch data " lamp" ∧
      (padded.members.map fun member => (member.ready padded.hardware,
        (member.switches padded.hardware).map Switch.name, member.defaultSwitch padded.hardware,
        (member.process { Payload.request "SwitchOn" with data := some data } padded.hardware).1.response)) =
        [(true, [" lamp"], " lamp", some "Unknown switch: lamp")] := by
  have text : (Value.object [("switch", .text " lamp")]).compact = "\x7b\"switch\":\" lamp\"\x7d" := by
    decide
  exact ⟨text ▸ givesSwitch_flat " lamp", by decide +kernel⟩

end Switchboard
