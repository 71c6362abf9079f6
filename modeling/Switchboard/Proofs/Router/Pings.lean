import Mathlib.Data.List.Nodup
import Switchboard.Proofs.Router.Incoming
import Switchboard.Proofs.Router.Turns

/-!
Pings leave a router as it is, when its protocols answer them without a trace and each selector has at
most one instance. The answer is no goodbye while every instance is calm: it would not answer a ping with
a goodbye.
-/

namespace Switchboard

variable {W I : Type} [Protocol W I]

/-- How instances take pings. -/
structure Restful (registry : Registry W I) (Calm : I → Prop) : Prop where
  ping : ∀ i p (w : W), Calm i → p.isPing = true →
    ∃ reply, Protocol.process i p w = (reply, i, w) ∧ reply.isTerminal = false
  /-- Whoever has not said goodbye is calm. -/
  kept : ∀ i p (w : W), (Protocol.process i p w).1.isTerminal = false →
    Calm (Protocol.process i p w).2.1
  reset : ∀ i p (w : W), p.effectiveAction = Action.reset → Calm (Protocol.process i p w).2.1
  built : ∀ selector name (w : W) i w', registry.build selector name w = .ok (i, w') → Calm i

namespace Router

/-- A router of calm instances, one for each selector. -/
structure Patient (registry : Registry W I) (Calm : I → Prop) (r : Router W I) : Prop where
  settled : r.Settled
  registry_eq : r.registry = registry
  names : (r.instances.map Prod.fst).Nodup
  calm : ∀ entry ∈ r.instances, Calm entry.2

section instances

omit [Protocol W I]

variable {r : Router W I} {selector : String} {i : I}

theorem mem_instances (held : r.instance? selector = some i) : (selector, i) ∈ r.instances := by
  rw [instance?, List.lookup_eq_some_iff] at held
  obtain ⟨before, after, split, _⟩ := held
  rw [split]
  exact List.mem_append_right _ List.mem_cons_self

theorem notMem_names (absent : r.instance? selector = none) :
    selector ∉ r.instances.map Prod.fst := by
  intro mem
  obtain ⟨entry, held, rfl⟩ := List.mem_map.mp mem
  rw [instance?, List.lookup_eq_none_iff] at absent
  exact bne_iff_ne.mp (absent entry held) rfl

theorem setInstance_same (names : (r.instances.map Prod.fst).Nodup)
    (held : r.instance? selector = some i) : r.setInstance selector i = r := by
  have same : (r.instances.map fun entry => if entry.1 == selector then (selector, i) else entry) =
      r.instances := by
    refine (List.map_congr_left ?_).trans (List.map_id r.instances)
    intro entry mem
    split
    case isTrue named =>
      obtain rfl : entry.1 = selector := beq_iff_eq.mp named
      exact List.inj_on_of_nodup_map names (mem_instances held) mem rfl
    case isFalse => rfl
  rw [setInstance, same]

theorem names_setInstance (r : Router W I) (selector : String) (i : I) :
    (r.setInstance selector i).instances.map Prod.fst = r.instances.map Prod.fst := by
  rw [setInstance, List.map_map]
  refine List.map_congr_left ?_
  intro entry mem
  simp only [Function.comp]
  split
  case isTrue named => exact (beq_iff_eq.mp named).symm
  case isFalse => rfl

theorem mem_setInstance {entry : String × I} (mem : entry ∈ (r.setInstance selector i).instances) :
    entry = (selector, i) ∨ entry ∈ r.instances := by
  obtain ⟨old, held, rfl⟩ := List.mem_map.mp mem
  split
  case isTrue => exact .inl rfl
  case isFalse => exact .inr held

theorem forall_setInstance {P : I → Prop} (instances : ∀ entry ∈ r.instances, P entry.2) (selector : String)
    {i : I} (good : P i) : ∀ entry ∈ (r.setInstance selector i).instances, P entry.2 := by
  intro entry mem
  rcases mem_setInstance mem with rfl | old
  · exact good
  · exact instances entry old

theorem forall_addInstance {P : I → Prop} (instances : ∀ entry ∈ r.instances, P entry.2) (selector : String)
    {i : I} (good : P i) : ∀ entry ∈ (r.addInstance selector i).instances, P entry.2 := by
  intro entry mem
  rcases List.mem_append.mp mem with old | new
  · exact instances entry old
  · rw [List.mem_singleton.mp new]
    exact good

/-- What an instance becomes keeps the router patient while it is calm. -/
theorem Patient.setInstance {Calm : I → Prop} (names : (r.instances.map Prod.fst).Nodup)
    (calm : ∀ entry ∈ r.instances, Calm entry.2) (selector : String) {i : I} (calmed : Calm i) :
    ((r.setInstance selector i).instances.map Prod.fst).Nodup ∧
      ∀ entry ∈ (r.setInstance selector i).instances, Calm entry.2 := by
  exact ⟨(names_setInstance r selector i).symm ▸ names, forall_setInstance calm selector calmed⟩

theorem Patient.addInstance {registry : Registry W I} {Calm : I → Prop}
    (patient : Patient registry Calm r) {selector : String} {i : I}
    (absent : r.instance? selector = none) (calmed : Calm i) :
    ((r.addInstance selector i).instances.map Prod.fst).Nodup ∧
      ∀ entry ∈ (r.addInstance selector i).instances, Calm entry.2 := by
  refine ⟨?_, forall_addInstance patient.calm selector calmed⟩
  rw [Router.addInstance, List.map_append]
  exact patient.names.append (List.nodup_singleton _)
    (List.disjoint_singleton.mpr (notMem_names absent))

end instances

namespace Patient

variable {registry : Registry W I} {Calm : I → Prop} {r : Router W I}

theorem process_ping (patient : Patient registry Calm r) (restful : Restful registry Calm) {p : Payload}
    (ping : p.isPing = true) (w : W) :
    ∃ reply, r.process p w = (reply, r, w) ∧ reply.isTerminal = false := by
  have action : p.effectiveAction = Action.ping := beq_iff_eq.mp ping
  cases state : r.state with
  | choosing =>
      refine ⟨r.chooserReply "Choose a protocol", ?_, rfl⟩
      rw [Router.process, state]
      simp only [choose, action]
      rfl
  | delegating selector =>
      obtain ⟨i, held⟩ := Option.isSome_iff_exists.mp (patient.settled selector state)
      obtain ⟨reply, answered, still⟩ := restful.ping i p w (patient.calm _ (mem_instances held)) ping
      refine ⟨reply.decorate (Protocol.key W i), ?_, still⟩
      have noReset : (Action.ping == Action.reset) = false := by decide
      have noResetCurrent : (Action.ping == Action.resetCurrent) = false := by decide
      rw [Router.process, state]
      simp only [delegate, held, action, noReset, noResetCurrent, answered,
        setInstance_same patient.names held]
      rfl

theorem process (patient : Patient registry Calm r) (restful : Restful registry Calm) {p : Payload}
    {w : W} (still : (r.process p w).1.isTerminal = false) :
    Patient registry Calm (r.process p w).2.1 := by
  have turn := turn_process p w patient.settled
  suffices held : ((r.process p w).2.1.instances.map Prod.fst).Nodup ∧
      ∀ entry ∈ (r.process p w).2.1.instances, Calm entry.2 from
    ⟨settled_process p w patient.settled, turn.registry_eq.trans patient.registry_eq, held.1, held.2⟩
  -- An instance that is greeted has been pinged, so it is what it was.
  have greeted {i : I} (calmed : Calm i) (v : W) :
      Calm (Protocol.process i { Payload.ping with key := Protocol.key W i } v).2.1 := by
    obtain ⟨reply, answered, -⟩ := restful.ping i { Payload.ping with key := Protocol.key W i } v calmed rfl
    rw [answered]
    exact calmed
  generalize r.process p w = result at turn still ⊢
  cases turn with
  | choice _ _ choice =>
      cases choice with
      | offered _ _ => exact ⟨patient.names, patient.calm⟩
      | refused _ _ _ _ => exact ⟨patient.names, patient.calm⟩
      | resumed i _ held =>
          have calmed := patient.calm _ (mem_instances held)
          exact setInstance patient.names patient.calm _ (greeted calmed w)
      | started i w' _ absent built =>
          rw [patient.registry_eq] at built
          have calmed := restful.built _ _ _ _ _ built
          obtain ⟨names, calm⟩ := patient.addInstance absent calmed
          exact setInstance names calm _ (greeted calmed w')
  | left _ _ _ _ _ => exact ⟨patient.names, patient.calm⟩
  | reset selector i _ _ _ =>
      exact setInstance patient.names patient.calm selector (restful.reset i _ w rfl)
  | asked selector i _ _ _ _ =>
      exact setInstance patient.names patient.calm selector (restful.kept i p w still)

end Patient

theorem unmoved_of_restful {registry : Registry W I} {Calm : I → Prop}
    (restful : Restful registry Calm) : Unmoved (Patient registry Calm) where
  ping _ _ w patient ping := patient.process_ping restful ping w
  kept _ _ _ patient still := patient.process restful still

end Router

end Switchboard
