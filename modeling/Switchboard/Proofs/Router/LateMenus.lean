import Switchboard.Device.Registry
import Switchboard.Proofs.Router.Conversation
import Switchboard.Proofs.Router.Replies

/-!
The menu of a message that a protocol sent on its own, in whatever state of the router it arrives. Only
the chosen protocol speaks for itself then; a message of any other protocol carries the chooser menu, also
while another one is chosen.
-/

namespace Switchboard

variable {W I : Type} [Protocol W I]

namespace Router

variable {r : Router W I}

/-- Only the menu of a late message changes. -/
theorem annotate_eq (r : Router W I) (p : Payload) :
    r.annotate p = { p with commands := (r.annotate p).commands } := by
  rw [annotate]
  cases r.activeKey with
  | none => rfl
  | some key =>
      by_cases own : key = p.key
      · subst own
        simp [Payload.decorate]
      · simp [own]

theorem commands_annotate_of_choosing (choosing : r.state = .choosing) (p : Payload) :
    (r.annotate p).commands = r.registry.menu := by
  rw [annotate, activeKey, choosing]

theorem commands_annotate_of_delegating {selector : String} {i : I}
    (chosen : r.state = .delegating selector) (held : r.instance? selector = some i) (p : Payload) :
    (r.annotate p).commands =
      if p.key = Protocol.key W i then delegateMenu p.commands else r.registry.menu := by
  rw [annotate, activeKey, chosen]
  simp only [held, Option.map_some]
  by_cases own : p.key = Protocol.key W i
  · rw [if_pos own, if_pos (beq_iff_eq.mpr own.symm)]
    rfl
  · rw [if_neg own, if_neg (mt beq_iff_eq.mp (Ne.symm own))]

/-- A reset is never passed on: it leads back to the chooser. -/
theorem process_reset (settled : r.Settled) {p : Payload} (reset : p.effectiveAction = Action.reset)
    (w : W) : (r.process p w).2.1.state = .choosing ∧ (r.process p w).2.2 = w := by
  have turn := turn_process p w settled
  generalize r.process p w = result at turn ⊢
  cases turn with
  | choice _ choosing choice =>
      have refuses : r.registry.selects p.effectiveAction = false := by
        rw [reset]
        rfl
      cases choice with
      | offered _ _ => exact ⟨choosing, rfl⟩
      | refused _ selects _ _ => exact absurd selects (Bool.eq_false_iff.mp refuses)
      | resumed _ selects _ => exact absurd selects (Bool.eq_false_iff.mp refuses)
      | started _ _ selects _ _ => exact absurd selects (Bool.eq_false_iff.mp refuses)
  | left _ _ _ _ _ => exact ⟨rfl, rfl⟩
  | reset _ _ _ _ other => exact absurd (reset.symm.trans other) (by decide)
  | asked _ _ _ _ other _ => exact absurd reset other

/-- A reply that leaves the router choosing has the chooser menu. -/
theorem commands_process_of_choosing (settled : r.Settled) {p : Payload} {w : W}
    (choosing : (r.process p w).2.1.state = .choosing) :
    (r.process p w).1.commands = r.registry.menu := by
  have outcome := outcome_process p w settled
  generalize r.process p w = result at outcome choosing
  obtain ⟨reply, r', w'⟩ := result
  cases outcome with
  | offered _ _ _ _ => rfl
  | answered _ _ _ _ _ _ state _ _ =>
      rw [choosing] at state
      cases state

/-- Every message that the router fits to its menu offers to reset, at the end and nowhere else. -/
theorem reset_annotate (settled : r.Settled) (p : Payload) :
    (r.annotate p).commands.count Action.reset = 1 ∧
      (r.annotate p).commands.getLast? = some Action.reset := by
  cases state : r.state with
  | choosing =>
      rw [commands_annotate_of_choosing state]
      exact ⟨count_reset_menu _, getLast?_menu _⟩
  | delegating selector =>
      obtain ⟨i, held⟩ := Option.isSome_iff_exists.mp (settled selector state)
      rw [commands_annotate_of_delegating state held]
      split
      · exact ⟨count_reset_delegateMenu _, getLast?_delegateMenu _⟩
      · exact ⟨count_reset_menu _, getLast?_menu _⟩

end Router

/-- What the menus of late messages keep to in a state of a router. -/
structure LateMenus (registry : Registry W I) (r : Router W I) : Prop where
  menu_only : ∀ p, r.annotate p = { p with commands := (r.annotate p).commands }
  choosing : r.state = .choosing → ∀ p, (r.annotate p).commands = registry.menu
  /-- A message with the key of the chosen protocol keeps its menu, with the two ways back behind it. -/
  delegating : ∀ selector, r.state = .delegating selector → ∃ i, r.instance? selector = some i ∧
    ∀ p, (r.annotate p).commands =
      if p.key = Protocol.key W i then
        p.commands.filter (fun c => c != Action.reset && c != Action.resetCurrent) ++
          [Action.resetCurrent, Action.reset]
      else registry.menu
  /-- A late message that finds the router choosing has the menu of the reply that led there. -/
  as_offered : ∀ q w reply r' w', r.process q w = (reply, r', w') → r'.state = .choosing →
    ∀ p, (r'.annotate p).commands = reply.commands
  /-- So has one of the chosen protocol, when it offers what the protocol's own reply offered. -/
  as_answered : ∀ q w reply r' w' selector, r.process q w = (reply, r', w') →
    r'.state = .delegating selector →
      ∃ own i, Answered r q w selector own ∧ r'.instance? selector = some i ∧
        ∀ p, p.key = Protocol.key W i → p.commands = own.commands →
          (r'.annotate p).commands = reply.commands
  /-- Every late message offers to reset, at the end and nowhere else. -/
  reset : ∀ p, (r.annotate p).commands.count Action.reset = 1 ∧
    (r.annotate p).commands.getLast? = some Action.reset
  /-- Whatever menu it carried, a reset leads to the chooser and no protocol hears of it. -/
  back : ∀ q w, q.effectiveAction = Action.reset →
    (r.process q w).2.1.state = .choosing ∧ (r.process q w).2.2 = w ∧
      (r.process q w).1.commands = registry.menu

theorem late_menus (registry : Registry W I) (connection : String) (calls : List (RouterCall W)) :
    LateMenus registry (Router.after { registry, connection } calls) := by
  obtain ⟨settled, same⟩ := Router.settled_after registry connection calls
  generalize Router.after { registry, connection } calls = r at settled same
  refine ⟨r.annotate_eq, ?_, ?_, ?_, ?_, Router.reset_annotate settled, ?_⟩
  · intro choosing p
    rw [Router.commands_annotate_of_choosing choosing, same]
  · intro selector chosen
    obtain ⟨i, held⟩ := Option.isSome_iff_exists.mp (settled selector chosen)
    refine ⟨i, held, fun p => ?_⟩
    rw [Router.commands_annotate_of_delegating chosen held, same]
    rfl
  · intro q w reply r' w' made choosing p
    have offers := Router.commands_process_of_choosing settled (p := q) (w := w)
    have registry := (Router.turn_process q w settled).registry_eq
    rw [made] at offers registry
    rw [Router.commands_annotate_of_choosing choosing, offers choosing, registry]
  · intro q w reply r' w' selector made chosen
    have outcome := Router.outcome_process q w settled
    rw [made] at outcome
    cases outcome with
    | offered _ _ state _ =>
        rw [chosen] at state
        cases state
    | answered other own _ _ answered commands state _ settled' =>
        obtain rfl : other = selector := RouterState.delegating.inj (state.symm.trans chosen)
        obtain ⟨i, held⟩ := Option.isSome_iff_exists.mp (settled' other chosen)
        refine ⟨own, i, answered, held, fun p key offers => ?_⟩
        rw [Router.commands_annotate_of_delegating chosen held, if_pos key, offers, commands]
  · intro q w reset
    obtain ⟨choosing, unchanged⟩ := Router.process_reset settled reset w
    exact ⟨choosing, unchanged, (Router.commands_process_of_choosing settled choosing).trans (same ▸ rfl)⟩

/-- A connection switches a lamp on, leaves the switches for jokes, and then the radio sends the code. -/
def leftBehind : Router (Hardware SimulatedRadio SimulatedDongle) Device ×
    Hardware SimulatedRadio SimulatedDongle :=
  let config : DeviceConfig := { rf := { switches := [⟨"lamp", 1, 2⟩] } }
  let router : Router (Hardware SimulatedRadio SimulatedDongle) Device :=
    { registry := config.registry, connection := "c" }
  let (router, hardware) := router.afterAll
    [.message (.request "RfSwitch"),
      .message { Payload.request "SwitchOn" with data := some "\x7b\"switch\":\"lamp\"\x7d" },
      .message (.request Action.reset), .message (.request "KnockKnock")] (.simulated config)
  (router, hardware.settleRadio)

/-- What the radio reports finds the jokes chosen and carries the chooser menu, without a way to reset
them. -/
theorem chooser_menu_beside_jokes :
    leftBehind.1.state = .delegating "KnockKnock" ∧
      ∃ p ∈ (leftBehind.2.takeOutbox "c").1, p.response = some "lamp is on" ∧
        (leftBehind.1.annotate p).commands = leftBehind.1.registry.menu ∧
        ¬[Action.resetCurrent, Action.reset] <:+ (leftBehind.1.annotate p).commands :=
  ⟨by decide +kernel, by decide +kernel⟩

end Switchboard
