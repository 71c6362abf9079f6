import Switchboard.Proofs.Router.Turns

/-!
The reply contract of a router, for every registry and every way its protocols answer. A chosen
protocol always has its instance; a reply carries the chooser menu or the menu of the chosen protocol
between the two ways back, and offers to reset exactly once, at the end.
-/

namespace Switchboard

variable {W I : Type} [Protocol W I]

/-- The menu of a protocol as a router passes it on. -/
def delegateMenu (commands : List String) : List String :=
  commands.filter (fun c => c != Action.reset && c != Action.resetCurrent) ++
    [Action.resetCurrent, Action.reset]

/-- The protocol's own reply to a request that a router passes on or makes when a protocol is chosen. -/
inductive Answered (r : Router W I) (p : Payload) (w : W) : String → Payload → Prop
  | delegated (selector : String) (i : I) :
    r.state = .delegating selector → r.instance? selector = some i →
      Answered r p w selector (Protocol.process i p w).1
  | resumed (i : I) :
    r.state = .choosing → r.instance? p.effectiveAction = some i →
      Answered r p w p.effectiveAction
        (Protocol.process i { Payload.ping with key := Protocol.key W i } w).1
  | started (i : I) (w' : W) :
    r.state = .choosing → r.instance? p.effectiveAction = none →
      r.registry.build p.effectiveAction r.connection w = .ok (i, w') →
        Answered r p w p.effectiveAction
          (Protocol.process i { Payload.ping with key := Protocol.key W i } w').1

namespace Router

inductive Outcome (r : Router W I) (p : Payload) (w : W) : Payload → Router W I → Prop
  | offered (response : String) (r' : Router W I) :
    r'.state = .choosing → r'.registry = r.registry → Outcome r p w (r.chooserReply response) r'
  | answered (selector : String) (own reply : Payload) (r' : Router W I) :
    Answered r p w selector own → reply.commands = delegateMenu own.commands →
      r'.state = .delegating selector → r'.registry = r.registry → r'.Settled →
        Outcome r p w reply r'

theorem outcome_process {r : Router W I} (p : Payload) (w : W) (settled : r.Settled) :
    Outcome r p w (r.process p w).1 (r.process p w).2.1 := by
  have turn := turn_process p w settled
  have settled' := settled_process p w settled
  generalize r.process p w = result at turn settled' ⊢
  cases turn with
  | choice _ choosing choice =>
      cases choice with
      | offered response _ => exact .offered response r choosing rfl
      | refused _ _ _ _ => exact .offered _ r choosing rfl
      | resumed i _ held => exact .answered _ _ _ _ (.resumed i choosing held) rfl rfl rfl settled'
      | started i w' _ absent built =>
          exact .answered _ _ _ _ (.started i w' choosing absent built) rfl rfl rfl settled'
  | left _ _ _ _ _ => exact .offered _ _ rfl rfl
  | reset _ _ _ _ _ => exact .offered _ _ rfl rfl
  | asked selector i state held _ _ =>
      exact .answered selector _ _ _ (.delegated selector i state held) rfl state rfl settled'

end Router

theorem count_reset_delegateMenu (commands : List String) :
    (delegateMenu commands).count Action.reset = 1 := by
  have none : (commands.filter fun c => c != Action.reset && c != Action.resetCurrent).count
      Action.reset = 0 := by
    rw [List.count_eq_zero]
    simp
  rw [delegateMenu, List.count_append, none]
  decide

theorem getLast?_delegateMenu (commands : List String) :
    (delegateMenu commands).getLast? = some Action.reset := by
  simp [delegateMenu]

/-- What every reply of a router keeps to. -/
structure ReplyContract (registry : Registry W I) (r : Router W I) : Prop where
  /-- The chosen protocol has an instance. -/
  settled : ∀ selector, r.state = .delegating selector → ∃ i, r.instance? selector = some i
  /-- Whoever still has to choose gets the chooser menu. -/
  choosing : ∀ p w reply r' w', r.process p w = (reply, r', w') → r'.state = .choosing →
    reply.key = routerKey ∧ reply.action = some Action.chooser ∧ reply.commands = registry.menu
  /-- Whoever has chosen gets the menu of the protocol's own reply, then the two ways back. -/
  delegating : ∀ p w reply r' w' selector, r.process p w = (reply, r', w') →
    r'.state = .delegating selector →
      ∃ own, Answered r p w selector own ∧
        reply.commands =
          own.commands.filter (fun c => c != Action.reset && c != Action.resetCurrent) ++
            [Action.resetCurrent, Action.reset]
  /-- Every reply offers to reset, at the end and nowhere else. -/
  reset : ∀ p w reply r' w', r.process p w = (reply, r', w') →
    reply.commands ≠ [] ∧ reply.commands.count Action.reset = 1 ∧
      reply.commands.getLast? = some Action.reset

/-- The contract holds after all calls, whatever the protocols answer and whichever cannot be built. -/
theorem reply_contract (registry : Registry W I) (connection : String)
    (calls : List (RouterCall W)) :
    ReplyContract registry (Router.after { registry, connection } calls) := by
  obtain ⟨settled, same⟩ := Router.settled_after registry connection calls
  generalize Router.after { registry, connection } calls = r at settled same
  refine ⟨?_, ?_, ?_, ?_⟩
  · intro selector chosen
    exact Option.isSome_iff_exists.mp (settled selector chosen)
  · intro p w reply r' w' made choosing
    have outcome := Router.outcome_process p w settled
    rw [made] at outcome
    cases outcome with
    | offered response _ _ _ => exact ⟨rfl, rfl, same ▸ rfl⟩
    | answered _ _ _ _ _ _ state _ _ =>
        rw [choosing] at state
        cases state
  · intro p w reply r' w' selector made chosen
    have outcome := Router.outcome_process p w settled
    rw [made] at outcome
    cases outcome with
    | offered _ _ state _ =>
        rw [chosen] at state
        cases state
    | answered other own _ _ answered commands state _ _ =>
        obtain rfl : other = selector := by
          rw [chosen] at state
          injection state with same
          exact same.symm
        exact ⟨own, answered, commands⟩
  · intro p w reply r' w' made
    have outcome := Router.outcome_process p w settled
    rw [made] at outcome
    have ends : reply.commands.count Action.reset = 1 ∧
        reply.commands.getLast? = some Action.reset := by
      cases outcome with
      | offered response _ _ _ => exact ⟨count_reset_menu _, getLast?_menu _⟩
      | answered _ own _ _ _ commands _ _ _ =>
          rw [commands]
          exact ⟨count_reset_delegateMenu _, getLast?_delegateMenu _⟩
    refine ⟨?_, ends⟩
    intro empty
    rw [empty] at ends
    cases ends.2

end Switchboard
