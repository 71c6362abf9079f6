import Mathlib.Data.List.Induction
import Switchboard.Router.Basic

/-!
What one request does to a router. While it is choosing, the chooser answers, a construction is refused,
or an instance is resumed or started; after that the chosen protocol is left, reset or asked.
-/

namespace Switchboard

variable {W I : Type}

/-- Tells whether the chooser takes an action for the choice of a protocol. -/
def Registry.selects (r : Registry W I) (action : String) : Bool :=
  !(action == Action.ping || action == Action.reset || action == Action.chooser) && r.contains action

namespace Router

/-- The chosen protocol has an instance. -/
def Settled (r : Router W I) : Prop :=
  ∀ selector, r.state = .delegating selector → (r.instance? selector).isSome

theorem settled_of_choosing {r : Router W I} (h : r.state = .choosing) : r.Settled := by
  intro selector chosen
  rw [h] at chosen
  cases chosen

theorem lookup_setInstance (instances : List (String × I)) (selector other : String) (i : I) :
    (instances.map fun entry => if entry.1 == selector then (selector, i) else entry).lookup other =
      if other = selector then (instances.lookup selector).map fun _ => i
      else instances.lookup other := by
  induction instances with
  | nil => simp
  | cons entry rest ih =>
      obtain ⟨name, held⟩ := entry
      rw [List.map_cons]
      by_cases same : name = selector
      · subst same
        by_cases own : other = name
        · simp [own]
        · have apart : (other == name) = false := by simpa using own
          simpa [List.lookup_cons, own, apart] using ih
      · have apart : (name == selector) = false := by simpa using same
        have unlike : (selector == name) = false := by simpa using Ne.symm same
        rw [apart]
        by_cases own : other = selector
        · subst own
          simpa [List.lookup_cons, unlike] using ih
        · rw [if_neg own] at ih ⊢
          simp only [Bool.false_eq_true, if_false, List.lookup_cons, ih]

theorem instance?_setInstance_self {r : Router W I} {selector : String} {old : I} (i : I)
    (held : r.instance? selector = some old) :
    (r.setInstance selector i).instance? selector = some i := by
  rw [instance?] at held
  rw [instance?, setInstance]
  simp only [lookup_setInstance, if_true, held, Option.map_some]

theorem instance?_setInstance_of_ne (r : Router W I) {selector other : String} (i : I)
    (h : other ≠ selector) : (r.setInstance selector i).instance? other = r.instance? other := by
  rw [instance?, instance?, setInstance]
  simp only [lookup_setInstance, if_neg h]

/-- A router with one more instance. -/
def addInstance (r : Router W I) (selector : String) (i : I) : Router W I :=
  { r with instances := r.instances ++ [(selector, i)] }

theorem instance?_addInstance_self {r : Router W I} {selector : String} (i : I)
    (absent : r.instance? selector = none) :
    (r.addInstance selector i).instance? selector = some i := by
  rw [instance?] at absent
  rw [instance?, addInstance]
  simp only [List.lookup_append, absent, List.lookup_cons, BEq.rfl, Option.none_or]

theorem instance?_addInstance_of_ne (r : Router W I) {selector other : String} (i : I)
    (h : other ≠ selector) : (r.addInstance selector i).instance? other = r.instance? other := by
  have apart : (other == selector) = false := by simpa using h
  rw [instance?, instance?, addInstance]
  simp only [List.lookup_append, List.lookup_cons, apart, List.lookup_nil, Option.or_none]

section turn

variable [Protocol W I]

/-- The cases of a request while no protocol is chosen. -/
inductive Choice (r : Router W I) (p : Payload) (w : W) : Payload × Router W I × W → Prop
  | offered (response : String) :
    r.registry.selects p.effectiveAction = false → Choice r p w (r.chooserReply response, r, w)
  | refused (failure : Failure) :
    r.registry.selects p.effectiveAction = true → r.instance? p.effectiveAction = none →
    r.registry.build p.effectiveAction r.connection w = .error failure →
      Choice r p w
        (r.chooserReply ("Could not start " ++ p.effectiveAction ++ ": " ++ failure.message), r, w)
  | resumed (i : I) :
    r.registry.selects p.effectiveAction = true → r.instance? p.effectiveAction = some i →
      Choice r p w (r.enter p.effectiveAction i w)
  | started (i : I) (w' : W) :
    r.registry.selects p.effectiveAction = true → r.instance? p.effectiveAction = none →
    r.registry.build p.effectiveAction r.connection w = .ok (i, w') →
      Choice r p w ((r.addInstance p.effectiveAction i).enter p.effectiveAction i w')

/-- The cases of a request. -/
inductive Turn (r : Router W I) (p : Payload) (w : W) : Payload × Router W I × W → Prop
  | choice (result : Payload × Router W I × W) :
    r.state = .choosing → Choice r p w result → Turn r p w result
  | left (selector : String) (i : I) :
    r.state = .delegating selector → r.instance? selector = some i →
    p.effectiveAction = Action.reset →
      Turn r p w (r.chooserReply ("Left " ++ Protocol.key W i ++ ". Choose a protocol"),
        { r with state := .choosing }, w)
  | reset (selector : String) (i : I) :
    r.state = .delegating selector → r.instance? selector = some i →
    p.effectiveAction = Action.resetCurrent →
      Turn r p w
        (let turned := Protocol.process i { Payload.request Action.reset with key := Protocol.key W i } w
        (r.chooserReply ("Reset " ++ Protocol.key W i ++ ". Choose a protocol"),
          { r.setInstance selector turned.2.1 with state := .choosing }, turned.2.2))
  | asked (selector : String) (i : I) :
    r.state = .delegating selector → r.instance? selector = some i →
    p.effectiveAction ≠ Action.reset → p.effectiveAction ≠ Action.resetCurrent →
      Turn r p w
        (let turned := Protocol.process i p w
        (turned.1.decorate (Protocol.key W i), r.setInstance selector turned.2.1, turned.2.2))

theorem choice_choose (r : Router W I) (p : Payload) (w : W) : Choice r p w (r.choose p w) := by
  simp only [choose]
  split
  case isTrue token =>
    refine .offered _ ?_
    rw [Registry.selects, token]
    rfl
  case isFalse noToken =>
    have token := Bool.eq_false_iff.mpr noToken
    split
    case isTrue known =>
      have selects : r.registry.selects p.effectiveAction = true := by
        rw [Registry.selects, token, known]
        rfl
      rw [select]
      cases cached : r.instance? p.effectiveAction with
      | some i => exact .resumed i selects cached
      | none =>
          cases built : r.registry.build p.effectiveAction r.connection w with
          | error failure => exact .refused failure selects cached built
          | ok begun => exact .started begun.1 begun.2 selects cached built
    case isFalse unknown =>
      refine .offered _ ?_
      rw [Registry.selects, token, Bool.eq_false_iff.mpr unknown]
      rfl

theorem choice_process {r : Router W I} (p : Payload) (w : W) (choosing : r.state = .choosing) :
    Choice r p w (r.process p w) := by
  rw [process, choosing]
  exact choice_choose r p w

theorem turn_delegate {r : Router W I} (p : Payload) (w : W) {selector : String}
    (chosen : r.state = .delegating selector) (settled : r.Settled) :
    Turn r p w (r.delegate selector p w) := by
  obtain ⟨i, held⟩ := Option.isSome_iff_exists.mp (settled selector chosen)
  simp only [delegate, held]
  split
  case isTrue leaves => exact .left selector i chosen held (beq_iff_eq.mp leaves)
  case isFalse stays =>
    split
    case isTrue resets => exact .reset selector i chosen held (beq_iff_eq.mp resets)
    case isFalse passes =>
      exact .asked selector i chosen held (fun h => stays (beq_iff_eq.mpr h))
        fun h => passes (beq_iff_eq.mpr h)

theorem turn_process {r : Router W I} (p : Payload) (w : W) (settled : r.Settled) :
    Turn r p w (r.process p w) := by
  cases state : r.state with
  | choosing => exact .choice _ state (choice_process p w state)
  | delegating selector =>
      rw [process, state]
      exact turn_delegate p w state settled

namespace Choice

variable {r : Router W I} {p : Payload} {w : W} {result : Payload × Router W I × W}

theorem registry_eq (choice : Choice r p w result) : result.2.1.registry = r.registry := by
  cases choice <;> rfl

theorem connection_eq (choice : Choice r p w result) : result.2.1.connection = r.connection := by
  cases choice <;> rfl

theorem instance?_of_not_chosen (choice : Choice r p w result) {selector : String}
    (other : result.2.1.state ≠ .delegating selector) :
    result.2.1.instance? selector = r.instance? selector := by
  cases choice with
  | offered _ _ => rfl
  | refused _ _ _ _ => rfl
  | resumed i _ _ =>
      have apart : selector ≠ p.effectiveAction := fun same => other (congrArg _ same.symm)
      exact instance?_setInstance_of_ne r _ apart
  | started i w' _ _ _ =>
      have apart : selector ≠ p.effectiveAction := fun same => other (congrArg _ same.symm)
      exact (instance?_setInstance_of_ne _ _ apart).trans (instance?_addInstance_of_ne r i apart)

end Choice

namespace Turn

variable {r : Router W I} {p : Payload} {w : W} {result : Payload × Router W I × W}

theorem registry_eq (turn : Turn r p w result) : result.2.1.registry = r.registry := by
  cases turn with
  | choice _ _ choice => exact choice.registry_eq
  | _ => rfl

theorem connection_eq (turn : Turn r p w result) : result.2.1.connection = r.connection := by
  cases turn with
  | choice _ _ choice => exact choice.connection_eq
  | _ => rfl

theorem state_of_delegating (turn : Turn r p w result) {selector : String}
    (state : r.state = .delegating selector) :
    result.2.1.state = .choosing ∨ result.2.1.state = .delegating selector := by
  cases turn with
  | choice _ choosing _ =>
      rw [choosing] at state
      cases state
  | left _ _ _ _ _ => exact .inl rfl
  | reset _ _ _ _ _ => exact .inl rfl
  | asked _ _ _ _ _ _ => exact .inr state

/-- Only what the registry knows is ever chosen. -/
theorem selects_of_delegating (turn : Turn r p w result) {selector : String}
    (chosen : result.2.1.state = .delegating selector) :
    r.state = .delegating selector ∨ r.registry.selects selector = true := by
  cases turn with
  | choice _ _ choice =>
      cases choice with
      | offered _ _ => exact .inl chosen
      | refused _ _ _ _ => exact .inl chosen
      | resumed i selects _ =>
          cases chosen
          exact .inr selects
      | started i w' selects _ _ =>
          cases chosen
          exact .inr selects
  | left _ _ _ _ _ => cases chosen
  | reset _ _ _ _ _ => cases chosen
  | asked _ _ state _ _ _ => exact .inl chosen

end Turn

theorem settled_process {r : Router W I} (p : Payload) (w : W) (settled : r.Settled) :
    (r.process p w).2.1.Settled := by
  intro selector chosen
  have turn := turn_process p w settled
  generalize r.process p w = result at turn chosen ⊢
  cases turn with
  | choice _ _ choice =>
      cases choice with
      | offered _ _ => exact settled selector chosen
      | refused _ _ _ _ => exact settled selector chosen
      | resumed i _ held =>
          cases chosen
          exact Option.isSome_of_eq_some (instance?_setInstance_self _ held)
      | started i w' _ absent _ =>
          cases chosen
          exact Option.isSome_of_eq_some
            (instance?_setInstance_self _ (instance?_addInstance_self i absent))
  | left _ _ _ _ _ => cases chosen
  | reset _ _ _ _ _ => cases chosen
  | asked other i state held _ _ =>
      obtain rfl : other = selector := RouterState.delegating.inj (state.symm.trans chosen)
      exact Option.isSome_of_eq_some (instance?_setInstance_self _ held)

end turn

end Router

section run

variable [Protocol W I]

/-- One call on a router. The world may have changed in any way since the call before. -/
inductive RouterCall (W : Type)
  | process (p : Payload) (w : W)
  | close (w : W)

def Router.call (r : Router W I) : RouterCall W → Router W I
  | .process p w => (r.process p w).2.1
  | .close w => (r.close w).1

def Router.after (r : Router W I) (calls : List (RouterCall W)) : Router W I :=
  calls.foldl Router.call r

namespace Router

/-- No call takes the instance of the chosen protocol away or changes the registry. -/
theorem settled_call {r : Router W I} (call : RouterCall W) (settled : r.Settled) :
    (r.call call).Settled ∧ (r.call call).registry = r.registry := by
  cases call with
  | process p w => exact ⟨settled_process p w settled, (turn_process p w settled).registry_eq⟩
  | close w => exact ⟨settled_of_choosing rfl, rfl⟩

theorem settled_after (registry : Registry W I) (connection : String) (calls : List (RouterCall W)) :
    (after { registry, connection } calls).Settled ∧
      (after { registry, connection } calls).registry = registry := by
  induction calls using List.reverseRecOn with
  | nil => exact ⟨settled_of_choosing rfl, rfl⟩
  | append_singleton calls call ih =>
      rw [after, List.foldl_append]
      obtain ⟨settled, same⟩ := settled_call call ih.1
      exact ⟨settled, same.trans ih.2⟩

end Router

end run

end Switchboard
