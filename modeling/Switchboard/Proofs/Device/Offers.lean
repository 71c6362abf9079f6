import Switchboard.Proofs.Router.Replies
import Switchboard.Proofs.Device.Menus

/-!
What a connection is offered. Every command that the reply to its latest request lists is known where that
request has led: neither the router nor the chosen protocol answers it as one that they do not know, and
the joke goes on. The commands of the radio and of the dongle are listed while these are available.
-/

namespace Switchboard

variable {R D : Type}

namespace Router

variable {r : Router (Hardware R D) Device} {h : Hardware R D}

/-- Tells whether an action is known to a router or to the protocol that is chosen. -/
def knows (r : Router (Hardware R D) Device) (action : String) : Bool :=
  match r.state with
  | .choosing =>
    [Action.ping, Action.reset, Action.chooser].contains action || r.registry.contains action
  | .delegating selector =>
    [Action.ping, Action.reset, Action.resetCurrent].contains action ||
      (r.instance? selector).any fun d => d.knows action

/-- The reply to an action that is not known. -/
def stray (r : Router (Hardware R D) Device) (h : Hardware R D) (action : String) : Payload :=
  match r.state with
  | .choosing => r.chooserReply ("Unknown protocol: " ++ action ++ ". Choose a protocol")
  | .delegating selector =>
    match r.instance? selector with
    | none => r.chooserReply "Choose a protocol"
    | some d => (d.stray h action).decorate d.key

/-- The menu of a reply is the one of the place where the request has led. -/
inductive Offers (r : Router (Hardware R D) Device) (h : Hardware R D) (reply : Payload) : Prop
  | choosing : r.state = .choosing → reply.commands = r.registry.menu → Offers r h reply
  | delegating (selector : String) (d : Device) :
    r.state = .delegating selector → r.instance? selector = some d →
    reply.commands = delegateMenu (d.commands h) → Offers r h reply

theorem offers_enter {r : Router (Hardware R D) Device} {selector : String} {d old : Device}
    (held : r.instance? selector = some old) (h : Hardware R D) :
    Offers (r.enter selector d h).2.1 (r.enter selector d h).2.2 (r.enter selector d h).1 := by
  refine .delegating selector _ rfl (instance?_setInstance_self _ held) ?_
  exact congrArg delegateMenu (d.currentMenu_process { Payload.ping with key := d.key } h)

theorem offers_process (p : Payload) (h : Hardware R D) (settled : r.Settled) :
    Offers (r.process p h).2.1 (r.process p h).2.2 (r.process p h).1 := by
  have turn := turn_process p h settled
  generalize r.process p h = result at turn ⊢
  cases turn with
  | choice _ state choice =>
      cases choice with
      | offered _ _ => exact .choosing state rfl
      | refused _ _ _ _ => exact .choosing state rfl
      | resumed d _ held => exact offers_enter held h
      | started d h' _ absent _ => exact offers_enter (instance?_addInstance_self d absent) h'
  | left _ _ _ _ _ => exact .choosing rfl rfl
  | reset _ _ _ _ _ => exact .choosing rfl rfl
  | asked selector d state held _ _ =>
      refine .delegating selector _ state (instance?_setInstance_self _ held) ?_
      exact congrArg delegateMenu (d.currentMenu_process p h)

theorem process_of_unknown {p : Payload} (h : Hardware R D) (settled : r.Settled)
    (unknown : r.knows p.effectiveAction = false) :
    (r.process p h).1 = r.stray h p.effectiveAction := by
  rw [knows] at unknown
  rw [process, stray]
  cases state : r.state with
  | choosing =>
      simp only [state, Bool.or_eq_false_iff, List.contains_eq_mem, decide_eq_false_iff_not,
        List.mem_cons, List.not_mem_nil, or_false, not_or] at unknown
      obtain ⟨⟨noPing, noReset, noChooser⟩, other⟩ := unknown
      simp [choose, noPing, noReset, noChooser, other]
  | delegating selector =>
      obtain ⟨d, held⟩ := Option.isSome_iff_exists.mp (settled selector state)
      simp only [state, held, Option.any_some, Bool.or_eq_false_iff, List.contains_eq_mem,
        decide_eq_false_iff_not, List.mem_cons, List.not_mem_nil, or_false, not_or] at unknown
      obtain ⟨⟨noPing, noReset, noResetCurrent⟩, other⟩ := unknown
      have own := d.process_of_unknown h noPing noReset other
      simp only [delegate, held, beq_iff_eq, noReset, noResetCurrent, if_false, ← own]
      rfl

/-- Whoever makes a choice that is known is told about the choice. -/
theorem first_choose {action : String} (h : Hardware R D) (state : r.state = .choosing)
    (known : r.knows action = true) :
    ∃ said, (r.choose (.request action) h).1.response = some said ∧ Text.first said = some 'C' := by
  have asked : (Payload.request action).effectiveAction = action := rfl
  have tokens : ([Action.ping, Action.reset, Action.chooser].contains action = true) =
      ((action == Action.ping || action == Action.reset || action == Action.chooser) = true) := by
    simp [or_assoc]
  rw [knows, state] at known
  simp only [choose, asked]
  split
  case isTrue => exact ⟨_, rfl, by decide⟩
  case isFalse noToken =>
    rw [← tokens] at noToken
    rw [if_pos ((Bool.or_eq_true_iff.mp known).resolve_left noToken), select]
    split
    · exact ⟨_, rfl, Text.first_append (Text.first_append (Text.first_append (by decide) _) _) _⟩
    · split
      · exact ⟨_, rfl, Text.first_append (Text.first_append (Text.first_append (by decide) _) _) _⟩
      · exact ⟨_, rfl, Text.first_append (Text.first_append (Text.first_append (by decide) _) _) _⟩

theorem process_ne_stray {action : String} (h : Hardware R D) (settled : r.Settled)
    (known : r.knows action = true) (noPing : action ≠ Action.ping) :
    (r.process (.request action) h).1 ≠ r.stray h action := by
  cases state : r.state with
  | choosing =>
      obtain ⟨said, told, first⟩ := first_choose h state known
      have unknown := Text.first_append (c := 'U') (a := "Unknown protocol: ") (by decide) action
      have stray : (r.stray h action).response =
          some ("Unknown protocol: " ++ action ++ ". Choose a protocol") := by
        rw [Router.stray, state]
        rfl
      have apart := Payload.content_ne_of_first told stray first (Text.first_append unknown _) (by decide)
      rw [process, state]
      exact fun same => apart (congrArg Payload.content same)
  | delegating selector =>
      obtain ⟨d, held⟩ := Option.isSome_iff_exists.mp (settled selector state)
      have stray : r.stray h action = (d.stray h action).decorate d.key := by
        rw [Router.stray, state]
        simp only [held]
      have asked : (r.stray h action).action = some action := by
        rw [stray]
        exact d.action_stray h action
      have turn := turn_process (.request action) h settled
      generalize r.process (.request action) h = result at turn ⊢
      cases turn with
      | choice _ choosing _ =>
          rw [state] at choosing
          cases choosing
      | left _ _ _ _ resets =>
          intro same
          rw [← same] at asked
          have chooser : Action.chooser = action := Option.some.inj asked
          exact absurd (chooser.trans resets) (by decide)
      | reset _ _ _ _ resets =>
          intro same
          rw [← same] at asked
          have chooser : Action.chooser = action := Option.some.inj asked
          exact absurd (chooser.trans resets) (by decide)
      | asked other d' state' held' noReset noResetCurrent =>
          obtain rfl : other = selector := RouterState.delegating.inj (state'.symm.trans state)
          obtain rfl : d' = d := Option.some.inj (held'.symm.trans held)
          have tokens : ¬[Action.ping, Action.reset, Action.resetCurrent].contains action = true := by
            simpa using ⟨noPing, noReset, noResetCurrent⟩
          rw [knows, state] at known
          have follows := (Bool.or_eq_true_iff.mp known).resolve_left tokens
          rw [held, Option.any_some] at follows
          rw [stray]
          intro same
          change (d'.process (.request action) h).1.decorate d'.key = _ at same
          have said := congrArg Payload.content same
          exact d'.content_process_ne h noPing noReset follows said

/-- What the menu of the moment lists is known and no ping. -/
theorem knows_of_offers {reply : Payload} {command : String} (offers : Offers r h reply)
    (plain : Action.ping ∉ r.registry.selectors) (listed : command ∈ reply.commands) :
    r.knows command = true ∧ command ≠ Action.ping := by
  rw [knows]
  cases offers with
  | choosing state menu_eq =>
      rw [menu_eq] at listed
      rw [state]
      by_cases resets : command = Action.reset
      · subst resets
        exact ⟨rfl, by decide⟩
      · have mem := mem_menu listed resets
        refine ⟨Bool.or_eq_true_iff.mpr (.inr ?_), fun same => plain (same ▸ mem)⟩
        obtain ⟨entry, registered, named⟩ := List.mem_map.mp mem
        exact List.any_eq_true.mpr ⟨entry, registered, beq_iff_eq.mpr named⟩
  | delegating selector d state held menu_eq =>
      rw [menu_eq, delegateMenu, List.mem_append, List.mem_filter] at listed
      rw [state]
      simp only [held, Option.any_some]
      rcases listed with ⟨own, noTokens⟩ | token
      · rw [Bool.and_eq_true, bne_iff_ne, bne_iff_ne] at noTokens
        refine ⟨Bool.or_eq_true_iff.mpr (.inr (d.knows_of_mem_commands own noTokens.1)), ?_⟩
        exact fun same => d.ping_notMem_commands h (same ▸ own)
      · simp only [List.mem_cons, List.not_mem_nil, or_false] at token
        rcases token with rfl | rfl
        · exact ⟨rfl, by decide⟩
        · exact ⟨rfl, by decide⟩

end Router

namespace Connection

section turns

variable {W I : Type} [Protocol W I] {c : Connection W I}

/-- The states that a connection can come to. The world may have changed in any way between two calls. -/
inductive Reached (registry : Registry W I) (name : String) (limit : Nat) : Connection W I → Prop
  | start : Reached registry name limit { router := { registry, connection := name }, framer := { limit } }
  | receive {c : Connection W I} (chunk : List UInt8) (w : W) :
    Reached registry name limit c → Reached registry name limit (c.receive chunk w).2.1
  | takeHandled {c : Connection W I} :
    Reached registry name limit c → Reached registry name limit c.takeHandled.2
  | takeDropped {c : Connection W I} :
    Reached registry name limit c → Reached registry name limit c.takeDropped.2
  | close {c : Connection W I} (w : W) :
    Reached registry name limit c → Reached registry name limit (c.close w).1

/-- The router is sound, and so was the one that made the last reply with the request before. -/
structure Sound (registry : Registry W I) (result : List Payload × Connection W I × W) : Prop where
  settled : result.2.1.router.Settled
  registry_eq : result.2.1.router.registry = registry
  last : ∀ reply, result.1.getLast? = some reply → ∃ r : Router W I, r.Settled ∧
    ∃ p w, r.process p w = (reply, result.2.1.router, result.2.2)

variable {registry : Registry W I}

theorem sound_silent (settled : c.router.Settled) (registry_eq : c.router.registry = registry) (w : W) :
    Sound registry ([], c, w) :=
  ⟨settled, registry_eq, fun _ none => by cases none⟩

theorem sound_handle (settled : c.router.Settled) (registry_eq : c.router.registry = registry)
    (earlier : List Payload) (p : Payload) (w : W) :
    Sound registry (earlier ++ [(c.handle p w).1], (c.handle p w).2) := by
  refine ⟨Router.settled_process p w settled, ?_, ?_⟩
  · exact (Router.turn_process p w settled).registry_eq.trans registry_eq
  · intro reply last
    rw [List.getLast?_append, List.getLast?_singleton, Option.some_or, Option.some.injEq] at last
    subst last
    exact ⟨c.router, settled, p, w, rfl⟩

theorem handleAll_ne_nil (c : Connection W I) (p : Payload) (rest : List Payload) (w : W) :
    (c.handleAll (p :: rest) w).1 ≠ [] := by
  simp only [handleAll]
  split
  · exact List.cons_ne_nil _ _
  · exact List.cons_ne_nil _ _

theorem sound_handleAll (settled : c.router.Settled) (registry_eq : c.router.registry = registry)
    (messages : List Payload) (w : W) : Sound registry (c.handleAll messages w) := by
  induction messages generalizing c w with
  | nil => exact sound_silent settled registry_eq w
  | cons p rest ih =>
      have first := sound_handle settled registry_eq [] p w
      simp only [handleAll]
      split
      · exact ⟨first.settled, first.registry_eq, first.last⟩
      · have later := ih first.settled first.registry_eq (c.handle p w).2.2
        refine ⟨later.settled, later.registry_eq, ?_⟩
        cases rest with
        | nil => exact first.last
        | cons q more =>
            intro reply last
            rw [List.getLast?_cons_of_ne_nil (handleAll_ne_nil _ q more _)] at last
            exact later.last reply last

theorem sound_receive (settled : c.router.Settled) (registry_eq : c.router.registry = registry)
    (chunk : List UInt8) (w : W) : Sound registry (c.receive chunk w) := by
  rw [receive]
  split
  · exact sound_silent settled registry_eq w
  · have lines := sound_handleAll settled registry_eq
      (c := { c with
        framer := (c.framer.feed chunk).1.drain.2
        dropped := c.dropped + if (c.framer.feed chunk).2.isSome then 1 else 0 })
      (c.framer.feed chunk).1.drain.1 w
    exact iteInduction (fun _ => sound_handle lines.settled lines.registry_eq _ .ping _) fun _ => lines

theorem sound_of_reached {name : String} {limit : Nat} (reached : Reached registry name limit c) :
    c.router.Settled ∧ c.router.registry = registry := by
  induction reached with
  | start => exact ⟨Router.settled_of_choosing rfl, rfl⟩
  | receive chunk w _ ih =>
      have sound := sound_receive ih.1 ih.2 chunk w
      exact ⟨sound.settled, sound.registry_eq⟩
  | takeHandled _ ih => exact ih
  | takeDropped _ ih => exact ih
  | close w _ ih => exact ⟨Router.settled_of_choosing rfl, ih.2⟩

end turns

end Connection

/-- What a connection is offered with its latest reply. -/
structure HonestMenu (c : Connection (Hardware R D) Device) (h : Hardware R D) (reply : Payload) : Prop where
  known : ∀ command ∈ reply.commands, c.router.knows command = true ∧
    ∀ h', (c.handle (.request command) h').1 ≠ c.router.stray h' command
  radio : ∀ command ∈ transmitActions, command ∈ reply.commands →
    ∃ selector r, c.router.state = .delegating selector ∧
      c.router.instance? selector = some (.rfSwitch r) ∧ r.ready h = true
  dongle : ∀ command ∈ ZigBee.actions, command ∈ reply.commands →
    ∃ selector z, c.router.state = .delegating selector ∧
      c.router.instance? selector = some (.zigBee z) ∧ z.ready h = true

namespace HonestMenu

open Router

variable {config : DeviceConfig} {c : Connection (Hardware R D) Device} {h : Hardware R D}
  {reply : Payload}

/-- A command for hardware is listed by the chosen protocol. -/
theorem listed_by_device (same : c.router.registry = config.registry) (offers : Offers c.router h reply)
    {command : String} (hard : command ∈ transmitActions ++ ZigBee.actions)
    (listed : command ∈ reply.commands) :
    ∃ selector d, c.router.state = .delegating selector ∧ c.router.instance? selector = some d ∧
      command ∈ d.commands h := by
  have noToken : ∀ token ∈ [Action.resetCurrent, Action.reset],
      token ∉ transmitActions ++ ZigBee.actions := by decide
  cases offers with
  | choosing _ menu_eq =>
      have noSelector : ∀ selector ∈ ["KnockKnock", "RfSwitch", "ZigBee"],
          selector ∉ transmitActions ++ ZigBee.actions := by decide
      have other : command ≠ Action.reset := fun reset =>
        noToken _ (List.mem_cons_of_mem _ List.mem_cons_self) (reset ▸ hard)
      rw [menu_eq, same] at listed
      exact absurd hard (noSelector _ (config.mem_selectors (mem_menu listed other)))
  | delegating selector d state held menu_eq =>
      rw [menu_eq, delegateMenu, List.mem_append, List.mem_filter] at listed
      rcases listed with ⟨own, -⟩ | token
      · exact ⟨selector, d, state, held, own⟩
      · exact absurd hard (noToken _ token)

theorem of_offers (settled : c.router.Settled) (same : c.router.registry = config.registry)
    (offers : Offers c.router h reply) : HonestMenu c h reply := by
  have plain : Action.ping ∉ c.router.registry.selectors := by
    rw [same]
    exact fun mem => absurd (config.mem_selectors mem) (by decide)
  refine ⟨?_, ?_, ?_⟩
  · intro command listed
    obtain ⟨known, noPing⟩ := knows_of_offers offers plain listed
    exact ⟨known, fun h' => process_ne_stray h' settled known noPing⟩
  · intro command transmits listed
    obtain ⟨selector, d, state, held, own⟩ :=
      listed_by_device same offers (List.mem_append_left _ transmits) listed
    obtain ⟨r, rfl, ready⟩ := Device.radio_of_mem_commands own transmits
    exact ⟨selector, r, state, held, ready⟩
  · intro command performs listed
    obtain ⟨selector, d, state, held, own⟩ :=
      listed_by_device same offers (List.mem_append_right _ performs) listed
    obtain ⟨z, rfl, ready⟩ := Device.dongle_of_mem_commands own performs
    exact ⟨selector, z, state, held, ready⟩

end HonestMenu

/-- What holds of the menus in every state of a connection. -/
structure MenuLaw (R D : Type) (config : DeviceConfig) (name : String) (limit : Nat) : Prop where
  honest : ∀ c : Connection (Hardware R D) Device,
    Connection.Reached config.registry name limit c → ∀ chunk h replies c' h' reply,
      c.receive chunk h = (replies, c', h') → replies.getLast? = some reply →
        reply.isTerminal = false → HonestMenu c' h' reply
  /-- What is not known is answered as such. -/
  strays : ∀ c : Connection (Hardware R D) Device,
    Connection.Reached config.registry name limit c → ∀ p h,
      c.router.knows p.effectiveAction = false →
        (c.handle p h).1 = c.router.stray h p.effectiveAction

theorem menu_law (R D : Type) (config : DeviceConfig) (name : String) (limit : Nat) :
    MenuLaw R D config name limit := by
  refine ⟨?_, ?_⟩
  · intro c reached chunk h replies c' h' reply received last _
    obtain ⟨settled, same⟩ := Connection.sound_of_reached reached
    have sound := Connection.sound_receive settled same chunk h
    rw [received] at sound
    obtain ⟨r, before, p, v, made⟩ := sound.last reply last
    have offers := Router.offers_process p v before
    rw [made] at offers
    exact .of_offers sound.settled sound.registry_eq offers
  · intro c reached p h unknown
    exact Router.process_of_unknown h (Connection.sound_of_reached reached).1 unknown

end Switchboard
