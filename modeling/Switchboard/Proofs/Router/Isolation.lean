import Switchboard.Device.KnockKnock
import Switchboard.Proofs.Router.OwnLog

/-!
Protocols behind one router do not disturb each other. The instance of a selector and its replies are
those of a run without the requests that are sent while another protocol is chosen or none, and a
protocol that is left is found again as it was.
-/

namespace Switchboard

variable {W I : Type} [Protocol W I]

namespace Router

section alone

variable {respond : I → Payload → Payload × I} (alone : ActsAlone W respond)
include alone

/-- Two routers at the same instance treat a request alike. -/
theorem process_alike {r q : Router W I} {selector : String} {i : I} (p : Payload) (w w' : W)
    (registry : q.registry = r.registry)
    (state : r.state = .delegating selector) (state' : q.state = .delegating selector)
    (held : r.instance? selector = some i) (held' : q.instance? selector = some i) :
    (q.process p w').1 = (r.process p w).1 ∧
      (q.process p w').2.1.instance? selector = (r.process p w).2.1.instance? selector ∧
      (q.process p w').2.1.state = (r.process p w).2.1.state := by
  rw [process, process, state, state']
  simp only [delegate, held, held']
  split
  · exact ⟨by rw [chooserReply, chooserReply, registry], held'.trans held.symm, rfl⟩
  · split
    · refine ⟨by simp only [chooserReply, registry], ?_, rfl⟩
      refine (instance?_setInstance_self _ held').trans
        (Eq.trans ?_ (instance?_setInstance_self _ held).symm)
      rw [alone.next, alone.next]
    · refine ⟨by simp only [alone.reply], ?_, state'.trans state.symm⟩
      rw [instance?_setInstance_self _ held', instance?_setInstance_self _ held, alone.next,
        alone.next]

theorem instance?_serve_of_unconcerned {r : Router W I} {selector : String}
    (requests : List (Payload × W)) (settled : r.Settled)
    (unconcerned : r.kept selector requests = []) :
    (r.serve requests).instance? selector = r.instance? selector := by
  induction requests generalizing r with
  | nil => rfl
  | cons request rest ih =>
      obtain ⟨p, w⟩ := request
      rw [kept] at unconcerned
      split at unconcerned
      · cases unconcerned
      case isFalse elsewhere =>
        exact (ih (settled_process p w settled) unconcerned).trans
          (instance?_unconcerned alone settled (Bool.eq_false_iff.mpr elsewhere))

theorem begins?_of_begun? {r : Router W I} {selector : String} {i : I}
    (requests : List (Payload × W)) (settled : r.Settled) (absent : r.instance? selector = none)
    (begun : r.begun? selector requests = some i) :
    ∃ q ∈ requests, r.registry.begins? selector r.connection q.2 = some i := by
  induction requests generalizing r with
  | nil =>
      rw [begun?, absent] at begun
      cases begun
  | cons request rest ih =>
      obtain ⟨p, w⟩ := request
      rw [begun?] at begun
      split at begun
      · rw [found?, absent, Option.none_or] at begun
        exact ⟨(p, w), List.mem_cons_self, begun⟩
      case isFalse nothing =>
        have turn := turn_process p w settled
        obtain ⟨_, same⟩ | ⟨o, _, passed, _⟩ := own_turn alone selector p w settled
        · obtain ⟨q, mem, begins⟩ := ih (settled_process p w settled) (same.trans absent) begun
          rw [turn.registry_eq, turn.connection_eq] at begins
          exact ⟨q, List.mem_cons_of_mem _ mem, begins⟩
        · rw [passed] at nothing
          exact absurd rfl nothing

/-- A router, and one that gets nothing but the requests that concern a selector. -/
structure Follows (selector : String) (r q : Router W I) : Prop where
  settled : r.Settled
  settled' : q.Settled
  registry : q.registry = r.registry
  connection : q.connection = r.connection
  held : q.instance? selector = r.instance? selector
  chosen : r.state = .delegating selector → q.state = .delegating selector
  free : r.state ≠ .delegating selector → q.state = .choosing

namespace Follows

variable {selector : String} {r q : Router W I}

theorem elsewhere {p : Payload} {w : W} (h : Follows selector r q)
    (unconcerned : r.concerns selector p w = false) :
    Follows selector (r.process p w).2.1 q := by
  have turn := turn_process p w h.settled
  have apart : r.state ≠ .delegating selector := by
    intro chosen
    simp [concerns, chosen] at unconcerned
  have apart' : (r.process p w).2.1.state ≠ .delegating selector := by
    intro chosen
    simp [concerns, chosen] at unconcerned
  refine ⟨settled_process p w h.settled, h.settled', ?_, ?_, ?_, ?_, ?_⟩
  · exact h.registry.trans turn.registry_eq.symm
  · exact h.connection.trans turn.connection_eq.symm
  · exact h.held.trans (instance?_unconcerned alone h.settled unconcerned).symm
  · exact fun chosen => absurd chosen apart'
  · exact fun _ => h.free apart

theorem turn {p : Payload} {w w' : W} (h : Follows selector r q)
    (concerned : r.concerns selector p w = true)
    (begins : r.registry.begins? selector r.connection w' =
      r.registry.begins? selector r.connection w) :
    (q.process p w').1 = (r.process p w).1 ∧
      Follows selector (r.process p w).2.1 (q.process p w').2.1 := by
  have turn := turn_process p w h.settled
  have turn' := turn_process p w' h.settled'
  have registry := turn'.registry_eq.trans (h.registry.trans turn.registry_eq.symm)
  have connection := turn'.connection_eq.trans (h.connection.trans turn.connection_eq.symm)
  have settled := settled_process p w h.settled
  have settled' := settled_process p w' h.settled'
  cases state : r.state with
  | choosing =>
      have chosen : (r.process p w).2.1.state = .delegating selector := by
        simpa [concerns, state] using concerned
      obtain ⟨rfl, selects, i, found⟩ := found?_of_chosen state chosen
      have state' : q.state = .choosing := h.free (by rw [state]; exact RouterState.noConfusion)
      have found' : q.found? p.effectiveAction w' = some i := by
        rw [found?, h.held, h.registry, h.connection, begins]
        exact found
      obtain ⟨reply, held, after⟩ := process_found alone state selects found
      obtain ⟨reply', held', after'⟩ :=
        process_found alone state' (h.registry ▸ selects) found'
      refine ⟨?_, settled, settled', registry, connection, held'.trans held.symm, fun _ => after', ?_⟩
      · rw [reply', reply, h.registry]
      · exact fun apart => absurd after apart
  | delegating other =>
      obtain rfl : other = selector := by
        obtain chosen | chosen := turn.state_of_delegating state
        · simpa [concerns, state, chosen] using concerned
        · simpa [concerns, state, chosen] using concerned
      obtain ⟨i, held⟩ := Option.isSome_iff_exists.mp (h.settled other state)
      obtain ⟨reply, held', after⟩ := process_alike alone p w w' h.registry state (h.chosen state)
        held (h.held.trans held)
      refine ⟨reply, settled, settled', registry, connection, held', ?_, ?_⟩
      · exact fun chosen => after.trans chosen
      · intro apart
        obtain left | chosen := turn.state_of_delegating state
        · exact after.trans left
        · exact absurd chosen apart

theorem run {requests others : List (Payload × W)} (h : Follows selector r q)
    (same : List.Forall₂ (fun own other => other.1 = own.1 ∧
        r.registry.begins? selector r.connection other.2 =
          r.registry.begins? selector r.connection own.2)
      (r.kept selector requests) others) :
    q.replies others = r.keptReplies selector requests ∧
      (q.serve others).instance? selector = (r.serve requests).instance? selector := by
  -- The induction is on the full run: the other one stands still while a request does not concern it.
  induction requests generalizing r q others with
  | nil =>
      cases same
      exact ⟨rfl, h.held⟩
  | cons request rest ih =>
      obtain ⟨p, w⟩ := request
      have turn := turn_process p w h.settled
      rw [kept] at same
      rw [keptReplies]
      split at same
      case isTrue concerned =>
        cases same with
        | @cons _ other _ later first same =>
            obtain ⟨p', w'⟩ := other
            obtain ⟨rfl, begins⟩ := first
            obtain ⟨reply, h⟩ := h.turn alone concerned begins
            rw [← turn.registry_eq, ← turn.connection_eq] at same
            obtain ⟨replies, held⟩ := ih h same
            refine ⟨?_, held⟩
            rw [if_pos concerned, Router.replies, reply, replies]
      case isFalse elsewhere =>
        rw [← turn.registry_eq, ← turn.connection_eq] at same
        rw [if_neg elsewhere]
        exact ih (h.elsewhere alone (Bool.eq_false_iff.mpr elsewhere)) same

end Follows

end alone

/-- A router that requests may have led to. -/
structure Reached (registry : Registry W I) (connection : String) (r : Router W I) : Prop where
  settled : r.Settled
  selects : ∀ selector, r.state = .delegating selector → registry.selects selector = true
  registry_eq : r.registry = registry
  connection_eq : r.connection = connection

variable (registry : Registry W I) (connection : String)

theorem Reached.process {r : Router W I} (h : Reached registry connection r) (p : Payload) (w : W) :
    Reached registry connection (r.process p w).2.1 := by
  have turn := turn_process p w h.settled
  refine ⟨settled_process p w h.settled, ?_, turn.registry_eq.trans h.registry_eq,
    turn.connection_eq.trans h.connection_eq⟩
  intro selector chosen
  obtain before | selects := turn.selects_of_delegating chosen
  · exact h.selects selector before
  · exact h.registry_eq ▸ selects

theorem Reached.serve {r : Router W I} (h : Reached registry connection r)
    (requests : List (Payload × W)) : Reached registry connection (r.serve requests) := by
  induction requests generalizing r with
  | nil => exact h
  | cons request rest ih => exact ih (h.process registry connection request.1 request.2)

theorem reached_serve (requests : List (Payload × W)) :
    Reached registry connection (serve { registry, connection } requests) := by
  refine Reached.serve registry connection ?_ requests
  refine ⟨settled_of_choosing rfl, ?_, rfl, rfl⟩
  intro selector chosen
  cases chosen

end Router

open Router in
/-- What protocols that share nothing can rely on behind one router. -/
structure Isolation (registry : Registry W I) (connection : String)
    (respond : I → Payload → Payload × I) : Prop where
  /-- An instance is what its own log makes of a new one. -/
  instance_eq : ∀ selector requests,
    let r : Router W I := { registry, connection }
    (r.serve requests).instance? selector =
      (r.begun? selector requests).map
        fun i => (r.ownLog selector requests).foldl (OwnRequest.next W respond) i
  begun : ∀ selector requests i, begun? selector { registry, connection } requests = some i →
    ∃ q ∈ requests, registry.begins? selector connection q.2 = some i
  /-- The replies to its own log are its answers in turn. -/
  replies_eq : ∀ selector requests,
    let r : Router W I := { registry, connection }
    r.ownReplies selector requests =
      (r.begun? selector requests).elim []
        fun i => OwnRequest.answers W respond registry i (r.ownLog selector requests)
  /-- A choice of a protocol that is there or can be built starts with a ping. -/
  greeted : ∀ before p w i,
    let r : Router W I := serve { registry, connection } before
    r.state = .choosing → registry.selects p.effectiveAction = true →
    r.found? p.effectiveAction w = some i → r.ownRequest? p.effectiveAction p w = some .greeting
  /-- What is sent while another protocol is chosen, or none, does not change it. -/
  unconcerned : ∀ selector before p w,
    let r : Router W I := serve { registry, connection } before
    r.concerns selector p w = false →
      (r.process p w).2.1.instance? selector = r.instance? selector
  /-- Without such requests, and whatever becomes of the world, it answers and is the same. -/
  purged : ∀ selector requests others,
    let r : Router W I := { registry, connection }
    List.Forall₂ (fun own other => other.1 = own.1 ∧
        registry.begins? selector connection other.2 = registry.begins? selector connection own.2)
      (r.kept selector requests) others →
      r.replies others = r.keptReplies selector requests ∧
        (r.serve others).instance? selector = (r.serve requests).instance? selector
  /-- Whoever leaves a protocol and chooses it again finds it as it was. -/
  resumed : ∀ selector before p w between p' w' i,
    let r : Router W I := serve { registry, connection } before
    let left := (r.process p w).2.1
    let back := (left.serve between).process p' w'
    r.state = .delegating selector → r.instance? selector = some i →
    p.effectiveAction = Action.reset → left.kept selector between = [] →
    (left.serve between).state = .choosing → p'.effectiveAction = selector →
      back.1 = OwnRequest.greeting.shown W respond registry i ∧
        back.2.1.state = .delegating selector ∧
        back.2.1.instance? selector = some (OwnRequest.greeting.next W respond i)

theorem delegate_isolation {respond : I → Payload → Payload × I} (alone : ActsAlone W respond)
    (registry : Registry W I) (connection : String) : Isolation registry connection respond := by
  have fresh : Router.Reached registry connection { registry, connection } :=
    Router.reached_serve registry connection []
  refine ⟨?_, ?_, ?_, ?_, ?_, ?_, ?_⟩
  · intro selector requests
    exact (Router.own_run alone selector requests fresh.settled).1
  · intro selector requests i begun
    exact Router.begins?_of_begun? alone requests fresh.settled rfl begun
  · intro selector requests
    exact (Router.own_run alone selector requests fresh.settled).2
  · intro before p w i r choosing selects found
    have reached : Router.Reached registry connection r :=
      Router.reached_serve registry connection before
    obtain ⟨_, _, chosen⟩ :=
      Router.process_found alone choosing (reached.registry_eq.symm ▸ selects) found
    rw [Router.ownRequest?, choosing]
    exact if_pos chosen
  · intro selector before p w r unconcerned
    exact Router.instance?_unconcerned alone
      (Router.reached_serve registry connection before).settled unconcerned
  · intro selector requests others r same
    have follows : Router.Follows selector r r :=
      ⟨fresh.settled, fresh.settled, rfl, rfl, rfl, id, fun _ => rfl⟩
    exact follows.run alone same
  · intro selector before p w between p' w' i r left back chosen held leaves quiet choosing again
    have reached : Router.Reached registry connection r :=
      Router.reached_serve registry connection before
    have reached' : Router.Reached registry connection (left.serve between) :=
      (reached.process registry connection p w).serve registry connection between
    have kept : (left.serve between).instance? selector = some i := by
      rw [Router.instance?_serve_of_unconcerned alone between
        (Router.settled_process p w reached.settled) quiet]
      obtain ⟨_, same⟩ | ⟨o, _, passed, _⟩ := Router.own_turn alone selector p w reached.settled
      · exact same.trans held
      · simp [Router.ownRequest?, chosen, leaves] at passed
    subst again
    obtain ⟨reply, held', chosen'⟩ := Router.process_found alone choosing
      (reached'.registry_eq ▸ reached.selects _ chosen) (w := w') (i := i)
      (by rw [Router.found?, kept, Option.some_or])
    exact ⟨reached'.registry_eq ▸ reply, chosen', held'⟩

instance : Protocol W KnockKnock where
  key _ := knockKnockKey
  process k p w := ((k.process p).1, (k.process p).2, w)
  close _ w := w

/-- Two jokers on one connection do not hear each other. -/
theorem knockKnock_isolation :
    ActsAlone Unit KnockKnock.process ∧
      Isolation
        ((Registry.register {} "Turnip" fun _ w => .ok ({}, w)).register "Atch"
          fun _ (w : Unit) => .ok (({} : KnockKnock), w))
        "desk" KnockKnock.process :=
  ⟨⟨fun _ _ _ => rfl, fun _ _ _ => rfl⟩,
    delegate_isolation ⟨fun _ _ _ => rfl, fun _ _ _ => rfl⟩ _ _⟩

end Switchboard
