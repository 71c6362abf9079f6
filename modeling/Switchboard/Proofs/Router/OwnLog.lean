import Switchboard.Proofs.Router.Turns

/-!
What a router passes to the instance of one selector, over a whole run. When protocols share nothing, the
instance and its replies come from this log alone.
-/

namespace Switchboard

variable {W I : Type} [Protocol W I]

/-- What instances answer and become does not depend on the world, and is given by a function. -/
structure ActsAlone (W : Type) [Protocol W I] (respond : I → Payload → Payload × I) : Prop where
  reply : ∀ (i : I) (p : Payload) (w : W), (Protocol.process i p w).1 = (respond i p).1
  next : ∀ (i : I) (p : Payload) (w : W), (Protocol.process i p w).2.1 = (respond i p).2

omit [Protocol W I] in
/-- The instance that a registry builds, if it can. -/
def Registry.begins? (r : Registry W I) (selector connection : String) (w : W) : Option I :=
  (r.build selector connection w).toOption.map Prod.fst

/-- What a router passes to an instance. -/
inductive OwnRequest
  /-- The ping that a choice of the protocol makes. -/
  | greeting
  /-- A request while the protocol is chosen, as it was received. -/
  | asked (p : Payload)
  /-- The reset that stands for the action that resets the chosen protocol. -/
  | reset
  deriving DecidableEq, Repr

namespace OwnRequest

/-- The message that an instance receives. -/
def payload (W : Type) [Protocol W I] (i : I) : OwnRequest → Payload
  | greeting => { Payload.ping with key := Protocol.key W i }
  | asked p => p
  | reset => { Payload.request Action.reset with key := Protocol.key W i }

variable (W) (respond : I → Payload → Payload × I)

/-- What an instance becomes. -/
def next (i : I) (o : OwnRequest) : I :=
  (respond i (o.payload W i)).2

/-- The reply of a router that passes a request to an instance. -/
def shown (registry : Registry W I) (i : I) (o : OwnRequest) : Payload :=
  let (own, i') := respond i (o.payload W i)
  match o with
  | greeting =>
    { own.decorate (Protocol.key W i') with
      response := some ("Chose Protocol: " ++ Protocol.key W i' ++ "\n" ++ own.response.getD "") }
  | asked _ => own.decorate (Protocol.key W i)
  | reset =>
    { key := routerKey
      action := some Action.chooser
      response := some ("Reset " ++ Protocol.key W i ++ ". Choose a protocol")
      commands := registry.menu }

/-- The replies of a router that passes requests to one instance only. -/
def answers (registry : Registry W I) : I → List OwnRequest → List Payload
  | _, [] => []
  | i, o :: rest => o.shown W respond registry i :: answers registry (o.next W respond i) rest

end OwnRequest

namespace Router

/-- What a request passes to the instance of a selector. -/
def ownRequest? (r : Router W I) (selector : String) (p : Payload) (w : W) : Option OwnRequest :=
  match r.state with
  | .choosing => if (r.process p w).2.1.state = .delegating selector then some .greeting else none
  | .delegating chosen =>
    if chosen = selector then
      if p.effectiveAction = Action.reset then none
      else if p.effectiveAction = Action.resetCurrent then some .reset
      else some (.asked p)
    else none

/-- Tells whether a request chooses a protocol or finds it chosen. -/
def concerns (r : Router W I) (selector : String) (p : Payload) (w : W) : Bool :=
  r.state == .delegating selector || (r.process p w).2.1.state == .delegating selector

/-- The instance of a selector, or else the one that a choice builds. -/
def found? (r : Router W I) (selector : String) (w : W) : Option I :=
  (r.instance? selector).or (r.registry.begins? selector r.connection w)

/-- The router after requests, each with the world as it is then. -/
def serve (r : Router W I) (requests : List (Payload × W)) : Router W I :=
  requests.foldl (fun r q => (r.process q.1 q.2).2.1) r

def replies : Router W I → List (Payload × W) → List Payload
  | _, [] => []
  | r, (p, w) :: rest => (r.process p w).1 :: replies (r.process p w).2.1 rest

section logs

variable (selector : String)

/-- What requests pass to the instance of a selector, in order. -/
def ownLog : Router W I → List (Payload × W) → List OwnRequest
  | _, [] => []
  | r, (p, w) :: rest => (r.ownRequest? selector p w).toList ++ ownLog (r.process p w).2.1 rest

/-- The replies to the requests that pass something to the instance of a selector. -/
def ownReplies : Router W I → List (Payload × W) → List Payload
  | _, [] => []
  | r, (p, w) :: rest =>
    let later := ownReplies (r.process p w).2.1 rest
    if (r.ownRequest? selector p w).isSome then (r.process p w).1 :: later else later

/-- The instance of a selector as the first of its own requests finds it. -/
def begun? : Router W I → List (Payload × W) → Option I
  | r, [] => r.instance? selector
  | r, (p, w) :: rest =>
    if (r.ownRequest? selector p w).isSome then r.found? selector w
    else begun? (r.process p w).2.1 rest

/-- The requests that choose a protocol or find it chosen. -/
def kept : Router W I → List (Payload × W) → List (Payload × W)
  | _, [] => []
  | r, (p, w) :: rest =>
    let later := kept (r.process p w).2.1 rest
    if r.concerns selector p w then (p, w) :: later else later

/-- The replies to the requests that choose a protocol or find it chosen. -/
def keptReplies : Router W I → List (Payload × W) → List Payload
  | _, [] => []
  | r, (p, w) :: rest =>
    let later := keptReplies (r.process p w).2.1 rest
    if r.concerns selector p w then (r.process p w).1 :: later else later

end logs

section alone

variable {respond : I → Payload → Payload × I} (alone : ActsAlone W respond)
include alone

theorem enter_reply (r : Router W I) (selector : String) (i : I) (w : W) :
    (r.enter selector i w).1 = OwnRequest.greeting.shown W respond r.registry i := by
  have reply := alone.reply i { Payload.ping with key := Protocol.key W i } w
  have next := alone.next i { Payload.ping with key := Protocol.key W i } w
  simp only [enter, OwnRequest.shown, OwnRequest.payload, reply, next]

theorem enter_router (r : Router W I) (selector : String) (i : I) (w : W) :
    (r.enter selector i w).2.1 =
      { r.setInstance selector (OwnRequest.greeting.next W respond i) with
        state := .delegating selector } := by
  have next := alone.next i { Payload.ping with key := Protocol.key W i } w
  simp only [enter, OwnRequest.next, OwnRequest.payload, next]

omit alone in
/-- A choice names a protocol that the registry knows and that is there or can be built. -/
theorem found?_of_chosen {r : Router W I} {selector : String} {p : Payload} {w : W}
    (choosing : r.state = .choosing) (chosen : (r.process p w).2.1.state = .delegating selector) :
    p.effectiveAction = selector ∧ r.registry.selects selector = true ∧
      ∃ i, r.found? selector w = some i := by
  have choice := choice_process p w choosing
  generalize r.process p w = result at choice chosen
  cases choice with
  | offered _ _ =>
      rw [choosing] at chosen
      cases chosen
  | refused _ _ _ _ =>
      rw [choosing] at chosen
      cases chosen
  | resumed i selects held =>
      cases chosen
      exact ⟨rfl, selects, i, by rw [found?, held, Option.some_or]⟩
  | started i w' selects absent built =>
      cases chosen
      exact ⟨rfl, selects, i, by rw [found?, absent, Registry.begins?, built]; rfl⟩

/-- A choice pings what it finds and shows the answer. -/
theorem process_found {r : Router W I} {p : Payload} {w : W} {i : I} (choosing : r.state = .choosing)
    (selects : r.registry.selects p.effectiveAction = true)
    (found : r.found? p.effectiveAction w = some i) :
    (r.process p w).1 = OwnRequest.greeting.shown W respond r.registry i ∧
      (r.process p w).2.1.instance? p.effectiveAction = some (OwnRequest.greeting.next W respond i) ∧
      (r.process p w).2.1.state = .delegating p.effectiveAction := by
  have choice := choice_process p w choosing
  generalize r.process p w = result at choice ⊢
  cases choice with
  | offered _ other =>
      rw [selects] at other
      cases other
  | refused _ _ absent failed =>
      rw [found?, absent, Registry.begins?, failed] at found
      cases found
  | resumed j _ held =>
      obtain rfl : j = i := by
        rw [found?, held] at found
        exact Option.some.inj found
      rw [enter_router alone]
      exact ⟨enter_reply alone r _ j w, instance?_setInstance_self _ held, rfl⟩
  | started j w' _ absent built =>
      obtain rfl : j = i := by
        rw [found?, absent, Registry.begins?, built] at found
        exact Option.some.inj found
      rw [enter_router alone]
      exact ⟨enter_reply alone _ _ j w',
        instance?_setInstance_self _ (instance?_addInstance_self j absent), rfl⟩

/-- A request passes something to the instance of a selector, or leaves it alone. -/
theorem own_turn {r : Router W I} (selector : String) (p : Payload) (w : W) (settled : r.Settled) :
    (r.ownRequest? selector p w = none ∧
        (r.process p w).2.1.instance? selector = r.instance? selector) ∨
      ∃ o i, r.ownRequest? selector p w = some o ∧ r.found? selector w = some i ∧
        (r.process p w).2.1.instance? selector = some (o.next W respond i) ∧
        (r.process p w).1 = o.shown W respond r.registry i := by
  have turn := turn_process p w settled
  rw [ownRequest?]
  cases state : r.state with
  | choosing =>
      by_cases chosen : (r.process p w).2.1.state = .delegating selector
      · obtain ⟨rfl, selects, i, found⟩ := found?_of_chosen state chosen
        obtain ⟨reply, held, _⟩ := process_found alone state selects found
        exact .inr ⟨.greeting, i, if_pos chosen, found, held, reply⟩
      · exact .inl ⟨if_neg chosen, (choice_process p w state).instance?_of_not_chosen chosen⟩
  | delegating other =>
      generalize r.process p w = result at turn ⊢
      cases turn with
      | choice _ choosing _ =>
          rw [choosing] at state
          cases state
      | left chosen i state' held leaves =>
          simp only [leaves, if_true]
          exact .inl ⟨ite_self none, rfl⟩
      | reset chosen i state' held resets =>
          obtain rfl : chosen = other := RouterState.delegating.inj (state'.symm.trans state)
          have stays : Action.resetCurrent ≠ Action.reset := by decide
          simp only [resets, if_neg stays, if_true]
          by_cases same : chosen = selector
          · subst same
            refine .inr ⟨.reset, i, if_pos rfl, ?_, ?_, rfl⟩
            · rw [found?, held, Option.some_or]
            · rw [OwnRequest.next, OwnRequest.payload, ← alone.next i _ w]
              exact instance?_setInstance_self _ held
          · exact .inl ⟨if_neg same, instance?_setInstance_of_ne r _ (Ne.symm same)⟩
      | asked chosen i state' held stays keeps =>
          obtain rfl : chosen = other := RouterState.delegating.inj (state'.symm.trans state)
          simp only [if_neg stays, if_neg keeps]
          by_cases same : chosen = selector
          · subst same
            refine .inr ⟨.asked p, i, if_pos rfl, ?_, ?_, ?_⟩
            · rw [found?, held, Option.some_or]
            · rw [OwnRequest.next, OwnRequest.payload, ← alone.next i _ w]
              exact instance?_setInstance_self _ held
            · simp only [OwnRequest.shown, OwnRequest.payload, alone.reply]
          · exact .inl ⟨if_neg same, instance?_setInstance_of_ne r _ (Ne.symm same)⟩

theorem begun?_of_held {r : Router W I} {selector : String} {i : I} (settled : r.Settled)
    (held : r.instance? selector = some i) (requests : List (Payload × W)) :
    r.begun? selector requests = some i := by
  induction requests generalizing r with
  | nil => exact held
  | cons request rest ih =>
      obtain ⟨p, w⟩ := request
      rw [begun?]
      split
      · rw [found?, held, Option.some_or]
      case isFalse nothing =>
        refine ih (settled_process p w settled) ?_
        obtain ⟨_, same⟩ | ⟨o, _, passed, _⟩ := own_turn alone selector p w settled
        · exact same.trans held
        · rw [passed] at nothing
          exact absurd rfl nothing

/-- The instance of a selector and its replies come from its own log. -/
theorem own_run {r : Router W I} (selector : String) (requests : List (Payload × W))
    (settled : r.Settled) :
    (r.serve requests).instance? selector =
        (r.begun? selector requests).map
          (fun i => (r.ownLog selector requests).foldl (OwnRequest.next W respond) i) ∧
      r.ownReplies selector requests =
        (r.begun? selector requests).elim []
          (fun i => OwnRequest.answers W respond r.registry i (r.ownLog selector requests)) := by
  induction requests generalizing r with
  | nil =>
      refine ⟨Option.map_id'.symm, ?_⟩
      cases r.begun? selector [] <;> rfl
  | cons request rest ih =>
      obtain ⟨p, w⟩ := request
      have settled' := settled_process p w settled
      obtain ⟨state, replies⟩ := ih settled'
      rw [(turn_process p w settled).registry_eq] at replies
      rw [serve, List.foldl_cons]
      obtain ⟨nothing, _⟩ | ⟨o, i, passed, found, held, reply⟩ :=
        own_turn alone selector p w settled
      · simp only [begun?, ownLog, ownReplies, nothing, Option.isSome_none, Bool.false_eq_true,
          if_false, Option.toList_none, List.nil_append]
        exact ⟨state, replies⟩
      · -- From here on the instance is held, so the later log starts with what this request left.
        rw [begun?_of_held alone settled' held rest] at state replies
        simp only [begun?, ownLog, ownReplies, passed, Option.isSome_some, if_true, found,
          Option.toList_some, List.cons_append, List.nil_append]
        refine ⟨state, ?_⟩
        rw [replies, reply]
        rfl

omit alone in
theorem concerns_of_ownRequest? {r : Router W I} {selector : String} {p : Payload} {w : W}
    {o : OwnRequest} (passed : r.ownRequest? selector p w = some o) :
    r.concerns selector p w = true := by
  rw [ownRequest?] at passed
  cases state : r.state with
  | choosing =>
      simp only [state] at passed
      split at passed
      case isTrue chosen => simp [concerns, chosen]
      case isFalse => cases passed
  | delegating chosen =>
      simp only [state] at passed
      split at passed
      case isTrue same => simp [concerns, state, same]
      case isFalse => cases passed

theorem instance?_unconcerned {r : Router W I} {selector : String} {p : Payload} {w : W}
    (settled : r.Settled) (unconcerned : r.concerns selector p w = false) :
    (r.process p w).2.1.instance? selector = r.instance? selector := by
  obtain ⟨_, same⟩ | ⟨o, _, passed, _⟩ := own_turn alone selector p w settled
  · exact same
  · rw [concerns_of_ownRequest? passed] at unconcerned
    cases unconcerned

end alone

end Router

end Switchboard
