import Switchboard.Proofs.Router.Roll

/-!
The life of an instance behind one router, for every registry and every run that ends when the router is
dropped: it is built, asked any number of times and closed once, and nothing comes after that. While it
lives its selector is not built again, and a construction that failed is tried again when it is asked for.
-/

namespace Switchboard

variable {W I : Type}

/-- A router on watched protocols, and what the log tells so far. -/
structure Observed (W I : Type) where
  router : Router (Watched W) (Tagged I)
  log : List LifeEvent := []

namespace Observed

variable [Protocol W I]

def start (registry : Registry W I) (connection : String) : Observed W I :=
  { router := { registry := registry.watched, connection } }

/-- A call, in any world. -/
def call (o : Observed W I) : RouterCall W → Observed W I
  | .process p w =>
    let (_, router, after) := o.router.process p { world := w, log := o.log }
    { router, log := after.log }
  | .close w =>
    let (router, after) := o.router.close { world := w, log := o.log }
    { router, log := after.log }

def after (o : Observed W I) (calls : List (RouterCall W)) : Observed W I :=
  calls.foldl call o

theorem after_append (o : Observed W I) (calls later : List (RouterCall W)) :
    o.after (calls ++ later) = (o.after calls).after later :=
  List.foldl_append

end Observed

/-- A router, and the same router on watched protocols. -/
structure Watching (registry : Registry W I) (connection : String) (o : Observed W I)
    (r : Router W I) : Prop where
  watched : o.router.registry = registry.watched
  connection_eq : o.router.connection = connection
  settled : o.router.Settled
  unwatched : o.router.unwatched registry = r
  accounted : Accounted o.router.roll o.log

namespace Watching

variable [Protocol W I] {registry : Registry W I} {connection : String} {o : Observed W I}
  {r : Router W I}

omit [Protocol W I] in
theorem start (registry : Registry W I) (connection : String) :
    Watching registry connection (.start registry connection) { registry, connection } := by
  refine ⟨rfl, rfl, Router.settled_of_choosing rfl, rfl, List.nodup_nil, List.nodup_nil, ?_, ?_, ?_⟩
  · intro _ mem
    cases mem
  · intro _ _ mem
    cases mem
  · intro _ mem
    cases mem

theorem rolled (h : Watching registry connection o r) (p : Payload) (w : W) :
    Rolled o.router.roll o.log (o.call (.process p w)).router.roll (o.call (.process p w)).log :=
  Router.rolled_process (p := p) (w := { world := w, log := o.log }) h.watched h.settled
    h.accounted.names

theorem call (h : Watching registry connection o r) (call : RouterCall W) :
    Watching registry connection (o.call call) (r.call call) := by
  cases call with
  | process p w =>
      have turn := Router.turn_process p { world := w, log := o.log } h.settled
      have same := Router.unwatched_process h.watched p { world := w, log := o.log }
      rw [h.unwatched] at same
      refine ⟨turn.registry_eq.trans h.watched, turn.connection_eq.trans h.connection_eq,
        Router.settled_process _ _ h.settled, ?_, h.accounted.rolled (h.rolled p w)⟩
      exact congrArg (fun result => result.2.1) same
  | close w =>
      have same := Router.unwatched_close registry o.router { world := w, log := o.log }
      rw [h.unwatched] at same
      have log := Router.log_close o.router { world := w, log := o.log }
      refine ⟨h.watched, h.connection_eq, Router.settled_of_choosing rfl,
        congrArg Prod.fst same, ?_⟩
      rw [show (o.call (.close w)).log = _ from log]
      exact h.accounted.closed

theorem after (h : Watching registry connection o r) (calls : List (RouterCall W)) :
    Watching registry connection (o.after calls) (r.after calls) := by
  induction calls generalizing o r with
  | nil => exact h
  | cons call rest ih => exact ih (h.call call)

theorem of_start (registry : Registry W I) (connection : String) (calls : List (RouterCall W)) :
    Watching registry connection ((Observed.start registry connection).after calls)
      (Router.after { registry, connection } calls) :=
  (start registry connection).after calls

omit [Protocol W I] in
theorem isSome_instance?_iff (h : Watching registry connection o r) (selector : String) :
    (r.instance? selector).isSome ↔ ∃ n, .built n selector ∈ o.log ∧ .closed n ∉ o.log := by
  rw [← h.unwatched, Router.instance?_unwatched, Option.isSome_map, Router.isSome_instance?_iff]
  constructor
  · intro mem
    obtain ⟨entry, cached, rfl⟩ := List.mem_map.mp mem
    exact ⟨entry.2, (h.accounted.mem_roll_iff entry.1 entry.2).mp cached⟩
  · rintro ⟨n, living⟩
    exact List.mem_map_of_mem (f := Prod.fst) ((h.accounted.mem_roll_iff selector n).mpr living)

theorem log_append (h : Watching registry connection o r) (calls : List (RouterCall W)) :
    ∃ later, (o.after calls).log = o.log ++ later := by
  induction calls generalizing o r with
  | nil => exact ⟨[], (List.append_nil o.log).symm⟩
  | cons call rest ih =>
      obtain ⟨later, append⟩ := ih (h.call call)
      have first : ∃ first, (o.call call).log = o.log ++ first := by
        cases call with
        | process p w =>
            obtain ⟨first, append, _⟩ := (h.rolled p w).builtIn
            exact ⟨first, append⟩
        | close w => exact ⟨_, Router.log_close o.router { world := w, log := o.log }⟩
      obtain ⟨first, append'⟩ := first
      refine ⟨first ++ later, ?_⟩
      rw [← List.append_assoc, ← append']
      exact append

/-- A selector without an instance stays so until one is built. -/
theorem absent_after (h : Watching registry connection o r) {selector : String}
    (absent : r.instance? selector = none) (calls : List (RouterCall W))
    (unbuilt : ∀ n, .built n selector ∈ (o.after calls).log → .built n selector ∈ o.log) :
    (r.after calls).instance? selector = none := by
  rw [← Option.not_isSome_iff_eq_none]
  intro held
  -- An instance that is there now was built and not closed, so by hypothesis it was there before.
  obtain ⟨n, built, living⟩ := ((h.after calls).isSome_instance?_iff selector).mp held
  obtain ⟨later, append⟩ := h.log_append calls
  have living' : .closed n ∉ o.log := by
    intro closed
    rw [append] at living
    exact living (List.mem_append_left later closed)
  have held' := (h.isSome_instance?_iff selector).mpr ⟨n, unbuilt n built, living'⟩
  rw [absent] at held'
  cases held'

/-- As long as a router is not closed, its roll grows by what is built. -/
theorem builtIn (h : Watching registry connection o r) (requests : List (Payload × W)) :
    ∃ later, (o.after (requests.map fun q => .process q.1 q.2)).log = o.log ++ later ∧
      (o.after (requests.map fun q => .process q.1 q.2)).router.roll =
        o.router.roll ++ Switchboard.builtIn later := by
  induction requests generalizing o r with
  | nil => exact ⟨[], (List.append_nil _).symm, (List.append_nil _).symm⟩
  | cons request rest ih =>
      obtain ⟨first, log, roll⟩ := (h.rolled request.1 request.2).builtIn
      obtain ⟨later, log', roll'⟩ := ih (h.call (.process request.1 request.2))
      refine ⟨first ++ later, ?_, ?_⟩
      · rw [← List.append_assoc, ← log]
        exact log'
      · rw [Switchboard.builtIn, List.filterMap_append, ← List.append_assoc]
        rw [roll] at roll'
        exact roll'

end Watching

namespace Router

variable [Protocol W I]

/-- What a choice does while there is no instance of the selector. -/
theorem process_absent {r : Router W I} {p : Payload} (w : W) (choosing : r.state = .choosing)
    (selects : r.registry.selects p.effectiveAction = true)
    (absent : r.instance? p.effectiveAction = none) :
    r.process p w =
      match r.registry.build p.effectiveAction r.connection w with
      | .error failure =>
        (r.chooserReply ("Could not start " ++ p.effectiveAction ++ ": " ++ failure.message), r, w)
      | .ok (i, w') => (r.addInstance p.effectiveAction i).enter p.effectiveAction i w' := by
  have choice := choice_process p w choosing
  generalize r.process p w = result at choice ⊢
  cases choice with
  | offered _ other =>
      rw [selects] at other
      cases other
  | refused failure _ _ failed => rw [failed]
  | resumed i _ held =>
      rw [absent] at held
      cases held
  | started i w' _ _ built => rw [built]

end Router

/-- How a router keeps the instances that its registry builds. -/
structure Lifecycle [Protocol W I] (registry : Registry W I) (connection : String) : Prop where
  /-- Watching makes no difference. -/
  faithful : ∀ calls p w,
    let o := (Observed.start registry connection).after calls
    let r := Router.after { registry, connection } calls
    let watched : Watched W := { world := w, log := o.log }
    o.router.unwatched registry = r ∧
      Router.unwatchedResult registry (o.router.process p watched) = r.process p w ∧
      ((o.router.close watched).1.unwatched registry, (o.router.close watched).2.world) = r.close w
  /-- Until the router is closed, no selector is built twice. -/
  built_once : ∀ calls (requests : List (Payload × W)),
    let o : Observed W I := (Observed.start registry connection).after calls
    ∃ later, (o.after (requests.map fun q => .process q.1 q.2)).log = o.log ++ later ∧
      ((builtIn later).map Prod.fst).Nodup
  /-- Over a run that ends with the router, an instance is built, asked and closed, once. -/
  life : ∀ calls w n selector,
    let log := ((Observed.start registry connection).after (calls ++ [.close w])).log
    .built n selector ∈ log → Ended n selector (lifeOf n log)
  /-- Nothing is asked or closed that was not built. -/
  known : ∀ calls e,
    let log := ((Observed.start registry connection).after calls).log
    e ∈ log → ∃ selector, .built e.number selector ∈ log
  cached : ∀ calls selector,
    let log := ((Observed.start registry connection).after calls).log
    ((Router.after { registry, connection } calls).instance? selector).isSome ↔
      ∃ n, .built n selector ∈ log ∧ .closed n ∉ log
  /-- A construction that fails changes nothing. -/
  refused : ∀ calls p w failure,
    let r := Router.after { registry, connection } calls
    r.state = .choosing → registry.selects p.effectiveAction = true →
    r.instance? p.effectiveAction = none →
    registry.build p.effectiveAction connection w = .error failure →
      r.process p w =
        (r.chooserReply ("Could not start " ++ p.effectiveAction ++ ": " ++ failure.message), r, w)
  /-- As long as none has succeeded, the next choice tries again. -/
  retried : ∀ calls p w failure later p' w',
    let calls' := calls ++ .process p w :: later
    let r := Router.after { registry, connection } calls
    let r' := Router.after { registry, connection } calls'
    r.state = .choosing → registry.selects p.effectiveAction = true →
    r.instance? p.effectiveAction = none →
    registry.build p.effectiveAction connection w = .error failure →
    (∀ n, .built n p.effectiveAction ∈ ((Observed.start registry connection).after calls').log →
      .built n p.effectiveAction ∈ ((Observed.start registry connection).after calls).log) →
    r'.state = .choosing → p'.effectiveAction = p.effectiveAction →
      r'.process p' w' =
        match registry.build p.effectiveAction connection w' with
        | .error failure =>
          (r'.chooserReply ("Could not start " ++ p.effectiveAction ++ ": " ++ failure.message), r', w')
        | .ok (i, w'') => (r'.addInstance p.effectiveAction i).enter p.effectiveAction i w''

theorem instance_lifecycle [Protocol W I] (registry : Registry W I) (connection : String) :
    Lifecycle registry connection := by
  have watching := Watching.of_start registry connection
  have reached (calls : List (RouterCall W)) :
      (Router.after { registry, connection } calls).registry = registry ∧
        (Router.after { registry, connection } calls).connection = connection := by
    rw [← (watching calls).unwatched]
    exact ⟨rfl, (watching calls).connection_eq⟩
  refine ⟨?_, ?_, ?_, ?_, ?_, ?_, ?_⟩
  · intro calls p w o r watched
    have h := watching calls
    have same : o.router.unwatched registry = r := h.unwatched
    refine ⟨same, ?_, ?_⟩
    · rw [← same]
      exact Router.unwatched_process h.watched p watched
    · rw [← same]
      exact Router.unwatched_close registry o.router watched
  · intro calls requests o
    obtain ⟨later, log, roll⟩ := (watching calls).builtIn requests
    have names := ((watching calls).after (requests.map fun q => .process q.1 q.2)).accounted.names
    rw [roll, List.map_append] at names
    exact ⟨later, log, names.of_append_right⟩
  · intro calls w n selector log built
    have accounted := (watching (calls ++ [.close w])).accounted
    have roll : ((Observed.start registry connection).after (calls ++ [.close w])).router.roll = [] := by
      rw [Observed.after_append]
      rfl
    exact accounted.ended_of_built built (by rw [roll]; exact List.not_mem_nil)
  · intro calls e log mem
    exact (watching calls).accounted.built_mem mem
  · intro calls selector
    exact (watching calls).isSome_instance?_iff selector
  · intro calls p w failure r choosing selects absent failed
    obtain ⟨same, same'⟩ := reached calls
    have turn := Router.process_absent w choosing (same ▸ selects) absent
    rw [same, same', failed] at turn
    exact turn
  · intro calls p w failure later p' w' calls' r r' choosing selects absent failed unbuilt choosing' again
    obtain ⟨same, same'⟩ := reached calls'
    have after : r.after (.process p w :: later) = r' := List.foldl_append.symm
    have absent' : r'.instance? p.effectiveAction = none := by
      rw [← after]
      refine (watching calls).absent_after absent _ ?_
      rw [← Observed.after_append]
      exact unbuilt
    have turn := Router.process_absent (p := p') w' choosing'
      (by rw [again]; exact same ▸ selects) (by rw [again]; exact absent')
    rw [again, same, same'] at turn
    exact turn

end Switchboard
