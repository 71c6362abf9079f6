import Mathlib.Data.List.Forall2
import Switchboard.Proofs.Router.Turns

/-!
Routers in two worlds. When the instances that a registry builds answer alike in both, so do the routers over
them, and what these leave behind is alike again. The worlds may number differently what they hold, and a
numbering grows while requests are handled. What is built under a selector that is shunned need not have its
like in the other world.
-/

namespace Switchboard

/-- What it means for two worlds, and for instances in them, to be alike under a numbering in `K`. -/
structure Likeness (K W I : Type) where
  World : K → W → W → Prop
  Instance : K → I → I → Prop
  /-- A numbering has grown into another. -/
  Grown : K → K → Prop
  refl : ∀ k, Grown k k
  trans : ∀ {k k' k''}, Grown k k' → Grown k' k'' → Grown k k''
  instance_grown : ∀ {k k' i j}, Grown k k' → Instance k i j → Instance k' i j

namespace Likeness

variable {K W I : Type} (l : Likeness K W I)

/-- Results with the same reply that leave alike what they leave. -/
def Results {α : Type} (Like : K → α → α → Prop) (k : K) (a b : Payload × α × W) : Prop :=
  a.1 = b.1 ∧ ∃ k', l.Grown k k' ∧ Like k' a.2.1 b.2.1 ∧ l.World k' a.2.2 b.2.2

variable [Protocol W I] (registry : Registry W I) (connection : String)

/-- Alike instances answer alike, and what is built for the connection is alike unless it is shunned. -/
structure Faithful (Shunned : String → Prop) : Prop where
  key : ∀ {k i j}, l.Instance k i j → Protocol.key W i = Protocol.key W j
  process : ∀ {k w v i j}, l.World k w v → l.Instance k i j → ∀ p,
    l.Results l.Instance k (Protocol.process i p w) (Protocol.process j p v)
  close : ∀ {k w v i j}, l.World k w v → l.Instance k i j →
    l.World k (Protocol.close i w) (Protocol.close j v)
  refused : ∀ {k w v selector failure}, l.World k w v →
    registry.build selector connection w = .error failure →
      registry.build selector connection v = .error failure
  built : ∀ {k w v selector i w'}, l.World k w v → ¬Shunned selector →
    registry.build selector connection w = .ok (i, w') →
      ∃ j v', registry.build selector connection v = .ok (j, v') ∧
        ∃ k', l.Grown k k' ∧ l.Instance k' i j ∧ l.World k' w' v'

/-- Instances under the same selectors, alike one by one. -/
def Instances (k : K) : List (String × I) → List (String × I) → Prop :=
  List.Forall₂ fun own other => own.1 = other.1 ∧ l.Instance k own.2 other.2

/-- Routers of the connection that stand alike. -/
structure Routers (k : K) (r q : Router W I) : Prop where
  registry_eq : r.registry = registry
  registry_eq' : q.registry = registry
  connection_eq : r.connection = connection
  connection_eq' : q.connection = connection
  state : r.state = q.state
  instances : l.Instances k r.instances q.instances

variable {l} {registry} {connection} {k k' : K}

omit [Protocol W I] in
theorem Instances.grown {own other : List (String × I)} (h : l.Instances k own other)
    (grown : l.Grown k k') : l.Instances k' own other := by
  refine h.imp ?_
  rintro _ _ ⟨name, alike⟩
  exact ⟨name, l.instance_grown grown alike⟩

omit [Protocol W I] in
/-- Under a selector there is an instance on both sides or on neither. -/
theorem Instances.lookup {own other : List (String × I)} (h : l.Instances k own other)
    (selector : String) :
    (own.lookup selector = none ∧ other.lookup selector = none) ∨
      ∃ i j, own.lookup selector = some i ∧ other.lookup selector = some j ∧ l.Instance k i j := by
  induction h with
  | nil => exact .inl ⟨rfl, rfl⟩
  | @cons first first' _ _ alike _ ih =>
      obtain ⟨name, i⟩ := first
      obtain ⟨_, j⟩ := first'
      obtain ⟨rfl, alike⟩ := alike
      rw [List.lookup_cons, List.lookup_cons]
      cases selector == name with
      | true => exact .inr ⟨i, j, rfl, rfl, alike⟩
      | false => exact ih

namespace Routers

variable {r q : Router W I} {w v : W}

omit [Protocol W I] in
theorem grown (h : l.Routers registry connection k r q) (grown : l.Grown k k') :
    l.Routers registry connection k' r q :=
  ⟨h.registry_eq, h.registry_eq', h.connection_eq, h.connection_eq', h.state, h.instances.grown grown⟩

omit [Protocol W I] in
theorem setInstance (h : l.Routers registry connection k r q) (grown : l.Grown k k') {i j : I}
    (alike : l.Instance k' i j) (selector : String) :
    l.Routers registry connection k' (r.setInstance selector i) (q.setInstance selector j) := by
  refine ⟨h.registry_eq, h.registry_eq', h.connection_eq, h.connection_eq', h.state, ?_⟩
  rw [Router.setInstance, Router.setInstance, Instances, List.forall₂_map_left_iff,
    List.forall₂_map_right_iff]
  refine (h.instances.grown grown).imp ?_
  rintro own other ⟨name, held⟩
  rw [name]
  cases other.1 == selector with
  | true => exact ⟨rfl, alike⟩
  | false => exact ⟨name, held⟩

omit [Protocol W I] in
theorem addInstance (h : l.Routers registry connection k r q) (grown : l.Grown k k') {i j : I}
    (alike : l.Instance k' i j) (selector : String) :
    l.Routers registry connection k' (r.addInstance selector i) (q.addInstance selector j) := by
  refine ⟨h.registry_eq, h.registry_eq', h.connection_eq, h.connection_eq', h.state, ?_⟩
  exact List.rel_append (h.instances.grown grown) (.cons ⟨rfl, alike⟩ .nil)

omit [Protocol W I] in
theorem setState (h : l.Routers registry connection k r q) (state : RouterState) :
    l.Routers registry connection k { r with state } { q with state } :=
  ⟨h.registry_eq, h.registry_eq', h.connection_eq, h.connection_eq', rfl, h.instances⟩

omit [Protocol W I] in
theorem chooserReply (h : l.Routers registry connection k r q) (response : String) :
    r.chooserReply response = q.chooserReply response := by
  rw [Router.chooserReply, Router.chooserReply, h.registry_eq, h.registry_eq']

omit [Protocol W I] in
/-- The chooser answers, and both routers pass to a state or stay in theirs. -/
theorem tells (h : l.Routers registry connection k r q) (world : l.World k w v) (response : String)
    {r' q' : Router W I} (routers : l.Routers registry connection k r' q') :
    l.Results (l.Routers registry connection) k (r.chooserReply response, r', w)
      (q.chooserReply response, q', v) :=
  ⟨h.chooserReply response, k, l.refl k, routers, world⟩

variable {Shunned : String → Prop}

theorem enter (faithful : l.Faithful registry connection Shunned)
    (h : l.Routers registry connection k r q) (world : l.World k w v) {i j : I}
    (alike : l.Instance k i j) (selector : String) :
    l.Results (l.Routers registry connection) k (r.enter selector i w) (q.enter selector j v) := by
  have key := faithful.key alike
  obtain ⟨reply, k', grown, alike', world'⟩ :=
    faithful.process world alike { Payload.ping with key := Protocol.key W i }
  simp only [Router.enter, ← key]
  refine ⟨?_, k', grown, (h.setInstance grown alike' selector).setState (.delegating selector), world'⟩
  simp only [reply, faithful.key alike']

theorem select (faithful : l.Faithful registry connection Shunned)
    (h : l.Routers registry connection k r q) (world : l.World k w v) {selector : String}
    (kept : ∀ other, (r.select selector w).2.1.state = .delegating other → ¬Shunned other) :
    l.Results (l.Routers registry connection) k (r.select selector w) (q.select selector v) := by
  obtain ⟨absent, absent'⟩ | ⟨i, j, held, held', alike⟩ := h.instances.lookup selector
  · simp only [Router.select, Router.instance?, absent, absent'] at kept ⊢
    cases built : r.registry.build selector r.connection w with
    | error failure =>
        rw [h.registry_eq, h.connection_eq] at built
        have built' := faithful.refused world built
        rw [← h.registry_eq', ← h.connection_eq'] at built'
        rw [built']
        exact h.tells world _ h
    | ok begun =>
        obtain ⟨i, w'⟩ := begun
        rw [built] at kept
        rw [h.registry_eq, h.connection_eq] at built
        obtain ⟨j, v', built', k', grown, alike, world'⟩ :=
          faithful.built world (kept selector rfl) built
        rw [← h.registry_eq', ← h.connection_eq'] at built'
        rw [built']
        obtain ⟨reply, k'', later, routers, world''⟩ :=
          (h.addInstance grown alike selector).enter faithful world' alike selector
        exact ⟨reply, k'', l.trans grown later, routers, world''⟩
  · simp only [Router.select, Router.instance?, held, held']
    exact h.enter faithful world alike selector

theorem choose (faithful : l.Faithful registry connection Shunned)
    (h : l.Routers registry connection k r q) (world : l.World k w v) {p : Payload}
    (kept : ∀ other, (r.choose p w).2.1.state = .delegating other → ¬Shunned other) :
    l.Results (l.Routers registry connection) k (r.choose p w) (q.choose p v) := by
  have known : q.registry = r.registry := h.registry_eq'.trans h.registry_eq.symm
  simp only [Router.choose, known] at kept ⊢
  split
  case isTrue token => exact h.tells world _ h
  case isFalse noToken =>
    rw [if_neg noToken] at kept
    split
    case isTrue contained =>
      rw [if_pos contained] at kept
      exact h.select faithful world kept
    case isFalse => exact h.tells world _ h

theorem delegate (faithful : l.Faithful registry connection Shunned)
    (h : l.Routers registry connection k r q) (world : l.World k w v) (selector : String) (p : Payload) :
    l.Results (l.Routers registry connection) k (r.delegate selector p w) (q.delegate selector p v) := by
  obtain ⟨absent, absent'⟩ | ⟨i, j, held, held', alike⟩ := h.instances.lookup selector
  · simp only [Router.delegate, Router.instance?, absent, absent']
    exact h.tells world _ (h.setState .choosing)
  · have key := faithful.key alike
    simp only [Router.delegate, Router.instance?, held, held', ← key]
    split
    case isTrue => exact h.tells world _ (h.setState .choosing)
    case isFalse =>
      split
      case isTrue =>
        obtain ⟨_, k', grown, alike', world'⟩ :=
          faithful.process world alike { Payload.request Action.reset with key := Protocol.key W i }
        refine ⟨h.chooserReply _, k', grown, ?_, world'⟩
        exact (h.setInstance grown alike' selector).setState .choosing
      case isFalse =>
        obtain ⟨reply, k', grown, alike', world'⟩ := faithful.process world alike p
        refine ⟨?_, k', grown, h.setInstance grown alike' selector, world'⟩
        exact congrArg (Payload.decorate · (Protocol.key W i)) reply

/-- Routers that stand alike answer alike and stand alike afterwards, if nothing that is shunned is chosen. -/
theorem process (faithful : l.Faithful registry connection Shunned)
    (h : l.Routers registry connection k r q) (world : l.World k w v) {p : Payload}
    (kept : ∀ other, (r.process p w).2.1.state = .delegating other → ¬Shunned other) :
    l.Results (l.Routers registry connection) k (r.process p w) (q.process p v) := by
  rw [Router.process] at kept
  rw [Router.process, Router.process, ← h.state]
  cases state : r.state with
  | choosing =>
      rw [state] at kept
      exact h.choose faithful world kept
  | delegating selector => exact h.delegate faithful world selector p

/-- What protocols say on their own is fitted to the same menu. -/
theorem annotate (faithful : l.Faithful registry connection Shunned)
    (h : l.Routers registry connection k r q) (p : Payload) : r.annotate p = q.annotate p := by
  have active : r.activeKey = q.activeKey := by
    rw [Router.activeKey, Router.activeKey, ← h.state]
    cases r.state with
    | choosing => rfl
    | delegating selector =>
        obtain ⟨absent, absent'⟩ | ⟨i, j, held, held', alike⟩ := h.instances.lookup selector
        · simp only [Router.instance?, absent, absent']
        · simp only [Router.instance?, held, held', Option.map_some, faithful.key alike]
  rw [Router.annotate, Router.annotate, active, h.registry_eq, h.registry_eq']

theorem close (faithful : l.Faithful registry connection Shunned)
    (h : l.Routers registry connection k r q) (world : l.World k w v) :
    l.Routers registry connection k (r.close w).1 (q.close v).1 ∧
      l.World k (r.close w).2 (q.close v).2 := by
  refine ⟨⟨h.registry_eq, h.registry_eq', h.connection_eq, h.connection_eq', rfl, .nil⟩, ?_⟩
  rw [Router.close, Router.close]
  have instances := h.instances
  generalize r.instances = own, q.instances = other at instances
  induction instances generalizing w v with
  | nil => exact world
  | cons alike _ ih => exact ih (faithful.close world alike.2)

end Routers

end Likeness

end Switchboard
