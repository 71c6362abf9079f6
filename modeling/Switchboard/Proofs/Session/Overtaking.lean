import Mathlib.Data.List.Induction
import Switchboard.Proofs.Session.Supersession

/-!
A call to connect to a service that forgetting overtakes. Both go through stages, and those of one may come
between any two of the other. The call is without effect when the link is cut while the attempt waits for the
network; when it is cut earlier, the attempt that starts afterwards knows nothing of it.
-/

namespace Switchboard

/-- A store gives back what was last written under a key, and nothing once it was removed. Reading may
fail. -/
structure KeyValueStore.Lawful (S : Type) [KeyValueStore S] : Prop where
  written : ∀ (store store' : S) key value, KeyValueStore.write store key value = .ok store' →
    ∀ found, KeyValueStore.read store' key = .ok found → found = some value
  removed : ∀ (store store' : S) key, KeyValueStore.remove store key = .ok store' →
    ∀ found, KeyValueStore.read store' key = .ok found → found = none

theorem Store.lawful : KeyValueStore.Lawful Store where
  written store store' key value wrote found read := by
    cases wrote
    cases read
    exact Store.get?_set_self store key value
  removed store store' key gone found read := by
    cases gone
    cases read
    exact Store.get?_erase_self store key

/-- A call to connect to a service, and a forgetting of the session while it lasts. The call may come from
connecting once more or to the last service: what these read first changes nothing. -/
structure Race (S D : Type) where
  session : Session S D
  stage : ConnectStage
  /-- Where the call was when the link was cut. -/
  cut : Option ConnectStage := none
  /-- Holds once the replies are forgotten. -/
  cleared : Bool := false
  /-- Where the call was when the store was asked to forget, and what came of it. -/
  wiped : Option (ConnectStage × Except SessionError Unit) := none

inductive RaceStep
  | call
  | forget
  deriving DecidableEq

namespace Race

variable {S D : Type} [KeyValueStore S] [ServiceLookup D] (network : Network)

/-- The next part of the forgetting, while the call lasts. -/
def forgetNext (r : Race S D) : Race S D :=
  if r.stage.remaining = 0 then r
  else
    match r.cut, r.cleared, r.wiped with
    | none, _, _ => { r with session := r.session.forgetLink, cut := some r.stage }
    | some _, false, _ => { r with session := r.session.forgetReplies, cleared := true }
    | some _, true, none =>
      let (outcome, session) := r.session.forgetStored
      { r with session, wiped := some (r.stage, outcome) }
    | some _, true, some _ => r

def step (r : Race S D) : RaceStep → Race S D
  | .call =>
    let (stage, session) := r.session.advance network r.stage
    { r with session, stage }
  | .forget => r.forgetNext

def after (s : Session S D) (name : String) (steps : List RaceStep) : Race S D :=
  steps.foldl (step network) { session := s, stage := .resolving name }

theorem after_concat (s : Session S D) (name : String) (steps : List RaceStep) (x : RaceStep) :
    after network s name (steps ++ [x]) = (after network s name steps).step network x := by
  simp [after]

omit [ServiceLookup D] in
/-- What the next part of the forgetting can do. -/
theorem forgetNext_cases (r : Race S D) :
    r.forgetNext = r ∨
      (0 < r.stage.remaining ∧ r.cut = none ∧
        r.forgetNext = { r with session := r.session.forgetLink, cut := some r.stage }) ∨
      r.forgetNext = { r with session := r.session.forgetReplies, cleared := true } ∨
      ((∃ k, r.cut = some k) ∧ r.wiped = none ∧ r.forgetNext =
        { r with
          session := r.session.forgetStored.2
          wiped := some (r.stage, r.session.forgetStored.1) }) := by
  rw [forgetNext]
  split
  case isTrue _ => exact .inl rfl
  case isFalse lasts =>
    split
    · next _ _ uncut => exact .inr (.inl ⟨Nat.pos_of_ne_zero lasts, uncut, rfl⟩)
    · exact .inr (.inr (.inl rfl))
    · next k cut _ unwiped => exact .inr (.inr (.inr ⟨⟨k, cut⟩, unwiped, rfl⟩))
    · exact .inl rfl

theorem after_forgetting (s : Session S D) (name : String) :
    after network s name (List.replicate 3 .forget) =
      { session := s.forget.2
        stage := .resolving name
        cut := some (.resolving name)
        cleared := true
        wiped := some (.resolving name, s.forget.1) } :=
  rfl

theorem foldl_calls (n : Nat) (r : Race S D) :
    (List.replicate n RaceStep.call).foldl (step network) r =
      { r with
        session := (r.session.advanceBy network n r.stage).2
        stage := (r.session.advanceBy network n r.stage).1 } := by
  induction n generalizing r with
  | zero => rfl
  | succ n ih => rw [List.replicate_succ, List.foldl_cons, ih, step, Session.advanceBy]

/-- A forgetting that is over before the service is found might as well have come before the call. -/
theorem after_forget_first (s : Session S D) (name : String) :
    let r := after network s name (List.replicate 3 .forget ++ List.replicate 5 .call)
    (r.stage.outcome, r.session) = s.forget.2.connectService network name := by
  have forgotten := after_forgetting network s name
  rw [after] at forgotten ⊢
  rw [List.foldl_append, forgotten, foldl_calls]
  rfl

end Race

section found

variable {S D : Type} [KeyValueStore S] [ServiceLookup D]

/-- A store gives this, if anything, for the last service. -/
def Recalls (store : S) (value : Option String) : Prop :=
  ∀ found, KeyValueStore.read store lastServiceKey = .ok found → found = value

omit [ServiceLookup D] in
/-- The store forgets, if there is one, or it fails and stays as it was. -/
theorem Session.forgetStored_cases (lawful : KeyValueStore.Lawful S) (s : Session S D) :
    (∃ e, s.forgetStored = (.error e, s)) ∨
      ∃ store, s.forgetStored = (.ok (), { s with store }) ∧
        ∀ next, store = some next → Recalls next none := by
  rw [forgetStored]
  cases stored : s.store with
  | none =>
      have same : { s with store := none } = s := by rw [← stored]
      exact .inr ⟨none, by rw [same], nofun⟩
  | some store =>
      cases removed : KeyValueStore.remove store lastServiceKey with
      | error e => exact .inl ⟨.storage e, by simp only [removed]⟩
      | ok next =>
          refine .inr ⟨some next, by simp only [removed], ?_⟩
          intro same eq
          cases eq
          exact lawful.removed store next _ removed

omit [KeyValueStore S] in
theorem Session.resolveStage_cases (s : Session S D) (name : String) :
    (∃ service, s.resolveStage name = .aiming service name) ∨
      ∃ e, s.resolveStage name = .finished (.error e) := by
  rw [resolveStage]
  split
  · exact .inr ⟨_, rfl⟩
  · split
    · exact .inl ⟨_, rfl⟩
    · exact .inr ⟨_, rfl⟩
    · exact .inr ⟨_, rfl⟩

/-- The stages of a call whose service is found. -/
inductive OnWay (name : String) (service : Service) : ConnectStage → Prop
  | resolving : OnWay name service (.resolving name)
  | aiming : OnWay name service (.aiming service name)
  | remembering : OnWay name service (.remembering service name)
  | starting : OnWay name service (.starting service.address)
  | waiting (attempt : Nat) : OnWay name service (.waiting service.address attempt)
  | finished (outcome : Except SessionError (List Payload)) : OnWay name service (.finished outcome)

/-- The call ended because the service could not be remembered. -/
def ConnectStage.Unremembered (stage : ConnectStage) : Prop :=
  ∃ e, stage = .finished (.error (.storage e))

/-- The network had the last word on an attempt. -/
def AnsweredBy (network : Network) (address : String) (link : Link Payload)
    (outcome : Except SessionError (List Payload)) : Prop :=
  match network address with
  | .ok () => (∃ handed, outcome = .ok handed) ∧ link.state = .connected
  | .error e => outcome = .error (.io e.message) ∧ link.state = .disconnected

/-- How a race stands when the service of its call is found and the call has some steps left. -/
structure Raced (network : Network) (name : String) (service : Service) (left : Nat) (r : Race S D) :
    Prop where
  resolves : r.session.resolveStage name = .aiming service name
  onWay : OnWay name service r.stage
  remaining : r.stage.remaining = left
  passed : ∀ k, r.cut = some k → left ≤ k.remaining ∧ 0 < k.remaining
  wiped_passed : ∀ m o, r.wiped = some (m, o) → left ≤ m.remaining
  /-- The link is cut before the store forgets. -/
  ordered : ∀ m o, r.wiped = some (m, o) → ∃ k, r.cut = some k ∧ m.remaining ≤ k.remaining
  aimed : left ≤ 3 → (∀ k, r.cut = some k → 3 < k.remaining) →
    r.session.link.target = some (.service name)
  aimless : ∀ k, r.cut = some k → k.remaining ≤ 3 ∨ 3 < left → r.session.link.target = none
  /-- Until the attempt starts, and once it was cut off, there is no connection. -/
  apart : ∀ k, r.cut = some k → k.remaining ≤ 1 ∨ 1 < left ∨ r.stage.Unremembered →
    r.session.link.state = .disconnected
  awaited : ∀ address attempt, r.stage = .waiting address attempt →
    (∀ k, r.cut = some k → 1 < k.remaining) → r.session.link.awaits attempt = true
  cut_off : ∀ outcome k, r.stage = .finished outcome → r.cut = some k → k.remaining ≤ 1 →
    outcome = .error (refusal (network service.address))
  answered : ∀ outcome, r.stage = .finished outcome → (∀ k, r.cut = some k → 1 < k.remaining) →
    r.stage.Unremembered ∨ AnsweredBy network service.address r.session.link outcome
  /-- The service is remembered from its stage on, unless the store forgot after that. -/
  kept : left ≤ 2 → ¬r.stage.Unremembered → (∀ m, r.wiped = some (m, .ok ()) → 2 < m.remaining) →
    ∀ store, r.session.store = some store → Recalls store (some name)
  gone : ∀ m, r.wiped = some (m, .ok ()) → m.remaining ≤ 2 ∨ 2 < left ∨ r.stage.Unremembered →
    ∀ store, r.session.store = some store → Recalls store none

namespace Raced

variable {network : Network} {name : String} {service : Service} {r : Race S D}

theorem start {s : Session S D} (resolves : s.resolveStage name = .aiming service name) :
    Raced network name service 5 { session := s, stage := .resolving name } where
  resolves := resolves
  onWay := .resolving
  remaining := rfl
  passed := nofun
  wiped_passed := nofun
  ordered := nofun
  aimed early := absurd early (by decide)
  aimless := nofun
  apart := nofun
  awaited := nofun
  cut_off := nofun
  answered := nofun
  kept early := absurd early (by decide)
  gone := nofun

section call

variable {session : Session S D} {cut : Option ConnectStage} {cleared : Bool}
  {wiped : Option (ConnectStage × Except SessionError Unit)}

theorem resolve (h : Raced network name service 5 ⟨session, .resolving name, cut, cleared, wiped⟩) :
    Raced network name service 4 ⟨session, .aiming service name, cut, cleared, wiped⟩ where
  resolves := h.resolves
  onWay := .aiming
  remaining := rfl
  passed k there := (h.passed k there).imp_left Nat.le_of_succ_le
  wiped_passed m o there := Nat.le_of_succ_le (h.wiped_passed m o there)
  ordered := h.ordered
  aimed early := absurd early (by decide)
  aimless k there _ := h.aimless k there (.inr (by decide))
  apart k there _ := h.apart k there (.inr (.inl (by decide)))
  awaited := nofun
  cut_off := nofun
  answered := nofun
  kept early := absurd early (by decide)
  gone m there _ := h.gone m there (.inr (.inl (by decide)))

theorem aim (h : Raced network name service 4 ⟨session, .aiming service name, cut, cleared, wiped⟩) :
    Raced network name service 3
      ⟨{ session with link := { session.link with target := some (.service name) } },
        .remembering service name, cut, cleared, wiped⟩ where
  resolves := h.resolves
  onWay := .remembering
  remaining := rfl
  passed k there := (h.passed k there).imp_left Nat.le_of_succ_le
  wiped_passed m o there := Nat.le_of_succ_le (h.wiped_passed m o there)
  ordered := h.ordered
  aimed _ _ := rfl
  aimless k there late := by
    have early : 4 ≤ k.remaining := (h.passed k there).1
    omega
  apart k there _ := h.apart k there (.inr (.inl (by decide)))
  awaited := nofun
  cut_off := nofun
  answered := nofun
  kept early := absurd early (by decide)
  gone m there _ := h.gone m there (.inr (.inl (by decide)))

/-- The service is remembered, or there is nothing to remember it. -/
theorem remembered {store : Option S}
    (h : Raced network name service 3 ⟨session, .remembering service name, cut, cleared, wiped⟩)
    (recalls : ∀ next, store = some next → Recalls next (some name)) :
    Raced network name service 2
      ⟨{ session with store }, .starting service.address, cut, cleared, wiped⟩ where
  resolves := h.resolves
  onWay := .starting
  remaining := rfl
  passed k there := (h.passed k there).imp_left Nat.le_of_succ_le
  wiped_passed m o there := Nat.le_of_succ_le (h.wiped_passed m o there)
  ordered := h.ordered
  aimed _ early := h.aimed (by decide) early
  aimless k there late := h.aimless k there (by omega)
  apart k there _ := h.apart k there (.inr (.inl (by decide)))
  awaited := nofun
  cut_off := nofun
  answered := nofun
  kept _ _ _ := recalls
  gone m there late := by
    have early : 3 ≤ m.remaining := h.wiped_passed m _ there
    rcases late with late | late | ⟨e, late⟩
    · omega
    · omega
    · cases late

theorem unremembered (e : StoreError)
    (h : Raced network name service 3 ⟨session, .remembering service name, cut, cleared, wiped⟩) :
    Raced network name service 0
      ⟨session, .finished (.error (.storage e)), cut, cleared, wiped⟩ where
  resolves := h.resolves
  onWay := .finished _
  remaining := rfl
  passed k there := ⟨Nat.zero_le _, (h.passed k there).2⟩
  wiped_passed m o there := Nat.zero_le _
  ordered := h.ordered
  aimed _ early := h.aimed (by decide) early
  aimless k there late := h.aimless k there (by omega)
  apart k there _ := h.apart k there (.inr (.inl (by decide)))
  awaited := nofun
  cut_off outcome k _ there late := by
    have early : 3 ≤ k.remaining := (h.passed k there).1
    omega
  answered outcome _ _ := .inl ⟨e, rfl⟩
  kept _ remembered := absurd ⟨e, rfl⟩ remembered
  gone m there _ := h.gone m there (.inr (.inl (by decide)))

theorem remember (lawful : KeyValueStore.Lawful S)
    (h : Raced network name service 3 ⟨session, .remembering service name, cut, cleared, wiped⟩) :
    ∃ left, Raced network name service left
      ⟨(session.remember service name).2, (session.remember service name).1, cut, cleared, wiped⟩ := by
  rw [Session.remember]
  cases stored : session.store with
  | none =>
      have same : { session with store := none } = session := by rw [← stored]
      have next : Raced network name service 2
          ⟨{ session with store := none }, .starting service.address, cut, cleared, wiped⟩ :=
        h.remembered nofun
      rw [same] at next
      exact ⟨2, next⟩
  | some store =>
      cases wrote : KeyValueStore.write store lastServiceKey name with
      | error e => simpa only [wrote] using ⟨0, h.unremembered e⟩
      | ok next =>
          simp only [wrote]
          refine ⟨2, h.remembered ?_⟩
          intro store' same
          cases same
          exact lawful.written store next _ _ wrote

theorem begin
    (h : Raced network name service 2 ⟨session, .starting service.address, cut, cleared, wiped⟩) :
    Raced network name service 1
      ⟨{ session with link := session.link.start },
        .waiting service.address session.link.start.generation, cut, cleared, wiped⟩ where
  resolves := h.resolves
  onWay := .waiting _
  remaining := rfl
  passed k there := (h.passed k there).imp_left Nat.le_of_succ_le
  wiped_passed m o there := Nat.le_of_succ_le (h.wiped_passed m o there)
  ordered := h.ordered
  aimed _ early := h.aimed (by decide) early
  aimless k there late := h.aimless k there (by omega)
  apart k there late := by
    have early : 2 ≤ k.remaining := (h.passed k there).1
    rcases late with late | late | ⟨_, late⟩
    · omega
    · omega
    · cases late
  awaited address attempt waits _ := by
    cases waits
    simp [Link.awaits, Link.start]
  cut_off := nofun
  answered := nofun
  kept _ _ late := h.kept (by decide) nofun late
  gone m there late := by
    rcases late with late | late | ⟨_, late⟩
    · exact h.gone m there (.inl late)
    · omega
    · cases late

/-- The network has answered; whether that changes the link does not concern the target. -/
theorem concluded {attempt : Nat} {link : Link Payload} {outcome : Except SessionError (List Payload)}
    (h : Raced network name service 1
      ⟨session, .waiting service.address attempt, cut, cleared, wiped⟩)
    (target : link.target = session.link.target) (other : ∀ e, outcome ≠ .error (.storage e))
    (late : ∀ k, cut = some k → k.remaining ≤ 1 →
      link.state = .disconnected ∧ outcome = .error (refusal (network service.address)))
    (early : (∀ k, cut = some k → 1 < k.remaining) → AnsweredBy network service.address link outcome) :
    Raced network name service 0 ⟨{ session with link }, .finished outcome, cut, cleared, wiped⟩ where
  resolves := h.resolves
  onWay := .finished _
  remaining := rfl
  passed k there := ⟨Nat.zero_le _, (h.passed k there).2⟩
  wiped_passed m o there := Nat.zero_le _
  ordered := h.ordered
  aimed _ before := target.trans (h.aimed (by decide) before)
  aimless k there after := target.trans (h.aimless k there (by omega))
  apart k there after := by
    rcases after with after | after | ⟨e, after⟩
    · exact (late k there after).1
    · omega
    · cases after
      exact absurd rfl (other e)
  awaited := nofun
  cut_off _ k same there after := by
    cases same
    exact (late k there after).2
  answered _ same before := by
    cases same
    exact .inr (early before)
  kept _ _ after := h.kept (by decide) nofun after
  gone m there after := by
    rcases after with after | after | ⟨e, after⟩
    · exact h.gone m there (.inl after)
    · omega
    · cases after
      exact absurd rfl (other e)

/-- The answer reaches an attempt that the forgetting did not cut off. -/
theorem heard {attempt : Nat} {link : Link Payload} {outcome : Except SessionError (List Payload)}
    (h : Raced network name service 1
      ⟨session, .waiting service.address attempt, cut, cleared, wiped⟩)
    (early : ∀ k, cut = some k → 1 < k.remaining) (target : link.target = session.link.target)
    (other : ∀ e, outcome ≠ .error (.storage e))
    (answered : AnsweredBy network service.address link outcome) :
    Raced network name service 0 ⟨{ session with link }, .finished outcome, cut, cleared, wiped⟩ :=
  h.concluded target other (fun k there late => absurd (early k there) (Nat.not_lt.mpr late))
    fun _ => answered

/-- The link was cut while the attempt waited. -/
theorem unheard {attempt : Nat} {k : ConnectStage}
    (h : Raced network name service 1
      ⟨session, .waiting service.address attempt, some k, cleared, wiped⟩)
    (late : k.remaining ≤ 1) :
    session.link.awaits attempt = false ∧
      Raced network name service 0
        ⟨session, .finished (.error (refusal (network service.address))), some k, cleared, wiped⟩ := by
  have state := h.apart k rfl (.inl late)
  refine ⟨?_, h.concluded (Eq.refl session.link.target) ?_ (fun _ _ _ => ⟨state, rfl⟩) fun before => ?_⟩
  · rw [Link.awaits, state]
    exact Bool.and_false _
  · intro e same
    cases answer : network service.address with
    | ok _ =>
        rw [answer] at same
        cases same
    | error e' =>
        rw [answer] at same
        cases same
  · exact absurd (before k rfl) (Nat.not_lt.mpr late)

theorem conclude {attempt : Nat}
    (h : Raced network name service 1
      ⟨session, .waiting service.address attempt, cut, cleared, wiped⟩) :
    Raced network name service 0
      ⟨(session.conclude service.address attempt (network service.address)).2,
        (session.conclude service.address attempt (network service.address)).1, cut, cleared, wiped⟩ := by
  by_cases early : ∀ k, cut = some k → 1 < k.remaining
  · have awaits := h.awaited _ _ rfl early
    cases answer : network service.address with
    | ok _ =>
        rw [Session.conclude_ok _ awaits]
        refine h.heard early ?_ (fun e same => by cases same) ?_
        · rw [Link.succeed, if_pos awaits]
        · rw [AnsweredBy, answer, Link.succeed, if_pos awaits]
          exact ⟨⟨_, rfl⟩, rfl⟩
    | error e =>
        rw [Session.conclude]
        refine h.heard early ?_ (fun e same => by cases same) ?_
        · rw [Link.fail, if_pos awaits]
        · rw [AnsweredBy, answer, Link.fail, if_pos awaits]
          exact ⟨rfl, rfl⟩
  · obtain ⟨k, rfl, late⟩ : ∃ k, cut = some k ∧ k.remaining ≤ 1 := by
      simpa only [not_forall, Nat.not_lt, exists_prop] using early
    obtain ⟨forgotten, unheard⟩ := h.unheard late
    rw [Session.conclude_of_not_awaits _ _ forgotten]
    exact unheard

theorem call (lawful : KeyValueStore.Lawful S) {left : Nat} (h : Raced network name service left r) :
    ∃ left, Raced network name service left (r.step network .call) := by
  obtain ⟨session, stage, cut, cleared, wiped⟩ := r
  obtain rfl := h.remaining
  have onWay := h.onWay
  cases onWay with
  | resolving =>
      rw [Race.step, Session.advance, h.resolves]
      exact ⟨4, h.resolve⟩
  | aiming => exact ⟨3, h.aim⟩
  | remembering => exact h.remember lawful
  | starting => exact ⟨1, h.begin⟩
  | waiting attempt => exact ⟨0, h.conclude⟩
  | finished outcome => exact ⟨0, h⟩

theorem cutLink {stage : ConnectStage} {left : Nat} (lasts : 0 < left)
    (h : Raced network name service left ⟨session, stage, none, cleared, wiped⟩) :
    Raced network name service left ⟨session.forgetLink, stage, some stage, cleared, wiped⟩ where
  resolves := h.resolves
  onWay := h.onWay
  remaining := h.remaining
  passed k there := by
    cases there
    exact ⟨Nat.le_of_eq h.remaining.symm, h.remaining ▸ lasts⟩
  wiped_passed := h.wiped_passed
  ordered m o there := by
    obtain ⟨k, cut, _⟩ := h.ordered m o there
    cases cut
  aimed late early := absurd (h.remaining ▸ early stage rfl) (Nat.not_lt.mpr late)
  aimless _ _ _ := rfl
  apart _ _ _ := rfl
  awaited address attempt waits early := by
    have before : 1 < stage.remaining := early stage rfl
    cases waits
    exact absurd before (Nat.lt_irrefl 1)
  cut_off outcome k ended _ _ := by
    cases ended
    exact absurd h.remaining (Nat.ne_of_lt lasts)
  answered outcome ended _ := by
    cases ended
    exact absurd h.remaining (Nat.ne_of_lt lasts)
  kept := h.kept
  gone := h.gone

section wipe

variable {stage : ConnectStage} {left : Nat}

/-- The store has forgotten, or there is none. -/
theorem wiped_ok {store : Option S} {k : ConnectStage}
    (h : Raced network name service left ⟨session, stage, some k, cleared, none⟩)
    (recalls : ∀ next, store = some next → Recalls next none) :
    Raced network name service left
      ⟨{ session with store }, stage, some k, cleared, some (stage, .ok ())⟩ where
  resolves := h.resolves
  onWay := h.onWay
  remaining := h.remaining
  passed := h.passed
  wiped_passed m o there := by
    cases there
    exact Nat.le_of_eq h.remaining.symm
  ordered m o there := by
    cases there
    exact ⟨k, rfl, h.remaining ▸ (h.passed k rfl).1⟩
  aimed := h.aimed
  aimless := h.aimless
  apart := h.apart
  awaited := h.awaited
  cut_off := h.cut_off
  answered := h.answered
  kept late _ early := absurd (h.remaining ▸ early stage rfl) (Nat.not_lt.mpr late)
  gone _ _ _ := recalls

theorem wiped_error {k : ConnectStage} (e : SessionError)
    (h : Raced network name service left ⟨session, stage, some k, cleared, none⟩) :
    Raced network name service left ⟨session, stage, some k, cleared, some (stage, .error e)⟩ where
  resolves := h.resolves
  onWay := h.onWay
  remaining := h.remaining
  passed := h.passed
  wiped_passed m o there := by
    cases there
    exact Nat.le_of_eq h.remaining.symm
  ordered m o there := by
    cases there
    exact ⟨k, rfl, h.remaining ▸ (h.passed k rfl).1⟩
  aimed := h.aimed
  aimless := h.aimless
  apart := h.apart
  awaited := h.awaited
  cut_off := h.cut_off
  answered := h.answered
  kept late remembered _ := h.kept late remembered nofun
  gone := nofun

theorem wipe {k : ConnectStage} (lawful : KeyValueStore.Lawful S)
    (h : Raced network name service left ⟨session, stage, some k, cleared, none⟩) :
    Raced network name service left
      ⟨session.forgetStored.2, stage, some k, cleared, some (stage, session.forgetStored.1)⟩ := by
  obtain ⟨e, failed⟩ | ⟨store, done, recalls⟩ := session.forgetStored_cases lawful
  · rw [failed]
    exact h.wiped_error e
  · rw [done]
    exact h.wiped_ok recalls

end wipe

end call

theorem forget (lawful : KeyValueStore.Lawful S) {left : Nat} (h : Raced network name service left r) :
    Raced network name service left r.forgetNext := by
  obtain done | ⟨lasts, uncut, done⟩ | done | ⟨⟨k, cut⟩, unwiped, done⟩ := r.forgetNext_cases
  · rwa [done]
  · rw [done]
    rw [h.remaining] at lasts
    obtain ⟨session, stage, cut, cleared, wiped⟩ := r
    cases uncut
    exact h.cutLink lasts
  · rw [done]
    exact ⟨h.resolves, h.onWay, h.remaining, h.passed, h.wiped_passed, h.ordered, h.aimed, h.aimless,
      h.apart, h.awaited, h.cut_off, h.answered, h.kept, h.gone⟩
  · rw [done]
    obtain ⟨session, stage, _, cleared, _⟩ := r
    cases cut
    cases unwiped
    exact h.wipe lawful

theorem after (lawful : KeyValueStore.Lawful S) {s : Session S D}
    (resolves : s.resolveStage name = .aiming service name) (steps : List RaceStep) :
    ∃ left, Raced network name service left (Race.after network s name steps) := by
  induction steps using List.reverseRecOn with
  | nil => exact ⟨5, start resolves⟩
  | append_singleton steps x ih =>
      obtain ⟨left, raced⟩ := ih
      rw [Race.after_concat]
      cases x with
      | call => exact raced.call lawful
      | forget => exact ⟨left, raced.forget lawful⟩

section outcome

variable {left : Nat} {k : ConnectStage} {outcome : Except SessionError (List Payload)}
  (h : Raced network name service left r) (ended : r.stage = .finished outcome)

include h ended

theorem nothing_left : left = 0 := by
  rw [← h.remaining, ended]
  rfl

variable (there : r.cut = some k)

include there in
theorem final (waited : k.remaining = 1) :
    (∃ e, outcome = .error e) ∧ r.session.link.state = .disconnected ∧ r.session.link.target = none ∧
      ∀ m, r.wiped = some (m, .ok ()) → ∀ store, r.session.store = some store → Recalls store none := by
  refine ⟨⟨_, h.cut_off outcome k ended there (by omega)⟩, h.apart k there (.inl (by omega)),
    h.aimless k there (.inl (by omega)), fun m wiped => ?_⟩
  obtain ⟨k', there', after⟩ := h.ordered m _ wiped
  cases there.symm.trans there'
  exact h.gone m wiped (.inl (by omega))

include there in
theorem target_eq :
    r.session.link.target = if k.remaining ≤ 3 then none else some (.service name) := by
  have nothing := h.nothing_left ended
  split
  case isTrue late => exact h.aimless k there (.inl late)
  case isFalse early =>
    refine h.aimed (by omega) fun k' there' => ?_
    cases there.symm.trans there'
    exact Nat.not_le.mp early

theorem recalls {m : ConnectStage} {store : S} (remembered : ¬r.stage.Unremembered)
    (wiped : r.wiped = some (m, .ok ())) (held : r.session.store = some store) :
    Recalls store (if m.remaining ≤ 2 then none else some name) := by
  have nothing := h.nothing_left ended
  split
  case isTrue late => exact h.gone m wiped (.inl late) store held
  case isFalse early =>
    refine h.kept (by omega) remembered (fun m' wiped' => ?_) store held
    cases wiped.symm.trans wiped'
    exact Nat.not_le.mp early

end outcome

end Raced

end found

/-- How a race stands when the service of its call is not found. -/
structure Unfound {S D : Type} [KeyValueStore S] [ServiceLookup D] (name : String)
    (outcome : Except SessionError (List Payload)) (r : Race S D) : Prop where
  resolves : r.session.resolveStage name = .finished outcome
  stage : r.stage = .resolving name ∨ r.stage = .finished outcome
  early : ∀ k, r.cut = some k → k = .resolving name
  apart : r.cut.isSome → r.session.link.state = .disconnected ∧ r.session.link.target = none
  gone : ∀ m, r.wiped = some (m, .ok ()) → ∀ store, r.session.store = some store → Recalls store none

namespace Unfound

variable {S D : Type} [KeyValueStore S] [ServiceLookup D] {network : Network} {name : String}
  {outcome : Except SessionError (List Payload)} {r : Race S D}

theorem start {s : Session S D} (resolves : s.resolveStage name = .finished outcome) :
    Unfound name outcome { session := s, stage := .resolving name } where
  resolves := resolves
  stage := .inl rfl
  early := nofun
  apart := nofun
  gone := nofun

theorem call (h : Unfound name outcome r) : Unfound name outcome (r.step network .call) := by
  obtain ⟨session, stage, cut, cleared, wiped⟩ := r
  obtain rfl | rfl := h.stage
  · rw [Race.step, Session.advance, h.resolves]
    exact ⟨h.resolves, .inr rfl, h.early, h.apart, h.gone⟩
  · exact h

theorem forget (lawful : KeyValueStore.Lawful S) (h : Unfound name outcome r) :
    Unfound name outcome r.forgetNext := by
  obtain done | ⟨lasts, _, done⟩ | done | ⟨_, _, done⟩ := r.forgetNext_cases
  · rwa [done]
  · rw [done]
    refine ⟨h.resolves, h.stage, ?_, fun _ => ⟨rfl, rfl⟩, h.gone⟩
    intro k there
    cases there
    obtain here | ended := h.stage
    · exact here
    · rw [ended] at lasts
      exact absurd lasts (Nat.lt_irrefl 0)
  · rw [done]
    exact ⟨h.resolves, h.stage, h.early, h.apart, h.gone⟩
  · rw [done]
    obtain ⟨e, failed⟩ | ⟨store, wiped, recalls⟩ := r.session.forgetStored_cases lawful
    · rw [failed]
      exact ⟨h.resolves, h.stage, h.early, h.apart, fun m there => by cases there⟩
    · rw [wiped]
      exact ⟨h.resolves, h.stage, h.early, h.apart, fun _ _ => recalls⟩

theorem after (lawful : KeyValueStore.Lawful S) {s : Session S D}
    (resolves : s.resolveStage name = .finished outcome) (steps : List RaceStep) :
    Unfound name outcome (Race.after network s name steps) := by
  induction steps using List.reverseRecOn with
  | nil => exact start resolves
  | append_singleton steps x ih =>
      rw [Race.after_concat]
      cases x with
      | call => exact ih.call
      | forget => exact ih.forget lawful

end Unfound

section law

variable {S D : Type} [KeyValueStore S] [ServiceLookup D]

theorem Session.remaining_advance_lt (network : Network) (s : Session S D) {stage : ConnectStage}
    (lasts : stage.remaining ≠ 0) : (s.advance network stage).1.remaining < stage.remaining := by
  cases stage with
  | resolving name =>
      obtain ⟨service, resolves⟩ | ⟨e, resolves⟩ := s.resolveStage_cases name
      · rw [advance, resolves]
        exact Nat.lt_succ_self 4
      · rw [advance, resolves]
        exact Nat.succ_pos 4
  | aiming service name => exact Nat.lt_succ_self 3
  | remembering service name =>
      rw [advance, remember]
      split
      · exact Nat.lt_succ_self 2
      · split
        · exact Nat.succ_pos 2
        · exact Nat.lt_succ_self 2
  | starting address => exact Nat.lt_succ_self 1
  | waiting address attempt =>
      rw [advance]
      cases network address with
      | error e => exact Nat.succ_pos 0
      | ok _ =>
          rw [conclude]
          split
          · exact Nat.succ_pos 0
          · exact Nat.succ_pos 0
  | finished outcome => exact absurd rfl lasts

/-- How every race ends. It comes down to where the call was when the link was cut and when the store
forgot. -/
structure OvertakenLaw (network : Network) (s : Session S D) (name : String) (r : Race S D) : Prop where
  /-- Every step of the call brings it nearer to its end. -/
  ends : r.stage.remaining ≠ 0 →
    (r.step network .call).stage.remaining < r.stage.remaining
  /-- Cutting the link while the attempt waits for the network is final. -/
  final : ∀ outcome k, r.stage = .finished outcome → r.cut = some k → k.remaining = 1 →
    (∃ e, outcome = .error e) ∧ r.session.link.state = .disconnected ∧ r.session.link.target = none ∧
      ∀ m, r.wiped = some (m, .ok ()) → ∀ store, r.session.store = some store → Recalls store none
  /-- A service that is not found is not connected to, and none is remembered. -/
  unfound : ∀ failure outcome k, s.resolveStage name = .finished failure →
    r.stage = .finished outcome → r.cut = some k →
      outcome = failure ∧ r.session.link.state = .disconnected ∧ r.session.link.target = none ∧
        ∀ m, r.wiped = some (m, .ok ()) → ∀ store, r.session.store = some store → Recalls store none
  /-- When the link is cut before the attempt starts, the network decides whether there is a
  connection. -/
  answered : ∀ service outcome k, s.resolveStage name = .aiming service name →
    r.stage = .finished outcome → r.cut = some k → 1 < k.remaining → ¬r.stage.Unremembered →
      match network service.address with
      | .ok () => (∃ handed, outcome = .ok handed) ∧ r.session.link.state = .connected
      | .error e => outcome = .error (.io e.message) ∧ r.session.link.state = .disconnected
  /-- The service stays the target when the link is cut before it became that. -/
  target : ∀ service outcome k, s.resolveStage name = .aiming service name →
    r.stage = .finished outcome → r.cut = some k →
      r.session.link.target = if k.remaining ≤ 3 then none else some (.service name)
  /-- It stays remembered when the store forgets before it was remembered. -/
  stored : ∀ service outcome m store, s.resolveStage name = .aiming service name →
    r.stage = .finished outcome → ¬r.stage.Unremembered → r.wiped = some (m, .ok ()) →
      r.session.store = some store → Recalls store (if m.remaining ≤ 2 then none else some name)
  /-- A call that fails to have its service remembered connects to nothing. -/
  unremembered : ∀ service k, s.resolveStage name = .aiming service name → r.stage.Unremembered →
    r.cut = some k → r.session.link.state = .disconnected ∧
      ∀ m, r.wiped = some (m, .ok ()) → ∀ store, r.session.store = some store → Recalls store none

theorem overtaken_law (lawful : KeyValueStore.Lawful S) (network : Network) (s : Session S D)
    (name : String) (steps : List RaceStep) :
    OvertakenLaw network s name (Race.after network s name steps) := by
  have raced (service : Service) (found : s.resolveStage name = .aiming service name) :
      ∃ left, Raced network name service left (Race.after network s name steps) :=
    Raced.after lawful found steps
  have missed (failure : Except SessionError (List Payload))
      (found : s.resolveStage name = .finished failure) :
      Unfound name failure (Race.after network s name steps) :=
    Unfound.after lawful found steps
  generalize Race.after network s name steps = r at raced missed
  refine ⟨fun lasts => Session.remaining_advance_lt network r.session lasts, ?_, ?_, ?_, ?_, ?_, ?_⟩
  · intro outcome k ended there waited
    obtain ⟨service, found⟩ | ⟨e, found⟩ := s.resolveStage_cases name
    · obtain ⟨_, h⟩ := raced service found
      exact h.final ended there waited
    · rw [(missed _ found).early k there] at waited
      cases waited
  · intro failure outcome k found ended there
    have h := missed failure found
    obtain here | done := h.stage
    · cases here.symm.trans ended
    · cases done.symm.trans ended
      obtain ⟨apart, aimless⟩ := h.apart (there ▸ rfl)
      exact ⟨rfl, apart, aimless, h.gone⟩
  · intro service outcome k found ended there early remembered
    obtain ⟨_, h⟩ := raced service found
    have answered := h.answered outcome ended fun k' there' => by
      cases there.symm.trans there'
      exact early
    exact answered.resolve_left remembered
  · intro service outcome k found ended there
    obtain ⟨_, h⟩ := raced service found
    exact h.target_eq ended there
  · intro service outcome m store found ended remembered wiped held
    obtain ⟨_, h⟩ := raced service found
    exact h.recalls ended remembered wiped held
  · intro service k found failed there
    obtain ⟨_, h⟩ := raced service found
    exact ⟨h.apart k there (.inr (.inr failed)), fun m wiped => h.gone m wiped (.inr (.inr failed))⟩

/-- Once the store has forgotten, a call to connect to the last service finds none and changes nothing. -/
theorem Session.connectLast_of_forgotten (network : Network) {s : Session S D}
    (forgotten : ∀ store, s.store = some store → Recalls store none) :
    ∃ e, s.connectLast network = (.error e, s) := by
  rw [connectLast]
  cases stored : s.store with
  | none => exact ⟨_, rfl⟩
  | some store =>
      cases read : KeyValueStore.read store lastServiceKey with
      | error e => exact ⟨.storage e, by simp only [read]⟩
      | ok found =>
          obtain rfl := forgotten store stored found read
          exact ⟨.noTarget, by simp only [read]⟩

end law

section kitchen

/-- A session that remembers services and knows of one. -/
def kitchenSession : Session Store LocalDirectory where
  store := some {}
  directory := some (LocalDirectory.advertise {} "kitchen" 7000)

def reachAll : Network := fun _ => .ok ()

/-- Forgetting while the attempt waits for the network. -/
theorem forgotten_while_waiting :
    let race := Race.after reachAll kitchenSession "kitchen"
      [.call, .call, .call, .call, .forget, .forget, .forget, .call]
    KeyValueStore.Lawful Store ∧ OvertakenLaw reachAll kitchenSession "kitchen" race ∧
      race.stage.remaining = 0 ∧ race.cut.map ConnectStage.remaining = some 1 ∧
      race.session.link.state = .disconnected ∧ race.session.link.target = none ∧
      race.session.store.map (·.get? lastServiceKey) = some none :=
  ⟨Store.lawful, overtaken_law Store.lawful reachAll kitchenSession "kitchen" _, by decide +kernel⟩

/-- A forgetting that runs while the service is looked up is undone: the session connects, aims at the
service and remembers it. -/
theorem connected_after_forgetting :
    let race := Race.after reachAll kitchenSession "kitchen"
      [.forget, .forget, .forget, .call, .call, .call, .call, .call]
    race.stage.remaining = 0 ∧ race.cut.map ConnectStage.remaining = some 5 ∧
      race.wiped.map (·.1.remaining) = some 5 ∧ race.session.link.state = .connected ∧
      race.session.link.target = some (.service "kitchen") ∧
      race.session.store.map (·.get? lastServiceKey) = some (some "kitchen") := by
  decide +kernel

end kitchen

end Switchboard
