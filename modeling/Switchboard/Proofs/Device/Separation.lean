import Mathlib.Data.List.Infix
import Mathlib.Data.List.Induction
import Mathlib.Logic.Function.Basic
import Switchboard.Proofs.Device.Neighbours

/-!
Connections that share their hardware do not notice each other. As long as a connection does not choose the
dongle's protocol, its replies and what it is told later are those of the run in which no other connection does
anything.
-/

namespace Switchboard

/-- Connections, each with a router of its own, and the hardware that they share. -/
structure Site (R D : Type) where
  hardware : Hardware R D
  routers : String → Router (Hardware R D) Device
  /-- The worker of the radio is held. -/
  held : Bool := false
  /-- All replies so far, with the connection that got them. -/
  replies : List (String × Payload) := []

inductive SiteStep
  | request (connection : String) (p : Payload)
  | close (connection : String)
  | hold
  | release
  /-- The worker of the dongle takes a job. -/
  | dongle

/-- Tells whether a step would be taken if there were no connection but the owner's. -/
def SiteStep.concerns (owner : String) : SiteStep → Bool
  | request connection _ => connection == owner
  | close connection => connection == owner
  | _ => true

namespace Site

variable {R D : Type}

def start (config : DeviceConfig) (hardware : Hardware R D) : Site R D where
  hardware := hardware
  routers connection := { registry := config.registry, connection }

/-- What a connection was replied. -/
def repliesTo (s : Site R D) (connection : String) : List Payload :=
  (s.replies.filter (·.1 == connection)).map Prod.snd

section settle

variable [Radio R]

/-- Lets the worker of the radio take every job, unless it is held. -/
def settle (s : Site R D) : Site R D :=
  if s.held then s else { s with hardware := s.hardware.settleRadio }

theorem settle_of_held {s : Site R D} (held : s.held = true) : s.settle = s :=
  if_pos held

theorem settle_of_free {s : Site R D} (free : s.held = false) :
    s.settle = { s with hardware := s.hardware.settleRadio } :=
  if_neg (Bool.eq_false_iff.mp free)

theorem routers_settle (s : Site R D) : s.settle.routers = s.routers := by
  cases held : s.held with
  | true => rw [settle_of_held held]
  | false => rw [settle_of_free held]

theorem settle_settle (steady : ∀ (radio : R) code, (Radio.transmit radio code).1 ≠ .crashed)
    (s : Site R D) : s.settle.settle = s.settle := by
  cases held : s.held with
  | true => rw [settle_of_held held, settle_of_held held]
  | false =>
      have free : { s with hardware := s.hardware.settleRadio }.held = false := held
      rw [settle_of_free held, settle_of_free free]
      simp only [Hardware.settleRadio_settleRadio steady]

end settle

variable [Dongle D]

def act (s : Site R D) : SiteStep → Site R D
  | .request connection p =>
    let (reply, router, hardware) := (s.routers connection).process p s.hardware
    { s with
      hardware
      routers := Function.update s.routers connection router
      replies := s.replies ++ [(connection, reply)] }
  | .close connection =>
    let (router, hardware) := (s.routers connection).close s.hardware
    { s with hardware, routers := Function.update s.routers connection router }
  | .hold => { s with held := true }
  | .release => { s with held := false }
  | .dongle => { s with hardware := s.hardware.stepDongle }

variable [Radio R]

/-- The site after steps each of which the worker of the radio follows with all that waits, unless it is
held. -/
def after (s : Site R D) (steps : List SiteStep) : Site R D :=
  steps.foldl (fun s x => (s.act x).settle) s

theorem after_concat (s : Site R D) (steps : List SiteStep) (x : SiteStep) :
    s.after (steps ++ [x]) = ((s.after steps).act x).settle := by
  rw [after, List.foldl_append, List.foldl_cons, List.foldl_nil, after]

/-- The worker of the radio may also take its time. -/
inductive Move
  | step (x : SiteStep)
  /-- The worker of the radio takes a job. -/
  | work

def move (s : Site R D) : Move → Site R D
  | .step x => s.act x
  | .work => { s with hardware := s.hardware.stepRadio }

def moved (s : Site R D) (moves : List Move) : Site R D :=
  moves.foldl move s

/-- Tells whether a move would be made if there were no connection but the owner's. -/
def concerns (owner : String) (s : Site R D) : Move → Bool
  | .step x => x.concerns owner
  | .work => s.hardware.radioQueue.waiting.head?.all fun w => w.job.connection == owner

/-- The moves without what other connections do and what the worker of the radio does for them. -/
def movesAlone (owner : String) : Site R D → List Move → List Move
  | _, [] => []
  | s, m :: rest =>
    if s.concerns owner m then m :: movesAlone owner (s.move m) rest
    else movesAlone owner (s.move m) rest

end Site

/-- The steps without the requests and the closes of other connections. -/
def alone (owner : String) (steps : List SiteStep) : List SiteStep :=
  steps.filter fun x => x.concerns owner

variable {R D : Type}

/-- A site, and one at which only the owner does anything. -/
structure Beside (config : DeviceConfig) (owner : String) (k : Numbering) (s t : Site R D) : Prop where
  mirrors : Mirrors owner k s.hardware t.hardware
  own : (ownLikeness R D owner).Routers config.registry owner k (s.routers owner) (t.routers owner)
  others : ∀ v connection, connection ≠ owner →
    (othersLikeness owner v).Routers config.registry connection k (s.routers connection)
      (s.routers connection)
  held : s.held = t.held
  replies : s.replies.filter (·.1 == owner) = t.replies.filter (·.1 == owner)

namespace Beside

variable {config : DeviceConfig} {owner : String} {k k' : Numbering} {s t : Site R D}

theorem start (config : DeviceConfig) (owner : String) (radio : R) (dongle : D)
    (hasRadio hasDongle : Bool) :
    ∃ k, Beside config owner k (Site.start config (.attach radio dongle hasRadio hasDongle))
      (Site.start config (.attach radio dongle hasRadio hasDongle)) := by
  refine ⟨_, .refl owner ?_ ?_ ?_, ?_, ?_, rfl, rfl⟩
  · cases hasRadio with
    | false => rfl
    | true => rfl
  · cases hasRadio with
    | false => rfl
    | true => rfl
  · cases hasDongle with
    | false => rfl
    | true => rfl
  · exact ⟨rfl, rfl, rfl, rfl, rfl, .nil⟩
  · intro v connection _
    exact ⟨rfl, rfl, rfl, rfl, rfl, .nil⟩

/-- The routers of others stand as they are, whatever the owner has alone. -/
theorem others_update (b : Beside config owner k s t) (grown : k.Grown k') {connection : String}
    {v : Hardware R D} {router : Router (Hardware R D) Device}
    (routers : connection ≠ owner →
      (othersLikeness owner v).Routers config.registry connection k' router router)
    (v' : Hardware R D) (other : String) (apart : other ≠ owner) :
    (othersLikeness owner v').Routers config.registry other k'
      (Function.update s.routers connection router other)
      (Function.update s.routers connection router other) := by
  by_cases same : other = connection
  · subst same
    rw [Function.update_self]
    have stands := routers apart
    exact ⟨stands.registry_eq, stands.registry_eq', stands.connection_eq, stands.connection_eq',
      stands.state, stands.instances⟩
  · rw [Function.update_of_ne same]
    exact (b.others v' other apart).grown grown

variable [Dongle D]

theorem request_own (b : Beside config owner k s t) {p : Payload}
    (kept : ((s.act (.request owner p)).routers owner).state ≠ .delegating "ZigBee") :
    ∃ k', Beside config owner k' (s.act (.request owner p)) (t.act (.request owner p)) := by
  simp only [Site.act, Function.update_self] at kept
  obtain ⟨reply, k', grown, routers, mirrors⟩ :=
    b.own.process (config.faithful_own owner) b.mirrors (p := p) fun other state zigBee =>
      kept (zigBee ▸ state)
  refine ⟨k', mirrors, ?_, ?_, b.held, ?_⟩
  · simp only [Site.act, Function.update_self]
    exact routers
  · exact b.others_update grown (v := t.hardware) fun apart => absurd rfl apart
  · simp only [Site.act, List.filter_append, b.replies, reply]

theorem request_other (b : Beside config owner k s t) {connection : String}
    (apart : connection ≠ owner) (p : Payload) :
    ∃ k', Beside config owner k' (s.act (.request connection p)) t := by
  obtain ⟨_, k', grown, routers, _, mirrors⟩ :=
    (b.others t.hardware connection apart).process (config.faithful_others apart t.hardware)
      ⟨rfl, b.mirrors⟩ (p := p) fun _ _ never => never
  refine ⟨k', mirrors, ?_, ?_, b.held, ?_⟩
  · simp only [Site.act, Function.update_of_ne apart.symm]
    exact b.own.grown grown
  · exact b.others_update grown fun _ => routers
  · exact (filter_concat_of_ne apart s.replies _).trans b.replies

theorem close_own (b : Beside config owner k s t) :
    Beside config owner k (s.act (.close owner)) (t.act (.close owner)) := by
  obtain ⟨routers, mirrors⟩ := b.own.close (config.faithful_own owner) b.mirrors
  refine ⟨mirrors, ?_, ?_, b.held, b.replies⟩
  · simp only [Site.act, Function.update_self]
    exact routers
  · exact b.others_update (.refl k) (v := t.hardware) fun apart => absurd rfl apart

theorem close_other (b : Beside config owner k s t) {connection : String} (apart : connection ≠ owner) :
    Beside config owner k (s.act (.close connection)) t := by
  obtain ⟨routers, _, mirrors⟩ :=
    (b.others t.hardware connection apart).close (config.faithful_others apart t.hardware)
      ⟨rfl, b.mirrors⟩
  refine ⟨mirrors, ?_, ?_, b.held, b.replies⟩
  · simp only [Site.act, Function.update_of_ne apart.symm]
    exact b.own
  · exact b.others_update (.refl k) fun _ => routers

/-- A step of the owner, or one of the workers, is taken on both sides. -/
theorem act_own (b : Beside config owner k s t) {x : SiteStep} (concerns : x.concerns owner = true)
    (kept : ((s.act x).routers owner).state ≠ .delegating "ZigBee") :
    ∃ k', Beside config owner k' (s.act x) (t.act x) := by
  cases x with
  | request connection p =>
      obtain rfl : connection = owner := beq_iff_eq.mp concerns
      exact b.request_own kept
  | close connection =>
      obtain rfl : connection = owner := beq_iff_eq.mp concerns
      exact ⟨k, b.close_own⟩
  | hold => exact ⟨k, b.mirrors, b.own, b.others, rfl, b.replies⟩
  | release => exact ⟨k, b.mirrors, b.own, b.others, rfl, b.replies⟩
  | dongle =>
      have idle : t.hardware.stepDongle = t.hardware := by
        rw [Hardware.stepDongle, JobQueue.take?_of_nil b.mirrors.idle]
      refine ⟨k, ?_, b.own, b.others, b.held, b.replies⟩
      rw [Site.act, Site.act, idle]
      exact b.mirrors.aside (.stepDongle b.mirrors.commands)

theorem act_other (b : Beside config owner k s t) {x : SiteStep} (concerns : x.concerns owner = false) :
    ∃ k', Beside config owner k' (s.act x) t := by
  cases x with
  | request connection p => exact b.request_other (beq_eq_false_iff_ne.mp concerns) p
  | close connection => exact ⟨k, b.close_other (beq_eq_false_iff_ne.mp concerns)⟩
  | hold => cases concerns
  | release => cases concerns
  | dongle => cases concerns

variable [Radio R] (steady : ∀ (radio : R) code, (Radio.transmit radio code).1 ≠ .crashed)
  (alike : ∀ (radio other : R) code, (Radio.transmit radio code).1 = (Radio.transmit other code).1)
include steady alike

omit [Dongle D] in
theorem settle (b : Beside config owner k s t) : Beside config owner k s.settle t.settle := by
  rw [Site.settle, Site.settle, ← b.held]
  split
  case isTrue => exact b
  case isFalse => exact ⟨b.mirrors.settleRadio steady alike, b.own, b.others, rfl, b.replies⟩

theorem move_own (b : Beside config owner k s t) {m : Site.Move} (concerns : s.concerns owner m = true)
    (kept : ((s.move m).routers owner).state ≠ .delegating "ZigBee") :
    ∃ k', Beside config owner k' (s.move m) (t.move m) := by
  cases m with
  | step x => exact b.act_own concerns kept
  | work => exact ⟨k, b.mirrors.work_own steady alike concerns, b.own, b.others, b.held, b.replies⟩

omit alike in
theorem move_other (b : Beside config owner k s t) {m : Site.Move}
    (concerns : s.concerns owner m = false) : ∃ k', Beside config owner k' (s.move m) t := by
  cases m with
  | step x => exact b.act_other concerns
  | work => exact ⟨k, b.mirrors.work_other steady concerns, b.own, b.others, b.held, b.replies⟩

/-- Whatever others do in between, and however slow the worker is, the site of the owner alone is found beside
the one that all share. -/
theorem moved (beside : ∃ k, Beside config owner k s t) {moves : List Site.Move}
    (kept : ∀ before, before <+: moves →
      ((s.moved before).routers owner).state ≠ .delegating "ZigBee") :
    ∃ k, Beside config owner k (s.moved moves) (t.moved (s.movesAlone owner moves)) := by
  -- What is left out depends on the site so far, so the run is followed from its beginning.
  induction moves generalizing s t with
  | nil => exact beside
  | cons m rest ih =>
      obtain ⟨k, b⟩ := beside
      have now := kept [m] (List.prefix_append [m] rest)
      have later (before : List Site.Move) (part : before <+: rest) :=
        kept (m :: before) ((List.prefix_cons_inj m).mpr part)
      rw [Site.movesAlone]
      split
      case isTrue concerns => exact ih (b.move_own steady alike concerns now) later
      case isFalse other =>
        exact ih (b.move_other steady (Bool.eq_false_iff.mpr other)) later

/-- Whatever others do in between, the site of the owner alone is found beside the one that all share. -/
theorem after {s : Site R D} (start : ∃ k, Beside config owner k s s) (idle : s.settle = s)
    {steps : List SiteStep}
    (kept : ∀ before, before <+: steps →
      ((s.after before).routers owner).state ≠ .delegating "ZigBee") :
    (∃ k, Beside config owner k (s.after steps) (s.after (alone owner steps))) ∧
      (s.after (alone owner steps)).settle = s.after (alone owner steps) := by
  induction steps using List.reverseRecOn with
  | nil => exact ⟨start, idle⟩
  | append_singleton steps x ih =>
      have now := kept _ (List.prefix_refl _)
      obtain ⟨⟨k, beside⟩, settled⟩ := ih fun before part =>
        kept before (part.trans (List.prefix_append steps [x]))
      rw [s.after_concat, Site.routers_settle] at now
      rw [s.after_concat, alone, List.filter_append]
      cases concerns : x.concerns owner with
      | true =>
          obtain ⟨k', beside'⟩ := beside.act_own concerns now
          rw [List.filter_cons_of_pos concerns, List.filter_nil, s.after_concat]
          exact ⟨⟨k', beside'.settle steady alike⟩, Site.settle_settle steady _⟩
      | false =>
          obtain ⟨k', beside'⟩ := beside.act_other concerns
          have later := beside'.settle steady alike
          rw [settled] at later
          rw [List.filter_cons_of_neg (Bool.eq_false_iff.mp concerns), List.filter_nil, List.append_nil]
          exact ⟨⟨k', later⟩, settled⟩

end Beside

/-- A connection finds itself at the same place of both sites, and has got the same. -/
structure SameFor (owner : String) (s t : Site R D) : Prop where
  replies : s.repliesTo owner = t.repliesTo owner
  told : (s.hardware.takeOutbox owner).1 = (t.hardware.takeOutbox owner).1
  /-- What it is told is fitted to the same menu. -/
  annotate : ∀ p, (s.routers owner).annotate p = (t.routers owner).annotate p

theorem Beside.sameFor {config : DeviceConfig} {owner : String} {k : Numbering} {s t : Site R D}
    (b : Beside config owner k s t) : SameFor owner s t where
  replies := congrArg (List.map Prod.snd) b.replies
  told := congrArg (List.map Prod.snd) b.mirrors.outbox
  annotate := b.own.annotate (config.faithful_own owner)

variable [Radio R] [Dongle D]

/-- A connection that does not choose the dongle's protocol gets the same as if it were alone. -/
structure SeparationLaw (start : Site R D) (owner : String) : Prop where
  settled : ∀ steps,
    (∀ before, before <+: steps →
      ((start.after before).routers owner).state ≠ .delegating "ZigBee") →
        SameFor owner (start.after steps) (start.after (alone owner steps))
  paced : ∀ moves,
    (∀ before, before <+: moves →
      ((start.moved before).routers owner).state ≠ .delegating "ZigBee") →
        SameFor owner (start.moved moves) (start.moved (start.movesAlone owner moves))

theorem separation_law (steady : ∀ (radio : R) code, (Radio.transmit radio code).1 ≠ .crashed)
    (alike : ∀ (radio other : R) code, (Radio.transmit radio code).1 = (Radio.transmit other code).1)
    (config : DeviceConfig) (radio : R) (dongle : D) (hasRadio hasDongle : Bool) (owner : String) :
    SeparationLaw (Site.start config (.attach radio dongle hasRadio hasDongle)) owner := by
  have start := Beside.start config owner radio dongle hasRadio hasDongle
  have idle : (Site.start config (Hardware.attach radio dongle hasRadio hasDongle)).settle =
      Site.start config (.attach radio dongle hasRadio hasDongle) := by
    cases hasRadio with
    | false => rfl
    | true => rfl
  refine ⟨?_, ?_⟩
  · intro steps kept
    obtain ⟨⟨k, beside⟩, -⟩ := Beside.after steady alike start idle kept
    exact beside.sameFor
  · intro moves kept
    obtain ⟨k, beside⟩ := Beside.moved steady alike start kept
    exact beside.sameFor

/-- The radio and the dongle of a household with a lamp, to which anyone can connect. -/
def household : Site SimulatedRadio SimulatedDongle :=
  Site.start { rf := { enabled := true, switches := [⟨"lamp", 1, 2⟩] } } (.attach {} {} true true)

/-- While the radio is held, one guest switches everything off and leaves, and another stays. -/
def guests : List SiteStep :=
  [.request "guest" (.request "RfSwitch"), .request "host" (.request "RfSwitch"), .hold,
    .request "guest" (.request "AllOff"), .request "host" (.request "AllOff"), .close "guest",
    .request "other" (.request "RfSwitch"), .request "other" (.request "AllOff"), .release,
    .request "host" (.request "ListSwitches")]

theorem separation_household :
    (∀ (radio : SimulatedRadio) code, (Radio.transmit radio code).1 ≠ .crashed) ∧
      (∀ (radio other : SimulatedRadio) code,
        (Radio.transmit radio code).1 = (Radio.transmit other code).1) ∧
      SameFor "host" (household.after guests) (household.after (alone "host" guests)) ∧
      ((household.after guests).repliesTo "host").length = 3 ∧
      ((household.after guests).hardware.takeOutbox "host").1.length = 1 ∧
      (household.after guests).hardware.radio.sent = [2, 2] := by
  have steady : ∀ (radio : SimulatedRadio) code, (Radio.transmit radio code).1 ≠ .crashed := by
    intro radio code crashed
    cases crashed
  have alike : ∀ (radio other : SimulatedRadio) code,
      (Radio.transmit radio code).1 = (Radio.transmit other code).1 := by
    intro radio other code
    rfl
  have law : SeparationLaw household "host" := separation_law steady alike _ _ _ _ _ _
  refine ⟨steady, alike, law.settled guests ?_, by decide +kernel, by decide +kernel, by decide +kernel⟩
  have kept : ∀ before ∈ guests.inits,
      ((household.after before).routers "host").state ≠ .delegating "ZigBee" := by
    decide +kernel
  intro before part
  exact kept before ((List.mem_inits before guests).mpr part)

end Switchboard
