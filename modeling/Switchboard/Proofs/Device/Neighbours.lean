import Switchboard.Device.Registry
import Switchboard.Proofs.Device.Menus
import Switchboard.Proofs.Device.RfAlike
import Switchboard.Proofs.Device.SharedRadio
import Switchboard.Proofs.Router.Likeness

/-!
Devices of connections that share their hardware. An instance of the owner answers as it would on hardware of
its own, and what it does comes to the same there; what an instance of another connection does is nothing that
the owner could see.
-/

namespace Switchboard

variable {R D : Type} {owner : String} {h v : Hardware R D}

/-- What an instance of the dongle's protocol does for its connection is aside for any other. -/
theorem ZigBeeTurn.aside {z : ZigBee} {result : Payload × ZigBee × Hardware R D}
    (turn : ZigBeeTurn z h result) (apart : z.connection ≠ owner) :
    result.2.1.connection = z.connection ∧ Aside owner h result.2.2 := by
  cases turn with
  | told _ _ => exact ⟨rfl, .refl h⟩
  | queued _ _ connection submitted _ =>
      refine ⟨rfl, rfl, rfl, rfl, ?_⟩
      intro w mem
      rw [JobQueue.waiting_of_submit submitted] at mem
      rcases List.mem_append.mp mem with old | new
      · exact .inl old
      · rw [List.mem_singleton.mp new, connection]
        exact .inr apart
  | restarted _ => exact ⟨rfl, .setCache h _ _⟩

namespace Numbering

/-- An instance of the owner, as it stands on the shared hardware and on its own. -/
inductive Like (owner : String) (k : Numbering) : Device → Device → Prop
  | knockKnock (j : KnockKnock) : Like owner k (.knockKnock j) (.knockKnock j)
  | rfSwitch {r q : RfSwitch} :
    r.connection = owner → q.connection = owner → r.seed = q.seed → r.negotiator = q.negotiator →
    k.tables.Holds q.table r.table → k.leases.Holds q.lease r.lease →
      Like owner k (.rfSwitch r) (.rfSwitch q)

/-- An instance of another connection. -/
inductive Strange (owner : String) (k : Numbering) : Device → Prop
  | knockKnock (j : KnockKnock) : Strange owner k (.knockKnock j)
  | rfSwitch {r : RfSwitch} :
    r.connection ≠ owner → k.tables.Foreign r.table → k.leases.Foreign r.lease →
      Strange owner k (.rfSwitch r)
  | zigBee {z : ZigBee} : z.connection ≠ owner → Strange owner k (.zigBee z)

variable {k k' : Numbering}

theorem Like.grown {d e : Device} (like : k.Like owner d e) (grown : k.Grown k') : k'.Like owner d e := by
  cases like with
  | knockKnock j => exact .knockKnock j
  | rfSwitch owned owned' seed negotiator table lease =>
      exact .rfSwitch owned owned' seed negotiator (table.grown grown.tables) (lease.grown grown.leases)

theorem Strange.grown {d : Device} (strange : k.Strange owner d) (grown : k.Grown k') :
    k'.Strange owner d := by
  cases strange with
  | knockKnock j => exact .knockKnock j
  | rfSwitch apart table lease =>
      exact .rfSwitch apart (table.grown grown.tables) (lease.grown grown.leases)
  | zigBee apart => exact .zigBee apart

end Numbering

/-- How the hardware that all share is like the hardware that the owner would have alone. -/
def ownLikeness (R D : Type) (owner : String) : Likeness Numbering (Hardware R D) Device where
  World k := Mirrors owner k
  Instance k := k.Like owner
  Grown := Numbering.Grown
  refl := .refl
  trans := .trans
  instance_grown grown like := like.grown grown

/-- How the shared hardware goes on being like that of the owner alone, while others use it. -/
def othersLikeness (owner : String) (v : Hardware R D) : Likeness Numbering (Hardware R D) Device where
  World k h g := h = g ∧ Mirrors owner k h v
  Instance k d e := d = e ∧ k.Strange owner d
  Grown := Numbering.Grown
  refl := .refl
  trans := .trans
  instance_grown grown strange := ⟨strange.1, strange.2.grown grown⟩

namespace Mirrors

variable {k : Numbering}

theorem alike (m : Mirrors owner k h v) {r q : RfSwitch} (connection : r.connection = q.connection)
    (seed : r.seed = q.seed) (negotiator : r.negotiator = q.negotiator)
    (table : k.tables.Holds q.table r.table) (lease : k.leases.Holds q.lease r.lease) :
    RfSwitch.Alike r h q v := by
  refine ⟨connection, seed, negotiator, ?_, m.table_eq table, ?_, ?_⟩
  · rw [RfSwitch.ready, RfSwitch.ready, JobQueue.leaseAvailable, JobQueue.leaseAvailable,
      m.leases.cancelled _ _ lease, JobQueue.isAvailable, JobQueue.isAvailable, m.worker]
  · exact Nat.lt_of_lt_of_eq table.lt m.tables.given.symm
  · exact Nat.lt_of_lt_of_eq table.length_lt m.tables.held.symm

theorem process (m : Mirrors owner k h v) {d e : Device} (like : k.Like owner d e) (p : Payload) :
    (ownLikeness R D owner).Results (ownLikeness R D owner).Instance k (d.process p h) (e.process p v) := by
  cases like with
  | knockKnock j => exact ⟨rfl, k, .refl k, .knockKnock _, m⟩
  | @rfSwitch r q owned owned' seed negotiator table lease =>
      have together :=
        (m.alike (owned.trans owned'.symm) seed negotiator table lease).process p
      simp only [Device.process]
      generalize r.process p h = a, q.process p v = b at together
      cases together with
      | told reply pending =>
          exact ⟨rfl, k, .refl k, .rfSwitch owned owned' seed rfl table lease, m⟩
      | queued reply pending jobs own =>
          refine ⟨rfl, k, .refl k, .rfSwitch owned owned' seed rfl table lease, m.queueing ?_⟩
          refine Numbering.queues_own lease table ?_
          intro job mem
          exact ⟨(own job mem).1, (own job mem).2.trans owned⟩
      | wrote reply pending switches =>
          exact ⟨rfl, k, .refl k, .rfSwitch owned owned' seed rfl table lease, m.setTable table switches⟩
      | restarted reply switches =>
          refine ⟨rfl, { k with tables := k.tables.gain }, ⟨.gain (.refl _), .refl _⟩, ?_,
            m.newTable switches⟩
          refine .rfSwitch owned owned' seed rfl ?_ lease
          rw [m.tables.given, m.tables.held]
          exact k.tables.holds_gain

theorem process_foreign (m : Mirrors owner k h v) {d : Device} (strange : k.Strange owner d)
    (p : Payload) :
    ∃ k', k.Grown k' ∧ k'.Strange owner (d.process p h).2.1 ∧ Mirrors owner k' (d.process p h).2.2 v := by
  cases strange with
  | knockKnock j => exact ⟨k, .refl k, .knockKnock _, m⟩
  | @rfSwitch r apart table lease =>
      obtain ⟨b, together⟩ : ∃ b, RfSwitch.Together r h r h (r.process p h) b :=
        ⟨_, (RfSwitch.Alike.refl r (Nat.lt_of_lt_of_eq table.1 m.tables.given.symm)).process p⟩
      simp only [Device.process]
      generalize r.process p h = a at together
      cases together with
      | told reply pending => exact ⟨k, .refl k, .rfSwitch apart table lease, m⟩
      | queued reply pending jobs own =>
          refine ⟨k, .refl k, .rfSwitch apart table lease, m.queueing_foreign ?_⟩
          refine Numbering.queues_other table _ ?_
          intro job mem
          exact ⟨(own job mem).1, fun same => apart ((own job mem).2.symm.trans same)⟩
      | wrote reply pending switches =>
          exact ⟨k, .refl k, .rfSwitch apart table lease, m.setTable_foreign table switches⟩
      | restarted reply switches =>
          refine ⟨{ k with tables := k.tables.pass }, ⟨.pass (.refl _), .refl _⟩, ?_,
            m.newTable_foreign switches⟩
          refine .rfSwitch apart ?_ lease
          rw [m.tables.given]
          exact k.tables.foreign_pass
  | @zigBee z apart =>
      obtain ⟨connection, aside⟩ := (zigBeeTurn_process z p h).aside apart
      exact ⟨k, .refl k, .zigBee (connection ▸ apart), m.aside aside⟩

theorem close (m : Mirrors owner k h v) {d e : Device} (like : k.Like owner d e) :
    Mirrors owner k (d.close h) (e.close v) := by
  cases like with
  | knockKnock j => exact m
  | rfSwitch _ _ _ _ _ lease => exact m.cancel lease

theorem close_foreign (m : Mirrors owner k h v) {d : Device} (strange : k.Strange owner d) :
    Mirrors owner k (d.close h) v := by
  cases strange with
  | knockKnock j => exact m
  | rfSwitch _ _ lease => exact m.cancel_foreign lease
  | @zigBee z apart =>
      refine m.aside ⟨rfl, rfl, rfl, ?_⟩
      intro w mem
      rw [Device.close, ZigBee.close, JobQueue.cancel_waiting] at mem
      exact .inl mem

theorem start (m : Mirrors owner k h v) (seed : List SwitchConfig) :
    ∃ k', k.Grown k' ∧
      k'.Like owner (.rfSwitch (RfSwitch.start seed owner h).1) (.rfSwitch (RfSwitch.start seed owner v).1) ∧
      Mirrors owner k' (RfSwitch.start seed owner h).2 (RfSwitch.start seed owner v).2 := by
  refine ⟨⟨k.tables.gain, k.leases.gain⟩, ⟨.gain (.refl _), .gain (.refl _)⟩, ?_, (m.newTable _).lease⟩
  refine .rfSwitch rfl rfl rfl rfl ?_ ?_
  · have gained := k.tables.holds_gain
    rw [← m.tables.given, ← m.tables.held] at gained
    exact gained
  · have gained := k.leases.holds_gain
    rw [← m.leases.given, ← m.leases.held] at gained
    exact gained

theorem start_foreign (m : Mirrors owner k h v) {connection : String} (apart : connection ≠ owner)
    (seed : List SwitchConfig) :
    ∃ k', k.Grown k' ∧ k'.Strange owner (.rfSwitch (RfSwitch.start seed connection h).1) ∧
      Mirrors owner k' (RfSwitch.start seed connection h).2 v := by
  refine ⟨⟨k.tables.pass, k.leases.pass⟩, ⟨.pass (.refl _), .pass (.refl _)⟩, ?_,
    (m.newTable_foreign _).lease_foreign⟩
  refine .rfSwitch apart ?_ ?_
  · have passed := k.tables.foreign_pass
    rw [← m.tables.given] at passed
    exact passed
  · have passed := k.leases.foreign_pass
    rw [← m.leases.given] at passed
    exact passed

end Mirrors

namespace DeviceConfig

variable (config : DeviceConfig)

theorem faithful_own (owner : String) :
    (ownLikeness R D owner).Faithful config.registry owner (· = "ZigBee") where
  key like := by
    cases like with
    | knockKnock j => rfl
    | rfSwitch => rfl
  process world like p := Mirrors.process world like p
  close world like := Mirrors.close world like
  refused := by
    intro k h v selector failure world refused
    rw [Registry.build] at refused ⊢
    split at refused
    case h_1 entry found =>
      cases offered_of_mem (List.mem_of_find?_eq_some found) with
      | knockKnock => cases refused
      | rfSwitch => cases refused
      | zigBee =>
          simp only [Device.startZigBee] at refused ⊢
          split at refused
          case isTrue => cases refused
          case isFalse invalid =>
            rw [if_neg invalid]
            exact refused
    case h_2 absent => exact refused
  built := by
    intro k h v selector i h' world kept built
    rw [Registry.build] at built ⊢
    split at built
    case h_1 entry found =>
      have named := List.find?_some found
      rw [beq_iff_eq] at named
      cases offered_of_mem (List.mem_of_find?_eq_some found) with
      | knockKnock =>
          cases built
          exact ⟨_, _, rfl, k, .refl k, .knockKnock {}, world⟩
      | rfSwitch =>
          cases built
          exact ⟨_, _, rfl, Mirrors.start world config.rf.switches⟩
      | zigBee => exact absurd named.symm kept
    case h_2 absent => cases built

theorem faithful_others {connection : String} (apart : connection ≠ owner) (v : Hardware R D) :
    (othersLikeness owner v).Faithful config.registry connection fun _ => False where
  key like := congrArg Device.key like.1
  process := by
    rintro k h _ d _ ⟨rfl, m⟩ ⟨rfl, strange⟩ p
    obtain ⟨k', grown, strange', m'⟩ := m.process_foreign strange p
    exact ⟨rfl, k', grown, ⟨rfl, strange'⟩, rfl, m'⟩
  close := by
    rintro k h _ d _ ⟨rfl, m⟩ ⟨rfl, strange⟩
    exact ⟨rfl, m.close_foreign strange⟩
  refused := by
    rintro k h _ selector failure ⟨rfl, m⟩ refused
    exact refused
  built := by
    rintro k h _ selector d h' ⟨rfl, m⟩ _ built
    refine ⟨d, h', built, ?_⟩
    obtain ⟨entry, offered, _, built⟩ := offered_of_build built
    cases offered with
    | knockKnock =>
        cases built
        exact ⟨k, .refl k, ⟨rfl, .knockKnock {}⟩, rfl, m⟩
    | rfSwitch =>
        cases built
        obtain ⟨k', grown, strange, m'⟩ := m.start_foreign apart config.rf.switches
        exact ⟨k', grown, ⟨rfl, strange⟩, rfl, m'⟩
    | zigBee =>
        simp only [Device.startZigBee] at built
        split at built
        · cases built
          exact ⟨k, .refl k, ⟨rfl, .zigBee apart⟩, rfl, m.aside ⟨rfl, rfl, rfl, fun _ mem => .inl mem⟩⟩
        · cases built

end DeviceConfig

end Switchboard
