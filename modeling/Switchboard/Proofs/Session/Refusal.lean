import Switchboard.Proofs.Session.Overtaking

/-!
Calls to connect to a service that start no attempt. When the service is not found, the session stays as it
was. When it is found but cannot be remembered, it has already become the target: nothing else has changed,
but connecting once more no longer goes where it went before.
-/

namespace Switchboard

/-- Why a call fails whose service is not found. -/
def notFound (name : String) : ServiceError → SessionError
  | .discovery _ => .unknownService name
  | e => .ofService e

namespace Session

variable {S D : Type} [KeyValueStore S] [ServiceLookup D] (network : Network)

/-- The session with a service as its target. -/
def aim (s : Session S D) (name : String) : Session S D :=
  { s with link := { s.link with target := some (.service name) } }

/-- The service is found, and the store fails to remember it. -/
def FailsToRemember (s : Session S D) (name : String) (e : StoreError) : Prop :=
  ∃ service store, s.resolveStage name = .aiming service name ∧ s.store = some store ∧
    KeyValueStore.write store lastServiceKey name = .error e

variable {s : Session S D} {name : String}

omit [KeyValueStore S] in
theorem resolveStage_eq_error_iff {e : SessionError} : s.resolveStage name = .finished (.error e) ↔
    s.directory = none ∧ e = .discovery "no service discovery configured" ∨
      ∃ directory failure, s.directory = some directory ∧
        ServiceLookup.resolve directory name = .error failure ∧ e = notFound name failure := by
  rw [resolveStage]
  cases s.directory with
  | none => simp [eq_comm]
  | some directory =>
      cases resolved : ServiceLookup.resolve directory name with
      | ok service => simp [resolved]
      | error failure => cases failure <;> simp [resolved, notFound, eq_comm]

theorem advanceBy_finished (n : Nat) (s : Session S D) (outcome : Except SessionError (List Payload)) :
    s.advanceBy network n (.finished outcome) = (.finished outcome, s) := by
  induction n with
  | zero => rfl
  | succ n ih => exact ih

/-- The parts of a call that come before its attempt change nothing of a link but the target. -/
theorem link_advance {stage : ConnectStage} (early : 2 < stage.remaining) :
    (s.advance network stage).2.link = s.link ∨ ∃ service name, stage = .aiming service name ∧
      (s.advance network stage).2 = s.aim name := by
  cases stage with
  | resolving name => exact .inl rfl
  | aiming service name => exact .inr ⟨service, name, rfl, rfl⟩
  | remembering service name =>
      left
      rw [advance, remember]
      split
      · rfl
      · split <;> rfl
  | starting address => exact absurd early (Nat.lt_irrefl 2)
  | waiting address attempt => exact absurd (Nat.lt_of_succ_lt_succ early) (Nat.not_lt_zero 1)
  | finished outcome => exact absurd early (Nat.not_lt_zero 2)

theorem connectService_of_not_found {e : SessionError} (missing : s.resolveStage name = .finished (.error e)) :
    s.connectService network name = (.error e, s) := by
  rw [connectService, complete, ConnectStage.remaining, advanceBy, advance, missing]
  dsimp only
  rw [advanceBy_finished]
  rfl

/-- A service that is found becomes the target before it is remembered. -/
theorem connectService_of_found {service : Service} (found : s.resolveStage name = .aiming service name) :
    s.connectService network name =
      (((s.aim name).remember service name).2.advanceBy network 2 ((s.aim name).remember service name).1).map
        ConnectStage.outcome id := by
  rw [connectService, complete, ConnectStage.remaining, advanceBy, advance, found]
  rfl

omit [ServiceLookup D] in
theorem remember_of_not_written {store : S} {e : StoreError} (held : s.store = some store)
    (failed : KeyValueStore.write store lastServiceKey name = .error e) (service : Service) :
    s.remember service name = (.finished (.error (.storage e)), s) := by
  rw [remember, held]
  dsimp only
  rw [failed]

omit [ServiceLookup D] in
/-- The store fails, or the call goes on to its attempt, and of the session only the store has changed. -/
theorem remember_cases (s : Session S D) (service : Service) (name : String) :
    (∃ store e, s.store = some store ∧ KeyValueStore.write store lastServiceKey name = .error e) ∨
      ∃ store, s.remember service name = (.starting service.address, { s with store }) := by
  rw [remember]
  cases held : s.store with
  | none =>
      have same : { s with store := none } = s := by rw [← held]
      exact .inr ⟨none, by rw [same]⟩
  | some store =>
      dsimp only
      cases written : KeyValueStore.write store lastServiceKey name with
      | error e => exact .inl ⟨store, e, rfl, written⟩
      | ok store' => exact .inr ⟨some store', rfl⟩

/-- When the service cannot be remembered, the call is over, and the service is the target all the same. -/
theorem connectService_of_failsToRemember {e : StoreError} (fails : s.FailsToRemember name e) :
    s.connectService network name = (.error (.storage e), s.aim name) := by
  obtain ⟨service, store, found, held, failed⟩ := fails
  have stored : (s.aim name).store = some store := held
  rw [connectService_of_found network found, remember_of_not_written stored failed]
  rfl

omit [KeyValueStore S] [ServiceLookup D] in
theorem generation_le_conclude (s : Session S D) (address : String) (attempt : Nat)
    (answer : Except ReachError Unit) :
    s.link.generation ≤ (s.conclude address attempt answer).2.link.generation := by
  cases counts : s.link.awaits attempt with
  | false =>
      have unheard := conclude_of_not_awaits address answer counts
      exact Nat.le_of_eq (by rw [unheard])
  | true =>
      cases answer with
      | error e =>
          rw [conclude, Link.fail, counts]
          exact Nat.le_refl _
      | ok _ =>
          rw [conclude_ok address counts, Link.succeed, counts]
          exact Nat.le_succ _

/-- An attempt that is started takes a new generation, and the one before never comes back. -/
theorem generation_lt_starting (s : Session S D) (address : String) :
    s.link.generation < (s.complete network (.starting address)).2.link.generation := by
  have later := generation_le_conclude { s with link := s.link.start } address (s.link.generation + 1)
    (network address)
  exact Nat.lt_of_succ_le later

/-- What becomes of a call to connect to a service. -/
theorem connectService_cases (s : Session S D) (name : String) :
    (∃ e, s.resolveStage name = .finished (.error e) ∧ s.connectService network name = (.error e, s)) ∨
      (∃ e, s.FailsToRemember name e ∧ s.connectService network name = (.error (.storage e), s.aim name)) ∨
      ∃ (service : Service) (store : Option S), s.connectService network name =
        complete network { s.aim name with store } (.starting service.address) := by
  obtain ⟨service, found⟩ | ⟨e, missing⟩ := s.resolveStage_cases name
  · right
    obtain ⟨store, e, held, failed⟩ | ⟨store, goes⟩ := (s.aim name).remember_cases service name
    · have fails : s.FailsToRemember name e := ⟨service, store, found, held, failed⟩
      exact .inl ⟨e, fails, connectService_of_failsToRemember network fails⟩
    · rw [connectService_of_found network found, goes]
      exact .inr ⟨service, store, rfl⟩
  · exact .inl ⟨e, missing, connectService_of_not_found network missing⟩

theorem not_failsToRemember_of_not_found {e : SessionError}
    (missing : s.resolveStage name = .finished (.error e)) (e' : StoreError) : ¬s.FailsToRemember name e' := by
  rintro ⟨service, store, found, -⟩
  rw [missing] at found
  cases found

variable {network}

/-- What a call that starts no attempt leaves is the session of before, or that with the service as its target. -/
theorem connectService_of_not_started
    (still : (s.connectService network name).2.link.generation = s.link.generation) :
    (∃ e, s.resolveStage name = .finished (.error e) ∧ s.connectService network name = (.error e, s)) ∨
      ∃ e, s.FailsToRemember name e ∧ s.connectService network name = (.error (.storage e), s.aim name) := by
  obtain missing | fails | ⟨service, store, goes⟩ := connectService_cases network s name
  · exact .inl missing
  · exact .inr fails
  · have begun := generation_lt_starting network { s.aim name with store } service.address
    rw [← goes, still] at begun
    exact absurd begun (Nat.lt_irrefl _)

omit [KeyValueStore S] [ServiceLookup D] in
theorem aim_eq_self_iff : s.aim name = s ↔ s.link.target = some (.service name) := by
  constructor
  · intro same
    rw [← same]
    rfl
  · intro target
    rw [aim, ← target]

theorem connectService_eq_self_iff
    (still : (s.connectService network name).2.link.generation = s.link.generation) :
    (s.connectService network name).2 = s ↔
      (∀ e, ¬s.FailsToRemember name e) ∨ s.link.target = some (.service name) := by
  obtain ⟨e, missing, refused⟩ | ⟨e, fails, refused⟩ := connectService_of_not_started still
  · rw [refused]
    exact iff_of_true rfl (.inl (not_failsToRemember_of_not_found missing))
  · rw [refused]
    constructor
    · intro same
      exact .inr (aim_eq_self_iff.mp same)
    · rintro (never | target)
      · exact absurd fails (never e)
      · exact aim_eq_self_iff.mpr target

theorem reconnect_eq_self (still : (s.reconnect network).2.link.generation = s.link.generation) :
    (s.reconnect network).2 = s := by
  rw [reconnect] at still ⊢
  cases target : s.link.target with
  | none => rfl
  | some aimed =>
      rw [target] at still
      cases aimed with
      | address text =>
          have begun := generation_lt_starting network s text
          dsimp only at still
          rw [still] at begun
          exact absurd begun (Nat.lt_irrefl _)
      | service name => exact (connectService_eq_self_iff still).mpr (.inr target)

end Session

/-- What a call to connect to a service does to its session when it starts no attempt. -/
structure RefusalLaw {S D : Type} [KeyValueStore S] [ServiceLookup D] (network : Network) (s : Session S D)
    (name : String) : Prop where
  /-- The ways in which the service is not found. -/
  causes : ∀ e, s.resolveStage name = .finished (.error e) ↔
    s.directory = none ∧ e = .discovery "no service discovery configured" ∨
      ∃ directory failure, s.directory = some directory ∧
        ServiceLookup.resolve directory name = .error failure ∧ e = notFound name failure
  /-- When the service is not found, the session is as it was, and connecting once more goes where it went. -/
  unresolved : ∀ e, s.resolveStage name = .finished (.error e) →
    s.connectService network name = (.error e, s) ∧
      (s.connectService network name).2.reconnect network = s.reconnect network
  /-- When it cannot be remembered, it is the target, and connecting once more is refused again. -/
  unremembered : ∀ e, s.FailsToRemember name e →
    s.connectService network name = (.error (.storage e), s.aim name) ∧
      (s.connectService network name).2.reconnect network = s.connectService network name
  /-- Otherwise an attempt is started. -/
  started : (∀ e, s.resolveStage name ≠ .finished (.error e)) → (∀ e, ¬s.FailsToRemember name e) →
    s.link.generation < (s.connectService network name).2.link.generation
  /-- A call that starts no attempt fails, and it changes nothing but the target. -/
  kept : (s.connectService network name).2.link.generation = s.link.generation →
    (∃ e, (s.connectService network name).1 = .error e) ∧
      ((s.connectService network name).2 = s ∨ (s.connectService network name).2 = s.aim name)
  /-- It changes nothing at all unless the service, which was not the target before, cannot be remembered. -/
  unchanged_iff : (s.connectService network name).2.link.generation = s.link.generation →
    ((s.connectService network name).2 = s ↔
      (∀ e, ¬s.FailsToRemember name e) ∨ s.link.target = some (.service name))
  /-- So connecting once more changes nothing when it starts no attempt. -/
  again : (s.reconnect network).2.link.generation = s.link.generation → (s.reconnect network).2 = s
  /-- Whatever else happens between the parts of the call, none of those before the attempt changes more of a link
  than the target, and one only does that. -/
  parts : ∀ (t : Session S D) (stage : ConnectStage), 2 < stage.remaining →
    (t.advance network stage).2.link = t.link ∨
      ∃ service other, stage = .aiming service other ∧ (t.advance network stage).2 = t.aim other

theorem refusal_law {S D : Type} [KeyValueStore S] [ServiceLookup D] (network : Network) (s : Session S D)
    (name : String) : RefusalLaw network s name where
  causes _ := Session.resolveStage_eq_error_iff
  unresolved e missing := by
    have refused := Session.connectService_of_not_found network missing
    exact ⟨refused, by rw [refused]⟩
  unremembered e fails := by
    have refused := Session.connectService_of_failsToRemember network fails
    have again : (s.aim name).FailsToRemember name e := fails
    refine ⟨refused, ?_⟩
    rw [refused]
    exact Session.connectService_of_failsToRemember network again
  started found remembers := by
    obtain ⟨e, missing, -⟩ | ⟨e, fails, -⟩ | ⟨service, store, goes⟩ := s.connectService_cases network name
    · exact absurd missing (found e)
    · exact absurd fails (remembers e)
    · rw [goes]
      exact Session.generation_lt_starting network { s.aim name with store } service.address
  kept still := by
    obtain ⟨e, -, refused⟩ | ⟨e, -, refused⟩ := Session.connectService_of_not_started still
    · rw [refused]
      exact ⟨⟨e, rfl⟩, .inl rfl⟩
    · rw [refused]
      exact ⟨⟨_, rfl⟩, .inr rfl⟩
  unchanged_iff still := Session.connectService_eq_self_iff still
  again still := Session.reconnect_eq_self still
  parts _ _ early := Session.link_advance network early

section full

/-- A store whose disk is full: it can be read and not written. -/
structure FullStore where
  entries : List (String × String) := []

instance : KeyValueStore FullStore where
  read store key := .ok (store.entries.lookup key)
  write _ _ _ := .error (.database "database or disk is full")
  remove _ _ := .error (.database "database or disk is full")

/-- A session that is connected to an address. -/
def attached : Session FullStore LocalDirectory :=
  (Session.connect reachAll
    { store := some {}, directory := some (LocalDirectory.advertise {} "kitchen" 7000) } "10.0.0.7:7000").2

/-- A refused call leads astray: the connection is still there, but connecting once more fails. -/
theorem target_lost :
    let refused := attached.connectService reachAll "kitchen"
    refused.1 = .error (.storage (.database "database or disk is full")) ∧
      attached.link.state = .connected ∧ attached.link.target = some (.address "10.0.0.7:7000") ∧
      refused.2.link = { attached.link with target := some (.service "kitchen") } ∧
      (attached.reconnect reachAll).1 = .ok [] ∧
      (refused.2.reconnect reachAll).1 = .error (.storage (.database "database or disk is full")) := by
  decide +kernel

end full

end Switchboard
