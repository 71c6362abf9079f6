import Switchboard.Proofs.Association
import Switchboard.Proofs.Log
import Switchboard.Proofs.Router.Isolation
import Switchboard.Server.Basic

/-!
The registry of connections while many are served. Every connection has a loop of its own, and the loops
take their turns in any order. When a loop is left, for whatever reason, its connection is still in the
registry until its end is noted, and others may go on in between.
-/

namespace Switchboard

variable {W I : Type}

/-- One time round the loop of a connection, and what its protocols send. -/
inductive LoopTurn (W : Type)
  /-- Bytes are handled, each request in some time. The world may have changed in any way before. -/
  | handle (bytes : List UInt8) (seconds : Binary64) (w : W)
  | emit (p : Payload)
  | collect
  | expire

def LoopTurn.chunk? : LoopTurn W → Option (List UInt8 × W)
  | handle bytes _ w => some (bytes, w)
  | _ => none

inductive ServeStep (W : Type)
  | accept (name : String)
  | turn (name : String) (t : LoopTurn W)
  /-- The end of a connection is noted: the controller has gone, a goodbye was given, reading or writing
  failed, or the server closes. -/
  | finish (name : String) (w : W)

namespace ServeStep

def accepted? : ServeStep W → Option String
  | accept name => some name
  | _ => none

def accepts (name : String) : ServeStep W → Bool
  | accept other => other == name
  | _ => false

def finishes (name : String) : ServeStep W → Bool
  | finish other _ => other == name
  | _ => false

def turn? (name : String) : ServeStep W → Option (LoopTurn W)
  | turn other t => if other == name then some t else none
  | _ => none

end ServeStep

section steps

def acceptedIn (steps : List (ServeStep W)) : List String :=
  steps.filterMap ServeStep.accepted?

/-- The connections that were accepted and whose end was not noted since. -/
def lasting (steps : List (ServeStep W)) : List String :=
  (acceptedIn steps).filter fun name =>
    !(sinceLast (ServeStep.accepts name) steps).any (ServeStep.finishes name)

/-- What was done for a connection since it was accepted. -/
def turnsOf (name : String) (steps : List (ServeStep W)) : List (LoopTurn W) :=
  (sinceLast (ServeStep.accepts name) steps).filterMap (ServeStep.turn? name)

variable (steps : List (ServeStep W)) {name : String}

theorem acceptedIn_accept (name : String) :
    acceptedIn (steps ++ [.accept name]) = acceptedIn steps ++ [name] := by
  simp [acceptedIn, ServeStep.accepted?]

theorem acceptedIn_turn (name : String) (t : LoopTurn W) :
    acceptedIn (steps ++ [.turn name t]) = acceptedIn steps := by
  simp [acceptedIn, ServeStep.accepted?]

theorem acceptedIn_finish (name : String) (w : W) :
    acceptedIn (steps ++ [.finish name w]) = acceptedIn steps := by
  simp [acceptedIn, ServeStep.accepted?]

theorem lasting_accept (fresh : name ∉ acceptedIn steps) :
    lasting (steps ++ [.accept name]) = lasting steps ++ [name] := by
  rw [lasting, acceptedIn_accept, List.filter_append]
  congr 1
  · refine List.filter_congr fun other member => ?_
    have apart : name ≠ other := fun same => fresh (same ▸ member)
    simp [sinceLast_concat, ServeStep.accepts, ServeStep.finishes, apart]
  · simp [sinceLast_concat, ServeStep.accepts]

theorem lasting_turn (name : String) (t : LoopTurn W) :
    lasting (steps ++ [.turn name t]) = lasting steps := by
  simp [lasting, acceptedIn_turn, sinceLast_concat, ServeStep.accepts, ServeStep.finishes]

theorem lasting_finish (name : String) (w : W) :
    lasting (steps ++ [.finish name w]) = (lasting steps).filter (· != name) := by
  rw [lasting, acceptedIn_finish, lasting, List.filter_filter]
  refine List.filter_congr fun other _ => ?_
  simp only [sinceLast_concat, ServeStep.accepts, Bool.false_eq_true, if_false, List.any_append,
    List.any_cons, List.any_nil, ServeStep.finishes, Bool.or_false, Bool.not_or, bne]
  rw [Bool.and_comm, BEq.comm]

theorem lasting_sublist : (lasting steps).Sublist (acceptedIn steps) :=
  List.filter_sublist

theorem turnsOf_accept (name : String) : turnsOf name (steps ++ [.accept name]) = [] := by
  simp [turnsOf, sinceLast_concat, ServeStep.accepts]

theorem turnsOf_accept_of_ne {other : String} (apart : name ≠ other) :
    turnsOf other (steps ++ [.accept name]) = turnsOf other steps := by
  simp [turnsOf, sinceLast_concat, ServeStep.accepts, ServeStep.turn?, apart]

theorem turnsOf_turn (name other : String) (t : LoopTurn W) :
    turnsOf other (steps ++ [.turn name t]) =
      turnsOf other steps ++ if name == other then [t] else [] := by
  by_cases same : name = other <;>
    simp [turnsOf, sinceLast_concat, ServeStep.accepts, ServeStep.turn?, same]

theorem turnsOf_finish (name other : String) (w : W) :
    turnsOf other (steps ++ [.finish name w]) = turnsOf other steps := by
  simp [turnsOf, sinceLast_concat, ServeStep.accepts, ServeStep.turn?]

end steps

namespace Metrics

/-- The two count the same connections. -/
structure Agrees (m m' : Metrics) : Prop where
  active : m.connectionsActive = m'.connectionsActive
  total : m.connectionsTotal = m'.connectionsTotal

theorem agrees_handle (m : Metrics) (actions : List String) (seconds : Binary64) :
    Agrees (actions.foldl (fun m action => m.handle action seconds) m) m := by
  induction actions generalizing m with
  | nil => exact ⟨rfl, rfl⟩
  | cons action rest ih =>
      obtain ⟨active, total⟩ := ih (m.handle action seconds)
      exact ⟨active, total⟩

end Metrics

variable [Protocol W I]

/-- The handler of a connection after a chunk. A finished one is given nothing more. -/
def Connection.serve (c : Connection W I) (chunk : List UInt8 × W) : Connection W I :=
  if c.finished then c else (c.receive chunk.1 chunk.2).2.1.takeHandled.2.takeDropped.2

namespace Live

/-- What a turn does to its connection. A loop that was left does not go round again. -/
def turn (l : Live W I) : LoopTurn W → Live W I
  | .handle bytes _ w => if l.ended then l else (l.read bytes w).2.1
  | .emit p => l.emit p
  | .collect => l.collect
  | .expire => l.expire.2

/-- A connection as it is between two turns. -/
structure Faithful (l : Live W I) : Prop where
  shown : l.shown = l.connection.activeKey
  ended : l.ended = l.connection.finished

variable {l : Live W I}

theorem faithful_start (registry : Registry W I) (name : String) (limit : Nat) :
    Faithful (.start registry name limit) :=
  ⟨rfl, rfl⟩

theorem Faithful.read (h : Faithful l) (bytes : List UInt8) (w : W) :
    Faithful (l.read bytes w).2.1 := by
  refine ⟨?_, rfl⟩
  simp only [Live.read]
  -- What is shown is written only when the key has changed, and it was the old key before.
  split
  case isTrue _ => rfl
  case isFalse same =>
    rw [bne_iff_ne, not_not] at same
    exact h.shown.trans same.symm

theorem Faithful.turn (h : Faithful l) (t : LoopTurn W) : Faithful (l.turn t) := by
  cases t with
  | handle bytes seconds w =>
      rw [Live.turn]
      split
      · exact h
      · exact h.read bytes w
  | emit p => exact ⟨h.shown, h.ended⟩
  | collect =>
      rw [Live.turn, collect]
      split
      · exact h
      · exact ⟨h.shown, h.ended⟩
  | expire =>
      rw [Live.turn, expire]
      split
      · exact ⟨h.shown, h.ended⟩
      · exact h

theorem Faithful.connection_turn (h : Faithful l) (t : LoopTurn W) :
    (l.turn t).connection = t.chunk?.elim l.connection l.connection.serve := by
  cases t with
  | handle bytes seconds w =>
      rw [Live.turn, LoopTurn.chunk?, Option.elim_some, Connection.serve, h.ended]
      split <;> rfl
  | emit p => rfl
  | collect =>
      rw [Live.turn, collect]
      split <;> rfl
  | expire =>
      rw [Live.turn, expire]
      split <;> rfl

/-- A connection goes through its turns as its handler goes through the chunks that came in them. -/
theorem Faithful.turns (h : Faithful l) (turns : List (LoopTurn W)) :
    Faithful (turns.foldl Live.turn l) ∧ (turns.foldl Live.turn l).connection =
      (turns.filterMap LoopTurn.chunk?).foldl Connection.serve l.connection := by
  induction turns generalizing l with
  | nil => exact ⟨h, rfl⟩
  | cons t rest ih =>
      obtain ⟨faithful, connection⟩ := ih (h.turn t)
      refine ⟨faithful, connection.trans ?_⟩
      rw [h.connection_turn, List.filterMap_cons]
      cases t.chunk? <;> rfl

end Live

namespace Server

/-- Bytes are handled and counted, and the replies are written. -/
def handle (s : Server W I) (name : String) (bytes : List UInt8) (seconds : Binary64) (w : W) :
    Server W I :=
  match s.live.lookup name with
  | none => s
  | some l =>
    if l.ended then s
    else
      let (handled, l, _) := l.read bytes w
      { s.setLive name l with metrics := count s.metrics bytes.length seconds handled }

def takeTurn (s : Server W I) (name : String) : LoopTurn W → Server W I
  | .handle bytes seconds w => s.handle name bytes seconds w
  | .emit p => s.emit name p
  | .collect => s.collect name
  | .expire => (s.expire name).2

def step (s : Server W I) : ServeStep W → Server W I
  | .accept name => s.accept name
  | .turn name t => s.takeTurn name t
  | .finish name w => (s.finish name w).1

theorem agrees_count (m : Metrics) (received : Nat) (seconds : Binary64) (h : Handled) :
    (count m received seconds h).Agrees m := by
  obtain ⟨active, total⟩ := Metrics.agrees_handle m h.actions seconds
  rw [count]
  split <;> exact ⟨active, total⟩

/-- What a turn leaves of a server, but for what it counts of requests, bytes and messages. -/
structure Turned (name : String) (t : LoopTurn W) (s s' : Server W I) : Prop where
  live : s'.live = s.live.map fun entry =>
    (entry.1, if entry.1 == name then entry.2.turn t else entry.2)
  registry : s'.registry = s.registry
  maxLine : s'.maxLine = s.maxLine
  metrics : s'.metrics.Agrees s.metrics

variable {s : Server W I} {name : String}

theorem Turned.unchanged {t : LoopTurn W} (distinct : (s.live.map Prod.fst).Nodup)
    (same : ∀ l, s.live.lookup name = some l → l.turn t = l) : Turned name t s s where
  live := (Association.map_unchanged distinct same).symm
  registry := rfl
  maxLine := rfl
  metrics := ⟨rfl, rfl⟩

theorem Turned.changed {t : LoopTurn W} {l : Live W I} {m : Metrics}
    (distinct : (s.live.map Prod.fst).Nodup) (found : s.live.lookup name = some l)
    (agrees : m.Agrees s.metrics) :
    Turned name t s { s.setLive name (l.turn t) with metrics := m } where
  live := Association.map_changed distinct found fun l => l.turn t
  registry := rfl
  maxLine := rfl
  metrics := agrees

theorem turned (distinct : (s.live.map Prod.fst).Nodup) (name : String) (t : LoopTurn W) :
    Turned name t s (s.takeTurn name t) := by
  cases found : s.live.lookup name with
  | none =>
      have same : s.takeTurn name t = s := by
        cases t <;> simp [takeTurn, handle, emit, collect, expire, changeLive, found]
      rw [same]
      exact .unchanged distinct fun l some => nomatch found.symm.trans some
  | some l =>
      have only {l'} (there : s.live.lookup name = some l') : l' = l :=
        Option.some.inj (there.symm.trans found)
      cases t with
      | handle bytes seconds w =>
          rw [takeTurn, handle, found]
          dsimp only
          split
          case isTrue ended =>
            exact .unchanged distinct fun l' there => by rw [only there, Live.turn, if_pos ended]
          case isFalse running =>
            have went : l.turn (.handle bytes seconds w) = (l.read bytes w).2.1 := by
              rw [Live.turn, if_neg running]
            rw [← went]
            exact .changed distinct found (agrees_count _ _ _ _)
      | emit p =>
          rw [takeTurn, emit, changeLive, found]
          exact .changed distinct found ⟨rfl, rfl⟩
      | collect =>
          rw [takeTurn, collect, changeLive, found]
          exact .changed distinct found ⟨rfl, rfl⟩
      | expire =>
          rw [takeTurn, expire, found]
          dsimp only
          split
          case isTrue _ => exact .changed distinct found ⟨rfl, rfl⟩
          case isFalse unarmed =>
            exact .unchanged distinct fun l' there => by
              rw [only there, Live.turn, Live.expire, if_neg unarmed]

theorem finish_eq (s : Server W I) (name : String) (w : W) :
    (s.finish name w).1 = { s with
      live := Association.erase name s.live
      metrics := if name ∈ s.live.map Prod.fst then s.metrics.disconnect else s.metrics } := by
  rw [finish]
  cases found : s.live.lookup name with
  | none =>
      rw [Association.erase_of_lookup_eq_none found, if_neg (Association.lookup_eq_none_iff.mp found)]
  | some l =>
      have there : name ∈ s.live.map Prod.fst := by
        by_contra absent
        rw [Association.lookup_eq_none_iff.mpr absent] at found
        cases found
      rw [if_pos there]

/-- Bytes that come to a running loop take a turn, and after a goodbye the end is noted. -/
theorem read_eq {l : Live W I} (found : s.live.lookup name = some l) (running : l.ended = false)
    (bytes : List UInt8) (seconds : Binary64) (w : W) :
    (s.read name bytes seconds w).2.1 =
      (.turn name (.handle bytes seconds w) :: if (l.read bytes w).2.1.ended then
        [.finish name (l.read bytes w).2.2] else [] : List (ServeStep W)).foldl step s := by
  simp only [List.foldl_cons, step, takeTurn, handle, read, found, running, Bool.false_eq_true, if_false]
  split <;> rfl

theorem foldl_finish (entries : List (String × Live W I)) (s : Server W I) (w : W) :
    ∃ worlds : List W, worlds.length = entries.length ∧
      (entries.foldl (fun state entry => state.1.finish entry.1 state.2) (s, w)).1 =
        (entries.zipWith (fun entry w => .finish entry.1 w) worlds : List (ServeStep W)).foldl step s := by
  induction entries generalizing s w with
  | nil => exact ⟨[], rfl, rfl⟩
  | cons entry rest ih =>
      obtain ⟨worlds, each, same⟩ := ih (s.finish entry.1 w).1 (s.finish entry.1 w).2
      exact ⟨w :: worlds, congrArg Nat.succ each, same⟩

/-- A server that stops notes the end of one connection after the other. -/
theorem stop_eq (s : Server W I) (directory : Option LocalDirectory) (w : W) :
    ∃ worlds : List W, worlds.length = s.size ∧ (s.stop directory w).1 =
      { (s.live.zipWith (fun entry w => .finish entry.1 w) worlds : List (ServeStep W)).foldl step s with
        phase := .stopped } := by
  obtain ⟨worlds, each, same⟩ := foldl_finish s.live s w
  refine ⟨worlds, each, ?_⟩
  rw [← same]
  rfl

end Server

/-- The handler that a connection has after the chunks of its own turns. -/
def handlerOf (registry : Registry W I) (limit : Nat) (steps : List (ServeStep W)) (name : String) :
    Connection W I :=
  ((turnsOf name steps).filterMap LoopTurn.chunk?).foldl Connection.serve
    (Live.start registry name limit).connection

/-- The server after some steps, counted from when it began to serve. -/
def served (registry : Registry W I) (serviceName : String) (limit : Nat)
    (steps : List (ServeStep W)) : Server W I :=
  steps.foldl Server.step { registry, serviceName, maxLine := limit, phase := .running }

theorem served_concat (registry : Registry W I) (serviceName : String) (limit : Nat)
    (steps : List (ServeStep W)) (x : ServeStep W) :
    served registry serviceName limit (steps ++ [x]) =
      (served registry serviceName limit steps).step x := by
  simp [served]

/-- A connection after its own turns. -/
def ownLive (registry : Registry W I) (limit : Nat) (steps : List (ServeStep W)) (name : String) :
    Live W I :=
  (turnsOf name steps).foldl Live.turn (.start registry name limit)

/-- How a server stands to the steps that it has taken. -/
structure Serving (registry : Registry W I) (limit : Nat) (steps : List (ServeStep W))
    (s : Server W I) : Prop where
  registry_eq : s.registry = registry
  maxLine_eq : s.maxLine = limit
  live_eq : s.live = (lasting steps).map fun name => (name, ownLive registry limit steps name)
  active_eq : s.metrics.connectionsActive = Int64.ofNat (lasting steps).length
  total_eq : s.metrics.connectionsTotal = UInt64.ofNat (acceptedIn steps).length

namespace Serving

variable {registry : Registry W I} {limit : Nat} {steps : List (ServeStep W)} {s : Server W I}

theorem names (h : Serving registry limit steps s) : s.live.map Prod.fst = lasting steps := by
  rw [h.live_eq, List.map_map]
  exact List.map_id _

theorem accept {name : String} (h : Serving registry limit steps s) (fresh : name ∉ acceptedIn steps) :
    Serving registry limit (steps ++ [.accept name]) (s.accept name) where
  registry_eq := h.registry_eq
  maxLine_eq := h.maxLine_eq
  live_eq := by
    rw [Server.accept, h.live_eq, lasting_accept steps fresh, List.map_append, h.registry_eq,
      h.maxLine_eq]
    dsimp only
    congr 1
    · refine List.map_congr_left fun other member => ?_
      have apart : name ≠ other := fun same =>
        fresh (same ▸ (lasting_sublist steps).subset member)
      rw [ownLive, ownLive, turnsOf_accept_of_ne steps apart]
    · rw [List.map_singleton, ownLive, turnsOf_accept]
      rfl
  active_eq := by
    rw [lasting_accept steps fresh, List.length_append, List.length_singleton, Int64.ofNat_add,
      ← h.active_eq]
    rfl
  total_eq := by
    rw [acceptedIn_accept, List.length_append, List.length_singleton, UInt64.ofNat_add, ← h.total_eq]
    rfl

theorem turn (h : Serving registry limit steps s) (distinct : (acceptedIn steps).Nodup) (name : String)
    (t : LoopTurn W) : Serving registry limit (steps ++ [.turn name t]) (s.takeTurn name t) := by
  have turned := Server.turned (h.names ▸ distinct.sublist (lasting_sublist steps)) name t
  refine ⟨turned.registry.trans h.registry_eq, turned.maxLine.trans h.maxLine_eq, ?_, ?_, ?_⟩
  · rw [turned.live, h.live_eq, List.map_map, lasting_turn]
    refine List.map_congr_left fun other _ => ?_
    rw [ownLive, turnsOf_turn, List.foldl_append, Function.comp_apply, ← ownLive, BEq.comm]
    split <;> rfl
  · rw [lasting_turn, turned.metrics.active, h.active_eq]
  · rw [acceptedIn_turn, turned.metrics.total, h.total_eq]

theorem finish (h : Serving registry limit steps s) (distinct : (acceptedIn steps).Nodup)
    (name : String) (w : W) :
    Serving registry limit (steps ++ [.finish name w]) (s.finish name w).1 := by
  rw [Server.finish_eq, h.names]
  refine ⟨h.registry_eq, h.maxLine_eq, ?_, ?_, ?_⟩
  · rw [lasting_finish, h.live_eq, Association.erase, List.filter_map]
    refine List.map_congr_left fun other _ => ?_
    rw [ownLive, ownLive, turnsOf_finish]
  · rw [lasting_finish]
    dsimp only
    have unique := distinct.sublist (lasting_sublist steps)
    split
    case isTrue there =>
      have one := List.length_erase_add_one there
      rw [← unique.erase_eq_filter, Metrics.disconnect, h.active_eq, ← one, Int64.ofNat_add]
      exact Int64.add_sub_cancel _ _
    case isFalse absent =>
      rw [← unique.erase_eq_filter, List.erase_of_not_mem absent, h.active_eq]
  · rw [acceptedIn_finish]
    dsimp only
    split <;> exact h.total_eq

theorem step (h : Serving registry limit steps s) {x : ServeStep W}
    (distinct : (acceptedIn (steps ++ [x])).Nodup) :
    Serving registry limit (steps ++ [x]) (s.step x) := by
  cases x with
  | accept name =>
      rw [acceptedIn_accept, List.nodup_append] at distinct
      exact h.accept fun member => distinct.2.2 name member name (List.mem_singleton_self name) rfl
  | turn name t =>
      rw [acceptedIn_turn] at distinct
      exact h.turn distinct name t
  | finish name w =>
      rw [acceptedIn_finish] at distinct
      exact h.finish distinct name w

theorem served (registry : Registry W I) (serviceName : String) (limit : Nat)
    (distinct : (acceptedIn steps).Nodup) :
    Serving registry limit steps (served registry serviceName limit steps) := by
  induction steps using List.reverseRecOn with
  | nil => exact ⟨rfl, rfl, rfl, rfl, rfl⟩
  | append_singleton steps x ih =>
      have before : (acceptedIn steps).Nodup := by
        rw [acceptedIn, List.filterMap_append] at distinct
        exact distinct.of_append_left
      rw [served_concat]
      exact (ih before).step distinct

end Serving

/-- What the registry of connections shows, and what is counted of them, after some steps. -/
structure RegistryLaw (registry : Registry W I) (limit : Nat) (steps : List (ServeStep W))
    (s : Server W I) : Prop where
  /-- The registry holds just the connections that were accepted and have not ended. -/
  names : s.live.map Prod.fst = lasting steps
  /-- Each one has a handler that heard nothing but the chunks of its own turns. -/
  handlers : (s.live.map fun entry => entry.2.connection) =
    (lasting steps).map (handlerOf registry limit steps)
  /-- The protocol that is shown for it is the active one of that handler. -/
  protocols : s.protocols =
    (lasting steps).map fun name => (handlerOf registry limit steps name).activeKey
  /-- The gauge shows how many connections there are. -/
  active : s.metrics.connectionsActive = .ofNat s.size
  /-- The counter, which runs round, shows how many there were. -/
  total : s.metrics.connectionsTotal = .ofNat (acceptedIn steps).length
  /-- Neither leaves its range as long as fewer connections were accepted than it can show. -/
  inRange : (acceptedIn steps).length ≤ Int64.maxValue.toInt →
    s.metrics.connectionsActive.toInt = s.size ∧
      s.metrics.connectionsTotal.toNat = (acceptedIn steps).length

/-- However the turns of many connections are mixed, as long as no two were accepted under one name. -/
theorem registry_law (registry : Registry W I) (serviceName : String) (limit : Nat)
    {steps : List (ServeStep W)} (distinct : (acceptedIn steps).Nodup) :
    RegistryLaw registry limit steps (served registry serviceName limit steps) := by
  have serving := Serving.served registry serviceName limit distinct
  generalize served registry serviceName limit steps = s at serving
  have faithful (name : String) := (Live.faithful_start registry name limit).turns (turnsOf name steps)
  have handlers : (s.live.map fun entry => entry.2.connection) =
      (lasting steps).map (handlerOf registry limit steps) := by
    rw [serving.live_eq, List.map_map]
    exact List.map_congr_left fun name _ => (faithful name).2
  have size : s.size = (lasting steps).length := by
    rw [Server.size, serving.live_eq, List.length_map]
  refine ⟨serving.names, handlers, ?_, size ▸ serving.active_eq, serving.total_eq, ?_⟩
  · rw [Server.protocols, serving.live_eq, List.map_map]
    refine List.map_congr_left fun name _ => ?_
    exact (faithful name).1.shown.trans (congrArg Connection.activeKey (faithful name).2)
  · intro few
    have fewer := (lasting_sublist steps).length_le
    have most : Int64.maxValue.toInt = 9223372036854775807 := rfl
    have wide : UInt64.size = 18446744073709551616 := rfl
    rw [serving.active_eq, serving.total_eq, size]
    exact ⟨Int64.toInt_ofNat_of_lt (by omega), UInt64.toNat_ofNat_of_lt' (by omega)⟩

section twoDesks

def jokers : Registry Unit KnockKnock :=
  Registry.register {} "Turnip" fun _ w => .ok ({}, w)

/-- A chunk that chooses the protocol, leaves it and chooses it again. -/
def roundTrip : List UInt8 :=
  "[\"\",\"Turnip\"]\n[\"\",\"Reset\"]\n[\"\",\"Turnip\"]\n".toUTF8.toList

/-- The first connection has ended when the other one sends its chunk, and what it sends is not heard. -/
def twoDesks : List (ServeStep Unit) :=
  [.accept "a", .accept "b", .turn "a" (.handle roundTrip (.zero false) ()), .finish "a" (),
    .turn "b" (.handle roundTrip (.zero false) ()), .turn "a" (.handle roundTrip (.zero false) ())]

theorem twoDesks_registry :
    RegistryLaw jokers 65536 twoDesks (served jokers "switchboard" 65536 twoDesks) ∧
      lasting twoDesks = ["b"] ∧
      (handlerOf jokers 65536 twoDesks "b").activeKey = some knockKnockKey := by
  refine ⟨registry_law jokers "switchboard" 65536 (by decide), by decide, ?_⟩
  decide +kernel

end twoDesks

end Switchboard
