import Switchboard.Device.Registry
import Switchboard.Proofs.Router.Conversation
import Switchboard.Proofs.Router.Turns

/-!
The requests that choose a protocol. A router may choose, leave and choose again while it handles some
requests; afterwards it has left every protocol, or it is at the one that was chosen last.
-/

namespace Switchboard

variable {W I : Type} [Protocol W I]

/-- The key that replies carry is that of the protocol, whatever an instance has heard. -/
def SteadyKeys (W I : Type) [Protocol W I] : Prop :=
  ∀ (i : I) (p : Payload) (w : W), Protocol.key W (Protocol.process i p w).2.1 = Protocol.key W i

theorem Device.steadyKeys (R D : Type) : SteadyKeys (Hardware R D) Device := by
  intro d p h
  cases d with
  | knockKnock k => rfl
  | rfSwitch r => rfl
  | zigBee z => rfl

namespace Router

/-- The key of the protocol that a request leads to from the chooser. -/
def selection? (r : Router W I) (p : Payload) (w : W) : Option String :=
  if r.isChoosing then (r.process p w).2.1.activeKey else none

/-- The keys of the protocols that are chosen by requests, one for each request that chooses one. -/
def selections (r : Router W I) : List StreamRequest → W → List String
  | [], _ => []
  | request :: rest, w =>
    let (_, next, w') := r.process request.payload w
    (r.selection? request.payload w).toList ++ next.selections rest w'

/-- Tells whether a request leads back to the chooser. -/
def leaves (request : StreamRequest) : Bool :=
  request.payload.effectiveAction == Action.reset || request.payload.effectiveAction == Action.resetCurrent

section choosing

variable {r : Router W I}

theorem activeKey_of_choosing (choosing : r.state = .choosing) : r.activeKey = none := by
  rw [activeKey, choosing]

theorem selection?_of_choosing (choosing : r.state = .choosing) (p : Payload) (w : W) :
    r.selection? p w = (r.process p w).2.1.activeKey := by
  rw [selection?, isChoosing, choosing, BEq.rfl, if_pos rfl]

theorem selection?_of_delegating {selector : String} (chosen : r.state = .delegating selector) (p : Payload)
    (w : W) : r.selection? p w = none := by
  rw [selection?, isChoosing, chosen]
  rfl

end choosing

theorem selections_cons (r : Router W I) (request : StreamRequest) (rest : List StreamRequest) (w : W) :
    r.selections (request :: rest) w = (r.selection? request.payload w).toList ++
      (r.process request.payload w).2.1.selections rest (r.process request.payload w).2.2 :=
  rfl

theorem afterAll_cons (r : Router W I) (request : StreamRequest) (rest : List StreamRequest) (w : W) :
    r.afterAll (request :: rest) w =
      (r.process request.payload w).2.1.afterAll rest (r.process request.payload w).2.2 :=
  rfl

theorem selections_append (r : Router W I) (earlier later : List StreamRequest) (w : W) :
    r.selections (earlier ++ later) w =
      r.selections earlier w ++ (r.afterAll earlier w).1.selections later (r.afterAll earlier w).2 := by
  induction earlier generalizing r w with
  | nil => rfl
  | cons request rest ih =>
      rw [List.cons_append, selections_cons, ih, selections_cons, afterAll_cons, List.append_assoc]

/-- What a comparison of the active protocol after some requests with the one before them tells of the choices. -/
def noticed? (r : Router W I) (requests : List StreamRequest) (w : W) : Option String :=
  let key := (r.afterAll requests w).1.activeKey
  if key != r.activeKey then key else none

/-- Some requests choose no protocol, or just one, which was not the active one before and is still chosen. -/
def SelectPlainly (r : Router W I) (requests : List StreamRequest) (w : W) : Prop :=
  r.selections requests w = [] ∨ ∃ key, r.selections requests w = [key] ∧
    (r.afterAll requests w).1.activeKey = some key ∧ r.activeKey ≠ some key

variable (steady : SteadyKeys W I) {r : Router W I} (settled : r.Settled)

include settled

theorem settled_afterAll (requests : List StreamRequest) (w : W) : (r.afterAll requests w).1.Settled := by
  induction requests generalizing r w with
  | nil => exact settled
  | cons request rest ih => exact ih (settled_process request.payload w settled) _

include steady

/-- A request to a chosen protocol leaves it, or it stays chosen. -/
theorem process_of_delegating {selector : String} (chosen : r.state = .delegating selector)
    (request : StreamRequest) (w : W) :
    (r.process request.payload w).2.1.state = .choosing ∧ leaves request = true ∨
      (r.process request.payload w).2.1.state = .delegating selector ∧
        (r.process request.payload w).2.1.activeKey = r.activeKey := by
  have turn := turn_process request.payload w settled
  generalize r.process request.payload w = result at turn ⊢
  cases turn with
  | choice _ choosing _ =>
      rw [choosing] at chosen
      cases chosen
  | left _ _ _ _ leaving => exact .inl ⟨rfl, by rw [leaves, leaving]; rfl⟩
  | reset _ _ _ _ resetting => exact .inl ⟨rfl, by rw [leaves, resetting]; rfl⟩
  | asked other i state held _ _ =>
      have kept : (r.setInstance other (Protocol.process i request.payload w).2.1).state = .delegating other :=
        state
      refine .inr ⟨chosen, ?_⟩
      rw [activeKey, activeKey, kept, state]
      dsimp only
      rw [instance?_setInstance_self _ held, held, Option.map_some, Option.map_some, steady]

/-- After a request the chooser is back, or the protocol is the one that it has chosen, or that of before. -/
theorem activeKey_process (request : StreamRequest) (w : W) :
    (r.process request.payload w).2.1.activeKey = none ∨
      (r.process request.payload w).2.1.activeKey = (r.selection? request.payload w).or r.activeKey := by
  cases state : r.state with
  | choosing =>
      right
      rw [activeKey_of_choosing state, selection?_of_choosing state, Option.or_none]
  | delegating selector =>
      rw [selection?_of_delegating state, Option.none_or]
      obtain ⟨left, -⟩ | ⟨-, stays⟩ := process_of_delegating steady settled state request w
      · exact .inl (activeKey_of_choosing left)
      · exact .inr stays

/-- After some requests the chooser is back, or the protocol is the one that was chosen last, or that of before if
none was. -/
theorem activeKey_afterAll (requests : List StreamRequest) (w : W) :
    (r.afterAll requests w).1.activeKey = none ∨
      (r.afterAll requests w).1.activeKey = (r.selections requests w).getLast?.or r.activeKey := by
  induction requests generalizing r w with
  | nil => exact .inr rfl
  | cons request rest ih =>
      have first := activeKey_process steady settled request w
      have later := ih (settled_process request.payload w settled) (r.process request.payload w).2.2
      have single (o : Option String) : o.toList.getLast? = o := by cases o <;> rfl
      rw [afterAll_cons, selections_cons, List.getLast?_append, single]
      cases last : ((r.process request.payload w).2.1.selections rest _).getLast? with
      | some key => simpa only [last, Option.some_or] using later
      | none =>
          simp only [last, Option.none_or] at later ⊢
          obtain left | stayed := later
          · exact .inl left
          · rw [stayed]
            exact first

section kept

variable {requests : List StreamRequest} (kept : ∀ request ∈ requests, leaves request = false)

include kept

theorem afterAll_of_delegating {selector : String} (chosen : r.state = .delegating selector) (w : W) :
    r.selections requests w = [] ∧ (r.afterAll requests w).1.activeKey = r.activeKey := by
  induction requests generalizing r w with
  | nil => exact ⟨rfl, rfl⟩
  | cons request rest ih =>
      obtain ⟨stays, later⟩ := List.forall_mem_cons.mp kept
      obtain ⟨-, leaving⟩ | ⟨state, same⟩ := process_of_delegating steady settled chosen request w
      · rw [stays] at leaving
        cases leaving
      · rw [selections_cons, afterAll_cons, selection?_of_delegating chosen, ← same]
        exact ih (settled_process request.payload w settled) later state _

/-- While no request leads back to the chooser, one protocol is chosen at most, and it stays. -/
theorem afterAll_of_choosing (choosing : r.state = .choosing) (w : W) :
    r.selections requests w = (r.afterAll requests w).1.activeKey.toList := by
  induction requests generalizing r w with
  | nil =>
      change [] = r.activeKey.toList
      rw [activeKey_of_choosing choosing]
      rfl
  | cons request rest ih =>
      have later := (List.forall_mem_cons.mp kept).2
      have next := settled_process request.payload w settled
      rw [selections_cons, afterAll_cons, selection?_of_choosing choosing]
      cases state : (r.process request.payload w).2.1.state with
      | choosing =>
          rw [activeKey_of_choosing state]
          exact ih next later state _
      | delegating selector =>
          obtain ⟨nothing, same⟩ := afterAll_of_delegating steady next later state _
          rw [nothing, same, List.append_nil]

end kept

/-- A comparison notices the protocol that was chosen last, or nothing. -/
theorem getLast?_of_noticed {requests : List StreamRequest} {w : W} {key : String}
    (noticed : r.noticed? requests w = some key) : (r.selections requests w).getLast? = some key := by
  rw [noticed?] at noticed
  split at noticed
  case isFalse _ => cases noticed
  case isTrue moved =>
    obtain left | last := activeKey_afterAll steady settled requests w
    · rw [left] at noticed
      cases noticed
    · rw [noticed, bne_iff_ne] at moved
      rw [noticed] at last
      cases chosen : (r.selections requests w).getLast? with
      | some other =>
          rw [chosen, Option.some_or] at last
          exact last.symm
      | none =>
          rw [chosen, Option.none_or] at last
          exact absurd last moved

theorem sublist_of_noticed (requests : List StreamRequest) (w : W) :
    (r.noticed? requests w).toList.Sublist (r.selections requests w) := by
  cases noticed : r.noticed? requests w with
  | none => exact List.nil_sublist _
  | some key =>
      exact List.singleton_sublist.mpr
        (List.mem_of_getLast? (getLast?_of_noticed steady settled noticed))

/-- A comparison notices all choices exactly when they are plain. -/
theorem noticed_eq_iff (requests : List StreamRequest) (w : W) :
    (r.noticed? requests w).toList = r.selections requests w ↔ r.SelectPlainly requests w := by
  constructor
  · intro all
    cases noticed : r.noticed? requests w with
    | none => exact .inl (by rw [← all, noticed, Option.toList_none])
    | some key =>
        refine .inr ⟨key, by rw [← all, noticed, Option.toList_some], ?_⟩
        rw [noticed?] at noticed
        split at noticed
        case isFalse _ => cases noticed
        case isTrue moved =>
          rw [noticed, bne_iff_ne] at moved
          exact ⟨noticed, moved.symm⟩
  · rintro (nothing | ⟨key, chosen, stays, new⟩)
    · have fewer := sublist_of_noticed steady settled requests w
      rw [nothing] at fewer ⊢
      exact List.sublist_nil.mp fewer
    · rw [noticed?, stays, chosen, if_pos (bne_iff_ne.mpr new.symm), Option.toList_some]

omit steady settled in
/-- From the chooser it is enough that what was chosen is what is active. -/
theorem selectPlainly_of_choosing (choosing : r.state = .choosing) {requests : List StreamRequest} {w : W}
    (all : r.selections requests w = (r.afterAll requests w).1.activeKey.toList) :
    r.SelectPlainly requests w := by
  cases after : (r.afterAll requests w).1.activeKey with
  | none =>
      rw [after] at all
      exact .inl all
  | some key =>
      rw [after] at all
      refine .inr ⟨key, all, after, ?_⟩
      rw [activeKey_of_choosing choosing]
      exact (Option.some_ne_none key).symm

theorem selectPlainly_of_kept {requests : List StreamRequest}
    (kept : ∀ request ∈ requests, leaves request = false) (w : W) : r.SelectPlainly requests w := by
  cases state : r.state with
  | delegating selector => exact .inl (afterAll_of_delegating steady settled kept state w).1
  | choosing => exact selectPlainly_of_choosing state (afterAll_of_choosing steady settled kept state w)

omit steady settled in
/-- One request alone chooses plainly. -/
theorem selectPlainly_of_short {requests : List StreamRequest} (short : requests.length ≤ 1) (w : W) :
    r.SelectPlainly requests w := by
  rcases requests with - | ⟨request, - | ⟨second, rest⟩⟩
  · exact .inl rfl
  · have chosen : r.selections [request] w = (r.selection? request.payload w).toList := List.append_nil _
    cases state : r.state with
    | delegating selector =>
        rw [selection?_of_delegating state] at chosen
        exact .inl chosen
    | choosing =>
        rw [selection?_of_choosing state] at chosen
        exact selectPlainly_of_choosing state chosen
  · simp at short

/-- The ping for a line that was too long chooses nothing and leaves nothing. -/
theorem process_overlong (w : W) : r.selection? StreamRequest.overlong.payload w = none ∧
    (r.process StreamRequest.overlong.payload w).2.1.activeKey = r.activeKey := by
  cases state : r.state with
  | choosing =>
      have same : (r.process StreamRequest.overlong.payload w).2.1 = r := by
        rw [process, state]
        rfl
      rw [selection?_of_choosing state, same]
      exact ⟨activeKey_of_choosing state, rfl⟩
  | delegating selector =>
      refine ⟨selection?_of_delegating state _ w, ?_⟩
      obtain ⟨-, leaving⟩ | ⟨-, same⟩ := process_of_delegating steady settled state .overlong w
      · cases leaving
      · exact same

theorem selectPlainly_concat_overlong {requests : List StreamRequest} {w : W}
    (plain : r.SelectPlainly requests w) : r.SelectPlainly (requests ++ [.overlong]) w := by
  obtain ⟨nothing, same⟩ := process_overlong steady (settled_afterAll settled requests w)
    (r.afterAll requests w).2
  have selections : r.selections (requests ++ [.overlong]) w = r.selections requests w := by
    rw [selections_append, selections_cons, nothing]
    exact List.append_nil _
  have key : (r.afterAll (requests ++ [.overlong]) w).1.activeKey = (r.afterAll requests w).1.activeKey := by
    rw [afterAll_append, afterAll_cons]
    exact same
  rw [SelectPlainly, selections, key]
  exact plain

end Router

end Switchboard
