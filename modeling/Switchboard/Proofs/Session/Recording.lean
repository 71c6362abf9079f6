import Switchboard.Proofs.Log
import Switchboard.Session.Replies

/-!
What a session keeps of the messages it received, said of all that has happened to it. Nothing is known of
a key but what was recorded under it, and a subscriber gets what was recorded since it subscribed.
-/

namespace Switchboard

/-- Something that happens to what a session keeps. -/
inductive ReplyStep
  | record (p : Payload)
  | clearHistory (key : String)
  | takeSchema (key : String)
  /-- Someone subscribes to the messages of a key, or to all. -/
  | subscribe (key : Option String)
  /-- The subscriber of a number takes what waits for it. -/
  | take (number : Nat)
  | unsubscribe (number : Nat)
  /-- The first half of forgetting what was recorded. -/
  | forgetSchemas
  /-- The other half. -/
  | forgetHistories
  deriving DecidableEq

namespace ReplyStep

def recorded? : ReplyStep → Option Payload
  | record p => some p
  | _ => none

/-- Tells of the steps that drop the history of a key. -/
def clears (key : String) : ReplyStep → Bool
  | clearHistory other => other == key
  | forgetHistories => true
  | _ => false

/-- Tells of the steps that drop the schema that waits under a key. -/
def takes (key : String) : ReplyStep → Bool
  | takeSchema other => other == key
  | forgetSchemas => true
  | _ => false

end ReplyStep

/-- The messages recorded, in order. -/
def recordedIn (steps : List ReplyStep) : List Payload :=
  steps.filterMap ReplyStep.recorded?

theorem recordedIn_concat (steps : List ReplyStep) (s : ReplyStep) :
    recordedIn (steps ++ [s]) = recordedIn steps ++ s.recorded?.toList := by
  cases h : s.recorded? <;> simp [recordedIn, h]

namespace Payload

/-- Holds of the messages of a key that do not ask for arguments with a schema that can be read. -/
def tells (key : String) (p : Payload) : Bool :=
  p.key == key && p.askedSchema?.isNone

/-- The schema by which a message of a key asks for arguments. -/
def asks? (key : String) (p : Payload) : Option ArgumentSchema :=
  if p.key = key then p.askedSchema? else none

theorem askedSchema?_eq_some_iff (p : Payload) (schema : ArgumentSchema) :
    p.askedSchema? = some schema ↔ p.action = some Action.commandInfo ∧
      ∃ data, p.data = some data ∧ ArgumentSchema.ofJson data = .ok schema := by
  rw [askedSchema?, isCommandInfo]
  by_cases asks : p.action = some Action.commandInfo
  · simp only [asks, BEq.rfl, if_true, Option.bind_eq_some_iff, true_and]
    refine exists_congr fun data => and_congr_right fun _ => ?_
    cases ArgumentSchema.ofJson data <;> simp [Except.toOption]
  · simp [asks]

end Payload

theorem rtake_rtake_concat (n : Nat) (ps : List Payload) (p : Payload) :
    (ps.rtake n ++ [p]).rtake n = (ps ++ [p]).rtake n := by
  cases n with
  | zero => rw [List.rtake_zero, List.rtake_zero]
  | succ n =>
      rw [List.rtake_concat_succ, List.rtake_concat_succ]
      congr 1
      simp only [List.rtake, List.drop_drop, List.length_drop]
      congr 1
      omega

/-- Adding a message to the newest ones and keeping the newest gives the newest of all. -/
theorem newest_rtake_concat (ps : List Payload) (p : Payload) :
    Replies.newest (ps.rtake historyCapacity ++ [p]) = (ps ++ [p]).rtake historyCapacity :=
  rtake_rtake_concat historyCapacity ps p

namespace Replies

def forgetSchemas (r : Replies) : Replies :=
  { r with asked := [] }

def forgetHistories (r : Replies) : Replies :=
  { r with histories := [] }

theorem forget_eq (r : Replies) : r.forget = r.forgetSchemas.forgetHistories := rfl

def step (r : Replies) : ReplyStep → Replies
  | .record p => r.record p
  | .clearHistory key => r.clearHistory key
  | .takeSchema key => (r.takeSchema key).2
  | .subscribe key => (r.subscribe key).2
  | .take number => (r.take number).2
  | .unsubscribe number => r.unsubscribe number
  | .forgetSchemas => r.forgetSchemas
  | .forgetHistories => r.forgetHistories

def after (r : Replies) (steps : List ReplyStep) : Replies :=
  steps.foldl step r

theorem after_concat (r : Replies) (steps : List ReplyStep) (s : ReplyStep) :
    r.after (steps ++ [s]) = (r.after steps).step s := by
  simp [after]

section keys

variable (r : Replies) (key : String) (p : Payload)

theorem history_record : (r.record p).history key =
    if p.tells key then newest (r.history key ++ [p]) else r.history key := by
  by_cases same : p.key = key
  · subst same
    cases asked : p.askedSchema? with
    | some schema => simp [record, keep, asked, Payload.tells, history]
    | none => simp [record, keep, asked, Payload.tells, history]
  · have apart : key ≠ p.key := Ne.symm same
    cases asked : p.askedSchema? with
    | some schema => simp [record, keep, asked, Payload.tells, history]
    | none =>
        simp [record, keep, asked, Payload.tells, history, same, Association.lookup_put_of_ne apart]

theorem schema?_record : (r.record p).schema? key = (p.asks? key).or (r.schema? key) := by
  by_cases same : p.key = key
  · subst same
    cases asked : p.askedSchema? with
    | some schema => simp [record, keep, asked, Payload.asks?, schema?]
    | none => simp [record, keep, asked, Payload.asks?, schema?]
  · have apart : key ≠ p.key := Ne.symm same
    cases asked : p.askedSchema? with
    | some schema =>
        simp [record, keep, asked, Payload.asks?, schema?, same, Association.lookup_put_of_ne apart]
    | none => simp [record, keep, asked, Payload.asks?, schema?, same]

theorem history_clearHistory (other : String) :
    (r.clearHistory other).history key = if other = key then [] else r.history key := by
  split
  case isTrue same => simp [clearHistory, history, same]
  case isFalse apart =>
    rw [clearHistory, history, Association.lookup_erase_of_ne (Ne.symm apart), history]

theorem schema?_takeSchema (other : String) :
    (r.takeSchema other).2.schema? key = if other = key then none else r.schema? key := by
  split
  case isTrue same => simp [takeSchema, schema?, same]
  case isFalse apart =>
    rw [takeSchema, schema?, Association.lookup_erase_of_ne (Ne.symm apart), schema?]

theorem take_frame (number : Nat) :
    (r.take number).2.histories = r.histories ∧ (r.take number).2.asked = r.asked := by
  rw [take]
  split <;> exact ⟨rfl, rfl⟩

/-- What a step makes of the history of a key. -/
theorem history_step (s : ReplyStep) : (r.step s).history key =
    if s.clears key then []
    else
      match s.recorded? with
      | some p => if p.tells key then newest (r.history key ++ [p]) else r.history key
      | none => r.history key := by
  cases s with
  | record p => exact history_record r key p
  | clearHistory other =>
      simpa [step, ReplyStep.clears, ReplyStep.recorded?] using history_clearHistory r key other
  | take number => simp [step, ReplyStep.clears, ReplyStep.recorded?, history, (take_frame r number).1]
  | _ => rfl

/-- What a step makes of the schema that waits under a key. -/
theorem schema?_step (s : ReplyStep) : (r.step s).schema? key =
    if s.takes key then none else (s.recorded?.bind (Payload.asks? key)).or (r.schema? key) := by
  cases s with
  | record p => exact schema?_record r key p
  | takeSchema other =>
      simpa [step, ReplyStep.takes, ReplyStep.recorded?] using schema?_takeSchema r key other
  | take number => simp [step, ReplyStep.takes, ReplyStep.recorded?, schema?, (take_frame r number).2]
  | _ => rfl

end keys

theorem history_after (steps : List ReplyStep) (key : String) :
    (after {} steps).history key =
      ((recordedIn (sinceLast (ReplyStep.clears key) steps)).filter (Payload.tells key)).rtake
        historyCapacity := by
  induction steps using List.reverseRecOn with
  | nil => simp [sinceLast, recordedIn, after, history]
  | append_singleton steps s ih =>
      rw [after_concat, history_step, sinceLast_concat, ih]
      split
      case isTrue cleared => simp [recordedIn]
      case isFalse _ =>
        rw [recordedIn_concat]
        cases s.recorded? with
        | none => simp
        | some p =>
            cases tells : p.tells key with
            | false => simp [tells]
            | true => simp [tells, newest_rtake_concat]

theorem schema?_after (steps : List ReplyStep) (key : String) :
    (after {} steps).schema? key =
      ((recordedIn (sinceLast (ReplyStep.takes key) steps)).filterMap (Payload.asks? key)).getLast? := by
  induction steps using List.reverseRecOn with
  | nil => rfl
  | append_singleton steps s ih =>
      rw [after_concat, schema?_step, sinceLast_concat, ih]
      split
      case isTrue taken => rfl
      case isFalse _ =>
        rw [recordedIn_concat]
        cases s.recorded? with
        | none => simp
        | some p => cases asks : p.asks? key <;> simp [asks]

section subscribers

/-- What waits for the subscriber of a number. -/
def waiting (r : Replies) (number : Nat) : List Payload :=
  (r.subscriptions[number]?.map Subscription.waiting).getD []

/-- What a step hands to the subscriber of a number. -/
def given (r : Replies) (number : Nat) : ReplyStep → List Payload
  | .take other => if other = number then r.waiting number else []
  | _ => []

/-- What the steps hand to the subscriber of a number, in order. -/
def taken (r : Replies) (number : Nat) : List ReplyStep → List Payload
  | [] => []
  | s :: rest => r.given number s ++ taken (r.step s) number rest

/-- The messages of a key, or all. -/
def wantedIn (key : Option String) (ps : List Payload) : List Payload :=
  ps.filter fun p => key.all (· == p.key)

variable {r : Replies} {number : Nat} {key : Option String} {ps : List Payload}

theorem offer_eq (p : Payload) :
    Subscription.offer ⟨key, ps, false⟩ p = ⟨key, ps ++ wantedIn key [p], false⟩ := by
  cases key with
  | none => simp [Subscription.offer, Subscription.wants, wantedIn]
  | some name =>
      by_cases same : name = p.key
      · simp [Subscription.offer, Subscription.wants, wantedIn, same]
      · simp [Subscription.offer, Subscription.wants, wantedIn, same]

/-- As long as a subscriber stays, a step gives it or lets wait for it just what it wants. -/
theorem subscription_step (there : r.subscriptions[number]? = some ⟨key, ps, false⟩) {s : ReplyStep}
    (stays : s ≠ .unsubscribe number) :
    ∃ qs, (r.step s).subscriptions[number]? = some ⟨key, qs, false⟩ ∧
      r.given number s ++ qs = ps ++ wantedIn key s.recorded?.toList := by
  have waits : r.waiting number = ps := by simp [waiting, there]
  have nothing : ps = ps ++ wantedIn key [] := (List.append_nil ps).symm
  cases s with
  | record p =>
      refine ⟨ps ++ wantedIn key [p], ?_, rfl⟩
      rw [step, record, List.getElem?_map, there, Option.map_some, offer_eq]
  | subscribe other =>
      refine ⟨ps, ?_, nothing⟩
      have bound := (List.getElem?_eq_some_iff.mp there).1
      rw [step, subscribe, List.getElem?_append_left bound, there]
  | take other =>
      by_cases same : other = number
      · subst same
        refine ⟨[], ?_, ?_⟩
        · simp only [step, take, there]
          exact List.getElem?_set_self (List.getElem?_eq_some_iff.mp there).1
        · rw [given, if_pos rfl, waits, List.append_nil]
          exact nothing
      · refine ⟨ps, ?_, ?_⟩
        · rw [step, take]
          split
          · exact there
          · rw [List.getElem?_set_ne same, there]
        · rw [given, if_neg same]
          exact nothing
  | unsubscribe other =>
      have apart : other ≠ number := fun same => stays (same ▸ rfl)
      refine ⟨ps, ?_, nothing⟩
      rw [step, unsubscribe, List.getElem?_modify_ne _ _ apart, there]
  | _ => exact ⟨ps, there, nothing⟩

/-- What a subscriber has taken with what waits for it is what waited for it before and what was recorded
since. -/
theorem taken_append_waiting (there : r.subscriptions[number]? = some ⟨key, ps, false⟩)
    {steps : List ReplyStep} (stays : .unsubscribe number ∉ steps) :
    r.taken number steps ++ (r.after steps).waiting number = ps ++ wantedIn key (recordedIn steps) := by
  induction steps generalizing r ps with
  | nil => simp [taken, after, waiting, there, recordedIn, wantedIn]
  | cons s rest ih =>
      rw [List.mem_cons, not_or] at stays
      obtain ⟨qs, next, given⟩ := subscription_step there (Ne.symm stays.1)
      have recorded : recordedIn (s :: rest) = s.recorded?.toList ++ recordedIn rest := by
        cases h : s.recorded? <;> simp [recordedIn, h]
      calc r.taken number (s :: rest) ++ (r.after (s :: rest)).waiting number
        _ = r.given number s ++ ((r.step s).taken number rest ++ ((r.step s).after rest).waiting number) :=
            List.append_assoc ..
        _ = r.given number s ++ qs ++ wantedIn key (recordedIn rest) := by
            rw [ih next stays.2, List.append_assoc]
        _ = ps ++ wantedIn key (recordedIn (s :: rest)) := by
            rw [given, recorded, wantedIn, wantedIn, wantedIn, List.filter_append, List.append_assoc]

end subscribers

end Replies

/-- What a session keeps after any steps. -/
structure RecordingLaw (steps : List ReplyStep) (r : Replies) : Prop where
  /-- The history of a key is the last 256 messages that told something under it since it was cleared. -/
  history : ∀ key, r.history key =
    ((recordedIn (sinceLast (ReplyStep.clears key) steps)).filter (Payload.tells key)).rtake 256
  /-- The schema that waits under a key is the last one asked for since a schema was taken there. -/
  schema : ∀ key, r.schema? key =
    ((recordedIn (sinceLast (ReplyStep.takes key) steps)).filterMap (Payload.asks? key)).getLast?
  /-- A message asks for arguments when it is one that does and its schema can be read. -/
  asks : ∀ (p : Payload) schema, p.askedSchema? = some schema ↔ p.action = some Action.commandInfo ∧
    ∃ data, p.data = some data ∧ ArgumentSchema.ofJson data = .ok schema
  /-- A subscriber that stays has taken, or finds waiting, just the messages of its key that were recorded
  since it subscribed, whether they ask for arguments or not. -/
  received : ∀ before key later, steps = before ++ .subscribe key :: later →
    ∀ number start, (Replies.after {} before).subscribe key = (number, start) →
      .unsubscribe number ∉ later → start.taken number later ++ r.waiting number =
        (recordedIn later).filter fun p => key.all (· == p.key)
  /-- What is recorded under a key concerns no other key. -/
  apart : ∀ (p : Payload) key, p.key ≠ key →
    (r.record p).history key = r.history key ∧ (r.record p).schema? key = r.schema? key

theorem recording_law (steps : List ReplyStep) : RecordingLaw steps (Replies.after {} steps) where
  history := Replies.history_after steps
  schema := Replies.schema?_after steps
  asks := Payload.askedSchema?_eq_some_iff
  received before key later split number start subscribed stays := by
    have there : start.subscriptions[number]? = some ⟨key, [], false⟩ := by
      cases subscribed
      exact List.getElem?_concat_length
    have run : Replies.after {} steps = ((Replies.after {} before).subscribe key).2.after later := by
      rw [split, Replies.after, List.foldl_append]
      rfl
    rw [run, subscribed]
    exact Replies.taken_append_waiting there stays
  apart p key other := by
    rw [Replies.history_record, Replies.schema?_record]
    simp [Payload.tells, Payload.asks?, other]

end Switchboard
