import Mathlib.Data.List.Induction
import Mathlib.Data.List.Nodup
import Mathlib.Data.List.Perm.Basic
import Switchboard.Session.Link

/-!
The outbound queue of a link. Over any number of connections, messages are handed over in the order in
which they were sent, and none is lost but those that waited when the link was told to forget. Equal
messages are told apart by numbers, which the link does not notice.
-/

namespace Switchboard

open scoped List

variable {M N : Type}

/-- The message that an event sends. -/
def LinkEvent.sent? : LinkEvent M → Option M
  | send m => some m
  | _ => none

/-- The messages sent, in order. -/
def sentIn (events : List (LinkEvent M)) : List M :=
  events.filterMap LinkEvent.sent?

namespace Link

def after (l : Link M) (events : List (LinkEvent M)) : Link M :=
  events.foldl (fun l e => (l.step e).2) l

/-- The messages handed to connections, in order. -/
def handed : Link M → List (LinkEvent M) → List M
  | _, [] => []
  | l, e :: rest => (l.step e).1 ++ handed (l.step e).2 rest

/-- The messages that an event makes the link forget. -/
def dropped (l : Link M) : LinkEvent M → List M
  | .forget => l.queue
  | _ => []

/-- The messages that waited at a forgetting. -/
def forgotten : Link M → List (LinkEvent M) → List M
  | _, [] => []
  | l, e :: rest => l.dropped e ++ forgotten (l.step e).2 rest

section runs

variable (l : Link M) (events : List (LinkEvent M)) (e : LinkEvent M)

theorem after_concat : l.after (events ++ [e]) = ((l.after events).step e).2 := by
  simp [after]

theorem handed_concat :
    l.handed (events ++ [e]) = l.handed events ++ ((l.after events).step e).1 := by
  induction events generalizing l with
  | nil => simp [handed, after]
  | cons first rest ih =>
      rw [List.cons_append, handed, ih, handed, List.append_assoc]
      rfl

theorem forgotten_concat :
    l.forgotten (events ++ [e]) = l.forgotten events ++ (l.after events).dropped e := by
  induction events generalizing l with
  | nil => simp [forgotten, after]
  | cons first rest ih =>
      rw [List.cons_append, forgotten, ih, forgotten, List.append_assoc]
      rfl

end runs

end Link

theorem sentIn_concat (events : List (LinkEvent M)) (e : LinkEvent M) :
    sentIn (events ++ [e]) = sentIn events ++ e.sent?.toList := by
  cases h : e.sent? <;> simp [sentIn, h]

/-- What every event keeps: there is a writer exactly while the link is connected, and nothing waits
while that writer takes messages. -/
structure Link.Flushed (l : Link M) : Prop where
  writer : l.writer.isSome = true ↔ l.state = .connected
  queue : l.takes = true → l.queue = []

namespace Link

theorem Flushed.initial : Flushed ({} : Link M) :=
  ⟨by simp, fun _ => rfl⟩

theorem Flushed.of_cut {l : Link M} (state : l.state ≠ .connected) (writer : l.writer = none) :
    l.Flushed := by
  refine ⟨?_, ?_⟩
  · simp [state, writer]
  · intro takes
    simp [Link.takes, writer] at takes

theorem Flushed.writer_of_awaits {l : Link M} (h : l.Flushed) {attempt : Nat}
    (awaits : l.awaits attempt = true) : l.writer = none := by
  have connecting : l.state = .connecting := by
    simp only [Link.awaits, Bool.and_eq_true, beq_iff_eq] at awaits
    exact awaits.2
  cases writer : l.writer with
  | none => rfl
  | some w =>
      have connected := h.writer.mp (by rw [writer]; rfl)
      rw [connecting] at connected
      cases connected

theorem Flushed.step {l : Link M} (h : l.Flushed) (e : LinkEvent M) : (l.step e).2.Flushed := by
  cases e with
  | send m =>
      cases takes : l.takes with
      | true =>
          simp only [Link.step, send, takes, if_true]
          exact h
      | false =>
          simp only [Link.step, send, takes, Bool.false_eq_true, if_false]
          exact ⟨h.writer, fun now => by
            rw [Link.takes] at takes now
            rw [takes] at now
            cases now⟩
  | start => exact .of_cut (by simp [Link.step, Link.start]) rfl
  | succeed attempt =>
      simp only [Link.step, succeed]
      split
      · exact ⟨by simp, fun _ => rfl⟩
      · exact h
  | fail attempt address reason =>
      simp only [Link.step, fail]
      split
      case isTrue awaits => exact .of_cut (by simp) (h.writer_of_awaits awaits)
      case isFalse => exact h
  | stop generation =>
      refine ⟨?_, ?_⟩
      · simpa [Link.step, stop] using h.writer
      · intro now
        refine h.queue ?_
        rw [Link.takes, Bool.and_eq_true] at now ⊢
        refine ⟨now.1, ?_⟩
        have open' := now.2
        cases writer : l.writer with
        | none => simp [Link.step, stop, writer] at open'
        | some w =>
            simp only [Link.step, stop, writer, Option.map_some, Option.any_some] at open' ⊢
            split at open'
            · cases open'
            · exact open'
  | lose generation reason =>
      simp only [Link.step, lose]
      split
      · exact .of_cut (by simp) rfl
      · exact h
  | disconnect => exact .of_cut (by simp [Link.step, disconnect]) rfl
  | forget => exact .of_cut (by simp [Link.step, forget, disconnect]) rfl

theorem Flushed.after (events : List (LinkEvent M)) : (Link.after {} events).Flushed := by
  induction events using List.reverseRecOn with
  | nil => exact .initial
  | append_singleton events e ih =>
      rw [after_concat]
      exact ih.step e

/-- What an event drops or hands over, with what waits after it, is what waited before it with what it
sends. -/
theorem dropped_append_step {l : Link M} (h : l.Flushed) (e : LinkEvent M) :
    l.dropped e ++ (l.step e).1 ++ (l.step e).2.queue = l.queue ++ e.sent?.toList := by
  cases e with
  | send m =>
      cases takes : l.takes with
      | true => simp [Link.step, send, takes, dropped, LinkEvent.sent?, h.queue takes]
      | false => simp [Link.step, send, takes, dropped, LinkEvent.sent?]
  | succeed attempt =>
      simp only [Link.step, succeed]
      split <;> simp [dropped, LinkEvent.sent?]
  | fail attempt address reason =>
      simp only [Link.step, fail]
      split <;> simp [dropped, LinkEvent.sent?]
  | lose generation reason =>
      simp only [Link.step, lose]
      split <;> simp [dropped, LinkEvent.sent?, cut]
  | _ => simp [Link.step, dropped, LinkEvent.sent?, Link.start, stop, disconnect, forget, cut]

/-- Every message sent was forgotten, was handed over or waits, and only once. -/
theorem accounted (events : List (LinkEvent M)) :
    forgotten {} events ++ (handed {} events ++ (Link.after {} events).queue) ~ sentIn events := by
  induction events using List.reverseRecOn with
  | nil => exact .nil
  | append_singleton events e ih =>
      have step := dropped_append_step (Flushed.after events) e
      rw [forgotten_concat, handed_concat, after_concat, sentIn_concat]
      generalize Link.after {} events = l at ih step ⊢
      calc forgotten {} events ++ l.dropped e ++
            (handed {} events ++ (l.step e).1 ++ (l.step e).2.queue)
        _ = forgotten {} events ++ (l.dropped e ++ handed {} events ++
              ((l.step e).1 ++ (l.step e).2.queue)) := by simp only [List.append_assoc]
        _ ~ forgotten {} events ++ (handed {} events ++ l.dropped e ++
              ((l.step e).1 ++ (l.step e).2.queue)) :=
            (List.perm_append_comm.append_right _).append_left _
        _ = forgotten {} events ++ (handed {} events ++ l.queue) ++ e.sent?.toList := by
            simp only [List.append_assoc, ← step]
        _ ~ sentIn events ++ e.sent?.toList := ih.append_right _

theorem dropped_of_ne_forget (l : Link M) {e : LinkEvent M} (h : e ≠ .forget) : l.dropped e = [] := by
  cases e with
  | forget => exact absurd rfl h
  | _ => rfl

theorem handed_append_queue_of_notMem (events : List (LinkEvent M)) (never : .forget ∉ events) :
    handed {} events ++ (Link.after {} events).queue = sentIn events := by
  induction events using List.reverseRecOn with
  | nil => rfl
  | append_singleton events e ih =>
      rw [List.mem_append, List.mem_singleton, not_or] at never
      have step := dropped_append_step (Flushed.after events) e
      rw [dropped_of_ne_forget _ (Ne.symm never.2), List.nil_append] at step
      rw [handed_concat, after_concat, sentIn_concat, List.append_assoc, step, ← ih never.1,
        List.append_assoc]

theorem filter_middle {key : M → Nat} {a b c : List M} (distinct : ((a ++ b ++ c).map key).Nodup) :
    (a ++ b ++ c).filter (fun m => key m ∉ b.map key) = a ++ c := by
  rw [List.map_append, List.map_append, List.nodup_append, List.nodup_append] at distinct
  obtain ⟨⟨-, -, before⟩, -, behind⟩ := distinct
  have all : a.filter (fun m => key m ∉ b.map key) = a := by
    rw [List.filter_eq_self]
    intro m member
    rw [decide_eq_true_eq]
    exact fun inside => before (key m) (List.mem_map_of_mem member) (key m) inside rfl
  have none : b.filter (fun m => key m ∉ b.map key) = [] := by
    rw [List.filter_eq_nil_iff]
    intro m member
    simpa using ⟨m, member, rfl⟩
  have rest : c.filter (fun m => key m ∉ b.map key) = c := by
    rw [List.filter_eq_self]
    intro m member
    rw [decide_eq_true_eq]
    exact fun inside =>
      behind (key m) (List.mem_append_right _ inside) (key m) (List.mem_map_of_mem member) rfl
  rw [List.filter_append, List.filter_append, all, none, rest, List.append_nil]

/-- If the messages sent have distinct keys, then those handed over and those that wait are the messages
sent, in order, but the forgotten ones. -/
theorem handed_append_queue {key : M → Nat} (events : List (LinkEvent M))
    (distinct : ((sentIn events).map key).Nodup) :
    handed {} events ++ (Link.after {} events).queue =
      (sentIn events).filter fun m => key m ∉ (forgotten {} events).map key := by
  induction events using List.reverseRecOn with
  | nil => rfl
  | append_singleton events e ih =>
      have step := dropped_append_step (Flushed.after events) e
      have accounted := accounted events
      rw [sentIn_concat] at distinct ⊢
      rw [forgotten_concat, handed_concat, after_concat]
      have parts := distinct
      rw [List.map_append, List.nodup_append] at parts
      obtain ⟨earlier, -, fresh⟩ := parts
      specialize ih earlier
      -- What the event sends is new, so it is none of what was forgotten before.
      have kept : (e.sent?.toList).filter (fun m => key m ∉ (forgotten {} events).map key) =
          e.sent?.toList := by
        rw [List.filter_eq_self]
        intro m member
        rw [decide_eq_true_eq, List.mem_map]
        rintro ⟨old, forgot, same⟩
        have sent := accounted.subset (List.mem_append_left _ forgot)
        exact fresh (key old) (List.mem_map_of_mem sent) (key m) (List.mem_map_of_mem member) same
      generalize Link.after {} events = l at ih step ⊢
      have before : handed {} events ++ l.dropped e ++ ((l.step e).1 ++ (l.step e).2.queue) =
          (sentIn events ++ e.sent?.toList).filter fun m => key m ∉ (forgotten {} events).map key := by
        rw [List.filter_append, kept, ← ih, List.append_assoc, List.append_assoc, ← step,
          List.append_assoc]
      have distinct : ((handed {} events ++ l.dropped e ++
          ((l.step e).1 ++ (l.step e).2.queue)).map key).Nodup := by
        rw [before]
        exact (List.filter_sublist.map key).nodup distinct
      calc handed {} events ++ (l.step e).1 ++ (l.step e).2.queue
        _ = handed {} events ++ ((l.step e).1 ++ (l.step e).2.queue) := List.append_assoc ..
        _ = (handed {} events ++ l.dropped e ++ ((l.step e).1 ++ (l.step e).2.queue)).filter
              fun m => key m ∉ (l.dropped e).map key := (filter_middle distinct).symm
        _ = (sentIn events ++ e.sent?.toList).filter
              fun m => key m ∉ (forgotten {} events ++ l.dropped e).map key := by
            rw [before, List.filter_filter]
            refine List.filter_congr fun m _ => ?_
            rw [← Bool.decide_and, decide_eq_decide, List.map_append, List.mem_append, not_or,
              and_comm]

end Link

section numbering

variable (f : M → N)

def LinkEvent.map : LinkEvent M → LinkEvent N
  | send m => .send (f m)
  | start => .start
  | succeed attempt => .succeed attempt
  | fail attempt address reason => .fail attempt address reason
  | stop generation => .stop generation
  | lose generation reason => .lose generation reason
  | disconnect => .disconnect
  | forget => .forget

def Link.map (l : Link M) : Link N :=
  { l with queue := l.queue.map f }

theorem LinkEvent.sent?_map (e : LinkEvent M) : (e.map f).sent? = e.sent?.map f := by
  cases e <;> rfl

theorem sentIn_map (events : List (LinkEvent M)) :
    sentIn (events.map (LinkEvent.map f)) = (sentIn events).map f := by
  rw [sentIn, sentIn, List.filterMap_map, List.map_filterMap]
  exact congrArg (List.filterMap · events) (funext (LinkEvent.sent?_map f))

namespace Link

theorem takes_map (l : Link M) : (l.map f).takes = l.takes := rfl

theorem awaits_map (l : Link M) (attempt : Nat) : (l.map f).awaits attempt = l.awaits attempt := rfl

/-- A link does with changed messages what it does with the messages, changed in the same way. -/
theorem step_map (l : Link M) (e : LinkEvent M) :
    (l.map f).step (e.map f) = ((l.step e).1.map f, (l.step e).2.map f) := by
  cases e with
  | send m =>
      cases h : l.takes with
      | true => simp only [step, LinkEvent.map, send, takes_map, h, if_true, List.map_singleton]
      | false =>
          simp only [step, LinkEvent.map, send, takes_map, h, Bool.false_eq_true, if_false]
          simp [map]
  | succeed attempt =>
      cases h : l.awaits attempt with
      | true =>
          simp only [step, LinkEvent.map, succeed, awaits_map, h, if_true]
          rfl
      | false =>
          simp only [step, LinkEvent.map, succeed, awaits_map, h, Bool.false_eq_true, if_false]
          rfl
  | fail attempt address reason =>
      cases h : l.awaits attempt with
      | true =>
          simp only [step, LinkEvent.map, fail, awaits_map, h, if_true]
          rfl
      | false =>
          simp only [step, LinkEvent.map, fail, awaits_map, h, Bool.false_eq_true, if_false]
          rfl
  | lose generation reason =>
      have same : (l.map f).generation = l.generation := rfl
      by_cases h : l.generation = generation
      · simp only [step, LinkEvent.map, lose, same, h, BEq.rfl, if_true]
        rfl
      · simp only [step, LinkEvent.map, lose, same, beq_eq_false_iff_ne.mpr h, Bool.false_eq_true, if_false]
        rfl
  | _ => rfl

theorem after_map (l : Link M) (events : List (LinkEvent M)) :
    (l.map f).after (events.map (LinkEvent.map f)) = (l.after events).map f := by
  induction events generalizing l with
  | nil => rfl
  | cons e rest ih =>
      rw [List.map_cons, after, List.foldl_cons, step_map]
      exact ih (l.step e).2

theorem handed_map (l : Link M) (events : List (LinkEvent M)) :
    (l.map f).handed (events.map (LinkEvent.map f)) = (l.handed events).map f := by
  induction events generalizing l with
  | nil => rfl
  | cons e rest ih => rw [List.map_cons, handed, step_map, ih, handed, List.map_append]

end Link

/-- Puts on every message the place at which it is sent. -/
def numbered (events : List (LinkEvent M)) : List (LinkEvent (Nat × M)) :=
  events.mapIdx fun place e => e.map fun m => (place, m)

theorem numbered_concat (events : List (LinkEvent M)) (e : LinkEvent M) :
    numbered (events ++ [e]) = numbered events ++ [e.map fun m => (events.length, m)] := by
  rw [numbered, List.mapIdx_concat, numbered]

theorem map_numbered (events : List (LinkEvent M)) :
    (numbered events).map (LinkEvent.map Prod.snd) = events := by
  induction events using List.reverseRecOn with
  | nil => rfl
  | append_singleton events e ih =>
      have back : (e.map fun m => (events.length, m)).map Prod.snd = e := by cases e <;> rfl
      rw [numbered_concat, List.map_append, ih, List.map_singleton, back]

theorem distinct_numbered (events : List (LinkEvent M)) :
    (∀ m ∈ sentIn (numbered events), m.1 < events.length) ∧
      ((sentIn (numbered events)).map Prod.fst).Nodup := by
  induction events using List.reverseRecOn with
  | nil => simp [numbered, sentIn]
  | append_singleton events e ih =>
      obtain ⟨below, distinct⟩ := ih
      rw [numbered_concat, sentIn_concat, LinkEvent.sent?_map, List.length_append]
      cases sent : e.sent? with
      | none =>
          simp only [Option.map_none, Option.toList_none, List.append_nil]
          exact ⟨fun m member => Nat.lt_succ_of_lt (below m member), distinct⟩
      | some m =>
          simp only [Option.map_some, Option.toList_some]
          refine ⟨?_, ?_⟩
          · intro other member
            rcases List.mem_append.mp member with early | last
            · exact Nat.lt_succ_of_lt (below other early)
            · obtain rfl := List.mem_singleton.mp last
              exact Nat.lt_succ_self _
          · rw [List.map_append, List.nodup_append]
            refine ⟨distinct, List.nodup_singleton _, ?_⟩
            intro place member other last
            obtain rfl := List.mem_singleton.mp last
            obtain ⟨old, early, rfl⟩ := List.mem_map.mp member
            exact Nat.ne_of_lt (below old early)

end numbering

/-- What every run of a link from its start keeps to. -/
structure OutboundLaw (events : List (LinkEvent M)) : Prop where
  /-- There is something to write to exactly while the link is connected. -/
  writer : (Link.after {} events).writer.isSome = true ↔ (Link.after {} events).state = .connected
  /-- Nothing is lost or handed over twice. -/
  accounted : Link.forgotten {} events ++ (Link.handed {} events ++ (Link.after {} events).queue) ~
    sentIn events
  /-- What was handed over and what waits are, in the order of sending, the messages sent but those that
  waited at a forgetting. -/
  handed_append_queue :
    Link.handed {} (numbered events) ++ (Link.after {} (numbered events)).queue =
      (sentIn (numbered events)).filter
        fun m => m.1 ∉ (Link.forgotten {} (numbered events)).map Prod.fst
  /-- The numbers differ, and without them the run is the given one. -/
  distinct : ((sentIn (numbered events)).map Prod.fst).Nodup
  sent_eq : (sentIn (numbered events)).map Prod.snd = sentIn events
  handed_eq : (Link.handed {} (numbered events)).map Prod.snd = Link.handed {} events
  after_eq : (Link.after {} (numbered events)).map Prod.snd = Link.after {} events
  handed_append_queue_of_notMem : .forget ∉ events →
    Link.handed {} events ++ (Link.after {} events).queue = sentIn events

theorem outbound_law (events : List (LinkEvent M)) : OutboundLaw events := by
  obtain ⟨-, distinct⟩ := distinct_numbered events
  have kept := Link.handed_append_queue (numbered events) distinct
  have sent_eq : (sentIn (numbered events)).map Prod.snd = sentIn events := by
    rw [← sentIn_map, map_numbered]
  have handed_eq : (Link.handed {} (numbered events)).map Prod.snd = Link.handed {} events := by
    have mapped := Link.handed_map (Prod.snd : Nat × M → M) {} (numbered events)
    rw [map_numbered] at mapped
    exact mapped.symm
  have after_eq : (Link.after {} (numbered events)).map Prod.snd = Link.after {} events := by
    have mapped := Link.after_map (Prod.snd : Nat × M → M) {} (numbered events)
    rw [map_numbered] at mapped
    exact mapped.symm
  exact ⟨(Link.Flushed.after events).writer, Link.accounted events, kept, distinct, sent_eq, handed_eq,
    after_eq, Link.handed_append_queue_of_notMem events⟩

end Switchboard
