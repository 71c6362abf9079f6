import Switchboard.Proofs.Router.Conversation

/-!
What a goodbye ends. After a goodbye to a line nothing is replied and no request reaches the router any more.
A goodbye to the ping for a line that was too long ends nothing: the lines behind it are answered as before.
-/

namespace Switchboard

/-- A goodbye to a line, rather than to the ping for a line that was too long. -/
theorem Exchange.ends_iff (e : Exchange) :
    e.ends = true ↔ e.reply.isTerminal = true ∧ e.request ≠ .overlong := by
  rw [ends]
  cases e.request with
  | message p => simp
  | overlong => simp

/-- A run that nothing is added to: no reply, no handled action, and no request that reaches the router. -/
structure Silent {W I : Type} (r r' : ConnectionRun W I) : Prop where
  router : r'.connection.router = r.connection.router
  world : r'.world = r.world
  replies : r'.replies.flatten = r.replies.flatten
  actions : r'.counted ++ r'.connection.handled = r.counted ++ r.connection.handled
  finished : r'.connection.finished = true

variable {W I : Type} [Protocol W I]

namespace Silent

variable {r r' : ConnectionRun W I}

omit [Protocol W I] in
theorem refl (finished : r.connection.finished = true) : Silent r r :=
  ⟨rfl, rfl, rfl, rfl, finished⟩

theorem call (s : Silent r r') (c : ConnectionCall) : Silent r (r'.call c) := by
  cases c with
  | receive chunk =>
      simp only [ConnectionRun.call, Connection.receive_of_finished s.finished]
      exact ⟨s.router, s.world, by simpa using s.replies, s.actions, s.finished⟩
  | takeHandled =>
      refine ⟨s.router, s.world, s.replies, ?_, s.finished⟩
      simpa [ConnectionRun.call, Connection.takeHandled] using s.actions

theorem calls (s : Silent r r') (more : List ConnectionCall) :
    Silent r (more.foldl ConnectionRun.call r') := by
  induction more generalizing r' with
  | nil => exact s
  | cons c rest ih => exact ih (s.call c)

end Silent

theorem ConnectionRun.after_append (router : Router W I) (limit : Nat) (world : W)
    (calls more : List ConnectionCall) :
    after router limit world (calls ++ more) = more.foldl call (after router limit world calls) :=
  List.foldl_append

/-- In a conversation a goodbye to a line is the last exchange. -/
theorem length_conversation_of_ends {router : Router W I} {limit : Nat} {world : W}
    {chunks : List (List UInt8)} {n : Nat} {e : Exchange}
    (found : (conversation router limit world chunks)[n]? = some e) (ends : e.ends = true) :
    n + 1 = (conversation router limit world chunks).length := by
  obtain ⟨bound, rfl⟩ := List.getElem?_eq_some_iff.mp found
  have earlier : (conversation router limit world chunks).Pairwise fun e _ => e.ends = false :=
    pairwise_upToGoodbye _
  by_contra more
  have open_end := List.pairwise_iff_getElem.mp earlier n (n + 1) bound (by omega) (Nat.lt_succ_self n)
  exact Bool.eq_false_iff.mp open_end ends

/-- While a connection is not finished, a chunk is answered request by request. -/
theorem Conversed.replies_receive {router : Router W I} {limit : Nat} {world : W}
    {chunks : List (List UInt8)} {r : ConnectionRun W I} (h : Conversed router limit world chunks r)
    (still : r.connection.finished = false) (chunk : List UInt8) :
    (r.call (.receive chunk)).replies = r.replies ++
      [(upToGoodbye
        (r.connection.router.converse (newRequests limit chunks chunk) r.world)).map Exchange.reply] := by
  cases feed : r.connection.framer.feed chunk with
  | mk framer tooLong =>
      obtain ⟨made, -⟩ := (h.framed still).receive feed
      rw [ConnectionRun.call, Connection.receive_eq still feed made]
      rfl

/-- What goodbyes mean for a run of calls on a connection. -/
structure GoodbyeLaw (router : Router W I) (limit : Nat) (world : W) (calls : List ConnectionCall)
    (r : ConnectionRun W I) : Prop where
  /-- The replies are those of the router to requests of the stream, and no other request reached it. -/
  exchanged : r.replies.flatten =
      (conversation router limit world (chunksIn calls)).map Exchange.reply ∧
    (r.connection.router, r.world) =
      router.afterAll ((conversation router limit world (chunksIn calls)).map Exchange.request) world
  finished_iff : r.connection.finished = true ↔
    ∃ e ∈ conversation router limit world (chunksIn calls),
      e.reply.isTerminal = true ∧ e.request ≠ .overlong
  /-- A goodbye to a line is the last reply. -/
  last : ∀ (n : Nat) e, (conversation router limit world (chunksIn calls))[n]? = some e →
    e.reply.isTerminal = true → e.request ≠ .overlong → n + 1 = r.replies.flatten.length
  /-- Whatever comes after it is neither answered nor given to the router. -/
  silent : r.connection.finished = true → ∀ more,
    Silent r (ConnectionRun.after router limit world (calls ++ more))
  /-- Until then every chunk is answered request by request, also behind a goodbye to a ping for a line that
  was too long. -/
  resumed : r.connection.finished = false → ∀ chunk,
    (ConnectionRun.after router limit world (calls ++ [.receive chunk])).replies = r.replies ++
      [(upToGoodbye (r.connection.router.converse (newRequests limit (chunksIn calls) chunk)
        r.world)).map Exchange.reply]
  /-- So when no such ping is answered by a goodbye, the first goodbye finishes the connection. -/
  first : (∀ e ∈ conversation router limit world (chunksIn calls),
      e.request = .overlong → e.reply.isTerminal = false) →
    ∀ (n : Nat) p, r.replies.flatten[n]? = some p → p.isTerminal = true →
      n + 1 = r.replies.flatten.length ∧ r.connection.finished = true

theorem goodbye_law (router : Router W I) (limit : Nat) (world : W) (calls : List ConnectionCall) :
    GoodbyeLaw router limit world calls (ConnectionRun.after router limit world calls) := by
  have held := Conversed.after router limit world calls
  have finished : (ConnectionRun.after router limit world calls).connection.finished = true ↔
      ∃ e ∈ conversation router limit world (chunksIn calls),
        e.reply.isTerminal = true ∧ e.request ≠ .overlong := by
    rw [held.finished, List.any_eq_true]
    simp only [Exchange.ends_iff]
  have last (n : Nat) (e : Exchange)
      (found : (conversation router limit world (chunksIn calls))[n]? = some e)
      (goodbye : e.reply.isTerminal = true) (line : e.request ≠ .overlong) :
      n + 1 = (ConnectionRun.after router limit world calls).replies.flatten.length := by
    rw [held.replies_eq, List.length_map]
    exact length_conversation_of_ends found (e.ends_iff.mpr ⟨goodbye, line⟩)
  refine ⟨⟨held.replies_eq, held.reached⟩, finished, last, ?_, ?_, ?_⟩
  · intro ended more
    rw [ConnectionRun.after_append]
    exact (Silent.refl ended).calls more
  · intro still chunk
    rw [ConnectionRun.after_concat]
    exact held.replies_receive still chunk
  · intro polite n p there goodbye
    rw [held.replies_eq, List.getElem?_map, Option.map_eq_some_iff] at there
    obtain ⟨e, found, rfl⟩ := there
    have member := List.mem_of_getElem? found
    have line : e.request ≠ .overlong := by
      intro long
      rw [polite e member long] at goodbye
      cases goodbye
    exact ⟨last n e found goodbye line, finished.mpr ⟨e, member, goodbye, line⟩⟩

/-- A protocol that says goodbye to everything, even to a ping. -/
structure Farewell where

instance : Protocol Unit Farewell where
  key _ := "Farewell"
  process f _ w := ({ key := "Farewell", response := some goodbye }, f, w)
  close _ w := w

def farewells : Registry Unit Farewell :=
  Registry.register {} "Farewell" fun _ w => .ok (⟨⟩, w)

/-- The protocol is chosen, then comes a line that is too long, then an empty message. -/
def partings : List ConnectionCall :=
  [.receive "[\"\",\"Farewell\"]\n".toUTF8.toList, .receive (List.replicate 21 120),
    .receive "\n[]\n".toUTF8.toList]

/-- The goodbye to the ping for the long line does not finish the connection, and the empty message behind it
is answered. -/
theorem answered_after_goodbye :
    let router : Router Unit Farewell := { registry := farewells, connection := "c" }
    ((ConnectionRun.after router 20 () partings).replies.map fun replies =>
        replies.map Payload.isTerminal) = [[false], [true], [true]] ∧
      (ConnectionRun.after router 20 () (partings.take 2)).connection.finished = false := by
  decide +kernel

end Switchboard
