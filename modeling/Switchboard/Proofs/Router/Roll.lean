import Mathlib.Data.List.Nodup
import Switchboard.Proofs.Router.Watching

/-!
The roll of a router: the numbers of its cached instances. A request leaves it, uses one of its numbers or
adds the number of a new instance, and closing empties it. At any time it agrees with the log: a number on
the roll belongs to an instance that was built and not closed, any other to one that was closed once.
-/

namespace Switchboard

variable {W I : Type}

/-- The cached instances by number, each under its selector. -/
def Router.roll (r : Router (Watched W) (Tagged I)) : List (String × Nat) :=
  r.instances.map fun entry => (entry.1, entry.2.number)

/-- What becomes of the roll and the log when a router handles a request. -/
inductive Rolled (roll : List (String × Nat)) (log : List LifeEvent) :
    List (String × Nat) → List LifeEvent → Prop
  | stay : Rolled roll log roll log
  | used (selector : String) (n : Nat) :
    (selector, n) ∈ roll → Rolled roll log roll (log ++ [.processed n])
  | built (selector : String) :
    selector ∉ roll.map Prod.fst →
      Rolled roll log (roll ++ [(selector, log.length)])
        (log ++ [.built log.length selector, .processed log.length])

namespace LifeEvent

def built? : LifeEvent → Option (String × Nat)
  | built n selector => some (selector, n)
  | _ => none

end LifeEvent

/-- The instances that are built in a part of the log. -/
def builtIn (log : List LifeEvent) : List (String × Nat) :=
  log.filterMap LifeEvent.built?

theorem Rolled.builtIn {roll roll' : List (String × Nat)} {log log' : List LifeEvent}
    (step : Rolled roll log roll' log') :
    ∃ later, log' = log ++ later ∧ roll' = roll ++ Switchboard.builtIn later := by
  cases step with
  | stay => exact ⟨[], (List.append_nil log).symm, (List.append_nil roll).symm⟩
  | used _ n _ => exact ⟨[.processed n], rfl, (List.append_nil roll).symm⟩
  | built selector _ => exact ⟨_, rfl, rfl⟩

namespace Router

variable {r : Router (Watched W) (Tagged I)} {selector : String} {i : Tagged I}

theorem mem_roll (held : r.instance? selector = some i) : (selector, i.number) ∈ r.roll := by
  rw [instance?, List.lookup_eq_some_iff] at held
  obtain ⟨before, after, split, _⟩ := held
  rw [roll, split, List.map_append, List.map_cons]
  exact List.mem_append_right _ List.mem_cons_self

theorem isSome_instance?_iff : (r.instance? selector).isSome ↔ selector ∈ r.roll.map Prod.fst := by
  rw [instance?, List.lookup_isSome_iff, roll, List.map_map, List.mem_map]
  constructor
  · rintro ⟨entry, mem, named⟩
    exact ⟨entry, mem, (beq_iff_eq.mp named).symm⟩
  · rintro ⟨entry, mem, named⟩
    exact ⟨entry, mem, beq_iff_eq.mpr named.symm⟩

theorem notMem_roll (absent : r.instance? selector = none) : selector ∉ r.roll.map Prod.fst := by
  rw [← isSome_instance?_iff, absent]
  exact Bool.noConfusion

theorem roll_addInstance : (r.addInstance selector i).roll = r.roll ++ [(selector, i.number)] := by
  rw [roll, addInstance, List.map_append]
  rfl

/-- What an instance becomes keeps its number. -/
theorem roll_setInstance (names : (r.roll.map Prod.fst).Nodup)
    (held : r.instance? selector = some i) {i' : Tagged I} (number : i'.number = i.number) :
    (r.setInstance selector i').roll = r.roll := by
  simp only [roll, setInstance, List.map_map]
  apply List.map_congr_left
  intro entry mem
  simp only [Function.comp]
  split
  case isFalse => rfl
  case isTrue named =>
    obtain rfl : entry.1 = selector := beq_iff_eq.mp named
    rw [number]
    have mem' : (entry.1, entry.2.number) ∈ r.roll := List.mem_map_of_mem mem
    exact List.inj_on_of_nodup_map names (mem_roll held) mem' rfl

variable [Protocol W I]

theorem roll_enter {w : Watched W} (names : (r.roll.map Prod.fst).Nodup)
    (held : r.instance? selector = some i) : (r.enter selector i w).2.1.roll = r.roll :=
  roll_setInstance names held rfl

omit [Protocol W I] in
theorem rolled_used {r' : Router (Watched W) (Tagged I)} {w w' : Watched W}
    (held : r.instance? selector = some i) (roll : r'.roll = r.roll)
    (log : w'.log = w.log ++ [.processed i.number]) : Rolled r.roll w.log r'.roll w'.log := by
  rw [roll, log]
  exact .used selector i.number (mem_roll held)

omit [Protocol W I] in
theorem rolled_built {r' : Router (Watched W) (Tagged I)} {w w' : Watched W}
    (fresh : selector ∉ r.roll.map Prod.fst)
    (roll : r'.roll = r.roll ++ [(selector, w.log.length)])
    (log : w'.log =
      w.log ++ [.built w.log.length selector, .processed w.log.length]) :
    Rolled r.roll w.log r'.roll w'.log := by
  rw [roll, log]
  exact .built selector fresh

theorem rolled_process {p : Payload} {w : Watched W} {registry : Registry W I}
    (watched : r.registry = registry.watched) (settled : r.Settled)
    (names : (r.roll.map Prod.fst).Nodup) :
    Rolled r.roll w.log (r.process p w).2.1.roll (r.process p w).2.2.log := by
  have turn := turn_process p w settled
  generalize r.process p w = result at turn ⊢
  cases turn with
  | choice _ _ choice =>
      cases choice with
      | offered _ _ => exact .stay
      | refused _ _ _ _ => exact .stay
      | resumed i _ held => exact rolled_used held (roll_enter names held) rfl
      | started i w' _ absent built =>
          rw [watched, Registry.watched_build] at built
          have fresh := notMem_roll absent
          have held : (r.addInstance p.effectiveAction i).instance? p.effectiveAction = some i :=
            instance?_addInstance_self i absent
          have names' : ((r.addInstance p.effectiveAction i).roll.map Prod.fst).Nodup := by
            rw [roll_addInstance, List.map_append]
            exact names.append (List.nodup_singleton _)
              (List.disjoint_singleton.mpr fresh)
          -- The new instance is numbered by the log, and greeted at once.
          cases begun : registry.build p.effectiveAction r.connection w.world with
          | error failure =>
              rw [begun] at built
              cases built
          | ok _ =>
              rw [begun] at built
              cases built
              exact rolled_built fresh
                ((roll_enter names' held).trans roll_addInstance)
                (List.append_assoc w.log [_] [_])
  | left _ _ _ _ _ => exact .stay
  | reset selector i _ held _ => exact rolled_used held (roll_setInstance names held rfl) rfl
  | asked selector i _ held _ _ => exact rolled_used held (roll_setInstance names held rfl) rfl

theorem log_close (r : Router (Watched W) (Tagged I)) (w : Watched W) :
    (r.close w).2.log = w.log ++ r.roll.map fun entry => .closed entry.2 := by
  simp only [close, roll, List.map_map]
  induction r.instances generalizing w with
  | nil => exact (List.append_nil w.log).symm
  | cons entry rest ih =>
      rw [List.foldl_cons, ih, List.map_cons]
      exact List.append_assoc w.log [_] _

end Router

/-- What the log tells of one instance. -/
def lifeOf (n : Nat) (log : List LifeEvent) : List LifeEvent :=
  log.filter fun e => e.number == n

theorem lifeOf_append (n : Nat) (log later : List LifeEvent) :
    lifeOf n (log ++ later) = lifeOf n log ++ lifeOf n later :=
  List.filter_append log later

theorem lifeOf_eq_nil {n : Nat} (log : List LifeEvent) (other : ∀ e ∈ log, e.number ≠ n) :
    lifeOf n log = [] := by
  rw [lifeOf, List.filter_eq_nil_iff]
  intro e mem same
  exact other e mem (beq_iff_eq.mp same)

theorem lifeOf_closed {roll : List (String × Nat)} {n : Nat} (numbers : (roll.map Prod.snd).Nodup)
    (mem : n ∈ roll.map Prod.snd) :
    lifeOf n (roll.map fun entry => .closed entry.2) = [.closed n] := by
  induction roll with
  | nil => cases mem
  | cons entry rest ih =>
      rw [List.map_cons, List.nodup_cons] at numbers
      rw [List.map_cons, ← List.singleton_append, lifeOf_append]
      by_cases same : entry.2 = n
      · subst same
        have later : lifeOf entry.2 (rest.map fun entry => .closed entry.2) = [] := by
          apply lifeOf_eq_nil
          intro e closed number
          obtain ⟨other, mem', rfl⟩ := List.mem_map.mp closed
          exact numbers.1 (number ▸ List.mem_map_of_mem mem')
        rw [later, List.append_nil]
        exact List.filter_cons_of_pos (beq_iff_eq.mpr rfl)
      · rw [lifeOf_eq_nil [_] (by simpa [LifeEvent.number] using same), List.nil_append]
        refine ih numbers.2 ?_
        obtain rfl | mem := List.mem_cons.mp mem
        · exact absurd rfl same
        · exact mem

/-- The life of an instance that is cached. -/
def Alive (n : Nat) (selector : String) (life : List LifeEvent) : Prop :=
  ∃ asked, life = .built n selector :: List.replicate asked (.processed n)

/-- The life of an instance that was closed. -/
def Ended (n : Nat) (selector : String) (life : List LifeEvent) : Prop :=
  ∃ asked, life = .built n selector :: (List.replicate asked (.processed n) ++ [.closed n])

/-- The roll and the log agree. -/
structure Accounted (roll : List (String × Nat)) (log : List LifeEvent) : Prop where
  names : (roll.map Prod.fst).Nodup
  numbers : (roll.map Prod.snd).Nodup
  fresh : ∀ e ∈ log, e.number < log.length
  alive : ∀ selector n, (selector, n) ∈ roll → Alive n selector (lifeOf n log)
  ended : ∀ e ∈ log, e.number ∉ roll.map Prod.snd →
    ∃ selector, Ended e.number selector (lifeOf e.number log)

namespace Accounted

variable {roll : List (String × Nat)} {log : List LifeEvent}

theorem lt_length (h : Accounted roll log) {n : Nat} (mem : n ∈ roll.map Prod.snd) :
    n < log.length := by
  obtain ⟨entry, cached, rfl⟩ := List.mem_map.mp mem
  obtain ⟨asked, life⟩ := h.alive entry.1 entry.2 cached
  have built : LifeEvent.built entry.2 entry.1 ∈ lifeOf entry.2 log := by
    rw [life]
    exact List.mem_cons_self
  exact h.fresh _ (List.mem_filter.mp built).1

theorem lifeOf_length (h : Accounted roll log) : lifeOf log.length log = [] := by
  apply lifeOf_eq_nil
  intro e mem same
  exact absurd (h.fresh e mem) (same ▸ Nat.lt_irrefl _)

theorem used (h : Accounted roll log) {selector : String} {n : Nat} (mem : (selector, n) ∈ roll) :
    Accounted roll (log ++ [.processed n]) := by
  have cached : n ∈ roll.map Prod.snd := List.mem_map_of_mem mem
  have lifeOf_other {m : Nat} (other : n ≠ m) : lifeOf m (log ++ [.processed n]) = lifeOf m log := by
    rw [lifeOf_append, lifeOf_eq_nil [_] (by simpa [LifeEvent.number] using other),
      List.append_nil]
  refine ⟨h.names, h.numbers, ?_, ?_, ?_⟩
  · intro e mem'
    rw [List.length_append]
    obtain mem' | mem' := List.mem_append.mp mem'
    · exact Nat.lt_add_right 1 (h.fresh e mem')
    · obtain rfl := List.mem_singleton.mp mem'
      exact Nat.lt_add_right 1 (h.lt_length cached)
  · intro other m mem'
    obtain ⟨asked, life⟩ := h.alive other m mem'
    by_cases same : n = m
    · subst same
      refine ⟨asked + 1, ?_⟩
      rw [lifeOf_append, life, List.replicate_succ']
      simp [lifeOf, LifeEvent.number]
    · exact ⟨asked, (lifeOf_other same).trans life⟩
  · intro e mem' gone
    have other : n ≠ e.number := fun same => gone (same ▸ cached)
    rw [lifeOf_other other]
    obtain mem' | mem' := List.mem_append.mp mem'
    · exact h.ended e mem' gone
    · obtain rfl := List.mem_singleton.mp mem'
      exact absurd rfl other

theorem built (h : Accounted roll log) {selector : String} (new : selector ∉ roll.map Prod.fst) :
    Accounted (roll ++ [(selector, log.length)])
      (log ++ [.built log.length selector, .processed log.length]) := by
  have lifeOf_other {m : Nat} (other : log.length ≠ m) :
      lifeOf m (log ++ [.built log.length selector, .processed log.length]) = lifeOf m log := by
    rw [lifeOf_append, lifeOf_eq_nil [_, _] (by simpa [LifeEvent.number] using other),
      List.append_nil]
  refine ⟨?_, ?_, ?_, ?_, ?_⟩
  · rw [List.map_append]
    exact h.names.append (List.nodup_singleton _) (List.disjoint_singleton.mpr new)
  · rw [List.map_append]
    refine h.numbers.append (List.nodup_singleton _) (List.disjoint_singleton.mpr ?_)
    exact fun mem => absurd (h.lt_length mem) (Nat.lt_irrefl _)
  · intro e mem
    rw [List.length_append]
    obtain mem | mem := List.mem_append.mp mem
    · exact Nat.lt_add_right 2 (h.fresh e mem)
    · have number : e.number = log.length := by
        simp only [List.mem_cons, List.not_mem_nil, or_false] at mem
        obtain rfl | rfl := mem <;> rfl
      rw [number]
      exact Nat.lt_add_of_pos_right (Nat.zero_lt_succ 1)
  · intro other m mem
    obtain mem | mem := List.mem_append.mp mem
    · have lt := h.lt_length (List.mem_map_of_mem mem)
      rw [lifeOf_other (Nat.ne_of_gt lt)]
      exact h.alive other m mem
    · obtain ⟨rfl, rfl⟩ := Prod.mk.inj (List.mem_singleton.mp mem)
      refine ⟨1, ?_⟩
      rw [lifeOf_append, h.lifeOf_length]
      simp [lifeOf, LifeEvent.number]
  · intro e mem gone
    rw [List.map_append, List.mem_append, not_or] at gone
    have other : log.length ≠ e.number := fun same => gone.2 (List.mem_singleton.mpr same.symm)
    rw [lifeOf_other other]
    obtain mem | mem := List.mem_append.mp mem
    · exact h.ended e mem gone.1
    · simp only [List.mem_cons, List.not_mem_nil, or_false] at mem
      obtain rfl | rfl := mem <;> exact absurd rfl other

theorem closed (h : Accounted roll log) :
    Accounted [] (log ++ roll.map fun entry => .closed entry.2) := by
  have lifeOf_other {n : Nat} (other : n ∉ roll.map Prod.snd) :
      lifeOf n (log ++ roll.map fun entry => .closed entry.2) = lifeOf n log := by
    rw [lifeOf_append, lifeOf_eq_nil (roll.map _), List.append_nil]
    intro e mem same
    obtain ⟨entry, cached, rfl⟩ := List.mem_map.mp mem
    exact other (same ▸ List.mem_map_of_mem cached)
  have known {e : LifeEvent} (mem : e ∈ log ++ roll.map fun entry => .closed entry.2) :
      e ∈ log ∨ e.number ∈ roll.map Prod.snd := by
    obtain mem | mem := List.mem_append.mp mem
    · exact .inl mem
    · obtain ⟨entry, cached, rfl⟩ := List.mem_map.mp mem
      exact .inr (List.mem_map_of_mem cached)
  refine ⟨List.nodup_nil, List.nodup_nil, ?_, ?_, ?_⟩
  · intro e mem
    rw [List.length_append]
    obtain mem | mem := known mem
    · exact Nat.lt_add_right _ (h.fresh e mem)
    · exact Nat.lt_add_right _ (h.lt_length mem)
  · intro _ _ mem
    cases mem
  · intro e mem _
    -- What was cached ends here; whatever else the log knows had ended before.
    by_cases cached : e.number ∈ roll.map Prod.snd
    · obtain ⟨entry, mem', number⟩ := List.mem_map.mp cached
      obtain ⟨asked, life⟩ := h.alive entry.1 entry.2 mem'
      rw [number] at life
      refine ⟨entry.1, asked, ?_⟩
      rw [lifeOf_append, life, lifeOf_closed h.numbers cached, List.cons_append]
    · rw [lifeOf_other cached]
      exact h.ended e ((known mem).resolve_right cached) cached

theorem rolled {roll' : List (String × Nat)} {log' : List LifeEvent} (h : Accounted roll log)
    (step : Rolled roll log roll' log') : Accounted roll' log' := by
  cases step with
  | stay => exact h
  | used _ _ mem => exact h.used mem
  | built _ new => exact h.built new

theorem built_mem (h : Accounted roll log) {e : LifeEvent} (mem : e ∈ log) :
    ∃ selector, .built e.number selector ∈ log := by
  have head {selector : String} {rest : List LifeEvent}
      (life : lifeOf e.number log = .built e.number selector :: rest) :
      .built e.number selector ∈ log := by
    have first : LifeEvent.built e.number selector ∈ lifeOf e.number log := by
      rw [life]
      exact List.mem_cons_self
    exact (List.mem_filter.mp first).1
  by_cases cached : e.number ∈ roll.map Prod.snd
  · obtain ⟨entry, mem', number⟩ := List.mem_map.mp cached
    obtain ⟨asked, life⟩ := h.alive entry.1 entry.2 mem'
    rw [number] at life
    exact ⟨entry.1, head life⟩
  · obtain ⟨selector, asked, life⟩ := h.ended e mem cached
    exact ⟨selector, head life⟩

theorem ended_of_built (h : Accounted roll log) {n : Nat} {selector : String}
    (built : .built n selector ∈ log) (gone : n ∉ roll.map Prod.snd) :
    Ended n selector (lifeOf n log) := by
  obtain ⟨other, asked, life⟩ := h.ended _ built gone
  change lifeOf n log = _ at life
  have mem : LifeEvent.built n selector ∈ lifeOf n log :=
    List.mem_filter.mpr ⟨built, beq_iff_eq.mpr rfl⟩
  rw [life] at mem
  obtain rfl : selector = other := by simpa [LifeEvent.number] using mem
  exact ⟨asked, life⟩

/-- The cached instances are those that were built and not closed. -/
theorem mem_roll_iff (h : Accounted roll log) (selector : String) (n : Nat) :
    (selector, n) ∈ roll ↔ .built n selector ∈ log ∧ .closed n ∉ log := by
  have mem_lifeOf {e : LifeEvent} (number : e.number = n) : e ∈ log ↔ e ∈ lifeOf n log := by
    rw [lifeOf, List.mem_filter, beq_iff_eq, number]
    exact (and_iff_left rfl).symm
  rw [mem_lifeOf rfl, mem_lifeOf rfl]
  constructor
  · intro mem
    obtain ⟨asked, life⟩ := h.alive selector n mem
    rw [life]
    simp
  · rintro ⟨built, living⟩
    by_cases cached : n ∈ roll.map Prod.snd
    · obtain ⟨entry, mem, rfl⟩ := List.mem_map.mp cached
      obtain ⟨asked, life⟩ := h.alive entry.1 entry.2 mem
      rw [life] at built
      obtain rfl : selector = entry.1 := by simpa using built
      exact mem
    · obtain ⟨asked, life⟩ := h.ended_of_built ((mem_lifeOf rfl).mpr built) cached
      refine absurd ?_ living
      rw [life]
      simp

end Accounted

end Switchboard
