import Switchboard.Proofs.Router.Turns

/-!
Watching what becomes of instances. Every instance that a registry builds gets the next free number, and
a log beside the world tells when it is built, asked and closed. Neither protocols nor routers see the
numbers and the log, so a router on watched protocols does what the router itself does.
-/

namespace Switchboard

variable {W I : Type}

inductive LifeEvent
  | built (number : Nat) (selector : String)
  | processed (number : Nat)
  | closed (number : Nat)
  deriving DecidableEq, Repr

def LifeEvent.number : LifeEvent → Nat
  | built n _ => n
  | processed n => n
  | closed n => n

structure Watched (W : Type) where
  world : W
  log : List LifeEvent := []

structure Tagged (I : Type) where
  number : Nat
  inner : I

instance [Protocol W I] : Protocol (Watched W) (Tagged I) where
  key i := Protocol.key W i.inner
  process i p w :=
    let (reply, inner, world) := Protocol.process i.inner p w.world
    (reply, { i with inner }, { world, log := w.log ++ [.processed i.number] })
  close i w := { world := Protocol.close i.inner w.world, log := w.log ++ [.closed i.number] }

/-- Numbers every instance by the length of the log, which no instance has yet. -/
def Registration.watched (entry : Registration W I) : Registration (Watched W) (Tagged I) where
  selector := entry.selector
  build connection w :=
    (entry.build connection w.world).map fun (inner, world) =>
      ({ number := w.log.length, inner },
        { world, log := w.log ++ [.built w.log.length entry.selector] })

namespace Registry

def watched (r : Registry W I) : Registry (Watched W) (Tagged I) :=
  ⟨r.entries.map Registration.watched⟩

theorem watched_selectors (r : Registry W I) : r.watched.selectors = r.selectors := by
  rw [selectors, selectors, watched, List.map_map]
  rfl

theorem watched_menu (r : Registry W I) : r.watched.menu = r.menu := by
  rw [menu, menu, watched_selectors]

theorem watched_contains (r : Registry W I) (selector : String) :
    r.watched.contains selector = r.contains selector := by
  rw [contains, contains, watched, List.any_map]
  rfl

theorem watched_build (r : Registry W I) (selector connection : String) (w : Watched W) :
    r.watched.build selector connection w =
      (r.build selector connection w.world).map fun (inner, world) =>
        ({ number := w.log.length, inner },
          { world, log := w.log ++ [.built w.log.length selector] }) := by
  have names : (fun entry : Registration (Watched W) (Tagged I) => entry.selector == selector) ∘
      Registration.watched = fun entry : Registration W I => entry.selector == selector := rfl
  rw [build, build, watched, List.find?_map, names]
  cases found : r.entries.find? fun entry => entry.selector == selector with
  | none => rfl
  | some entry =>
      have name := List.find?_some found
      obtain rfl : entry.selector = selector := beq_iff_eq.mp name
      rfl

end Registry

namespace Router

/-- A router without the numbers of its instances. -/
def unwatched (r : Router (Watched W) (Tagged I)) (registry : Registry W I) : Router W I :=
  { registry
    connection := r.connection
    state := r.state
    instances := r.instances.map fun entry => (entry.1, entry.2.inner) }

theorem instance?_unwatched (r : Router (Watched W) (Tagged I)) (registry : Registry W I)
    (selector : String) :
    (r.unwatched registry).instance? selector = (r.instance? selector).map Tagged.inner := by
  rw [instance?, instance?, unwatched]
  induction r.instances with
  | nil => rfl
  | cons entry rest ih =>
      rw [List.map_cons, List.lookup_cons, List.lookup_cons]
      split
      · rfl
      · exact ih

theorem unwatched_setInstance (r : Router (Watched W) (Tagged I)) (registry : Registry W I)
    (selector : String) (i : Tagged I) :
    (r.setInstance selector i).unwatched registry =
      (r.unwatched registry).setInstance selector i.inner := by
  simp only [setInstance, unwatched, List.map_map]
  congr 2
  funext entry
  simp only [Function.comp]
  split <;> rfl

section

variable [Protocol W I] {registry : Registry W I}

/-- What a watched router does, without the numbers and the log. -/
def unwatchedResult (registry : Registry W I)
    (result : Payload × Router (Watched W) (Tagged I) × Watched W) : Payload × Router W I × W :=
  (result.1, result.2.1.unwatched registry, result.2.2.world)

theorem unwatched_enter (r : Router (Watched W) (Tagged I)) (selector : String) (i : Tagged I)
    (w : Watched W) :
    unwatchedResult registry (r.enter selector i w) =
      (r.unwatched registry).enter selector i.inner w.world := by
  refine Prod.ext rfl (Prod.ext ?_ rfl)
  exact congrArg (fun q : Router W I => { q with state := .delegating selector })
    (unwatched_setInstance r registry selector _)

omit [Protocol W I] in
theorem unwatched_addInstance (r : Router (Watched W) (Tagged I)) (selector : String)
    (i : Tagged I) :
    (r.addInstance selector i).unwatched registry =
      (r.unwatched registry).addInstance selector i.inner := by
  simp only [addInstance, unwatched, List.map_append, List.map_cons, List.map_nil]

omit [Protocol W I] in
theorem chooserReply_unwatched {r : Router (Watched W) (Tagged I)}
    (watched : r.registry = registry.watched) (response : String) :
    (r.unwatched registry).chooserReply response = r.chooserReply response := by
  rw [chooserReply, chooserReply, watched, Registry.watched_menu, unwatched]

theorem unwatched_select {r : Router (Watched W) (Tagged I)} (watched : r.registry = registry.watched)
    (selector : String) (w : Watched W) :
    unwatchedResult registry (r.select selector w) =
      (r.unwatched registry).select selector w.world := by
  have build := registry.watched_build selector r.connection w
  rw [← watched] at build
  have same : (r.unwatched registry).registry.build selector (r.unwatched registry).connection
      w.world = registry.build selector r.connection w.world := rfl
  rw [select, select, instance?_unwatched, build, same]
  cases r.instance? selector with
  | some i => exact unwatched_enter r selector i w
  | none =>
      cases registry.build selector r.connection w.world with
      | error failure =>
          refine Prod.ext ?_ rfl
          exact (chooserReply_unwatched watched _).symm
      | ok begun =>
          refine (unwatched_enter (r.addInstance selector _) selector _ _).trans ?_
          rw [unwatched_addInstance]
          rfl

theorem unwatched_choose {r : Router (Watched W) (Tagged I)} (watched : r.registry = registry.watched)
    (p : Payload) (w : Watched W) :
    unwatchedResult registry (r.choose p w) = (r.unwatched registry).choose p w.world := by
  have known : r.registry.contains p.effectiveAction =
      (r.unwatched registry).registry.contains p.effectiveAction := by
    rw [watched, Registry.watched_contains]
    rfl
  simp only [choose, ← known, chooserReply_unwatched watched]
  split
  · rfl
  · split
    · exact unwatched_select watched _ w
    · rfl

theorem unwatched_delegate {r : Router (Watched W) (Tagged I)}
    (watched : r.registry = registry.watched) (selector : String) (p : Payload) (w : Watched W) :
    unwatchedResult registry (r.delegate selector p w) =
      (r.unwatched registry).delegate selector p w.world := by
  simp only [delegate, instance?_unwatched, chooserReply_unwatched watched]
  cases r.instance? selector with
  | none => rfl
  | some i =>
      simp only [Option.map_some]
      split
      · rfl
      · split
        · refine Prod.ext rfl (Prod.ext ?_ rfl)
          exact congrArg (fun q : Router W I => { q with state := .choosing })
            (unwatched_setInstance r registry selector _)
        · refine Prod.ext rfl (Prod.ext ?_ rfl)
          exact unwatched_setInstance r registry selector _

theorem unwatched_process {r : Router (Watched W) (Tagged I)}
    (watched : r.registry = registry.watched) (p : Payload) (w : Watched W) :
    unwatchedResult registry (r.process p w) = (r.unwatched registry).process p w.world := by
  rw [process, process, show (r.unwatched registry).state = r.state from rfl]
  cases r.state with
  | choosing => exact unwatched_choose watched p w
  | delegating selector => exact unwatched_delegate watched selector p w

theorem unwatched_close (registry : Registry W I) (r : Router (Watched W) (Tagged I))
    (w : Watched W) :
    ((r.close w).1.unwatched registry, (r.close w).2.world) =
      (r.unwatched registry).close w.world := by
  refine Prod.ext rfl ?_
  simp only [close, unwatched, List.foldl_map]
  induction r.instances generalizing w with
  | nil => rfl
  | cons entry rest ih => exact ih (Protocol.close entry.2 w)

end

end Router

end Switchboard
