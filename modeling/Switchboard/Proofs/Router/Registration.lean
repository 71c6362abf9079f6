import Mathlib.Data.Finset.Card
import Switchboard.Router.Protocol

/-!
Registering protocols one after the other. Each selector stands once, where it was registered first, and builds
what was registered under it last.
-/

namespace Switchboard

variable {W I : Type} {calls : List (Registration W I)} {r : Registry W I} {selector : String}

/-- The selectors of some registrations, repeated ones included. -/
def selectorsOf (calls : List (Registration W I)) : List String :=
  calls.map Registration.selector

/-- The last registration under a selector. -/
def latest? (calls : List (Registration W I)) (selector : String) : Option (Registration W I) :=
  calls.reverse.find? fun call => call.selector == selector

theorem selectorsOf_cons (call : Registration W I) (calls : List (Registration W I)) :
    selectorsOf (call :: calls) = call.selector :: selectorsOf calls :=
  List.map_cons

theorem selectorsOf_concat (calls : List (Registration W I)) (call : Registration W I) :
    selectorsOf (calls ++ [call]) = selectorsOf calls ++ [call.selector] :=
  List.map_append

theorem latest?_concat (calls : List (Registration W I)) (call : Registration W I) (selector : String) :
    latest? (calls ++ [call]) selector =
      if call.selector = selector then some call else latest? calls selector := by
  rw [latest?, List.reverse_concat, List.find?_cons, latest?]
  by_cases same : call.selector = selector
  · rw [if_pos same, beq_iff_eq.mpr same]
  · rw [if_neg same, beq_eq_false_iff_ne.mpr same]

theorem latest?_eq_none_iff : latest? calls selector = none ↔ selector ∉ selectorsOf calls := by
  rw [latest?, List.find?_eq_none, selectorsOf, List.mem_map]
  constructor
  · rintro none ⟨call, member, same⟩
    exact none call (List.mem_reverse.mpr member) (beq_iff_eq.mpr same)
  · intro none call member same
    exact none ⟨call, List.mem_reverse.mp member, beq_iff_eq.mp same⟩

namespace Registry

/-- The registry that some registrations lead to, one after the other. -/
def ofCalls (calls : List (Registration W I)) : Registry W I :=
  calls.foldl (fun r call => r.register call.selector call.build) {}

theorem ofCalls_concat (calls : List (Registration W I)) (call : Registration W I) :
    ofCalls (calls ++ [call]) = (ofCalls calls).register call.selector call.build :=
  List.foldl_concat ..

/-- A registration adds its selector at the end, unless it is there. -/
theorem selectorsOf_place (entry : Registration W I) (entries : List (Registration W I)) :
    selectorsOf (place entry entries) =
      if entry.selector ∈ selectorsOf entries then selectorsOf entries
      else selectorsOf entries ++ [entry.selector] := by
  induction entries with
  | nil => rfl
  | cons other rest ih =>
      rw [place]
      by_cases same : other.selector = entry.selector
      · have here : entry.selector ∈ selectorsOf (other :: rest) := by
          rw [selectorsOf_cons, same]
          exact List.mem_cons_self
        rw [if_pos (beq_iff_eq.mpr same), if_pos here, selectorsOf_cons, selectorsOf_cons, same]
      · have here : entry.selector ∈ selectorsOf (other :: rest) ↔ entry.selector ∈ selectorsOf rest := by
          rw [selectorsOf_cons, List.mem_cons, or_iff_right (Ne.symm same)]
        rw [if_neg (by simpa using same), selectorsOf_cons, ih, if_congr here rfl rfl, selectorsOf_cons]
        split <;> rfl

/-- Under the selector of a registration it is found itself, and under another what was found before. -/
theorem find?_place (entry : Registration W I) (entries : List (Registration W I)) (selector : String) :
    ((place entry entries).find? fun other => other.selector == selector) =
      if entry.selector = selector then some entry
      else entries.find? fun other => other.selector == selector := by
  induction entries with
  | nil =>
      rw [place, List.find?_cons, List.find?_nil]
      by_cases same : entry.selector = selector
      · rw [if_pos same, beq_iff_eq.mpr same]
      · rw [if_neg same, beq_eq_false_iff_ne.mpr same]
  | cons other rest ih =>
      rw [place]
      by_cases here : other.selector = entry.selector
      · rw [if_pos (beq_iff_eq.mpr here), List.find?_cons, List.find?_cons, here]
        by_cases same : entry.selector = selector
        · rw [if_pos same, beq_iff_eq.mpr same]
        · rw [if_neg same, beq_eq_false_iff_ne.mpr same]
      · rw [if_neg (by simpa using here), List.find?_cons, ih, List.find?_cons]
        by_cases there : other.selector = selector
        · have apart : ¬entry.selector = selector := fun same => here (there.trans same.symm)
          rw [if_neg apart, if_neg apart]
        · rw [beq_eq_false_iff_ne.mpr there]

theorem contains_iff : r.contains selector = true ↔ selector ∈ r.selectors := by
  rw [contains, List.any_eq_true, selectors, List.mem_map]
  simp only [beq_iff_eq]

end Registry

/-- One name comes before another in a list where either may be repeated. -/
def ComesFirst (names : List String) (s t : String) : Prop :=
  names.idxOf s < names.idxOf t

/-- What a registry holds after some registrations. -/
structure Gathered (calls : List (Registration W I)) (r : Registry W I) : Prop where
  ordered : r.selectors.Pairwise (ComesFirst (selectorsOf calls))
  registered : ∀ selector, selector ∈ r.selectors ↔ selector ∈ selectorsOf calls
  found : ∀ selector, (r.entries.find? fun entry => entry.selector == selector) = latest? calls selector

namespace Gathered

theorem empty : Gathered ([] : List (Registration W I)) {} where
  ordered := .nil
  registered _ := .rfl
  found _ := rfl

/-- The first places of what was registered stay where they are. -/
theorem idxOf_concat {s : String} (h : Gathered calls r) (member : s ∈ r.selectors) (name : String) :
    (selectorsOf calls ++ [name]).idxOf s = (selectorsOf calls).idxOf s :=
  List.idxOf_append_of_mem ((h.registered s).mp member)

theorem register (h : Gathered calls r) (call : Registration W I) :
    Gathered (calls ++ [call]) (r.register call.selector call.build) := by
  have after : (r.register call.selector call.build).selectors =
      if call.selector ∈ r.selectors then r.selectors else r.selectors ++ [call.selector] :=
    Registry.selectorsOf_place call r.entries
  have earlier : r.selectors.Pairwise (ComesFirst (selectorsOf (calls ++ [call]))) := by
    refine h.ordered.imp_of_mem fun {s t} first second before => ?_
    rw [ComesFirst, selectorsOf_concat, h.idxOf_concat first, h.idxOf_concat second]
    exact before
  refine ⟨?_, fun selector => ?_, fun selector => ?_⟩
  · rw [after]
    split
    case isTrue _ => exact earlier
    case isFalse new =>
      rw [h.registered] at new
      refine List.pairwise_append.mpr ⟨earlier, List.pairwise_singleton .., fun s old t last => ?_⟩
      rw [List.mem_singleton.mp last, ComesFirst, selectorsOf_concat, h.idxOf_concat old,
        List.idxOf_append_of_notMem new, List.idxOf_cons_self]
      exact List.idxOf_lt_length_of_mem ((h.registered s).mp old)
  · rw [after, selectorsOf_concat, List.mem_append, List.mem_singleton, ← h.registered]
    split
    case isTrue there => exact (or_iff_left_of_imp fun same => same ▸ there).symm
    case isFalse _ => rw [List.mem_append, List.mem_singleton]
  · rw [latest?_concat, ← h.found]
    exact Registry.find?_place call r.entries selector

theorem ofCalls (calls : List (Registration W I)) : Gathered calls (.ofCalls calls) := by
  induction calls using List.reverseRecOn with
  | nil => exact .empty
  | append_singleton calls call ih =>
      rw [Registry.ofCalls_concat]
      exact ih.register call

theorem nodup (h : Gathered calls r) : r.selectors.Nodup :=
  h.ordered.imp fun before same => Nat.ne_of_lt before (congrArg (selectorsOf calls).idxOf same)

theorem build_eq (h : Gathered calls r) (selector connection : String) (w : W) :
    r.build selector connection w =
      match latest? calls selector with
      | some call => call.build connection w
      | none => .error (.unknownSelector selector) := by
  have found := h.found selector
  cases last : latest? calls selector with
  | none => simp only [Registry.build, found, last]
  | some call => simp only [Registry.build, found, last]

end Gathered

/-- What a registry shows after some registrations, in which selectors may be repeated. -/
structure RegistrationLaw (calls : List (Registration W I)) (r : Registry W I) : Prop where
  distinct : r.selectors.Nodup
  /-- The selectors stand in the order in which they were registered first. -/
  ordered : r.selectors.Pairwise (ComesFirst (selectorsOf calls))
  registered : ∀ selector, selector ∈ r.selectors ↔ selector ∈ selectorsOf calls
  size : r.size = r.selectors.length ∧ r.size = (selectorsOf calls).toFinset.card
  contains : ∀ selector, r.contains selector = true ↔ selector ∈ selectorsOf calls
  /-- A registered selector builds what was registered under it last, whatever comes of it. -/
  build : ∀ selector ∈ selectorsOf calls, ∃ call, latest? calls selector = some call ∧
    ∀ connection w, r.build selector connection w = call.build connection w
  /-- The registry calls a selector unknown just when it was not registered; otherwise that is the word of what
  was registered last. -/
  unknown : ∀ selector name connection w, r.build selector connection w = .error (.unknownSelector name) ↔
    selector ∉ selectorsOf calls ∧ name = selector ∨
      ∃ call, latest? calls selector = some call ∧ call.build connection w = .error (.unknownSelector name)
  menu : r.menu = r.selectors.filter (· != Action.reset) ++ [Action.reset] ∧ r.menu.count Action.reset = 1

theorem registration_law (calls : List (Registration W I)) : RegistrationLaw calls (.ofCalls calls) := by
  have h := Gathered.ofCalls calls
  generalize Registry.ofCalls calls = r at h
  have size : r.size = r.selectors.length := (List.length_map ..).symm
  refine ⟨h.nodup, h.ordered, h.registered, ⟨size, ?_⟩, ?_, ?_, ?_, rfl, count_reset_menu _⟩
  · have same : r.selectors.toFinset = (selectorsOf calls).toFinset :=
      List.toFinset.ext h.registered
    rw [size, ← same, List.toFinset_card_of_nodup h.nodup]
  · intro selector
    rw [Registry.contains_iff, h.registered]
  · intro selector there
    obtain ⟨call, last⟩ := Option.ne_none_iff_exists'.mp fun none => latest?_eq_none_iff.mp none there
    exact ⟨call, last, fun connection w => by rw [h.build_eq, last]⟩
  · intro selector name connection w
    rw [h.build_eq, ← latest?_eq_none_iff]
    cases latest? calls selector with
    | none => simp [eq_comm]
    | some call => simp

/-- A selector that is registered again keeps its place. -/
example (build other again : String → W → Except Failure (I × W)) :
    (Registry.ofCalls [⟨"Lamps", build⟩, ⟨"Jokes", other⟩, ⟨"Lamps", again⟩]).menu =
      ["Lamps", "Jokes", "Reset"] :=
  rfl

end Switchboard
