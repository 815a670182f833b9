import Lox.Proofs.Alike
import Lox.Proofs.Definedness

set_option autoImplicit false

namespace Lox

namespace Heap

def Nearest (heap : Heap) (name : String) (scope holder : ScopeId) : Prop :=
  ∃ inner outer, Chain (fun id => (heap.scope id).enclosing) scope (inner ++ holder :: outer) ∧
    (heap.scope holder).vars.contains name ∧
    ∀ id ∈ inner, ¬ (heap.scope id).vars.contains name

structure AssignedAt (heap later : Heap) (holder : ScopeId) (name : String) (value : Value) :
    Prop where
  closures : later.closures = heap.closures
  classes : later.classes = heap.classes
  instances : later.instances = heap.instances
  scopes : later.scopes.size = heap.scopes.size
  enclosing : ∀ id, (later.scope id).enclosing = (heap.scope id).enclosing
  keys : ∀ id, (later.scope id).vars.keys = (heap.scope id).vars.keys
  vars : ∀ id query, (later.scope id).vars.get? query =
    if id = holder ∧ query = name then some value else (heap.scope id).vars.get? query

variable {heap later : Heap} {name : String}

namespace WellFormed

theorem holder?_eq_find? (formed : heap.WellFormed) (name : String) {id : ScopeId}
    {chain : List ScopeId} (links : Chain (fun id => (heap.scope id).enclosing) id chain) :
    heap.holder? id name = chain.find? fun scope => (heap.scope scope).vars.contains name := by
  induction links with
  | @last id ends =>
      rw [holder?_eq, formed.enclosing?_eq, ends]
      by_cases present : (heap.scope id).vars.contains name <;> simp [present]
  | @link id outer rest link _ ih =>
      rw [holder?_eq, formed.enclosing?_eq, link]
      by_cases present : (heap.scope id).vars.contains name <;> simp [present, ih]

theorem holder?_eq_some_iff (formed : heap.WellFormed) {id holder : ScopeId} :
    heap.holder? id name = some holder <-> heap.Nearest name id holder := by
  constructor
  · intro found
    obtain ⟨chain, links⟩ := Chain.exists_of_rank formed.enclosing id
    rw [formed.holder?_eq_find? name links, List.find?_eq_some_iff_append] at found
    obtain ⟨present, inner, outer, rfl, hidden⟩ := found
    exact ⟨inner, outer, links, present, by simpa using hidden⟩
  · rintro ⟨inner, outer, links, present, absent⟩
    rw [formed.holder?_eq_find? name links, List.find?_eq_some_iff_append]
    exact ⟨present, inner, outer, rfl, by simpa using absent⟩

theorem holder?_has (formed : heap.WellFormed) {id holder : ScopeId}
    (has : heap.Has (.scope id)) (found : heap.holder? id name = some holder) :
    heap.Has (.scope holder) :=
  formed.closed.holder? has found

end WellFormed

theorem Frozen.holder? (frozen : heap.Frozen later) (formed : heap.WellFormed)
    (names : ∀ id, heap.Has (.scope id) ->
      (later.scope id).vars.contains name = (heap.scope id).vars.contains name)
    {id : ScopeId} (has : heap.Has (.scope id)) :
    later.holder? id name = heap.holder? id name := by
  have link (id : ScopeId) (has : heap.Has (.scope id)) :
      later.enclosing? id = heap.enclosing? id := by
    rw [enclosing?, frozen.enclosing id has, enclosing?]
  fun_induction Heap.holder? heap id name with
  | case1 id present => rw [holder?_eq, names id has, if_pos present]
  | case2 id absent parent outward ih =>
      have parentHas : heap.Has (.scope parent) := by
        rw [formed.enclosing?_eq] at outward
        exact formed.linked (.scope id) _ has (.inl ⟨parent, outward, rfl⟩)
      rw [holder?_eq, names id has, if_neg absent, link id has, outward]
      exact ih parentHas
  | case3 id absent ends =>
      rw [holder?_eq, names id has, if_neg absent, link id has, ends]
      rfl

theorem assignedAt_define {holder : ScopeId} (has : heap.Has (.scope holder))
    (present : (heap.scope holder).vars.contains name) (value : Value) :
    heap.AssignedAt (heap.define holder name value) holder name value where
  closures := rfl
  classes := rfl
  instances := rfl
  scopes := by simp [define]
  enclosing id := by
    rw [scope_define]
    split
    · next hit => rw [hit.1]
    · rfl
  keys id := by
    rw [scope_define]
    split
    · next hit =>
        rw [Bindings.keys_insert, if_pos ((Bindings.mem_keys_iff _ _).mpr present), hit.1]
    · rfl
  vars id query := by
    have within : holder.index < heap.scopes.size := has
    rw [scope_define]
    by_cases same : id = holder <;> simp [same, within]

theorem AssignedAt.contains {holder : ScopeId} {value : Value}
    (assigned : heap.AssignedAt later holder name value) (id : ScopeId) (query : String) :
    (later.scope id).vars.contains query = (heap.scope id).vars.contains query := by
  rw [Bool.eq_iff_iff, ← Bindings.mem_keys_iff, ← Bindings.mem_keys_iff, assigned.keys]

theorem AssignedAt.lookup {holder : ScopeId} {value : Value}
    (assigned : heap.AssignedAt later holder name value) (frozen : heap.Frozen later)
    (formed : heap.WellFormed) {id : ScopeId} (has : heap.Has (.scope id)) (query : String) :
    later.lookup id query =
      if query = name ∧ heap.holder? id name = some holder then some value
      else heap.lookup id query := by
  have held : later.holder? id query = heap.holder? id query :=
    frozen.holder? formed (fun other _ => assigned.contains other query) has
  unfold Heap.lookup
  rw [held]
  by_cases same : query = name
  · subst same
    cases heap.holder? id query with
    | none => simp
    | some nearest => simp [assigned.vars]
  · cases heap.holder? id query with
    | none => simp [same]
    | some nearest => simp [assigned.vars, same]

end Heap

namespace ScopeId

theorem lookup_result (scope : ScopeId) (name : String) (line : Nat) (state : State) :
    (scope.lookup name line state).1 =
      match state.heap.lookup scope name with
      | some value => .done value
      | none => .failed (.undefinedVariable name line) := by
  rw [ScopeId.lookup_apply]
  cases state.heap.lookup scope name with
  | some value => rfl
  | none => rfl

theorem assign_apply (scope : ScopeId) (name : String) (value : Value) (line : Nat)
    (state : State) :
    scope.assign name value line state =
      match state.heap.holder? scope name with
      | some holder =>
          (.done (), { state with
            heap := state.heap.define holder name value
            journal := state.journal.push (.assign holder name value) })
      | none => Exec.raise (.undefinedVariable name line) state := by
  rw [ScopeId.assign, Exec.read_bind]
  cases state.heap.holder? scope name with
  | some holder => rfl
  | none => rfl

end ScopeId

/--
A lookup sees an assignment exactly if the scope that it wrote to is the nearest with the
name from there too. Nothing but that variable changes.
-/
theorem assignment_exact (state : State) (reachable : state.heap.Reachable) (scope : ScopeId)
    (has : state.heap.Has (.scope scope)) (name : String) (value : Value) (line : Nat) :
    (∀ holder, state.heap.Nearest name scope holder ->
      ∃ held, (state.heap.scope holder).vars.get? name = some held ∧
        scope.lookup name line state = (.done held, state)) ∧
    ((∀ holder, ¬ state.heap.Nearest name scope holder) ->
      (scope.lookup name line state).1 = .failed (.undefinedVariable name line) ∧
      (scope.assign name value line state).1 = .failed (.undefinedVariable name line) ∧
      (scope.assign name value line state).2.heap = state.heap) ∧
    ((scope.assign name value line state).1 = .done () <->
      ∃ held, (scope.lookup name line state).1 = .done held) ∧
    ∀ after, scope.assign name value line state = (.done (), after) ->
      ∃ holder, state.heap.Nearest name scope holder ∧
        state.heap.AssignedAt after.heap holder name value ∧
        ∀ other query place, state.heap.Has (.scope other) ->
          (query = name ∧ state.heap.Nearest name other holder ->
            (other.lookup query place after).1 = .done value) ∧
          (¬ (query = name ∧ state.heap.Nearest name other holder) ->
            (other.lookup query place after).1 = (other.lookup query place state).1) := by
  have formed := reachable.wellFormed
  refine ⟨?_, ?_, ?_, ?_⟩
  · intro holder nearest
    have found := formed.holder?_eq_some_iff.mpr nearest
    obtain ⟨held, stored⟩ := Option.isSome_iff_exists.mp (Heap.holder?_contains found)
    refine ⟨held, stored, ?_⟩
    rw [ScopeId.lookup_apply, Heap.lookup, found]
    dsimp only
    rw [stored]
  · intro absent
    have missing : state.heap.holder? scope name = none := by
      refine Option.eq_none_iff_forall_ne_some.mpr fun holder found => ?_
      exact absent holder (formed.holder?_eq_some_iff.mp found)
    rw [ScopeId.lookup_result, ScopeId.assign_apply, Heap.lookup, missing]
    exact ⟨rfl, rfl, rfl⟩
  · rw [ScopeId.lookup_succeeds_iff, ScopeId.assign_apply]
    cases state.heap.holder? scope name with
    | none => simp [Exec.raise, Exec.logAll_bind, Exec.fail]
    | some holder => simp
  · intro after ended
    rw [ScopeId.assign_apply] at ended
    cases found : state.heap.holder? scope name with
    | none =>
        rw [found] at ended
        cases ended
    | some holder =>
        rw [found] at ended
        cases ended
        have assigned : state.heap.AssignedAt (state.heap.define holder name value) holder name
            value :=
          Heap.assignedAt_define (formed.holder?_has has found) (Heap.holder?_contains found) value
        have frozen := Heap.Frozen.apply state.heap (.assign holder name value)
        refine ⟨holder, formed.holder?_eq_some_iff.mp found, assigned, ?_⟩
        intro other query place otherHas
        rw [← formed.holder?_eq_some_iff, ScopeId.lookup_result, ScopeId.lookup_result,
          assigned.lookup frozen formed otherHas]
        constructor
        · intro seen
          rw [if_pos seen]
        · intro unseen
          rw [if_neg unseen]

-- A variable that one scope sees and another hides behind its own.
def sharingSession : Session :=
  Session.start.after [
    { operation := .define globalsName "x" (.text "old") },
    { operation := .newScope (some globalsName), storeAs := some "s" },
    { operation := .newScope (some globalsName), storeAs := some "t" },
    { operation := .define "t" "x" (.text "own") },
    { operation := .newScope (some "t") }]

theorem assignment_exact_shadowed :
    let state : State := { heap := sharingSession.heap }
    let assigned := ScopeId.assign ⟨1⟩ "x" (.text "new") 5 state
    assigned.1 = .done () ∧
      (ScopeId.lookup ⟨0⟩ "x" 6 assigned.2).1 = .done (.text "new") ∧
      (ScopeId.lookup ⟨3⟩ "x" 6 assigned.2).1 = .done (.text "own") ∧
      (ScopeId.lookup ⟨3⟩ "y" 6 assigned.2).1 = .failed (.undefinedVariable "y" 6) := by
  intro state assigned
  have reachable : state.heap.Reachable := Session.reachable_after _
  have nearest {scope holder : ScopeId} :
      state.heap.holder? scope "x" = some holder <-> state.heap.Nearest "x" scope holder :=
    reachable.wellFormed.holder?_eq_some_iff
  have done : assigned.1 = .done () := by decide +kernel
  obtain ⟨_, _, _, exactly⟩ :=
    assignment_exact state reachable ⟨1⟩ (by decide +kernel) "x" (.text "new") 5
  obtain ⟨holder, isNearest, _, lookups⟩ := exactly assigned.2 (Prod.ext done rfl)
  have global : holder = ⟨0⟩ := by
    have found := nearest.mpr isNearest
    have first : state.heap.holder? ⟨1⟩ "x" = some ⟨0⟩ := by decide +kernel
    exact (Option.some.inj (first.symm.trans found)).symm
  subst global
  have hidden : ¬ state.heap.Nearest "x" ⟨3⟩ ⟨0⟩ := by
    rw [← nearest]
    decide +kernel
  refine ⟨done, ?_, ?_, ?_⟩
  · exact (lookups ⟨0⟩ "x" 6 (by decide +kernel)).1 ⟨rfl, nearest.mp (by decide +kernel)⟩
  · rw [(lookups ⟨3⟩ "x" 6 (by decide +kernel)).2 fun seen => hidden seen.2]
    decide +kernel
  · rw [(lookups ⟨3⟩ "y" 6 (by decide +kernel)).2 (by simp)]
    decide +kernel

end Lox
