import Lox.Proofs.Assignment

set_option autoImplicit false

namespace Lox

namespace Heap

/-- A scope is inside of another if that one is on its way outwards, or is the scope itself. -/
inductive Inside (heap : Heap) : ScopeId -> ScopeId -> Prop where
  | here {scope : ScopeId} : Inside heap scope scope
  | outward {scope parent outer : ScopeId} :
      (heap.scope scope).enclosing = some parent -> Inside heap parent outer ->
        Inside heap scope outer

/-- On the way outwards from a scope there is another, and none before that one has the name. -/
inductive Unshadowed (heap : Heap) (name : String) : ScopeId -> ScopeId -> Prop where
  | here {scope : ScopeId} : Unshadowed heap name scope scope
  | outward {scope parent outer : ScopeId} :
      (heap.scope scope).enclosing = some parent ->
        ¬ (heap.scope scope).vars.contains name -> Unshadowed heap name parent outer ->
          Unshadowed heap name scope outer

variable {heap : Heap} {name : String} {scope other outer : ScopeId}

namespace Inside

theorem older (formed : heap.WellFormed) (inside : heap.Inside scope outer) :
    outer.index ≤ scope.index := by
  induction inside with
  | here => exact Nat.le_refl _
  | outward link _ ih =>
      have step := formed.enclosing _ _ link
      omega

theorem linear (first : heap.Inside scope outer) (second : heap.Inside scope other) :
    heap.Inside outer other ∨ heap.Inside other outer := by
  induction first with
  | here => exact .inl second
  | outward link inside ih =>
      cases second with
      | here => exact .inr (.outward link inside)
      | outward again onward =>
          have same := Option.some.inj (link.symm.trans again)
          subst same
          exact ih onward

theorem antisymm (formed : heap.WellFormed) (first : heap.Inside scope other)
    (second : heap.Inside other scope) : scope = other := by
  have same := Nat.le_antisymm (second.older formed) (first.older formed)
  rwa [← ScopeId.mk.injEq] at same

theorem apart (formed : heap.WellFormed) (differ : scope ≠ other)
    (beside : (heap.scope other).enclosing = (heap.scope scope).enclosing) :
    ¬ heap.Inside scope other := by
  intro inside
  cases inside with
  | here => exact differ rfl
  | @outward _ parent _ link onward =>
      -- The scope around both would have to be both older and younger than the other one.
      have above := formed.enclosing other parent (beside.trans link)
      have below := onward.older formed
      omega

end Inside

theorem Unshadowed.inside (unshadowed : heap.Unshadowed name scope outer) :
    heap.Inside scope outer := by
  induction unshadowed with
  | here => exact .here
  | outward link _ _ ih => exact .outward link ih

theorem WellFormed.unshadowed_of_holder? (formed : heap.WellFormed) {holder : ScopeId}
    (found : heap.holder? scope name = some holder) : heap.Unshadowed name scope holder := by
  fun_induction Heap.holder? heap scope name with
  | case1 id present => exact Option.some.inj found ▸ .here
  | case2 id absent parent link ih =>
      rw [formed.enclosing?_eq] at link
      exact .outward link absent (ih found)
  | case3 id absent ends => cases found

section Define

variable (value : Value)

theorem enclosing_define (heap : Heap) (scope : ScopeId) (name : String) (value : Value)
    (id : ScopeId) :
    ((heap.define scope name value).scope id).enclosing = (heap.scope id).enclosing := by
  rw [scope_define]
  split
  · next hit => rw [hit.1]
  · rfl

theorem enclosing?_define (heap : Heap) (scope : ScopeId) (name : String) (value : Value)
    (id : ScopeId) : (heap.define scope name value).enclosing? id = heap.enclosing? id := by
  rw [enclosing?, enclosing_define, enclosing?]

section Variables

variable (has : heap.Has (.scope scope))

include has

theorem var_define (name : String) (id : ScopeId) (query : String) :
    ((heap.define scope name value).scope id).vars.get? query =
      if id = scope ∧ query = name then some value else (heap.scope id).vars.get? query := by
  have within : scope.index < heap.scopes.size := has
  rw [scope_define]
  by_cases same : id = scope <;> simp [same, within]

theorem contains_define (name : String) (id : ScopeId) (query : String) :
    ((heap.define scope name value).scope id).vars.contains query <->
      id = scope ∧ query = name ∨ (heap.scope id).vars.contains query := by
  rw [Bindings.contains, var_define value has, Bindings.contains]
  by_cases hit : id = scope ∧ query = name <;> simp [hit]

variable (formed : heap.WellFormed)

include formed

theorem holder?_define_seen (seen : heap.Unshadowed name other scope) :
    (heap.define scope name value).holder? other name = some scope := by
  induction seen with
  | here => exact holder?_here ((contains_define value has ..).mpr (.inl ⟨rfl, rfl⟩))
  | @outward id parent outer link absent _ ih =>
      by_cases same : id = outer
      · subst same
        exact holder?_here ((contains_define value has ..).mpr (.inl ⟨rfl, rfl⟩))
      · have around : (heap.define outer name value).enclosing? id = some parent := by
          rw [enclosing?_define, formed.enclosing?_eq, link]
        rw [holder?_outward (by simp [contains_define value has, same, absent]) around]
        exact ih has

theorem holder?_define_unseen {query : String}
    (unseen : ¬ (query = name ∧ heap.Unshadowed name other scope)) :
    (heap.define scope name value).holder? other query = heap.holder? other query := by
  have kept (id : ScopeId) (unseen : ¬ (query = name ∧ heap.Unshadowed name id scope)) :
      ((heap.define scope name value).scope id).vars.contains query =
        (heap.scope id).vars.contains query := by
    rw [Bool.eq_iff_iff, contains_define value has, or_iff_right]
    rintro ⟨rfl, isName⟩
    exact unseen ⟨isName, .here⟩
  fun_induction Heap.holder? heap other query with
  | case1 id present => rw [holder?_eq, kept id unseen, if_pos present]
  | case2 id absent parent link ih =>
      rw [holder?_eq, kept id unseen, if_neg absent, enclosing?_define, link]
      -- What is seen from the scope around is seen from here, where the name is not hidden.
      refine ih fun seen => unseen ⟨seen.1, .outward ?_ (seen.1 ▸ absent) seen.2⟩
      rwa [formed.enclosing?_eq] at link
  | case3 id absent ends =>
      rw [holder?_eq, kept id unseen, if_neg absent, enclosing?_define, ends]
      rfl

theorem lookup_define_seen (seen : heap.Unshadowed name other scope) :
    (heap.define scope name value).lookup other name = some value := by
  simp [lookup, holder?_define_seen value has formed seen, var_define value has]

theorem lookup_define_unseen {query : String}
    (unseen : ¬ (query = name ∧ heap.Unshadowed name other scope)) :
    (heap.define scope name value).lookup other query = heap.lookup other query := by
  rw [lookup, holder?_define_unseen value has formed unseen, lookup]
  cases found : heap.holder? other query with
  | none => rfl
  | some holder =>
      have elsewhere : ¬ (holder = scope ∧ query = name) := by
        rintro ⟨rfl, rfl⟩
        exact unseen ⟨rfl, formed.unshadowed_of_holder? found⟩
      simp [var_define value has, elsewhere]

end Variables

end Define

end Heap

theorem ScopeId.define_apply {ε : Type} (scope : ScopeId) (name : String) (value : Value)
    (state : State) :
    ∃ log journal, (scope.define name value : Exec ε Unit) state =
      (.done (), { heap := state.heap.define scope name value, log, journal }) :=
  ⟨_, _, rfl⟩

/--
A definition is seen exactly from where nothing hides the name on the way out to its scope,
and nothing else changes.
-/
theorem definition_exact (state : State) (reachable : state.heap.Reachable) (scope : ScopeId)
    (has : state.heap.Has (.scope scope)) (name : String) (value : Value) :
    ∃ after, (scope.define name value : Exec Error Unit) state = (.done (), after) ∧
      (∀ other query line,
        (query = name ∧ state.heap.Unshadowed name other scope ->
          (other.lookup query line after).1 = .done value) ∧
        (¬ (query = name ∧ state.heap.Unshadowed name other scope) ->
          (other.lookup query line after).1 = (other.lookup query line state).1)) ∧
      (∀ other, other ≠ scope ->
        state.heap.Inside scope other ∨
          (state.heap.scope other).enclosing = (state.heap.scope scope).enclosing ->
        ∀ query line, (other.lookup query line after).1 = (other.lookup query line state).1) ∧
      (∀ other, other ≠ scope -> after.heap.scope other = state.heap.scope other) ∧
      (after.heap.scope scope).enclosing = (state.heap.scope scope).enclosing ∧
      (∀ query, (after.heap.scope scope).vars.get? query =
        if query = name then some value else (state.heap.scope scope).vars.get? query) ∧
      after.heap.scopes.size = state.heap.scopes.size ∧
      after.heap.closures = state.heap.closures ∧
      after.heap.classes = state.heap.classes ∧
      after.heap.instances = state.heap.instances := by
  have formed := reachable.wellFormed
  obtain ⟨log, journal, steps⟩ := @ScopeId.define_apply Error scope name value state
  have unseen (other : ScopeId) (query : String) (line : Nat)
      (unseen : ¬ (query = name ∧ state.heap.Unshadowed name other scope)) :
      (other.lookup query line ⟨state.heap.define scope name value, log, journal⟩).1 =
        (other.lookup query line state).1 := by
    simp only [ScopeId.lookup_result, Heap.lookup_define_unseen value has formed unseen]
  refine ⟨_, steps, fun other query line => ⟨?_, unseen other query line⟩, ?_, ?_,
    Heap.enclosing_define .., ?_, ?_, rfl, rfl, rfl⟩
  · rintro ⟨rfl, seen⟩
    simp only [ScopeId.lookup_result, Heap.lookup_define_seen value has formed seen]
  · rintro other differs (around | beside) query line
    · exact unseen other query line fun seen =>
        differs (seen.2.inside.antisymm formed around)
    · exact unseen other query line fun seen =>
        seen.2.inside.apart formed differs beside.symm
  · intro other differs
    simp [Heap.scope_define, differs]
  · intro query
    simp [Heap.var_define value has]
  · simp [Heap.define]

-- A scope that contains two others, of which the second hides a variable from further out.
def nestedSession : Session :=
  Session.start.after [
    { operation := .define globalsName "x" (.text "old") },
    { operation := .newScope (some globalsName), storeAs := some "s" },
    { operation := .newScope (some "s") },
    { operation := .newScope (some "s"), storeAs := some "t" },
    { operation := .define "t" "x" (.text "own") }]

theorem definition_exact_redirected :
    let state : State := { heap := nestedSession.heap }
    let after := ((ScopeId.define ⟨1⟩ "x" (.text "new") : Exec Error Unit) state).2
    state.heap.Has (.scope ⟨1⟩) ∧
      (ScopeId.lookup ⟨2⟩ "x" 6 state).1 = .done (.text "old") ∧
      (ScopeId.lookup ⟨2⟩ "x" 6 after).1 = .done (.text "new") ∧
      (ScopeId.lookup ⟨3⟩ "x" 6 after).1 = .done (.text "own") ∧
      (ScopeId.lookup ⟨0⟩ "x" 6 after).1 = .done (.text "old") := by
  intro state after
  have has : state.heap.Has (.scope ⟨1⟩) := by decide +kernel
  obtain ⟨defined, steps, lookups, around, _⟩ :=
    definition_exact state (Session.reachable_after _) ⟨1⟩ has "x" (.text "new")
  have same : after = defined := congrArg Prod.snd steps
  subst same
  refine ⟨has, by decide +kernel, ?_, ?_, ?_⟩
  · exact (lookups ⟨2⟩ "x" 6).1 ⟨rfl, .outward (by decide +kernel) (by decide +kernel) .here⟩
  · have hidden : ¬ state.heap.Unshadowed "x" ⟨3⟩ ⟨1⟩ := by
      rintro (_ | ⟨_, absent, _⟩)
      exact absent (by decide +kernel)
    rw [(lookups ⟨3⟩ "x" 6).2 fun seen => hidden seen.2]
    decide +kernel
  · rw [around ⟨0⟩ (by decide) (.inl (.outward (by decide +kernel) .here)) "x" 6]
    decide +kernel

end Lox
