import Lox.Proofs.World
import Lox.Session.Run

set_option autoImplicit false

namespace Lox

structure Heap.WellFormed (heap : Heap) : Prop where
  linked : ∀ source target,
    heap.Has source -> heap.RefersTo source target -> heap.Has target
  enclosing : ∀ id outer, (heap.scope id).enclosing = some outer -> outer.index < id.index
  superclass : ∀ id parent, (heap.cls id).superclass = some parent -> parent.index < id.index

inductive Chain {ι : Type} (next : ι -> Option ι) : ι -> List ι -> Prop where
  | last {id : ι} : next id = none -> Chain next id [id]
  | link {id outer : ι} {rest : List ι} :
      next id = some outer -> Chain next outer rest -> Chain next id (id :: rest)

namespace Chain

variable {ι : Type} {next : ι -> Option ι} {rank : ι -> Nat}

theorem unique {id : ι} {left right : List ι} (first : Chain next id left)
    (second : Chain next id right) : left = right := by
  induction first generalizing right with
  | last ends =>
      cases second with
      | last => rfl
      | link link => rw [ends] at link; cases link
  | link link _ ih =>
      cases second with
      | last ends => rw [ends] at link; cases link
      | link other rest =>
          rw [link] at other
          cases other
          rw [ih rest]

theorem exists_of_rank (older : ∀ id outer, next id = some outer -> rank outer < rank id)
    (id : ι) : ∃ chain, Chain next id chain := by
  induction measured : rank id using Nat.strongRecOn generalizing id with
  | ind bound ih =>
      cases link : next id with
      | none => exact ⟨[id], .last link⟩
      | some outer =>
          have smaller : rank outer < bound := measured ▸ older id outer link
          obtain ⟨rest, chain⟩ := ih (rank outer) smaller outer rfl
          exact ⟨id :: rest, .link link chain⟩

theorem rank_le (older : ∀ id outer, next id = some outer -> rank outer < rank id)
    {id : ι} {chain : List ι} (links : Chain next id chain) :
    ∀ member ∈ chain, rank member ≤ rank id := by
  induction links with
  | last => simp
  | @link id outer rest link _ ih =>
      intro member inside
      rcases List.mem_cons.mp inside with same | later
      · exact Nat.le_of_eq (congrArg rank same)
      · have below := ih member later
        have smaller := older id outer link
        omega

theorem nodup (older : ∀ id outer, next id = some outer -> rank outer < rank id)
    {id : ι} {chain : List ι} (links : Chain next id chain) : chain.Nodup := by
  induction links with
  | last => simp
  | @link id outer rest link chain ih =>
      refine List.nodup_cons.mpr ⟨fun inside => ?_, ih⟩
      have below := rank_le older chain id inside
      have smaller := older id outer link
      omega

end Chain

namespace Heap

/--
How a lookup goes outwards from a scope, with the scopes that it keeps borrowed
on the way: each one it comes to has to be free.
-/
inductive Walk (heap : Heap) (name : String) :
    List ScopeId -> ScopeId -> Option ScopeId -> Prop where
  | found {held : List ScopeId} {id : ScopeId} :
      id ∉ held -> (heap.scope id).vars.contains name -> Walk heap name held id (some id)
  | missing {held : List ScopeId} {id : ScopeId} :
      id ∉ held -> ¬ (heap.scope id).vars.contains name -> (heap.scope id).enclosing = none ->
        Walk heap name held id none
  | outward {held : List ScopeId} {id outer : ScopeId} {result : Option ScopeId} :
      id ∉ held -> ¬ (heap.scope id).vars.contains name ->
        (heap.scope id).enclosing = some outer -> Walk heap name (id :: held) outer result ->
          Walk heap name held id result

inductive Ascent (heap : Heap) (name : String) : ClassId -> Option ClosureId -> Prop where
  | found {id : ClassId} {method : ClosureId} :
      (heap.cls id).methods.get? name = some method -> Ascent heap name id (some method)
  | missing {id : ClassId} :
      (heap.cls id).methods.get? name = none -> (heap.cls id).superclass = none ->
        Ascent heap name id none
  | upward {id parent : ClassId} {result : Option ClosureId} :
      (heap.cls id).methods.get? name = none -> (heap.cls id).superclass = some parent ->
        Ascent heap name parent result -> Ascent heap name id result

namespace WellFormed

variable {heap : Heap}

theorem enclosing?_eq (formed : heap.WellFormed) (id : ScopeId) :
    heap.enclosing? id = (heap.scope id).enclosing := by
  unfold enclosing?
  cases link : (heap.scope id).enclosing with
  | none => rfl
  | some outer =>
      have older := formed.enclosing id outer link
      simp [Option.filter, older]

theorem superclass?_eq (formed : heap.WellFormed) (id : ClassId) :
    heap.superclass? id = (heap.cls id).superclass := by
  unfold superclass?
  cases link : (heap.cls id).superclass with
  | none => rfl
  | some parent =>
      have older := formed.superclass id parent link
      simp [Option.filter, older]

theorem walk (formed : heap.WellFormed) (name : String) (id : ScopeId) (held : List ScopeId)
    (younger : ∀ other ∈ held, id.index < other.index) :
    heap.Walk name held id (heap.holder? id name) := by
  -- All scopes held are younger than the one the walk has come to, so that one is free.
  fun_induction Heap.holder? heap id name generalizing held with
  | case1 id present =>
      exact .found (fun inside => Nat.lt_irrefl _ (younger id inside)) present
  | case2 id absent parent link ih =>
      have free : id ∉ held := fun inside => Nat.lt_irrefl _ (younger id inside)
      have older := enclosing?_older link
      rw [formed.enclosing?_eq] at link
      refine .outward free absent link (ih (id :: held) ?_)
      intro other inside
      rcases List.mem_cons.mp inside with same | before
      · rw [same]
        exact older
      · exact Nat.lt_trans older (younger other before)
  | case3 id absent link =>
      rw [formed.enclosing?_eq] at link
      exact .missing (fun inside => Nat.lt_irrefl _ (younger id inside)) absent link

theorem ascent (formed : heap.WellFormed) (name : String) (id : ClassId) :
    heap.Ascent name id (heap.findMethod id name) := by
  fun_induction Heap.findMethod heap id name with
  | case1 id method declared => exact .found declared
  | case2 id undeclared parent link ih =>
      rw [formed.superclass?_eq] at link
      exact .upward undeclared link ih
  | case3 id undeclared link =>
      rw [formed.superclass?_eq] at link
      exact .missing undeclared link

theorem enclosing_apply (formed : heap.WellFormed) {own : ScopeId -> Prop} {change : Change}
    (permitted : (World.ofHeap heap own).Permits change) (id outer : ScopeId)
    (link : ((heap.apply change).scope id).enclosing = some outer) : outer.index < id.index := by
  rw [Heap.scope_apply] at link
  have kept := formed.enclosing id outer
  cases change with
  | newScope scope =>
      dsimp only at link
      split at link
      · next fresh =>
          -- The scope around it is known, so it is there and its index is less than the next.
          have known := ((World.knows_scope scope).mp permitted).1
          rw [link, World.knows_some, World.knows_scopeId] at known
          rw [fresh]
          exact known
      · exact kept link
  | bindScope method receiver =>
      dsimp only at link
      split at link
      · next fresh =>
          have same : method = outer := Option.some.inj link
          rw [fresh, ← same]
          exact permitted.1
      · exact kept link
  | define scope name value | assign scope name value =>
      dsimp only at link
      split at link
      · next hit => exact formed.enclosing id outer (hit.1 ▸ link)
      · exact kept link
  | newClosure | newClass | newInstance | setField => exact kept link

theorem superclass_apply (formed : heap.WellFormed) {own : ScopeId -> Prop} {change : Change}
    (permitted : (World.ofHeap heap own).Permits change) (id parent : ClassId)
    (link : ((heap.apply change).cls id).superclass = some parent) :
    parent.index < id.index := by
  rw [Heap.cls_apply] at link
  have kept := formed.superclass id parent
  cases change with
  | newClass cls =>
      dsimp only at link
      split at link
      · next fresh =>
          have known := ((World.knows_class cls).mp permitted).1
          rw [link, World.knows_some, World.knows_classId] at known
          rw [fresh]
          exact known
      · exact kept link
  | newScope | bindScope | newClosure | newInstance | define | assign | setField =>
      exact kept link

theorem apply (formed : heap.WellFormed) {own : ScopeId -> Prop}
    (present : ∀ id, own id -> heap.Has (.scope id)) {change : Change}
    (permitted : (World.ofHeap heap own).Permits change) : (heap.apply change).WellFormed where
  linked source target has link := by
    have closed : (World.ofHeap heap own).Closed := ⟨fun _ has => has, formed.linked, present⟩
    have whole : (World.ofHeap heap own).Whole := fun _ has => has
    have after := closed.apply permitted
    exact after.present target (after.closed source target (whole.apply change source has) link)
  enclosing := formed.enclosing_apply permitted
  superclass := formed.superclass_apply permitted

theorem empty : ({} : Heap).WellFormed where
  linked source target has := by
    cases source <;> exact absurd has (Nat.not_lt_zero _)
  enclosing id outer link := by
    have nothing : ({} : Heap).scope id = default := by simp [Heap.scope]
    rw [nothing] at link
    cases link
  superclass id parent link := by
    have nothing : ({} : Heap).cls id = default := by simp [Heap.cls]
    rw [nothing] at link
    cases link

theorem start : Session.start.heap.WellFormed := by
  have permitted : (World.ofHeap {} fun _ => False).Permits (.newScope {}) :=
    (World.knows_scope _).mpr ⟨World.knows_none, World.knows_empty⟩
  exact empty.apply (fun _ never => never.elim) permitted

end WellFormed

end Heap

end Lox
