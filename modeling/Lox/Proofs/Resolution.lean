import Lox.Proofs.Frozen
import Mathlib.Data.List.Dedup

set_option autoImplicit false

namespace Lox

/-- The functions that methods become, each under the next identity when its turn comes. -/
def Heap.members (heap : Heap) : List Closure -> List (ClosureId × Closure)
  | [] => []
  | method :: rest => (heap.nextClosure, method) :: (heap.newClosure method).members rest

def Bindings.addMembers (table : Bindings ClosureId) (members : List (ClosureId × Closure)) :
    Bindings ClosureId :=
  members.foldl (fun table member => table.insert member.2.name member.1) table

def lastMember? (members : List (ClosureId × Closure)) (name : String) : Option ClosureId :=
  -- Of several members with one name the last counts.
  (members.reverse.find? fun member => member.2.name = name).map Prod.fst

theorem Bindings.get?_addMembers (table : Bindings ClosureId)
    (members : List (ClosureId × Closure)) (name : String) :
    (table.addMembers members).get? name = (lastMember? members name).or (table.get? name) := by
  rw [addMembers, lastMember?, List.foldl_eq_foldr_reverse]
  induction members.reverse with
  | nil => rfl
  | cons member rest ih =>
      by_cases same : member.2.name = name
      · simp [same]
      · simp [same, Ne.symm same, ih]

theorem lastMember?_eq_some_iff {members : List (ClosureId × Closure)} {name : String}
    {method : ClosureId} :
    lastMember? members name = some method <->
      ∃ earlier function later, members = earlier ++ (method, function) :: later ∧
        function.name = name ∧ ∀ member ∈ later, member.2.name ≠ name := by
  rw [lastMember?, Option.map_eq_some_iff]
  constructor
  · rintro ⟨⟨id, function⟩, found, rfl⟩
    obtain ⟨named, nearer, farther, split, others⟩ := List.find?_eq_some_iff_append.mp found
    refine ⟨farther.reverse, function, nearer.reverse, ?_, by simpa using named, ?_⟩
    · rw [← List.reverse_reverse members, split]
      simp
    · simpa using others
  · rintro ⟨earlier, function, later, rfl, named, others⟩
    refine ⟨(method, function), List.find?_eq_some_iff_append.mpr ⟨by simpa using named, ?_⟩, rfl⟩
    exact ⟨later.reverse, earlier.reverse, by simp, by simpa using others⟩

theorem lastMember?_eq_none_iff {members : List (ClosureId × Closure)} {name : String} :
    lastMember? members name = none <-> ∀ member ∈ members, member.2.name ≠ name := by
  simp [lastMember?]

namespace Heap

@[simp]
theorem map_snd_members (heap : Heap) (methods : List Closure) :
    (heap.members methods).map Prod.snd = methods := by
  induction methods generalizing heap with
  | nil => rfl
  | cons method rest ih => simp [members, ih]

theorem nextClass_allocated (heap : Heap) (methods : List Closure) :
    (heap.replay (methods.map .newClosure)).nextClass = heap.nextClass := by
  induction methods generalizing heap with
  | nil => rfl
  | cons method rest ih => exact ih (heap.newClosure method)

theorem closure_allocated {heap : Heap} {methods : List Closure} {member : ClosureId × Closure}
    (listed : member ∈ heap.members methods) :
    (heap.replay (methods.map .newClosure)).Has (.closure member.1) ∧
      (heap.replay (methods.map .newClosure)).closure member.1 = member.2 := by
  induction methods generalizing heap with
  | nil => cases listed
  | cons method rest ih =>
      rcases List.mem_cons.mp listed with rfl | later
      · have made : (heap.apply (.newClosure method)).Has (.closure heap.nextClosure) :=
          (has_apply heap (.newClosure method) _).mpr (.inr rfl)
        have frozen := Frozen.replay (heap.apply (.newClosure method)) (rest.map .newClosure)
        refine ⟨frozen.has _ made, ?_⟩
        rw [List.map_cons, replay_cons, frozen.closure _ made, closure_apply]
        exact if_pos rfl
      · exact ih later

end Heap

theorem Closure.allocateAll_apply {ε : Type} (table : Bindings ClosureId)
    (methods : List Closure) (state : State) :
    (Closure.allocateAll table methods : Exec ε (Bindings ClosureId)) state =
      (.done (table.addMembers (state.heap.members methods)), { state with
        heap := state.heap.replay (methods.map .newClosure)
        journal := state.journal ++ methods.map Change.newClosure }) := by
  induction methods generalizing table state with
  | nil => simp [Closure.allocateAll, Heap.members, Bindings.addMembers]
  | cons method rest ih =>
      simp only [Closure.allocateAll, Closure.allocate, Exec.allocate_bind, ih]
      simp [Heap.members, Bindings.addMembers, Heap.apply]

def Heap.withClass (heap : Heap) (name : String) (superclass : Option ClassId)
    (methods : List Closure) : Heap :=
  (heap.replay (methods.map .newClosure)).apply (.newClass {
    name
    superclass
    methods := Bindings.empty.addMembers (heap.members methods) })

theorem ClassId.create_apply {ε : Type} (name : String) (superclass : Option ClassId)
    (methods : List Closure) (state : State) :
    ∃ journal, (ClassId.create name superclass methods : Exec ε ClassId) state =
      (.done state.heap.nextClass, {
        heap := state.heap.withClass name superclass methods
        log := state.log.push (.classCreated name
          (Bindings.empty.addMembers (state.heap.members methods)).size
          (superclass.map fun parent =>
            ((state.heap.withClass name superclass methods).cls parent).name))
        journal }) := by
  rw [ClassId.create, Exec.bind_apply, Closure.allocateAll_apply]
  dsimp only
  rw [Exec.allocate_bind, Exec.read_bind, Exec.log_bind, Heap.nextClass_allocated]
  exact ⟨_, rfl⟩

section Made

variable {heap : Heap} {name : String} {superclass : Option ClassId} {methods : List Closure}

theorem Heap.cls_withClass : (heap.withClass name superclass methods).cls heap.nextClass =
    ⟨name, superclass, Bindings.empty.addMembers (heap.members methods)⟩ := by
  rw [withClass, cls_apply]
  exact if_pos (nextClass_allocated heap methods).symm

theorem Heap.has_withClass :
    (heap.withClass name superclass methods).Has (.cls heap.nextClass) := by
  rw [withClass, has_apply, Change.created?, nextClass_allocated]
  exact .inr rfl

theorem Heap.closure_withClass {member : ClosureId × Closure}
    (listed : member ∈ heap.members methods) :
    (heap.withClass name superclass methods).Has (.closure member.1) ∧
      (heap.withClass name superclass methods).closure member.1 = member.2 := by
  obtain ⟨has, same⟩ := closure_allocated listed
  refine ⟨(has_apply ..).mpr (.inl has), ?_⟩
  rw [withClass, closure_apply, same]

theorem Heap.cls_withClass_old {parent : ClassId} (has : heap.Has (.cls parent)) :
    (heap.withClass name superclass methods).cls parent = heap.cls parent := by
  have allocated := Frozen.replay heap (methods.map .newClosure)
  have made := Frozen.apply (heap.replay (methods.map .newClosure)) (.newClass {
    name
    superclass
    methods := Bindings.empty.addMembers (heap.members methods) })
  exact (allocated.trans made).cls parent has

end Made

theorem Bindings.size_addMembers (members : List (ClosureId × Closure)) :
    (Bindings.empty.addMembers members).size =
      ((members.map Prod.snd).map Closure.name).dedup.length := by
  have named (name : String) : name ∈ (Bindings.empty.addMembers members).keys <->
      name ∈ (members.map Prod.snd).map Closure.name := by
    rw [mem_keys_iff, contains, get?_addMembers, get?_empty, Option.or_none,
      ← Option.ne_none_iff_isSome, ne_eq, lastMember?_eq_none_iff]
    simp
  rw [← length_keys]
  apply List.Perm.length_eq
  refine (List.perm_ext_iff_of_nodup (nodup_keys _) (List.nodup_dedup _)).mpr fun name => ?_
  rw [List.mem_dedup, named]

structure Ancestor where
  cls : ClassId
  members : List (ClosureId × Closure)

/-- A class that was made from its methods some time ago, whatever has changed since. -/
def Heap.Declares (heap : Heap) (superclass : Option ClassId) (ancestor : Ancestor) : Prop :=
  ∃ name methods before after since,
    (∀ parent, superclass = some parent -> before.heap.Has (.cls parent)) ∧
    (ClassId.create name superclass methods : Exec Error ClassId) before =
      (.done ancestor.cls, after) ∧
    ancestor.members = before.heap.members methods ∧
    heap = after.heap.replay since

inductive Heap.Lineage (heap : Heap) : ClassId -> List Ancestor -> Prop where
  | root {ancestor : Ancestor} :
      heap.Declares none ancestor -> Lineage heap ancestor.cls [ancestor]
  | derived {ancestor : Ancestor} {parent : ClassId} {rest : List Ancestor} :
      heap.Declares (some parent) ancestor -> Lineage heap parent rest ->
        Lineage heap ancestor.cls (ancestor :: rest)

/-- The last function of the name in the nearest class of a chain that has any. -/
def Resolves (chain : List Ancestor) (name : String) (method : ClosureId) (function : Closure) :
    Prop :=
  ∃ nearer ancestor farther earlier later, chain = nearer ++ ancestor :: farther ∧
    (∀ other ∈ nearer, ∀ member ∈ other.members, member.2.name ≠ name) ∧
    ancestor.members = earlier ++ (method, function) :: later ∧
    function.name = name ∧ ∀ member ∈ later, member.2.name ≠ name

namespace Heap

variable {heap : Heap} {superclass : Option ClassId} {ancestor : Ancestor} {cls : ClassId}
  {chain : List Ancestor}

theorem Declares.facts (declares : heap.Declares superclass ancestor) :
    heap.superclass? ancestor.cls = superclass ∧
      (∀ name, (heap.cls ancestor.cls).methods.get? name = lastMember? ancestor.members name) ∧
      ∀ member ∈ ancestor.members, heap.closure member.1 = member.2 := by
  obtain ⟨name, methods, before, after, since, present, made, members, rfl⟩ := declares
  obtain ⟨journal, steps⟩ := @ClassId.create_apply Error name superclass methods before
  rw [steps, Prod.mk.injEq, Outcome.done.injEq] at made
  obtain ⟨isNext, rfl⟩ := made
  rw [← isNext, members]
  have frozen := Frozen.replay (before.heap.withClass name superclass methods) since
  have kept : ((before.heap.withClass name superclass methods).replay since).cls
      before.heap.nextClass = _ := (frozen.cls _ has_withClass).trans cls_withClass
  refine ⟨?_, ?_, ?_⟩
  · rw [superclass?, kept]
    cases superclass with
    | none => rfl
    | some parent =>
        have older : parent.index < before.heap.nextClass.index := present parent rfl
        simp [Option.filter, older]
  · intro query
    rw [kept, Bindings.get?_addMembers, Bindings.get?_empty, Option.or_none]
  · intro member isListed
    obtain ⟨has, same⟩ := closure_withClass isListed
    rw [frozen.closure _ has, same]

theorem Declares.replay (declares : heap.Declares superclass ancestor) (since : List Change) :
    (heap.replay since).Declares superclass ancestor := by
  obtain ⟨name, methods, before, after, earlier, present, made, members, rfl⟩ := declares
  refine ⟨name, methods, before, after, earlier ++ since, present, made, members, ?_⟩
  rw [replay_append]

namespace Lineage

theorem replay (lineage : heap.Lineage cls chain) (since : List Change) :
    (heap.replay since).Lineage cls chain := by
  induction lineage with
  | root declares => exact .root (declares.replay since)
  | derived declares _ ih => exact .derived (declares.replay since) ih

theorem findMethod (lineage : heap.Lineage cls chain) (name : String) :
    heap.findMethod cls name =
      chain.findSome? fun ancestor => lastMember? ancestor.members name := by
  induction lineage with
  | root declares =>
      obtain ⟨link, table, _⟩ := declares.facts
      rw [findMethod_eq, table, link]
      simp
  | @derived ancestor parent rest declares _ ih =>
      obtain ⟨link, table, _⟩ := declares.facts
      rw [findMethod_eq, table, link, Option.bind_some, ih, List.findSome?_cons]
      cases lastMember? ancestor.members name <;> rfl

theorem closure (lineage : heap.Lineage cls chain) {ancestor : Ancestor}
    (above : ancestor ∈ chain) {member : ClosureId × Closure} (listed : member ∈ ancestor.members) :
    heap.closure member.1 = member.2 := by
  induction lineage with
  | root declares =>
      rw [List.mem_singleton.mp above] at listed
      exact declares.facts.2.2 member listed
  | derived declares _ ih =>
      rcases List.mem_cons.mp above with rfl | higher
      · exact declares.facts.2.2 member listed
      · exact ih higher

theorem upward (lineage : heap.Lineage cls chain) {nearer farther : List Ancestor}
    {ancestor : Ancestor} (split : chain = nearer ++ ancestor :: farther) :
    heap.Lineage ancestor.cls (ancestor :: farther) := by
  induction lineage generalizing nearer with
  | root declares =>
      cases nearer with
      | nil =>
          cases split
          exact .root declares
      | cons first rest => simp at split
  | derived declares above ih =>
      cases nearer with
      | nil =>
          cases split
          exact .derived declares above
      | cons first rest => exact ih (List.cons.inj split).2

end Lineage

end Heap

theorem findSome?_lastMember?_iff {chain : List Ancestor} {name : String} {method : ClosureId} :
    (chain.findSome? fun ancestor => lastMember? ancestor.members name) = some method <->
      ∃ function, Resolves chain name method function := by
  simp only [List.findSome?_eq_some_iff, lastMember?_eq_some_iff, lastMember?_eq_none_iff]
  constructor
  · rintro ⟨nearer, ancestor, farther, split, ⟨earlier, function, later, listed, last⟩, others⟩
    exact ⟨function, nearer, ancestor, farther, earlier, later, split, others, listed, last⟩
  · rintro ⟨function, nearer, ancestor, farther, earlier, later, split, others, listed, last⟩
    exact ⟨nearer, ancestor, farther, split, ⟨earlier, function, later, listed, last⟩, others⟩

/--
A class finds the last method of the name in the nearest list that has any, and it is the
same function for ever and from all classes in between.
-/
theorem method_resolution {heap : Heap} {cls : ClassId} {chain : List Ancestor}
    (lineage : heap.Lineage cls chain) (name : String) :
    (∃ found : Option ClosureId,
      (∀ (since : List Change) (state : State), state.heap = heap.replay since ->
        ((cls.findMethod name : Exec Error (Option ClosureId)) state).1 = .done found ∧
        ∀ nearer ancestor farther, chain = nearer ++ ancestor :: farther ->
          (∀ other ∈ nearer, ∀ member ∈ other.members, member.2.name ≠ name) ->
            ((ancestor.cls.findMethod name : Exec Error (Option ClosureId)) state).1 =
              .done found) ∧
      (∀ method, found = some method <-> ∃ function, Resolves chain name method function) ∧
      (found = none <-> ∀ ancestor ∈ chain, ∀ member ∈ ancestor.members, member.2.name ≠ name) ∧
      ∀ method function, Resolves chain name method function ->
        heap.closure method = function ∧ function.name = name) ∧
    ∀ (className : String) (superclass : Option ClassId) (methods : List Closure) (state : State),
      (∀ parent, superclass = some parent -> state.heap.Has (.cls parent)) ->
        ((ClassId.create className superclass methods : Exec Error ClassId) state).2.log =
          state.log.push (.classCreated className (methods.map Closure.name).dedup.length
            (superclass.map fun parent => (state.heap.cls parent).name)) := by
  constructor
  · refine ⟨chain.findSome? fun ancestor => lastMember? ancestor.members name, ?_,
      fun method => findSome?_lastMember?_iff, ?_, ?_⟩
    · intro since state same
      have later : state.heap.Lineage cls chain := same ▸ lineage.replay since
      refine ⟨congrArg Outcome.done (later.findMethod name), ?_⟩
      rintro nearer ancestor farther rfl others
      have skipped : (nearer.findSome? fun other => lastMember? other.members name) = none := by
        simp only [List.findSome?_eq_none_iff, lastMember?_eq_none_iff]
        exact others
      rw [List.findSome?_append, skipped, Option.none_or]
      exact congrArg Outcome.done ((later.upward rfl).findMethod name)
    · simp only [List.findSome?_eq_none_iff, lastMember?_eq_none_iff]
    · rintro method function ⟨nearer, ancestor, farther, earlier, later, rfl, _, listed, named, _⟩
      have member : (method, function) ∈ ancestor.members := by simp [listed]
      exact ⟨lineage.closure (by simp) member, named⟩
  · intro className superclass methods state present
    obtain ⟨journal, steps⟩ := @ClassId.create_apply Error className superclass methods state
    rw [steps, Bindings.size_addMembers, Heap.map_snd_members]
    cases superclass with
    | none => rfl
    | some parent => simp only [Option.map_some, Heap.cls_withClass_old (present parent rfl)]

def plainMethod (name : String) (line : Nat) : Closure :=
  ⟨⟨.identifier name line, [], []⟩, ⟨0⟩, false⟩

-- A class that lists `m` twice, and a subclass that lists only `n`.
def overridingClasses : Outcome Error ClassId × State :=
  (do
    let base ← ClassId.create "A" none [plainMethod "m" 1, plainMethod "n" 2, plainMethod "m" 3]
    ClassId.create "B" (some base) [plainMethod "n" 4] : Exec Error ClassId) {}

def overridingChain : List Ancestor := [
  ⟨⟨1⟩, [(⟨3⟩, plainMethod "n" 4)]⟩,
  ⟨⟨0⟩, [(⟨0⟩, plainMethod "m" 1), (⟨1⟩, plainMethod "n" 2), (⟨2⟩, plainMethod "m" 3)]⟩]

theorem overridingClasses_lineage : overridingClasses.2.heap.Lineage ⟨1⟩ overridingChain := by
  let base := (ClassId.create "A" none
    [plainMethod "m" 1, plainMethod "n" 2, plainMethod "m" 3] : Exec Error ClassId) {}
  have older (parent : ClassId) (isBase : some (ClassId.mk 0) = some parent) :
      base.2.heap.Has (.cls parent) := by
    cases isBase
    exact Nat.zero_lt_one
  have derived : overridingClasses.2.heap.Declares (some ⟨0⟩)
      ⟨⟨1⟩, [(⟨3⟩, plainMethod "n" 4)]⟩ :=
    ⟨"B", [plainMethod "n" 4], base.2, overridingClasses.2, [], older, rfl, rfl, rfl⟩
  have root : overridingClasses.2.heap.Declares none
      ⟨⟨0⟩, [(⟨0⟩, plainMethod "m" 1), (⟨1⟩, plainMethod "n" 2), (⟨2⟩, plainMethod "m" 3)]⟩ :=
    ⟨"A", [plainMethod "m" 1, plainMethod "n" 2, plainMethod "m" 3], {}, base.2,
      [.newClosure (plainMethod "n" 4), .newClass ⟨"B", some ⟨0⟩, .insert .empty "n" ⟨3⟩⟩],
      by simp, rfl, rfl, rfl⟩
  exact .derived derived (.root root)

theorem method_resolution_inherited :
    overridingClasses.2.heap.Lineage ⟨1⟩ overridingChain ∧
      ((ClassId.findMethod ⟨1⟩ "m" : Exec Error (Option ClosureId)) overridingClasses.2).1 =
        .done (some ⟨2⟩) ∧
      ((ClassId.findMethod ⟨0⟩ "m" : Exec Error (Option ClosureId)) overridingClasses.2).1 =
        .done (some ⟨2⟩) := by
  obtain ⟨⟨found, lookups, resolved, _, _⟩, _⟩ := method_resolution overridingClasses_lineage "m"
  obtain ⟨derived, above⟩ := lookups [] overridingClasses.2 rfl
  have last : found = some ⟨2⟩ := by
    refine (resolved ⟨2⟩).mpr ⟨plainMethod "m" 3, [_], _, [],
      [(⟨0⟩, plainMethod "m" 1), (⟨1⟩, plainMethod "n" 2)], [], rfl, ?_, rfl, rfl, by simp⟩
    simp [plainMethod, Closure.name, Token.identifier]
  rw [last] at derived above
  refine ⟨overridingClasses_lineage, derived, above [_] _ [] rfl ?_⟩
  simp [plainMethod, Closure.name, Token.identifier]

end Lox
