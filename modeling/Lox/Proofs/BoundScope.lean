import Lox.Proofs.History

set_option autoImplicit false

namespace Lox

/-- A method was bound to a receiver in the course of a journal, and got this scope. -/
def BoundBy (journal : List Change) (bound method : ScopeId) (receiver : InstanceId) : Prop :=
  ∃ before after, journal = before ++ .bindScope method receiver :: after ∧
    bound = (Heap.ofJournal before).nextScope

def unboundScope (journal : List Change) (id : ScopeId) : Prop :=
  (Heap.ofJournal journal).Has (.scope id) ∧ ∀ method receiver, ¬ BoundBy journal id method receiver

def Session.SparesBound (journal : List Change) (session : Session) : Operation -> Prop
  | .define scope _ _ => ∀ id, session.registers.scope? scope = some id ->
      ∀ method receiver, ¬ BoundBy journal id method receiver
  | _ => True

namespace BoundBy

variable {journal : List Change} {change : Change} {bound method : ScopeId}
  {receiver : InstanceId}

theorem not_nil : ¬ BoundBy [] bound method receiver := by
  rintro ⟨before, after, split, _⟩
  cases before <;> cases split

theorem snoc_iff : BoundBy (journal ++ [change]) bound method receiver <->
    BoundBy journal bound method receiver ∨
      change = .bindScope method receiver ∧ bound = (Heap.ofJournal journal).nextScope := by
  constructor
  · rintro ⟨before, after, split, fresh⟩
    rcases List.eq_nil_or_concat after with rfl | ⟨middle, last, rfl⟩
    · obtain ⟨rfl, same⟩ := List.append_inj' split rfl
      exact .inr ⟨List.singleton_inj.mp same, fresh⟩
    · have longer : journal ++ [change] =
          (before ++ .bindScope method receiver :: middle) ++ [last] := by
        simpa using split
      obtain ⟨shorter, _⟩ := List.append_inj' longer rfl
      exact .inl ⟨before, middle, shorter, fresh⟩
  · rintro (⟨before, after, rfl, fresh⟩ | ⟨rfl, fresh⟩)
    · exact ⟨before, after ++ [change], by simp, fresh⟩
    · exact ⟨journal, [], rfl, fresh⟩

theorem has (binding : BoundBy journal bound method receiver) :
    (Heap.ofJournal journal).Has (.scope bound) := by
  obtain ⟨before, after, rfl, rfl⟩ := binding
  rw [Heap.ofJournal_append, Heap.replay_cons]
  apply Heap.has_replay
  rw [Heap.has_apply]
  exact .inr rfl

theorem not_first : ¬ BoundBy journal ⟨0⟩ method receiver := by
  rintro ⟨before, after, _, fresh⟩
  have first : Session.start.heap.Has (.scope ⟨0⟩) := Nat.zero_lt_one
  have has : (Heap.ofJournal before).Has (.scope ⟨0⟩) := Heap.has_replay first before
  rw [fresh] at has
  exact Nat.lt_irrefl _ has

end BoundBy

theorem unboundScope_ownership : Ownership unboundScope where
  present _ _ unbound := unbound.1
  lasts journal change id unbound := by
    obtain ⟨has, none⟩ := unbound
    refine ⟨?_, ?_⟩
    · rw [Heap.ofJournal_snoc, Heap.has_apply]
      exact .inl has
    · intro method receiver binding
      rcases BoundBy.snoc_iff.mp binding with earlier | ⟨_, fresh⟩
      · exact none method receiver earlier
      · rw [fresh] at has
        exact Nat.lt_irrefl _ has
  opens journal change id opened := by
    have created := Change.created?_of_opened opened
    refine ⟨?_, ?_⟩
    · rw [Heap.ofJournal_snoc, Heap.has_apply]
      exact .inr created
    · intro method receiver binding
      rcases BoundBy.snoc_iff.mp binding with earlier | ⟨isBind, _⟩
      · exact Change.created?_fresh created earlier.has
      · rw [isBind] at opened
        cases opened

section Stable

variable {journal : List Change} {bound method : ScopeId} {receiver : InstanceId}

theorem BoundBy.scope_apply {change : Change} (binding : BoundBy journal bound method receiver)
    (shape : (Heap.ofJournal journal).scope bound = .ofReceiver method receiver)
    (permitted : (World.ofHeap (.ofJournal journal) (unboundScope journal)).Permits change)
    (kept : ∀ holder value, change ≠ .assign holder receiverName value) :
    ((Heap.ofJournal journal).apply change).scope bound = .ofReceiver method receiver := by
  have old : bound ≠ (Heap.ofJournal journal).nextScope := by
    intro fresh
    have has := binding.has
    rw [fresh] at has
    exact Nat.lt_irrefl _ has
  rw [Heap.scope_apply, ← shape]
  cases change with
  | newScope | bindScope => exact if_neg old
  | define scope name value =>
      -- Only scopes that were opened get definitions, and no binding made one of them.
      have other : bound ≠ scope := by
        rintro rfl
        exact permitted.1.2 method receiver binding
      exact if_neg fun hit => other hit.1
  | assign holder name value =>
      -- An assignment needs a variable of that name, and here the receiver is the only one.
      have other : bound ≠ holder := by
        rintro rfl
        have defined : (Scope.ofReceiver method receiver).vars.contains name := by
          rw [← shape]
          exact permitted.2.1
        have isReceiver : name = receiverName := by simpa [Scope.ofReceiver] using defined
        exact kept bound value (by rw [isReceiver])
      exact if_neg fun hit => other hit.1
  | newClosure | newClass | newInstance | setField => rfl

theorem Lawful.bound_scope (lawful : Lawful unboundScope journal)
    (kept : ∀ holder value, .assign holder receiverName value ∉ journal)
    (binding : BoundBy journal bound method receiver) :
    (Heap.ofJournal journal).scope bound = .ofReceiver method receiver := by
  induction lawful with
  | nil => exact absurd binding BoundBy.not_nil
  | @snoc journal change lawful permitted ih =>
      rw [Heap.ofJournal_snoc]
      rcases BoundBy.snoc_iff.mp binding with earlier | ⟨isBind, fresh⟩
      · have before := ih (fun holder value made => kept holder value (by simp [made])) earlier
        refine earlier.scope_apply before permitted ?_
        intro holder value same
        exact kept holder value (by simp [same])
      · rw [isBind, Heap.scope_apply]
        exact if_pos fresh

end Stable

namespace Heap

variable {heap : Heap} {bound method : ScopeId} {receiver : InstanceId}

theorem lookup_receiver (shape : heap.scope bound = .ofReceiver method receiver) :
    heap.lookup bound receiverName = some (.inst receiver) := by
  have here : heap.holder? bound receiverName = some bound :=
    holder?_here (by simp [shape, Scope.ofReceiver])
  simp [lookup, here, shape, Scope.ofReceiver]

theorem lookup_around (formed : heap.WellFormed)
    (shape : heap.scope bound = .ofReceiver method receiver) {name : String}
    (other : name ≠ receiverName) : heap.lookup bound name = heap.lookup method name := by
  have absent : ¬ (heap.scope bound).vars.contains name := by
    simp [shape, Scope.ofReceiver, other]
  have outward : heap.enclosing? bound = some method := by
    rw [formed.enclosing?_eq, shape]
    rfl
  rw [lookup, holder?_outward absent outward, lookup]

end Heap

theorem ScopeId.lookup_apply (scope : ScopeId) (name : String) (line : Nat) (state : State) :
    scope.lookup name line state =
      match state.heap.lookup scope name with
      | some value => (.done value, state)
      | none => Exec.raise (.undefinedVariable name line) state := by
  rw [ScopeId.lookup, Exec.read_bind]
  cases state.heap.lookup scope name with
  | some value => rfl
  | none => rfl

theorem Session.Run.unbound_sound {journal : List Change} {session : Session}
    (run : Session.Run Session.SparesBound journal session) :
    session.Sound unboundScope journal := by
  refine run.sound unboundScope_ownership ?_
  intro journal session scope name value id sound spares found
  refine ⟨?_, spares id found⟩
  rw [← sound.heap]
  exact Registers.scope?_known sound.registers found

/--
The scope of a bound method keeps the receiver as its only variable for as long as a
session lasts, and all other names mean in it what they mean to the method.
-/
theorem Session.Run.bound_scopes_stable {journal : List Change} {session : Session}
    (run : Session.Run Session.SparesBound journal session) :
    (∀ (ε : Type) (closure : Closure) (receiver : InstanceId) (state : State), ∃ log,
      (closure.bindTo receiver : Exec ε Closure) state =
        (.done { closure with scope := state.heap.nextScope },
          { heap := (state.heap.apply (.newScope { enclosing := some closure.scope })).apply
              (.define state.heap.nextScope receiverName (.inst receiver))
            log
            journal := state.journal.push (.bindScope closure.scope receiver) })) ∧
    session.heap = .ofJournal journal ∧
    ∀ point, point <+: journal ->
      (∀ holder value, .assign holder receiverName value ∉ point) ->
      ∀ bound method receiver, BoundBy point bound method receiver ->
      ∀ state : State, state.heap = .ofJournal point ->
        (state.heap.scope bound).vars.entries = [(receiverName, .inst receiver)] ∧
        (state.heap.scope bound).enclosing = some method ∧
        (∀ line, bound.lookup receiverName line state = (.done (.inst receiver), state)) ∧
        ∀ name line, name ≠ receiverName ->
          bound.lookup name line state = method.lookup name line state := by
  have sound := run.unbound_sound
  refine ⟨?_, sound.heap, ?_⟩
  · intro ε closure receiver state
    rw [← Heap.apply_bindScope]
    exact ⟨_, rfl⟩
  · intro point begins kept bound method receiver binding state same
    have lawful := sound.lawful.of_begins begins
    have formed := lawful.wellFormed unboundScope_ownership
    have shape := lawful.bound_scope kept binding
    rw [← same] at formed shape
    refine ⟨by rw [shape]; rfl, by rw [shape]; rfl, ?_, ?_⟩
    · intro line
      rw [ScopeId.lookup_apply, Heap.lookup_receiver shape]
    · intro name line other
      rw [ScopeId.lookup_apply, Heap.lookup_around formed shape other, ← ScopeId.lookup_apply]

-- A function bound to an instance, and a variable around it that is defined afterwards.
def bindingRequests : List Request := [
  { operation := .newClass (some "A") none [], storeAs := some "A" },
  { operation := .newInstance "A", storeAs := some "o" },
  { operation := .newFunction { decl := .inline ⟨.identifier "f" 1, [], []⟩ },
    storeAs := some "f" },
  { operation := .bind "f" "o" },
  { operation := .define globalsName "x" (.text "new") }]

def bindingJournal : List Change := [
  .newClass { name := "A" },
  .newInstance ⟨0⟩,
  .newClosure ⟨⟨.identifier "f" 1, [], []⟩, ⟨0⟩, false⟩,
  .bindScope ⟨0⟩ ⟨0⟩,
  .newClosure ⟨⟨.identifier "f" 1, [], []⟩, ⟨1⟩, false⟩,
  .define ⟨0⟩ "x" (.text "new")]

theorem bindingJournal_run :
    Session.Run Session.SparesBound bindingJournal (Session.start.after bindingRequests) := by
  have begun : Session.Run Session.SparesBound [] Session.start := .start
  have declared := Session.Run.perform Session.maxDepth bindingRequests[0] begun trivial
  have instantiated := Session.Run.perform Session.maxDepth bindingRequests[1] declared trivial
  have made := Session.Run.perform Session.maxDepth bindingRequests[2] instantiated trivial
  have bound := Session.Run.perform Session.maxDepth bindingRequests[3] made trivial
  refine Session.Run.perform Session.maxDepth bindingRequests[4] bound ?_
  intro id found
  cases found
  intro method receiver
  exact BoundBy.not_first

theorem Session.Run.bound_scopes_stable_defined :
    let session := Session.start.after bindingRequests
    let state : State := { heap := session.heap }
    (session.heap.scope ⟨1⟩).vars.entries = [(receiverName, .inst ⟨0⟩)] ∧
      ScopeId.lookup ⟨1⟩ receiverName 3 state = (.done (.inst ⟨0⟩), state) ∧
      ScopeId.lookup ⟨1⟩ "x" 3 state = ScopeId.lookup ⟨0⟩ "x" 3 state ∧
      session.heap.lookup ⟨1⟩ "x" = some (.text "new") := by
  intro session state
  obtain ⟨_, same, points⟩ := Session.Run.bound_scopes_stable bindingJournal_run
  have kept (holder : ScopeId) (value : Value) :
      .assign holder receiverName value ∉ bindingJournal := by
    simp [bindingJournal]
  have binding : BoundBy bindingJournal ⟨1⟩ ⟨0⟩ ⟨0⟩ :=
    ⟨bindingJournal.take 3, bindingJournal.drop 4, rfl, rfl⟩
  obtain ⟨alone, _, receiver, others⟩ :=
    points _ List.prefix_rfl kept ⟨1⟩ ⟨0⟩ ⟨0⟩ binding state same
  exact ⟨alone, receiver 3, others "x" 3 (by decide), by decide +kernel⟩

end Lox
