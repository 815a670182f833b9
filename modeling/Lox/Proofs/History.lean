import Lox.Proofs.Requests
import Lox.Proofs.WellFormed

set_option autoImplicit false

namespace Lox

def Heap.ofJournal (journal : List Change) : Heap :=
  Session.start.heap.replay journal

namespace Session

def changes (session : Session) (depth : Nat) (request : Request) : List Change :=
  (session.registers.perform depth request.operation { heap := session.heap }).2.journal.toList

/-- The sessions that admitted requests lead to, each with the journal of all changes so far. -/
inductive Run (admits : List Change -> Session -> Operation -> Prop) :
    List Change -> Session -> Prop where
  | start : Run admits [] Session.start
  | perform {journal : List Change} {session : Session} (depth : Nat) (request : Request) :
      Run admits journal session -> admits journal session request.operation ->
        Run admits (journal ++ session.changes depth request) (session.perform depth request).2

def after (session : Session) : List Request -> Session
  | [] => session
  | request :: rest => (session.perform maxDepth request).2.after rest

end Session

/-- A heap at some point of a session, between two requests or in the middle of one. -/
def Heap.Reachable (heap : Heap) : Prop :=
  ∃ journal session before, Session.Run (fun _ _ _ => True) journal session ∧
    before <+: journal ∧ heap = .ofJournal before

/-- Which scopes may get new variables: not all need to, but the opened ones do. -/
structure Ownership (own : List Change -> ScopeId -> Prop) : Prop where
  present : ∀ journal id, own journal id -> (Heap.ofJournal journal).Has (.scope id)
  lasts : ∀ journal change id, own journal id -> own (journal ++ [change]) id
  opens : ∀ journal change id,
    change.opened? (Heap.ofJournal journal) = some id -> own (journal ++ [change]) id

inductive Lawful (own : List Change -> ScopeId -> Prop) : List Change -> Prop where
  | nil : Lawful own []
  | snoc {journal : List Change} {change : Change} : Lawful own journal ->
      (World.ofHeap (.ofJournal journal) (own journal)).Permits change ->
        Lawful own (journal ++ [change])

@[simp]
theorem Heap.ofJournal_append (journal changes : List Change) :
    Heap.ofJournal (journal ++ changes) = (Heap.ofJournal journal).replay changes :=
  Heap.replay_append _ journal changes

theorem Heap.ofJournal_snoc (journal : List Change) (change : Change) :
    Heap.ofJournal (journal ++ [change]) = (Heap.ofJournal journal).apply change :=
  Heap.ofJournal_append journal [change]

theorem Lawful.of_begins {own : List Change -> ScopeId -> Prop} {journal before : List Change}
    (lawful : Lawful own journal) (begins : before <+: journal) : Lawful own before := by
  induction lawful with
  | nil => rw [List.prefix_nil.mp begins]; exact .nil
  | snoc lawful permitted ih =>
      rcases List.prefix_concat_iff.mp begins with same | shorter
      · rw [same]; exact .snoc lawful permitted
      · exact ih shorter

namespace Lawful

variable {own : List Change -> ScopeId -> Prop}

theorem extend (ownership : Ownership own) {journal changes : List Change} {world : World}
    (lawful : Lawful own journal) (same : world.heap = .ofJournal journal)
    (present : ∀ handle, world.known handle -> world.heap.Has handle)
    (owned : ∀ id, world.own id -> own journal id) (permitted : world.PermitsAll changes) :
    Lawful own (journal ++ changes) := by
  induction changes generalizing journal world with
  | nil => rwa [List.append_nil]
  | cons change rest ih =>
      have within : world.Within (World.ofHeap (.ofJournal journal) (own journal)) :=
        ⟨fun handle known => same ▸ present handle known, owned⟩
      rw [List.append_cons]
      apply ih (.snoc lawful (permitted.1.mono same within)) ?_ ?_ ?_ permitted.2
      · rw [World.heap_apply, same, Heap.ofJournal_snoc]
      · intro handle known
        exact (world.heap.has_apply change handle).mpr (known.imp_left (present handle))
      · intro id known
        rcases known with old | opened
        · exact ownership.lasts journal change id (owned id old)
        · exact ownership.opens journal change id (same ▸ opened)

theorem wellFormed (ownership : Ownership own) {journal : List Change}
    (lawful : Lawful own journal) : (Heap.ofJournal journal).WellFormed := by
  induction lawful with
  | nil => exact .start
  | snoc lawful permitted formed =>
      rw [Heap.ofJournal_snoc]
      exact formed.apply (ownership.present _) permitted

end Lawful

namespace Session

structure Sound (own : List Change -> ScopeId -> Prop) (journal : List Change)
    (session : Session) : Prop where
  heap : session.heap = .ofJournal journal
  lawful : Lawful own journal
  registers : (World.ofHeap session.heap (own journal)).Knows session.registers

theorem perform_heap (session : Session) (depth : Nat) (request : Request) :
    (session.perform depth request).2.heap =
      (session.registers.perform depth request.operation { heap := session.heap }).2.heap := by
  unfold perform
  rcases session.registers.perform depth request.operation { heap := session.heap } with
    ⟨result | (_ | error) | _, state⟩
  · dsimp only [store]
    split <;> rfl
  · rfl
  · rfl
  · rfl

theorem perform_registers {world : World} {session : Session} {depth : Nat} {request : Request}
    (known : world.Knows session.registers)
    (resultKnown : world.Knows
      (session.registers.perform depth request.operation { heap := session.heap }).1) :
    world.Knows (session.perform depth request).2.registers := by
  unfold perform
  rcases performed : session.registers.perform depth request.operation { heap := session.heap } with
    ⟨result | (_ | error) | _, state⟩
  · rw [performed] at resultKnown
    dsimp only [store]
    split
    · next name entry _ stored =>
        -- A request stores at most the object of its result.
        apply known.insert name
        cases result with
        | object held =>
            have same : held = entry := Option.some.inj stored
            exact same ▸ resultKnown
        | function | cls | plain => cases stored
    · exact known
  · exact known
  · exact known
  · exact known

variable {own : List Change -> ScopeId -> Prop} {journal : List Change} {session : Session}

theorem Sound.start : Session.Sound own [] Session.start where
  heap := rfl
  lawful := .nil
  registers := by
    refine World.knows_empty.insert globalsName ((World.knows_scopeEntry _).mpr ?_)
    exact Nat.zero_lt_one

theorem Sound.closed (ownership : Ownership own) (sound : session.Sound own journal) :
    (World.ofHeap session.heap (own journal)).Closed := by
  have formed := sound.lawful.wellFormed ownership
  rw [← sound.heap] at formed
  refine ⟨fun _ has => has, formed.linked, ?_⟩
  intro id owned
  rw [sound.heap]
  exact ownership.present journal id owned

theorem Sound.perform (ownership : Ownership own) (sound : session.Sound own journal)
    (depth : Nat) (request : Request)
    (definable : ∀ scope name value id, request.operation = .define scope name value ->
      session.registers.scope? scope = some id -> own journal id) :
    (session.perform depth request).2.Sound own (journal ++ session.changes depth request) := by
  have closed := sound.closed ownership
  obtain ⟨changes, permitted, heap, log, known⟩ :=
    Registers.perform_confined sound.registers depth request.operation definable closed
      { heap := session.heap } rfl
  have same : session.changes depth request = changes := by
    rw [Session.changes, log, List.nil_append]
  have heapAfter : (session.perform depth request).2.heap = session.heap.replay changes := by
    rw [perform_heap, heap]
    rfl
  rw [same]
  refine ⟨?_, ?_, ?_⟩
  · rw [heapAfter, Heap.ofJournal_append, sound.heap]
  · exact sound.lawful.extend ownership sound.heap (fun _ has => has) (fun _ held => held) permitted
  · intro target link
    have held := perform_registers (sound.registers.mono (.replay _ changes)) known target link
    have present := (closed.replay permitted).present target held
    rw [World.heap_replay] at present
    exact heapAfter ▸ present

theorem Run.sound (ownership : Ownership own)
    {admits : List Change -> Session -> Operation -> Prop}
    (definable : ∀ journal session scope name value id, session.Sound own journal ->
      admits journal session (.define scope name value) ->
        session.registers.scope? scope = some id -> own journal id)
    (run : Session.Run admits journal session) : session.Sound own journal := by
  induction run with
  | start => exact .start
  | perform depth request _ admitted sound =>
      refine sound.perform ownership depth request ?_
      intro scope name value id isDefine found
      exact definable _ _ scope name value id sound (isDefine ▸ admitted) found

end Session

def everyScope (journal : List Change) (id : ScopeId) : Prop :=
  (Heap.ofJournal journal).Has (.scope id)

theorem everyScope_ownership : Ownership everyScope where
  present _ _ has := has
  lasts journal change id has := by
    rw [everyScope, Heap.ofJournal_snoc, Heap.has_apply]
    exact .inl has
  opens journal change id opened := by
    rw [everyScope, Heap.ofJournal_snoc, Heap.has_apply]
    exact .inr (Change.created?_of_opened opened)

section Reachable

variable {admits : List Change -> Session -> Operation -> Prop} {journal : List Change}
  {session : Session}

theorem Session.Run.everyScope_sound (run : Session.Run admits journal session) :
    session.Sound everyScope journal := by
  refine run.sound everyScope_ownership ?_
  intro journal session scope name value id sound _ found
  rw [everyScope, ← sound.heap]
  exact Registers.scope?_known sound.registers found

theorem Session.Run.wellFormed (run : Session.Run admits journal session) {before : List Change}
    (begins : before <+: journal) : (Heap.ofJournal before).WellFormed :=
  (run.everyScope_sound.lawful.of_begins begins).wellFormed everyScope_ownership

theorem Session.Run.reachable (run : Session.Run (fun _ _ _ => True) journal session) :
    session.heap.Reachable :=
  ⟨journal, session, journal, run, List.prefix_rfl, run.everyScope_sound.heap⟩

theorem Session.Run.after (run : Session.Run (fun _ _ _ => True) journal session)
    (requests : List Request) :
    ∃ later, Session.Run (fun _ _ _ => True) later (session.after requests) := by
  induction requests generalizing journal session with
  | nil => exact ⟨journal, run⟩
  | cons request rest ih => exact ih (.perform maxDepth request run trivial)

theorem Session.reachable_after (requests : List Request) :
    (Session.start.after requests).heap.Reachable := by
  obtain ⟨journal, run⟩ := Session.Run.start.after requests
  exact run.reachable

theorem Heap.Reachable.wellFormed {heap : Heap} (reachable : heap.Reachable) :
    heap.WellFormed := by
  obtain ⟨journal, session, before, run, begins, rfl⟩ := reachable
  exact run.wellFormed begins

/-- At every point of every session lookups end, and take no scope twice. -/
theorem Session.Run.lookups_end (run : Session.Run (fun _ _ _ => True) journal session) :
    session.heap = .ofJournal journal ∧
      (∀ target, Refers.links session.registers target -> session.heap.Has target) ∧
      ∀ before, before <+: journal -> ∀ heap, heap = Heap.ofJournal before ->
        heap.WellFormed ∧
          (∀ id, ∃ chain, Chain (fun id => (heap.scope id).enclosing) id chain ∧ chain.Nodup ∧
            ∀ other, Chain (fun id => (heap.scope id).enclosing) id other -> other = chain) ∧
          (∀ id, ∃ chain, Chain (fun id => (heap.cls id).superclass) id chain ∧ chain.Nodup ∧
            ∀ other, Chain (fun id => (heap.cls id).superclass) id other -> other = chain) ∧
          (∀ id name, heap.Walk name [] id (heap.holder? id name)) ∧
          ∀ id name, heap.Ascent name id (heap.findMethod id name) := by
  have sound := run.everyScope_sound
  refine ⟨sound.heap, sound.registers, ?_⟩
  rintro before begins heap rfl
  have formed := run.wellFormed begins
  refine ⟨formed, ?_, ?_, ?_, ?_⟩
  · intro id
    obtain ⟨chain, links⟩ := Chain.exists_of_rank formed.enclosing id
    exact ⟨chain, links, links.nodup formed.enclosing, fun other others => others.unique links⟩
  · intro id
    obtain ⟨chain, links⟩ := Chain.exists_of_rank formed.superclass id
    exact ⟨chain, links, links.nodup formed.superclass, fun other others => others.unique links⟩
  · intro id name
    exact formed.walk name id [] (by simp)
  · intro id name
    exact formed.ascent name id

theorem Session.Run.lookups_end_subclass :
    let base : Request := { operation := .newClass (some "A") none [], storeAs := some "A" }
    let derived : Request := { operation := .newClass (some "B") (some "A") [] }
    let session := ((Session.start.perform 1 base).2.perform 1 derived).2
    (session.heap.cls ⟨1⟩).superclass = some ⟨0⟩ ∧ session.heap.WellFormed ∧
      session.heap.Ascent "m" ⟨1⟩ none := by
  intro base derived session
  have first : Session.Run (fun _ _ _ => True) _ (Session.start.perform 1 base).2 :=
    .perform 1 base .start trivial
  obtain ⟨same, _, points⟩ := Session.Run.lookups_end (.perform 1 derived first trivial)
  obtain ⟨formed, _, _, _, ascents⟩ := points _ List.prefix_rfl session.heap same
  have missing : session.heap.findMethod ⟨1⟩ "m" = none := by decide +kernel
  refine ⟨rfl, formed, ?_⟩
  rw [← missing]
  exact ascents ⟨1⟩ "m"

end Reachable

end Lox
