import Lox.Proofs.World
import Lox.Script.Eval

set_option autoImplicit false

namespace Lox

variable {ε δ α β : Type}

/-- From the heap of the world, the computation goes through permitted changes to known results. -/
def Exec.Confined [Refers ε] [Refers α] (action : Exec ε α) (world : World) : Prop :=
  world.Closed -> ∀ state : State, state.heap = world.heap -> ∃ changes,
    world.PermitsAll changes ∧
      (action state).2.heap = world.heap.replay changes ∧
      (action state).2.journal.toList = state.journal.toList ++ changes ∧
      (world.replay changes).Knows (action state).1

namespace Exec.Confined

variable [Refers ε] [Refers δ] [Refers α] [Refers β] {world : World}

theorem of_steady {action : Exec ε α}
    (steady : ∀ state, (action state).2.heap = state.heap ∧
      (action state).2.journal = state.journal)
    (known : world.Closed -> ∀ state : State, state.heap = world.heap ->
      world.Knows (action state).1) :
    action.Confined world := by
  intro closed state same
  refine ⟨[], trivial, ?_, ?_, known closed state same⟩
  · rw [(steady state).1, same, Heap.replay_nil]
  · rw [(steady state).2, List.append_nil]

theorem pure {value : α} (known : world.Knows value) :
    (Pure.pure value : Exec ε α).Confined world :=
  of_steady (fun _ => ⟨rfl, rfl⟩) fun _ _ _ => known

theorem fail {error : ε} (known : world.Knows error) :
    (Exec.fail error : Exec ε α).Confined world :=
  of_steady (fun _ => ⟨rfl, rfl⟩) fun _ _ _ => known

theorem exhaust : (Exec.exhaust : Exec ε α).Confined world :=
  of_steady (fun _ => ⟨rfl, rfl⟩) fun _ _ _ _ link => link.elim

theorem raise (error : Error) : (Exec.raise error : Exec Error α).Confined world :=
  of_steady (fun _ => ⟨rfl, rfl⟩) fun _ _ _ => World.knows_error error

theorem read {view : Heap -> α} (known : world.Closed -> world.Knows (view world.heap)) :
    (Exec.read view : Exec ε α).Confined world := by
  refine of_steady (fun _ => ⟨rfl, rfl⟩) fun closed state same => ?_
  have viewed := known closed
  rw [← same] at viewed
  exact viewed

theorem log_bind {event : Event} {next : Unit -> Exec ε β} (rest : (next ()).Confined world) :
    (Exec.log event >>= next).Confined world :=
  fun closed state same =>
    rest closed { state with log := state.log.push event } same

theorem logAll_bind {events : List Event} {next : Unit -> Exec ε β}
    (rest : (next ()).Confined world) : (Exec.logAll events >>= next).Confined world :=
  fun closed state same =>
    rest closed { state with log := state.log ++ events } same

omit [Refers α] in
theorem read_bind {view : Heap -> α} {next : α -> Exec ε β}
    (rest : world.Closed -> (next (view world.heap)).Confined world) :
    (Exec.read view >>= next).Confined world := by
  intro closed state same
  rw [Exec.read_bind, same]
  exact rest closed closed state same

theorem change_bind {change : Change} {next : Unit -> Exec ε β}
    (permitted : world.Permits change) (rest : (next ()).Confined (world.apply change)) :
    (Exec.change change >>= next).Confined world := by
  intro closed state same
  have applied : state.heap.apply change = (world.apply change).heap := by rw [same]; rfl
  obtain ⟨changes, allowed, heap, journal, known⟩ :=
    rest (closed.apply permitted)
      { state with heap := state.heap.apply change, journal := state.journal.push change } applied
  refine ⟨change :: changes, ⟨permitted, allowed⟩, heap, ?_, known⟩
  rw [Exec.change_bind, journal, Array.toList_push, List.append_assoc, List.singleton_append]

theorem change {change : Change} (permitted : world.Permits change) :
    (Exec.change change : Exec ε Unit).Confined world := by
  have steps : (Exec.change change : Exec ε Unit) = (Exec.change change >>= Pure.pure) :=
    (bind_pure _).symm
  rw [steps]
  exact change_bind permitted (pure (World.knows_unit ()))

omit [Refers α] in
theorem allocate_bind {view : Heap -> α} {change : Change} {next : α -> Exec ε β}
    (permitted : world.Permits change)
    (rest : (next (view world.heap)).Confined (world.apply change)) :
    (Exec.allocate view change >>= next).Confined world := by
  have steps : Exec.allocate view change >>= next =
      (Exec.read view >>= fun id => Exec.change change >>= fun _ => next id) := by
    simp only [Exec.allocate, bind_assoc, pure_bind]
  rw [steps]
  exact read_bind fun _ => change_bind permitted rest

theorem allocate {view : Heap -> α} {change : Change} (permitted : world.Permits change)
    (known : (world.apply change).Knows (view world.heap)) :
    (Exec.allocate view change : Exec ε α).Confined world := by
  have steps : (Exec.allocate view change : Exec ε α) = (Exec.allocate view change >>= Pure.pure) :=
    (bind_pure _).symm
  rw [steps]
  exact allocate_bind permitted (pure known)

theorem bind {first : Exec ε α} {next : α -> Exec ε β} (start : first.Confined world)
    (rest : ∀ later value, world.Within later -> later.Knows value ->
      (next value).Confined later) :
    (first >>= next).Confined world := by
  intro closed state same
  obtain ⟨changes, allowed, heap, journal, known⟩ := start closed state same
  have closedAfter := closed.replay allowed
  rw [Exec.bind_apply]
  cases ended : first state with
  | mk outcome after =>
      rw [ended] at heap journal known
      cases outcome with
      | failed error => exact ⟨changes, allowed, heap, journal, known⟩
      | exhausted => exact ⟨changes, allowed, heap, journal, known⟩
      | done value =>
          have sameAfter : after.heap = (world.replay changes).heap := by
            rw [World.heap_replay]
            exact heap
          obtain ⟨more, allowedMore, heapMore, journalMore, knownMore⟩ :=
            rest _ value (.replay world changes) known closedAfter after sameAfter
          refine ⟨changes ++ more, ?_, ?_, ?_, ?_⟩
          · exact (world.permitsAll_append changes more).mpr ⟨allowed, allowedMore⟩
          · rw [Heap.replay_append, ← World.heap_replay world]
            exact heapMore
          · dsimp only at journal ⊢
            rw [journalMore, journal, List.append_assoc]
          · rw [World.replay_append]
            exact knownMore

theorem mapError {convert : ε -> δ} {action : Exec ε α} (confined : action.Confined world)
    (known : ∀ later error, World.Knows later error -> later.Knows (convert error)) :
    (action.mapError convert).Confined world := by
  intro closed state same
  obtain ⟨changes, allowed, heap, journal, result⟩ := confined closed state same
  unfold Exec.mapError
  cases ended : action state with
  | mk outcome after =>
      rw [ended] at heap journal result
      refine ⟨changes, allowed, ?_⟩
      cases outcome with
      | failed error => exact ⟨heap, journal, known _ _ result⟩
      | done value => exact ⟨heap, journal, result⟩
      | exhausted => exact ⟨heap, journal, result⟩

theorem returnValue {body : Exec Unwind Unit} (confined : body.Confined world) :
    body.returnValue.Confined world := by
  intro closed state same
  obtain ⟨changes, allowed, heap, journal, result⟩ := confined closed state same
  unfold Exec.returnValue
  cases ended : body state with
  | mk outcome after =>
      rw [ended] at heap journal result
      refine ⟨changes, allowed, ?_⟩
      rcases outcome with _ | (cause | value) | _
      · exact ⟨heap, journal, World.knows_plain rfl⟩
      · exact ⟨heap, journal, World.knows_error cause⟩
      · exact ⟨heap, journal, result⟩
      · exact ⟨heap, journal, result⟩

end Exec.Confined

end Lox
