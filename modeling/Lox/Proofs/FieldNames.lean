import Lox.Proofs.Definedness
import Lox.Proofs.Inspection

set_option autoImplicit false

namespace Lox

namespace Heap

variable (heap : Heap) (object : InstanceId)

theorem mem_fieldNames_iff (name : String) :
    name ∈ heap.fieldNames object <-> (heap.inst object).fields.contains name := by
  rw [fieldNames, List.mem_mergeSort, Bindings.mem_keys_iff]

theorem fieldNames_increasing :
    ((heap.fieldNames object).map fun name => name.toList.map Char.toNat).Pairwise (· < ·) := by
  have ordered : (heap.fieldNames object).Pairwise (· ≤ ·) := sorted_mergeSort _
  have distinct : (heap.fieldNames object).Pairwise (· ≠ ·) :=
    (List.mergeSort_perm _ _).nodup_iff.mpr (Bindings.nodup_keys _)
  refine List.pairwise_map.mpr ((ordered.and distinct).imp ?_)
  rintro first second ⟨before, differs⟩
  have less : first < second :=
    String.not_le.mp fun after => differs (String.le_antisymm before after)
  exact List.map_lt (fun _ _ smaller => smaller) (String.lt_iff.mp less)

end Heap

theorem Lawful.field_iff {own : List Change -> ScopeId -> Prop} {journal : List Change}
    (lawful : Lawful own journal) (object : InstanceId) (name : String) :
    ((Heap.ofJournal journal).inst object).fields.contains name <->
      ∃ value, .setField object name value ∈ journal := by
  have empty : (default : Instance).fields.contains name = false := rfl
  induction lawful with
  | nil =>
      have absent : ¬ (Heap.ofJournal []).Has (.inst object) := Nat.not_lt_zero _
      rw [Heap.inst_absent absent]
      simp [empty]
  | @snoc journal change lawful permitted ih =>
      rw [Heap.ofJournal_snoc, Heap.inst_apply]
      cases change with
      | newInstance cls =>
          by_cases isNew : object = (Heap.ofJournal journal).nextInstance
          · -- Nothing was set on the instance before there was one.
            have absent : ¬ (Heap.ofJournal journal).Has (.inst object) :=
              isNew ▸ Nat.lt_irrefl _
            rw [Heap.inst_absent absent] at ih
            simpa [isNew, empty] using ih
          · simpa [isNew] using ih
      | setField target field stored =>
          have present : target.index < (Heap.ofJournal journal).instances.size := permitted.1
          by_cases hit : object = target
          · subst hit
            by_cases same : name = field
            · simp [present, same]
            · simpa [present, same] using ih
          · simpa [hit] using ih
      | newScope | bindScope | newClosure | newClass | define | assign => simpa using ih

/--
The fields of an instance are the names that were ever set on it, by whomever and in
whatever order.
-/
theorem Session.Run.field_names_exact {journal : List Change} {session : Session}
    (run : Session.Run (fun _ _ _ => True) journal session) :
    (∀ (ε : Type) (object : InstanceId) (name : String) (value : Value) (state : State),
      ∃ log, (object.set name value : Exec ε Unit) state =
        (.done (), {
          heap := state.heap.setField object name value
          log
          journal := state.journal.push (.setField object name value) })) ∧
    session.heap = .ofJournal journal ∧
    ∀ before, before <+: journal -> ∀ heap, heap = Heap.ofJournal before -> ∀ object,
      ((heap.fieldNames object).map fun name => name.toList.map Char.toNat).Pairwise (· < ·) ∧
      (∀ name, name ∈ heap.fieldNames object <->
        ∃ value, .setField object name value ∈ before) ∧
      ∀ otherJournal otherSession, Session.Run (fun _ _ _ => True) otherJournal otherSession ->
        ∀ otherBefore, otherBefore <+: otherJournal -> ∀ other,
          (∀ name, (∃ value, .setField other name value ∈ otherBefore) <->
            ∃ value, .setField object name value ∈ before) ->
          (Heap.ofJournal otherBefore).fieldNames other = heap.fieldNames object := by
  have lawful := run.everyScope_sound.lawful
  refine ⟨fun ε object name value state => ⟨_, object.set_apply name value state⟩,
    run.everyScope_sound.heap, ?_⟩
  rintro before begins heap rfl object
  have fields := (lawful.of_begins begins).field_iff object
  refine ⟨Heap.fieldNames_increasing _ object, fun name => ?_, ?_⟩
  · rw [Heap.mem_fieldNames_iff, fields]
  · intro otherJournal otherSession otherRun otherBefore otherBegins other same
    have otherFields := (otherRun.everyScope_sound.lawful.of_begins otherBegins).field_iff other
    refine Heap.fieldNames_congr fun name => Bool.eq_iff_iff.mpr ?_
    rw [fields, otherFields, same]

-- A class with a method, and an instance whose fields are set under two names for it.
def aliasingRequests : List Request := [
  { operation := .newClass (some "A") none
      [some (.make { decl := .inline ⟨.identifier "m" 1, [], []⟩ })],
    storeAs := some "A" },
  { operation := .newInstance "A", storeAs := some "o" },
  { operation := .define globalsName "x" (.register "o") },
  { operation := .newFunction {
      decl := .inline ⟨.identifier "f" 1, [], [.set (.var "x" 2) "a" (.const .nil) 2]⟩ },
    storeAs := some "f" },
  { operation := .set "o" (.inline "b" 3) (.text "first") },
  { operation := .call (.register "f") [] 4 },
  { operation := .set "o" (.inline "b" 5) (.text "again") }]

theorem Session.Run.field_names_exact_aliased :
    let session := Session.start.after aliasingRequests
    ∃ journal, Session.Run (fun _ _ _ => True) journal session ∧
      session.heap.fieldNames ⟨0⟩ = ["a", "b"] ∧
      (∃ value, .setField ⟨0⟩ "a" value ∈ journal) ∧
      (session.heap.findMethod (session.heap.inst ⟨0⟩).cls "m").isSome ∧
      ∀ value, .setField ⟨0⟩ "m" value ∉ journal := by
  intro session
  have begun : Session.Run (fun _ _ _ => True) [] Session.start := .start
  obtain ⟨journal, run⟩ := begun.after aliasingRequests
  obtain ⟨_, same, points⟩ := Session.Run.field_names_exact run
  obtain ⟨_, names, _⟩ := points journal List.prefix_rfl session.heap same ⟨0⟩
  have keys : (session.heap.inst ⟨0⟩).fields.keys = ["b", "a"] := by decide +kernel
  have listed : session.heap.fieldNames ⟨0⟩ = ["a", "b"] := by
    rw [Heap.fieldNames, keys]
    simp [List.mergeSort]
  rw [listed] at names
  refine ⟨journal, run, listed, (names "a").mp (by simp), by decide +kernel, ?_⟩
  intro value set
  have isField := (names "m").mpr ⟨value, set⟩
  simp at isField

end Lox
