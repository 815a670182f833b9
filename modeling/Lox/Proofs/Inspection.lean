import Lox.Proofs.History

set_option autoImplicit false

namespace Lox

-- A scope shows older scopes and what is no scope, a class older classes and functions.
def Handle.rank : Handle -> Nat × Nat
  | .scope id => (2, id.index)
  | .cls id => (1, id.index)
  | .closure _ | .inst _ => (0, 0)

namespace Heap

/-- The inspection text of the first object has that of the second in it. -/
inductive Shows (heap : Heap) : Handle -> Handle -> Prop where
  | held {id : ScopeId} {name : String} {value : Value} {target : Handle} :
      (heap.scope id).vars.get? name = some value -> value.handle? = some target ->
        Shows heap (.scope id) target
  | enclosing {id outer : ScopeId} :
      (heap.scope id).enclosing = some outer -> Shows heap (.scope id) (.scope outer)
  | method {id : ClassId} {name : String} {method : ClosureId} :
      (heap.cls id).methods.get? name = some method -> Shows heap (.cls id) (.closure method)
  | superclass {id parent : ClassId} :
      (heap.cls id).superclass = some parent -> Shows heap (.cls id) (.cls parent)

def layoutValue (heap : Heap) (text : Handle -> String) : Value -> String
  | .closure id => Text.applied "Function" (text (.closure id))
  | .cls id => Text.applied "Class" (text (.cls id))
  | .inst id => Text.applied "Instance" (text (.inst id))
  | value => heap.debug value

def layout (heap : Heap) (text : Handle -> String) : Handle -> String
  | .scope id =>
      let scope := heap.scope id
      Text.record "Environment" [
        ("values", Text.mapping (scope.vars.entries.map fun entry =>
          (Text.quoted entry.1, heap.layoutValue text entry.2))),
        ("enclosing", Text.optional (scope.enclosing.map fun outer =>
          Text.record "RefCell" [("value", text (.scope outer))]))]
  | .cls id =>
      let cls := heap.cls id
      Text.record "LoxClass" [
        ("name", Text.quoted cls.name),
        ("superclass", Text.optional (cls.superclass.map fun parent => text (.cls parent))),
        ("methods", Text.mapping (cls.methods.entries.map fun entry =>
          (Text.quoted entry.1, text (.closure entry.2))))]
  | .closure id => (heap.closure id).debug
  | .inst id => heap.debugInstance id

/-- How an object is printed: those that it shows first, and then itself around them. -/
inductive Prints (heap : Heap) : Handle -> String -> Prop where
  | around {handle : Handle} {text : Handle -> String} :
      (∀ target, heap.Shows handle target -> Prints heap target (text target)) ->
        Prints heap handle (heap.layout text handle)

def inspect (heap : Heap) : Handle -> String
  | .scope id => heap.debugScope id
  | .closure id => (heap.closure id).debug
  | .cls id => heap.debugClass id
  | .inst id => heap.debugInstance id

theorem debug_eq_layout (heap : Heap) (value : Value) :
    heap.debug value = heap.layoutValue heap.inspect value := by
  cases value <;> rfl

theorem debugClass_eq (heap : Heap) (id : ClassId) :
    heap.debugClass id =
      Text.record "LoxClass" [
        ("name", Text.quoted (heap.cls id).name),
        ("superclass", Text.optional ((heap.superclass? id).map heap.debugClass)),
        ("methods", Text.mapping ((heap.cls id).methods.entries.map fun entry =>
          (Text.quoted entry.1, (heap.closure entry.2).debug)))] := by
  rw [debugClass]
  split
  · next parent link => rw [link]; rfl
  · next link => rw [link]; rfl

theorem debugClass_congr {left right : Heap} (inside : ClassId -> Prop)
    (upward : ∀ id parent, inside id -> left.superclass? id = some parent -> inside parent)
    (links : ∀ id, right.superclass? id = left.superclass? id)
    (names : ∀ id, (right.cls id).name = (left.cls id).name)
    (methods : ∀ id, inside id ->
      ((right.cls id).methods.entries.map fun entry =>
        (Text.quoted entry.1, (right.closure entry.2).debug)) =
      (left.cls id).methods.entries.map fun entry =>
        (Text.quoted entry.1, (left.closure entry.2).debug))
    {id : ClassId} (member : inside id) : right.debugClass id = left.debugClass id := by
  induction measured : id.index using Nat.strongRecOn generalizing id with
  | ind index ih =>
      have above : (right.superclass? id).map right.debugClass =
          (left.superclass? id).map left.debugClass := by
        rw [links]
        refine Option.map_congr fun parent link => ?_
        exact ih parent.index (measured ▸ superclass?_older link) (upward id parent member link) rfl
      rw [debugClass_eq, debugClass_eq, above, names, methods id member]

theorem debugScope_eq (heap : Heap) (id : ScopeId) :
    heap.debugScope id =
      Text.record "Environment" [
        ("values", Text.mapping ((heap.scope id).vars.entries.map fun entry =>
          (Text.quoted entry.1, heap.debug entry.2))),
        ("enclosing", Text.optional ((heap.enclosing? id).map fun outer =>
          Text.record "RefCell" [("value", heap.debugScope outer)]))] := by
  rw [debugScope]
  split
  · next parent link => rw [link]; rfl
  · next link => rw [link]; rfl

namespace WellFormed

variable {heap : Heap}

theorem inspect_eq_layout (formed : heap.WellFormed) (handle : Handle) :
    heap.inspect handle = heap.layout heap.inspect handle := by
  cases handle with
  | scope id =>
      rw [inspect, debugScope_eq, formed.enclosing?_eq, layout]
      simp only [debug_eq_layout]
      rfl
  | cls id =>
      rw [inspect, debugClass_eq, formed.superclass?_eq]
      rfl
  | closure id | inst id => rfl

theorem shows_rank (formed : heap.WellFormed) {source target : Handle}
    (shows : heap.Shows source target) :
    Prod.Lex (· < ·) (· < ·) target.rank source.rank := by
  cases shows with
  | @held id _ value _ _ refers =>
      -- What a variable holds is no scope.
      cases value <;> cases refers <;> exact .left _ _ (by simp)
  | enclosing link => exact .right _ (formed.enclosing _ _ link)
  | method => exact .left _ _ (by simp)
  | superclass link => exact .right _ (formed.superclass _ _ link)

theorem shows_wellFounded (formed : heap.WellFormed) :
    WellFounded fun target source => heap.Shows source target :=
  Subrelation.wf (formed.shows_rank ·)
    (InvImage.wf Handle.rank (Prod.lex Nat.lt_wfRel Nat.lt_wfRel).wf)

end WellFormed

theorem layoutValue_congr {heap : Heap} {value : Value} {text other : Handle -> String}
    (same : ∀ target, value.handle? = some target -> text target = other target) :
    heap.layoutValue text value = heap.layoutValue other value := by
  cases value with
  | closure | cls | inst => simp only [layoutValue, same _ rfl]
  | native | number | text | bool | nil => rfl

theorem layout_congr {heap : Heap} {handle : Handle} {text other : Handle -> String}
    (same : ∀ target, heap.Shows handle target -> text target = other target) :
    heap.layout text handle = heap.layout other handle := by
  cases handle with
  | scope id =>
      have values : ((heap.scope id).vars.entries.map fun entry =>
          (Text.quoted entry.1, heap.layoutValue text entry.2)) =
            (heap.scope id).vars.entries.map fun entry =>
              (Text.quoted entry.1, heap.layoutValue other entry.2) := by
        refine List.map_congr_left fun entry listed => ?_
        rw [layoutValue_congr fun target refers =>
          same target (.held ((Bindings.mem_entries_iff _ _ _).mp listed) refers)]
      have around : ((heap.scope id).enclosing.map fun outer =>
          Text.record "RefCell" [("value", text (.scope outer))]) =
            (heap.scope id).enclosing.map fun outer =>
              Text.record "RefCell" [("value", other (.scope outer))] :=
        Option.map_congr fun outer link => by rw [same _ (.enclosing link)]
      simp only [layout, values, around]
  | cls id =>
      have methods : ((heap.cls id).methods.entries.map fun entry =>
          (Text.quoted entry.1, text (.closure entry.2))) =
            (heap.cls id).methods.entries.map fun entry =>
              (Text.quoted entry.1, other (.closure entry.2)) := by
        refine List.map_congr_left fun entry listed => ?_
        rw [same _ (.method ((Bindings.mem_entries_iff _ _ _).mp listed))]
      have above : ((heap.cls id).superclass.map fun parent => text (.cls parent)) =
          (heap.cls id).superclass.map fun parent => other (.cls parent) :=
        Option.map_congr fun parent link => same _ (.superclass link)
      simp only [layout, methods, above]
  | closure id | inst id => rfl

theorem WellFormed.prints_iff {heap : Heap} (formed : heap.WellFormed) (handle : Handle)
    (text : String) : heap.Prints handle text <-> text = heap.inspect handle := by
  constructor
  · intro prints
    induction prints with
    | around _ ih => rw [formed.inspect_eq_layout, layout_congr ih]
  · rintro rfl
    -- Everything shown has been printed before, since showing goes down in rank.
    induction handle using formed.shows_wellFounded.induction with
    | _ handle ih =>
        rw [formed.inspect_eq_layout]
        exact .around ih

/-- Heaps that agree on classes, on the heads of functions and on the names of fields. -/
structure SameOutline (left right : Heap) : Prop where
  cls : ∀ id, right.cls id = left.cls id
  name : ∀ id, (right.closure id).name = (left.closure id).name
  arity : ∀ id, (right.closure id).arity = (left.closure id).arity
  isInitializer : ∀ id, (right.closure id).isInitializer = (left.closure id).isInitializer
  instanceClass : ∀ id, (right.inst id).cls = (left.inst id).cls
  fields : ∀ id name,
    (right.inst id).fields.contains name = (left.inst id).fields.contains name

theorem sorted_mergeSort (names : List String) :
    (names.mergeSort fun left right => decide (left ≤ right)).Pairwise (· ≤ ·) := by
  refine (List.pairwise_mergeSort ?_ ?_ names).imp of_decide_eq_true
  · intro first second third
    simpa using String.le_trans
  · intro first second
    simpa using String.le_total first second

theorem fieldNames_congr {left right : Heap} {id other : InstanceId}
    (same : ∀ name, (right.inst other).fields.contains name =
      (left.inst id).fields.contains name) :
    right.fieldNames other = left.fieldNames id := by
  have names : (right.fieldNames other).Perm (left.fieldNames id) :=
    (List.mergeSort_perm _ _).trans
      ((Bindings.keys_perm same).trans (List.mergeSort_perm _ _).symm)
  -- Two sorted lists of the same names are one list.
  refine names.eq_of_pairwise ?_ (sorted_mergeSort _) (sorted_mergeSort _)
  intro first second _ _ before after
  exact String.le_antisymm before after

namespace SameOutline

theorem refl (heap : Heap) : heap.SameOutline heap :=
  ⟨fun _ => rfl, fun _ => rfl, fun _ => rfl, fun _ => rfl, fun _ => rfl, fun _ _ => rfl⟩

variable {left right : Heap} (same : left.SameOutline right)

include same

theorem superclass? (id : ClassId) : right.superclass? id = left.superclass? id := by
  rw [Heap.superclass?, same.cls, Heap.superclass?]

theorem closure_debug (id : ClosureId) : (right.closure id).debug = (left.closure id).debug := by
  simp only [Closure.debug, same.name, same.arity, same.isInitializer]

theorem debugInstance (id : InstanceId) : right.debugInstance id = left.debugInstance id := by
  simp only [Heap.debugInstance, classOf, same.instanceClass, same.cls,
    fieldNames_congr (same.fields id)]

theorem debugClass (id : ClassId) : right.debugClass id = left.debugClass id := by
  refine debugClass_congr (fun _ => True) (fun _ _ _ _ => trivial) same.superclass? ?_ ?_ trivial
  · simp only [same.cls, implies_true]
  · simp only [same.cls, same.closure_debug, implies_true]

theorem debug (value : Value) : right.debug value = left.debug value := by
  cases value with
  | closure id => simp only [Heap.debug, same.closure_debug]
  | cls id => simp only [Heap.debug, same.debugClass]
  | inst id => simp only [Heap.debug, same.debugInstance]
  | native | number | text | bool | nil => rfl

end SameOutline

theorem sameOutline_define (heap : Heap) (scope : ScopeId) (name : String) (value : Value) :
    heap.SameOutline (heap.define scope name value) :=
  ⟨fun _ => rfl, fun _ => rfl, fun _ => rfl, fun _ => rfl, fun _ => rfl, fun _ _ => rfl⟩

theorem sameOutline_setField {heap : Heap} {object : InstanceId} {name : String}
    (present : (heap.inst object).fields.contains name) (value : Value) :
    heap.SameOutline (heap.setField object name value) where
  cls _ := rfl
  name _ := rfl
  arity _ := rfl
  isInitializer _ := rfl
  instanceClass id := by
    rw [inst_setField]
    split
    · next hit => rw [hit.1]
    · rfl
  fields id query := by
    rw [inst_setField]
    split
    · next hit => grind [Bindings.contains_insert]
    · rfl

end Heap

section Operations

variable {ε : Type} (state : State) (scope : ScopeId) (object : InstanceId) (name : String)
  (value : Value)

theorem ScopeId.define_outline :
    state.heap.SameOutline ((scope.define name value : Exec ε Unit) state).2.heap :=
  state.heap.sameOutline_define scope name value

theorem ScopeId.assign_outline (line : Nat) :
    state.heap.SameOutline (scope.assign name value line state).2.heap := by
  simp only [ScopeId.assign, Exec.read_bind]
  cases state.heap.holder? scope name with
  | none => exact .refl _
  | some holder => exact state.heap.sameOutline_define holder name value

theorem InstanceId.set_outline (present : (state.heap.inst object).fields.contains name) :
    state.heap.SameOutline ((object.set name value : Exec ε Unit) state).2.heap :=
  Heap.sameOutline_setField present value

end Operations

/--
Every inspection text is finite, whatever circles objects form, and that of a value shows
neither variables nor what fields hold.
-/
theorem inspection_shallow {ε : Type} :
    (∀ heap : Heap, heap.Reachable ->
      (WellFounded fun target source => heap.Shows source target) ∧
        (∀ handle text, heap.Prints handle text <-> text = heap.inspect handle) ∧
        ∀ value, heap.debug value = heap.layoutValue heap.inspect value) ∧
      (∀ left right : Heap, left.SameOutline right ->
        ∀ value, right.debug value = left.debug value) ∧
      ∀ (state : State) (shown : Value) (name : String) (value : Value),
        (∀ scope : ScopeId,
          ((scope.define name value : Exec ε Unit) state).2.heap.debug shown =
            state.heap.debug shown) ∧
          (∀ (scope : ScopeId) (line : Nat),
            (scope.assign name value line state).2.heap.debug shown = state.heap.debug shown) ∧
          ∀ object : InstanceId, (state.heap.inst object).fields.contains name ->
            ((object.set name value : Exec ε Unit) state).2.heap.debug shown =
              state.heap.debug shown := by
  refine ⟨?_, fun left right same => same.debug, ?_⟩
  · intro heap reachable
    have formed := reachable.wellFormed
    exact ⟨formed.shows_wellFounded, formed.prints_iff, heap.debug_eq_layout⟩
  · intro state shown name value
    refine ⟨?_, ?_, ?_⟩
    · intro scope
      exact (ScopeId.define_outline state scope name value).debug shown
    · intro scope line
      exact (ScopeId.assign_outline state scope name value line).debug shown
    · intro object present
      exact (InstanceId.set_outline state object name value present).debug shown

-- A scope with a function that sees it, and an instance that holds itself and a method of its own.
def circularRequests : List Request := [
  { operation := .newFunction { decl := .inline ⟨.identifier "f" 1, [], []⟩ }
    storeAs := some "f" },
  { operation := .define globalsName "f" (.register "f") },
  { operation := .newClass (some "C") none [some (.copy "f")], storeAs := some "C" },
  { operation := .newInstance "C", storeAs := some "c" },
  { operation := .get "c" (.inline "f" 1), storeAs := some "method" },
  { operation := .set "c" (.inline "self" 1) (.register "c") },
  { operation := .set "c" (.inline "method" 1) (.register "method") }]

theorem inspection_shallow_circular :
    let heap := (Session.start.after circularRequests).heap
    (heap.scope ⟨0⟩).vars.get? "f" = some (.closure ⟨0⟩) ∧ (heap.closure ⟨0⟩).scope = ⟨0⟩ ∧
      (heap.inst ⟨0⟩).fields.get? "self" = some (.inst ⟨0⟩) ∧
      heap.lookup (heap.closure ⟨2⟩).scope receiverName = some (.inst ⟨0⟩) ∧
      (heap.inst ⟨0⟩).fields.get? "method" = some (.closure ⟨2⟩) ∧
      heap.Prints (.scope ⟨0⟩) (heap.debugScope ⟨0⟩) ∧
      heap.Prints (.inst ⟨0⟩) (heap.debugInstance ⟨0⟩) ∧
      (heap.setField ⟨0⟩ "self" .nil).debug (.inst ⟨0⟩) = heap.debug (.inst ⟨0⟩) := by
  intro heap
  obtain ⟨texts, outlines, _⟩ := @inspection_shallow Error
  obtain ⟨_, prints, _⟩ := texts heap (Session.reachable_after circularRequests)
  refine ⟨by decide +kernel, by decide +kernel, by decide +kernel, by decide +kernel,
    by decide +kernel, (prints _ _).mpr rfl, (prints _ _).mpr rfl, ?_⟩
  exact outlines _ _ (Heap.sameOutline_setField (by decide +kernel) .nil) (.inst ⟨0⟩)

end Lox
