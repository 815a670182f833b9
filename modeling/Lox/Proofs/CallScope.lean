import Lox.Proofs.PropertyRead

set_option autoImplicit false

namespace Lox

namespace Bindings

variable {α : Type}

def insertAll (bindings : Bindings α) (entries : List (String × α)) : Bindings α :=
  entries.foldl (fun bindings entry => bindings.insert entry.1 entry.2) bindings

theorem get?_insertAll (bindings : Bindings α) (entries : List (String × α)) (name : String) :
    (bindings.insertAll entries).get? name =
      (entries.reverse.lookup name).or (bindings.get? name) := by
  rw [insertAll, List.foldl_eq_foldr_reverse]
  induction entries.reverse with
  | nil => rfl
  | cons entry rest ih =>
      by_cases same : name = entry.1 <;> simp [lookup_cons_eq_ite, same, ih]

variable {bindings : Bindings α} {entries : List (String × α)} {name : String}

theorem lookup_reverse_eq_none
    (absent : ∀ (position : Nat) (value : α), entries[position]? ≠ some (name, value)) :
    entries.reverse.lookup name = none := by
  refine List.lookup_eq_none_iff.mpr fun entry listed => ?_
  obtain ⟨position, found⟩ := List.mem_iff_getElem?.mp (List.mem_reverse.mp listed)
  simp only [bne_iff_ne]
  rintro rfl
  exact absent position entry.2 found

theorem get?_insertAll_last {position : Nat} {value : α}
    (listed : entries[position]? = some (name, value))
    (last : ∀ later other, entries[later]? = some (name, other) -> later ≤ position) :
    (bindings.insertAll entries).get? name = some value := by
  obtain ⟨bound, entry⟩ := List.getElem?_eq_some_iff.mp listed
  have others : (entries.drop (position + 1)).reverse.lookup name = none := by
    refine lookup_reverse_eq_none fun distance other found => ?_
    rw [List.getElem?_drop] at found
    have within := last _ other found
    omega
  have split : entries = entries.take position ++ (name, value) :: entries.drop (position + 1) := by
    rw [← entry, ← List.drop_eq_getElem_cons bound, List.take_append_drop]
  rw [get?_insertAll, split]
  simp [List.lookup_append, others]

theorem get?_insertAll_absent
    (absent : ∀ (position : Nat) (value : α), entries[position]? ≠ some (name, value)) :
    (bindings.insertAll entries).get? name = bindings.get? name := by
  rw [get?_insertAll, lookup_reverse_eq_none absent, Option.none_or]

end Bindings

namespace Closure

variable (closure : Closure) (arguments : List Value)

/-- The parameter at a position has the name, and there is an argument for it. -/
def Takes (name : String) (position : Nat) : Prop :=
  position < arguments.length ∧
    (closure.decl.params[position]?).map Token.lexeme = some name

instance (name : String) (position : Nat) :
    Decidable (closure.Takes arguments name position) :=
  inferInstanceAs (Decidable (_ ∧ _))

def entries : List (String × Value) :=
  (closure.decl.params.map Token.lexeme).zip arguments

theorem getElem?_entries (name : String) (position : Nat) (value : Value) :
    (closure.entries arguments)[position]? = some (name, value) <->
      closure.Takes arguments name position ∧ arguments[position]? = some value := by
  rw [entries, List.getElem?_zip_eq_some, List.getElem?_map, Takes]
  constructor
  · rintro ⟨named, given⟩
    exact ⟨⟨(List.getElem?_eq_some_iff.mp given).1, named⟩, given⟩
  · rintro ⟨⟨_, named⟩, given⟩
    exact ⟨named, given⟩

theorem entries_take :
    closure.entries (arguments.take closure.decl.params.length) = closure.entries arguments := by
  have whole : (closure.decl.params.map Token.lexeme).take closure.decl.params.length =
      closure.decl.params.map Token.lexeme := List.take_of_length_le (by simp)
  have short : (closure.entries arguments).length ≤ closure.decl.params.length := by
    rw [entries, List.length_zip, List.length_map]
    exact Nat.min_le_left ..
  calc
    closure.entries (arguments.take closure.decl.params.length)
      = (closure.entries arguments).take closure.decl.params.length := by
        rw [entries, entries, List.zip, List.take_zipWith, whole]
    _ = closure.entries arguments := List.take_of_length_le short

def callScope : Scope where
  vars := Bindings.empty.insertAll (closure.entries arguments)
  enclosing := some closure.scope

def conclude (value : Value) : Exec Error Value := do
  if closure.isInitializer then
    closure.scope.lookup receiverName closure.decl.name.line
  else
    Exec.log (.returned closure.name (← Exec.read (·.display value)))
    return value

end Closure

theorem Heap.display_newScope (heap : Heap) (scope : Scope) (value : Value) :
    (heap.newScope scope).display value = heap.display value := by
  cases value <;> rfl

def Heap.definitions (heap : Heap) (entries : List (String × Value)) : List Event :=
  entries.map fun entry =>
    .defining heap.nextScope entry.1 entry.2 (heap.display entry.2)

theorem ScopeId.defineAll_newScope {heap : Heap} {scope : Scope} {state : State}
    (opened : state.heap = heap.newScope scope) (entries : List (String × Value)) :
    ∃ start : State,
      start.heap = heap.newScope { scope with vars := scope.vars.insertAll entries } ∧
        start.log = state.log ++ heap.definitions entries ∧
        (heap.nextScope.defineAll entries : Exec Error Unit) state = (.done (), start) := by
  induction entries generalizing scope state with
  | nil => exact ⟨state, opened, by simp [Heap.definitions], rfl⟩
  | cons entry rest ih =>
      -- The rest is defined in a scope that could have been made with this variable.
      let after := ((heap.nextScope.define entry.1 entry.2 : Exec Error Unit) state).2
      have defined : after.heap = heap.newScope
          { scope with vars := scope.vars.insert entry.1 entry.2 } := by
        rw [← Heap.define_newScope, ← opened]
        rfl
      have reported : after.log = state.log.push
          (.defining heap.nextScope entry.1 entry.2 (heap.display entry.2)) := by
        rw [← heap.display_newScope scope, ← opened]
        rfl
      obtain ⟨start, same, said, steps⟩ := ih defined
      refine ⟨start, same, ?_, steps⟩
      rw [said, reported]
      exact Array.ext' (by simp [Heap.definitions])

theorem Closure.call_starts (closure : Closure) (arguments : List Value) (state : State) :
    ∃ start : State, start.heap = state.heap.apply (.newScope (closure.callScope arguments)) ∧
      start.log = state.log.push (.calling closure.name) ++
        state.heap.definitions (closure.entries arguments) ∧
      ∀ run, closure.call run arguments state =
        ((run closure.decl.body state.heap.nextScope).returnValue >>= closure.conclude) start := by
  let opened : State :=
    { state with
      heap := state.heap.newScope { enclosing := some closure.scope }
      log := state.log.push (.calling closure.name)
      journal := state.journal.push (.newScope { enclosing := some closure.scope }) }
  have isOpened : opened.heap = state.heap.newScope { enclosing := some closure.scope } := rfl
  obtain ⟨start, heap, said, steps⟩ :=
    ScopeId.defineAll_newScope isOpened (closure.entries arguments)
  refine ⟨start, heap, said, fun run => ?_⟩
  have entered : closure.call run arguments state =
      (state.heap.nextScope.defineAll (closure.entries arguments) >>= fun _ =>
        (run closure.decl.body state.heap.nextScope).returnValue >>= closure.conclude) opened :=
    rfl
  rw [entered, Exec.bind_apply, steps]

theorem Closure.call_apply (closure : Closure) (arguments : List Value) (state : State) :
    ∃ start : State, start.heap = state.heap.apply (.newScope (closure.callScope arguments)) ∧
      ∀ run, closure.call run arguments state =
        ((run closure.decl.body state.heap.nextScope).returnValue >>= closure.conclude) start := by
  obtain ⟨start, heap, _, runs⟩ := closure.call_starts arguments state
  exact ⟨start, heap, runs⟩

theorem Closure.call_take (closure : Closure) (run : BodyRunner) (arguments : List Value) :
    closure.call run (arguments.take closure.decl.params.length) =
      closure.call run arguments := by
  have same := closure.entries_take arguments
  unfold Closure.entries at same
  unfold Closure.call
  rw [same]

namespace Heap

variable {heap later : Heap} {scope : Scope} {outer : ScopeId}

theorem keeps_newScope (heap : Heap) (scope : Scope) :
    heap.Keeps (heap.apply (.newScope scope)) :=
  .of_created rfl

theorem lookup_newScope (formed : heap.WellFormed) (has : heap.Has (.scope outer))
    (enclosing : scope.enclosing = some outer) (name : String) :
    (heap.apply (.newScope scope)).lookup heap.nextScope name =
      (scope.vars.get? name).or (heap.lookup outer name) := by
  have opened : (heap.apply (.newScope scope)).scope heap.nextScope = scope := by
    simp [scope_apply]
  cases own : scope.vars.get? name with
  | some value =>
      have held : (heap.apply (.newScope scope)).holder? heap.nextScope name =
          some heap.nextScope := holder?_here (by simp [opened, Bindings.contains, own])
      simp [lookup, held, opened, own]
  | none =>
      have older : outer.index < heap.nextScope.index := has
      have link : (heap.apply (.newScope scope)).enclosing? heap.nextScope = some outer := by
        rw [enclosing?, opened, enclosing]
        simp [older]
      rw [Option.none_or, ← (keeps_newScope heap scope).lookup formed has name, lookup,
        holder?_outward (by simp [opened, Bindings.contains, own]) link, lookup]

theorem Keeps.refersTo (keeps : heap.Keeps later) {source : Handle} (has : heap.Has source) :
    later.RefersTo source = heap.RefersTo source := by
  cases source with
  | scope id => rw [RefersTo, keeps.scope id has, RefersTo]
  | closure id => rw [RefersTo, keeps.closure id has, RefersTo]
  | cls id => rw [RefersTo, keeps.cls id has, RefersTo]
  | inst id => rw [RefersTo, keeps.inst id has, RefersTo]

theorem not_refersTo_newScope (formed : heap.WellFormed) (has : heap.Has (.scope outer))
    (enclosing : scope.enclosing = some outer) {source : Handle}
    (present : (heap.apply (.newScope scope)).Has source) :
    ¬ (heap.apply (.newScope scope)).RefersTo source (.scope heap.nextScope) := by
  rcases (has_apply ..).mp present with old | isNew
  · -- What there was refers only to what there was.
    rw [(keeps_newScope heap scope).refersTo old]
    exact fun link => Nat.lt_irrefl _ (formed.linked _ _ old link)
  · cases isNew
    intro link
    rw [RefersTo, scope_apply] at link
    dsimp only at link
    rw [if_pos rfl] at link
    rcases link with ⟨parent, isParent, same⟩ | ⟨name, value, _, isScope⟩
    · rw [enclosing] at isParent
      cases isParent
      exact ne_nextScope has (Handle.scope.inj same).symm
    -- No value is a scope.
    · cases value <;> cases isScope

end Heap

/--
A body starts in a new scope that nothing refers to, with the parameters that got an
argument. All other names mean what they mean in the scope of the function.
-/
theorem call_scope_exact (state : State) (reachable : state.heap.Reachable) (closure : Closure)
    (has : state.heap.Has (.scope closure.scope)) (arguments : List Value) :
    ∃ scope start,
      (∀ run, closure.call run arguments state =
        ((run closure.decl.body scope).returnValue >>= closure.conclude) start) ∧
      ¬ state.heap.Has (.scope scope) ∧ start.heap.Has (.scope scope) ∧
      (∀ source, start.heap.Has source -> ¬ start.heap.RefersTo source (.scope scope)) ∧
      (∀ name line,
        (∀ position value, closure.Takes arguments name position ->
          (∀ other, closure.Takes arguments name other -> other ≤ position) ->
            arguments[position]? = some value -> (scope.lookup name line start).1 = .done value) ∧
        ((∀ position, ¬ closure.Takes arguments name position) ->
          (scope.lookup name line start).1 = (closure.scope.lookup name line state).1)) ∧
      state.heap.Keeps start.heap ∧
      (∀ id, state.heap.Has (.scope id) -> ∀ name line,
        (id.lookup name line start).1 = (id.lookup name line state).1) ∧
      ∀ run, closure.call run (arguments.take closure.decl.params.length) state =
        closure.call run arguments state := by
  have formed := reachable.wellFormed
  obtain ⟨start, opened, runs⟩ := closure.call_apply arguments state
  have keeps : state.heap.Keeps start.heap := opened ▸ Heap.keeps_newScope ..
  have inside (name : String) : start.heap.lookup state.heap.nextScope name =
      ((closure.callScope arguments).vars.get? name).or
        (state.heap.lookup closure.scope name) :=
    opened ▸ Heap.lookup_newScope formed has rfl name
  refine ⟨state.heap.nextScope, start, runs, Nat.lt_irrefl _, ?_, ?_,
    fun name line => ⟨?_, ?_⟩, keeps, ?_, fun run => by rw [closure.call_take]⟩
  · rw [opened]
    exact (Heap.has_apply ..).mpr (.inr rfl)
  · intro source present
    rw [opened] at present ⊢
    exact Heap.not_refersTo_newScope formed has rfl present
  · intro position value takes last given
    have bound : (closure.callScope arguments).vars.get? name = some value := by
      refine Bindings.get?_insertAll_last
        ((closure.getElem?_entries ..).mpr ⟨takes, given⟩) fun later other listed => ?_
      exact last later ((closure.getElem?_entries ..).mp listed).1
    rw [ScopeId.lookup_result, inside, bound]
    rfl
  · intro untaken
    have unbound : (closure.callScope arguments).vars.get? name = none :=
      Bindings.get?_insertAll_absent fun position value listed =>
        untaken position ((closure.getElem?_entries ..).mp listed).1
    rw [ScopeId.lookup_result, ScopeId.lookup_result, inside, unbound, Option.none_or]
  · intro id present name line
    rw [ScopeId.lookup_result, ScopeId.lookup_result, keeps.lookup formed present]

theorem call_scope_exact_this :
    let state : State :=
      { heap := (Session.start.after [
          { operation := .define globalsName "b" (.text "around") }]).heap }
    let params := ["this", "this", "b"].map fun name => Token.identifier name 1
    let closure : Closure :=
      { decl := ⟨Token.identifier "f" 1, params, []⟩, scope := ⟨0⟩, isInitializer := false }
    let arguments : List Value := [.text "first", .text "second"]
    state.heap.Has (.scope closure.scope) ∧
      ∃ scope start,
        (∀ run, closure.call run arguments state =
          ((run closure.decl.body scope).returnValue >>= closure.conclude) start) ∧
        (scope.lookup "this" 2 start).1 = .done (.text "second") ∧
        (scope.lookup "b" 2 start).1 = .done (.text "around") := by
  intro state params closure arguments
  have has : state.heap.Has (.scope closure.scope) := by decide +kernel
  obtain ⟨scope, start, runs, _, _, _, names, _⟩ :=
    call_scope_exact state (Session.reachable_after _) closure has arguments
  refine ⟨has, scope, start, runs, ?_, ?_⟩
  · exact (names "this" 2).1 1 (.text "second") (by decide)
      (fun other takes => Nat.le_of_lt_succ takes.1) rfl
  · have untaken (position : Nat) : ¬ closure.Takes arguments "b" position := by
      intro takes
      have few : position < 2 := takes.1
      obtain rfl | rfl : position = 0 ∨ position = 1 := by omega
      · exact absurd takes (by decide)
      · exact absurd takes (by decide)
    rw [(names "b" 2).2 untaken]
    decide +kernel

end Lox
