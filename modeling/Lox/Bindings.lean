set_option autoImplicit false

namespace Lox

def upsert {α : Type} (name : String) (value : α) :
    List (String × α) -> List (String × α)
  | [] => [(name, value)]
  | entry :: rest =>
      if entry.1 = name then (name, value) :: rest
      else entry :: upsert name value rest

theorem keys_upsert {α : Type} (name : String) (value : α)
    (entries : List (String × α)) :
    (upsert name value entries).map Prod.fst =
      if name ∈ entries.map Prod.fst then entries.map Prod.fst
      else entries.map Prod.fst ++ [name] := by
  induction entries with
  | nil => simp [upsert]
  | cons entry rest ih =>
      by_cases same : entry.1 = name
      · simp [upsert, same]
      · have other : ¬ name = entry.1 := fun h => same h.symm
        by_cases present : name ∈ rest.map Prod.fst <;>
          simp_all [upsert]

theorem nodup_keys_upsert {α : Type} (name : String) (value : α)
    (entries : List (String × α))
    (distinct : (entries.map Prod.fst).Nodup) :
    ((upsert name value entries).map Prod.fst).Nodup := by
  rw [keys_upsert]
  split
  · exact distinct
  · next absent =>
      refine List.nodup_append.mpr ⟨distinct, by simp, ?_⟩
      intro key present other isName
      rw [List.mem_singleton.mp isName]
      exact fun same => absent (same ▸ present)

/-- A finite map from names in insertion order, without repeated names. -/
structure Bindings (α : Type) where
  entries : List (String × α) := []
  distinct : (entries.map Prod.fst).Nodup := by simp

namespace Bindings

variable {α : Type}

def empty : Bindings α := {}

instance : Inhabited (Bindings α) := ⟨empty⟩

def keys (bindings : Bindings α) : List String :=
  bindings.entries.map Prod.fst

def size (bindings : Bindings α) : Nat :=
  bindings.entries.length

def get? (bindings : Bindings α) (name : String) : Option α :=
  bindings.entries.lookup name

def contains (bindings : Bindings α) (name : String) : Bool :=
  (bindings.get? name).isSome

def insert (bindings : Bindings α) (name : String) (value : α) : Bindings α where
  entries := upsert name value bindings.entries
  distinct := nodup_keys_upsert name value bindings.entries bindings.distinct

theorem nodup_keys (bindings : Bindings α) : bindings.keys.Nodup :=
  bindings.distinct

@[simp]
theorem length_keys (bindings : Bindings α) :
    bindings.keys.length = bindings.size := by
  simp [keys, size]

@[simp]
theorem get?_empty (name : String) : (empty : Bindings α).get? name = none := rfl

theorem lookup_cons_eq_ite (query : String) (entry : String × α)
    (rest : List (String × α)) :
    (entry :: rest).lookup query =
      if query = entry.1 then some entry.2 else rest.lookup query := by
  obtain ⟨key, value⟩ := entry
  by_cases same : query = key
  · simp [same]
  · have differs : (query == key) = false := beq_eq_false_iff_ne.mpr same
    simp only [List.lookup_cons, differs, same, if_false]

theorem lookup_upsert (name : String) (value : α) (query : String)
    (entries : List (String × α)) :
    (upsert name value entries).lookup query =
      if query = name then some value else entries.lookup query := by
  induction entries with
  | nil => simp [upsert, lookup_cons_eq_ite]
  | cons entry rest ih =>
      by_cases hit : entry.1 = name
      · by_cases same : query = name <;>
          simp [upsert, hit, same, lookup_cons_eq_ite]
      · by_cases same : query = name
        · subst same
          have miss : ¬ query = entry.1 := fun h => hit h.symm
          simpa [upsert, hit, miss, lookup_cons_eq_ite] using ih
        · simp [upsert, hit, same, lookup_cons_eq_ite, ih]

@[simp]
theorem get?_insert (bindings : Bindings α) (name : String) (value : α)
    (query : String) :
    (bindings.insert name value).get? query =
      if query = name then some value else bindings.get? query :=
  lookup_upsert name value query bindings.entries

theorem keys_insert (bindings : Bindings α) (name : String) (value : α) :
    (bindings.insert name value).keys =
      if name ∈ bindings.keys then bindings.keys
      else bindings.keys ++ [name] :=
  keys_upsert name value bindings.entries

@[simp]
theorem contains_empty (name : String) :
    (empty : Bindings α).contains name = false := rfl

@[simp]
theorem contains_insert (bindings : Bindings α) (name : String) (value : α)
    (query : String) :
    (bindings.insert name value).contains query =
      (query = name || bindings.contains query) := by
  by_cases same : query = name <;> simp [contains, same]

theorem mem_keys_iff (bindings : Bindings α) (name : String) :
    name ∈ bindings.keys <-> bindings.contains name := by
  unfold keys contains get?
  induction bindings.entries with
  | nil => simp
  | cons entry rest ih =>
      by_cases same : name = entry.1
      · simp [lookup_cons_eq_ite, same]
      · simp [lookup_cons_eq_ite, same]

theorem keys_perm {β : Type} {left : Bindings α} {right : Bindings β}
    (same : ∀ name, right.contains name = left.contains name) :
    right.keys.Perm left.keys := by
  refine (List.perm_ext_iff_of_nodup right.nodup_keys left.nodup_keys).mpr fun name => ?_
  simp [mem_keys_iff, same]

theorem mem_entries_iff (bindings : Bindings α) (name : String) (value : α) :
    (name, value) ∈ bindings.entries <-> bindings.get? name = some value := by
  obtain ⟨entries, distinct⟩ := bindings
  unfold get?
  induction entries with
  | nil => simp
  | cons entry rest ih =>
      have ⟨fresh, others⟩ := List.nodup_cons.mp distinct
      obtain ⟨key, held⟩ := entry
      by_cases same : name = key
      · subst same
        -- As names do not repeat, no later entry has this one.
        have absent : (name, value) ∉ rest :=
          fun listed => fresh (List.mem_map.mpr ⟨_, listed, rfl⟩)
        simp [absent, eq_comm]
      · simp [lookup_cons_eq_ite, same, ih others]

theorem entries_perm {left right : Bindings α}
    (same : ∀ name, right.get? name = left.get? name) : right.entries.Perm left.entries := by
  have nodup (bindings : Bindings α) : bindings.entries.Nodup :=
    List.Pairwise.of_map Prod.fst (fun _ _ => mt (congrArg Prod.fst)) bindings.distinct
  refine (List.perm_ext_iff_of_nodup (nodup right) (nodup left)).mpr fun entry => ?_
  rw [mem_entries_iff, mem_entries_iff, same]

end Bindings

end Lox
