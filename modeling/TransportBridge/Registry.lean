import TransportBridge.Handle
import TransportBridge.Identity

/-!
Contract: which entry a handle stands for now.

A registry is a finite map. It knows entries by name only and has no part in
how long they or their targets live.
-/

namespace TransportBridge

structure Registry where
  bindings : List (Handle × EntryId) := []
  distinct : (bindings.map (·.1)).Nodup := by simp

namespace Registry

def empty : Registry := {}

def lookup? (registry : Registry) (handle : Handle) : Option EntryId :=
  registry.bindings.lookup handle

def contains (registry : Registry) (handle : Handle) : Bool :=
  registry.bindings.any (·.1 = handle)

def size (registry : Registry) : Nat :=
  registry.bindings.length

def isEmpty (registry : Registry) : Bool :=
  registry.bindings.isEmpty

private theorem not_mem_keys {registry : Registry} {handle : Handle}
    (absent : registry.contains handle = false) :
    handle ∉ registry.bindings.map (·.1) := by
  intro member
  obtain ⟨binding, bound, rfl⟩ := List.mem_map.mp member
  have present : registry.contains binding.1 = true :=
    List.any_eq_true.mpr ⟨binding, bound, by simp⟩
  simp [present] at absent

/-- Binds a handle that is free. -/
def insert? (registry : Registry) (handle : Handle) (entry : EntryId) : Option Registry :=
  if absent : registry.contains handle = false then
    some {
      bindings := (handle, entry) :: registry.bindings
      distinct := by
        simpa using ⟨by simpa using not_mem_keys absent, registry.distinct⟩ }
  else none

/-- Frees a handle. -/
def erase (registry : Registry) (handle : Handle) : Registry where
  bindings := registry.bindings.filter (·.1 ≠ handle)
  distinct := registry.distinct.sublist (List.Sublist.map _ List.filter_sublist)

/-! ## What a lookup finds -/

private theorem lookup_cons_of_ne {head : Handle × EntryId} {other : Handle}
    (different : other ≠ head.1) (tail : List (Handle × EntryId)) :
    (head :: tail).lookup other = tail.lookup other := by
  have unequal : (other == head.1) = false := by simpa using different
  rw [List.lookup_cons, unequal]

theorem contains_eq_isSome_lookup? (registry : Registry) (handle : Handle) :
    registry.contains handle = (registry.lookup? handle).isSome := by
  unfold contains lookup?
  induction registry.bindings with
  | nil => rfl
  | cons head tail inductionHypothesis =>
      by_cases bound : handle = head.1
      · subst bound
        simp
      · rw [lookup_cons_of_ne bound, ← inductionHypothesis, List.any_cons]
        simp [Ne.symm bound]

/-- The new binding is found, and every other handle stands for what it stood
for before. -/
theorem lookup?_of_insert? {registry next : Registry} {handle : Handle} {entry : EntryId}
    (inserted : registry.insert? handle entry = some next) (other : Handle) :
    next.lookup? other = if other = handle then some entry else registry.lookup? other := by
  unfold insert? at inserted
  split at inserted
  · obtain rfl := Option.some.inj inserted
    by_cases equal : other = handle
    · subst equal
      simp [lookup?]
    · rw [if_neg equal]
      exact lookup_cons_of_ne equal registry.bindings
  · exact absurd inserted (by simp)

/-- A handle that is bound is not bound again. -/
theorem insert?_eq_none_iff (registry : Registry) (handle : Handle) (entry : EntryId) :
    registry.insert? handle entry = none ↔ registry.contains handle = true := by
  unfold insert?
  split <;> simp_all

/-- A handle that is free can be bound. -/
theorem exists_insert? {registry : Registry} {handle : Handle}
    (free : registry.lookup? handle = none) (entry : EntryId) :
    ∃ next, registry.insert? handle entry = some next := by
  rw [← Option.ne_none_iff_exists', ne_eq, insert?_eq_none_iff, contains_eq_isSome_lookup?, free]
  exact Bool.false_ne_true

private theorem lookup_filter_ne (bindings : List (Handle × EntryId)) (handle other : Handle) :
    (bindings.filter (·.1 ≠ handle)).lookup other =
      if other = handle then none else bindings.lookup other := by
  induction bindings with
  | nil => simp
  | cons head tail inductionHypothesis =>
      by_cases erased : head.1 = handle
      · rw [List.filter_cons_of_neg (by simp [erased]), inductionHypothesis]
        by_cases equal : other = handle
        · simp [equal]
        · rw [if_neg equal, if_neg equal, lookup_cons_of_ne (by simpa [erased] using equal)]
      · rw [List.filter_cons_of_pos (by simp [erased])]
        by_cases found : other = head.1
        · obtain ⟨key, entry⟩ := head
          simp only at found erased
          rw [found, if_neg erased, List.lookup_cons_self, List.lookup_cons_self]
        · rw [lookup_cons_of_ne found, lookup_cons_of_ne found]
          exact inductionHypothesis

/-- The handle stands for nothing any more; every other one is untouched. -/
theorem lookup?_erase (registry : Registry) (handle other : Handle) :
    (registry.erase handle).lookup? other =
      if other = handle then none else registry.lookup? other :=
  lookup_filter_ne registry.bindings handle other

/-! ## What is bound -/

private theorem mem_of_lookup {bindings : List (Handle × EntryId)} {handle : Handle}
    {entry : EntryId} (found : bindings.lookup handle = some entry) :
    (handle, entry) ∈ bindings := by
  obtain ⟨before, after, rfl, _⟩ := List.lookup_eq_some_iff.mp found
  exact List.mem_append_right before List.mem_cons_self

private theorem lookup_of_mem {bindings : List (Handle × EntryId)}
    (distinct : (bindings.map (·.1)).Nodup) {handle : Handle} {entry : EntryId}
    (bound : (handle, entry) ∈ bindings) : bindings.lookup handle = some entry := by
  induction bindings with
  | nil => cases bound
  | cons head tail inductionHypothesis =>
      obtain ⟨fresh, rest⟩ := List.nodup_cons.mp distinct
      rcases List.mem_cons.mp bound with rfl | later
      · exact List.lookup_cons_self
      · have different : handle ≠ head.1 :=
          fun same => fresh (List.mem_map.mpr ⟨(handle, entry), later, same⟩)
        rw [lookup_cons_of_ne different]
        exact inductionHypothesis rest later

/-- A lookup finds what is bound, and misses nothing. -/
theorem lookup?_eq_some_iff {registry : Registry} {handle : Handle} {entry : EntryId} :
    registry.lookup? handle = some entry ↔ (handle, entry) ∈ registry.bindings :=
  ⟨mem_of_lookup, lookup_of_mem registry.distinct⟩

/-! ## How many are bound -/

theorem size_of_insert? {registry next : Registry} {handle : Handle} {entry : EntryId}
    (inserted : registry.insert? handle entry = some next) : next.size = registry.size + 1 := by
  unfold insert? at inserted
  split at inserted
  · obtain rfl := Option.some.inj inserted
    rfl
  · cases inserted

private theorem length_filter_ne {bindings : List (Handle × EntryId)} {handle : Handle}
    (distinct : (bindings.map (·.1)).Nodup) {entry : EntryId}
    (bound : (handle, entry) ∈ bindings) :
    (bindings.filter (·.1 ≠ handle)).length + 1 = bindings.length := by
  induction bindings with
  | nil => cases bound
  | cons head tail inductionHypothesis =>
      obtain ⟨fresh, rest⟩ := List.nodup_cons.mp distinct
      by_cases erased : head.1 = handle
      · have kept : tail.filter (·.1 ≠ handle) = tail := by
          refine List.filter_eq_self.mpr fun binding member => decide_eq_true fun same => fresh ?_
          exact List.mem_map.mpr ⟨binding, member, same.trans erased.symm⟩
        rw [List.filter_cons_of_neg (by simp [erased]), kept, List.length_cons]
      · have later : (handle, entry) ∈ tail := by
          rcases List.mem_cons.mp bound with same | later
          · exact absurd (congrArg Prod.fst same).symm erased
          · exact later
        rw [List.filter_cons_of_pos (by simp [erased]), List.length_cons, List.length_cons,
          inductionHypothesis rest later]

/-- Freeing a bound handle makes the registry smaller by one. -/
theorem size_erase {registry : Registry} {handle : Handle} {entry : EntryId}
    (bound : registry.lookup? handle = some entry) :
    (registry.erase handle).size + 1 = registry.size :=
  length_filter_ne registry.distinct (mem_of_lookup bound)

end Registry

end TransportBridge
