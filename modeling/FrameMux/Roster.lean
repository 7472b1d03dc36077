/-
**Records kept per worker.**

The supervisor, the frame cache and the reports all hold one record per worker and walk them in the
order of the worker numbers.  A roster is such a table: a list of pairs with strictly increasing
identifiers, the order being part of the type.

Main definitions:

* `FrameMux.Roster` — the table;
* `FrameMux.Roster.get?` — **the view**: the record of a worker, if there is one;
* `FrameMux.Roster.insert`, `modify`, `map` — the operations;
* `FrameMux.Roster.ids` — the workers in the table, in order.

Main results:

* `FrameMux.Roster.get?_insert`, `get?_modify`, `get?_map` — one equation per operation through the
  view;
* `FrameMux.Roster.ids_modify`, `ids_map` — changing records does not change who is in the table;
* `FrameMux.Roster.mem_ids_iff` — the listed workers are the ones with a record;
* `FrameMux.Roster.ids_eq_of_isSome_get?` — so the same workers make the same list.
-/

import FrameMux.Worker.Id

set_option relaxedAutoImplicit false
set_option autoImplicit false

namespace FrameMux

/-! ### Sorted lists of pairs -/

/-- Puts a record into a sorted list, in place of the one that is there. -/
def insertSorted {α : Type} (id : WorkerId) (a : α) : List (WorkerId × α) → List (WorkerId × α)
  | [] => [(id, a)]
  | (key, b) :: rest =>
      if id < key then (id, a) :: (key, b) :: rest
      else if id = key then (id, a) :: rest
      else (key, b) :: insertSorted id a rest

/-- The record of a worker in a list. -/
def lookupIn {α : Type} (id : WorkerId) : List (WorkerId × α) → Option α
  | [] => none
  | (key, b) :: rest => if key = id then some b else lookupIn id rest

/-- A pair of an updated list is the new one or an old one. -/
theorem mem_insertSorted {α : Type} {id : WorkerId} {a : α} {l : List (WorkerId × α)}
    {p : WorkerId × α} (h : p ∈ insertSorted id a l) : p = (id, a) ∨ p ∈ l := by
  induction l with
  | nil => simpa [insertSorted] using h
  | cons head rest ih =>
    obtain ⟨key, b⟩ := head
    unfold insertSorted at h
    split at h
    · simpa using h
    · split at h
      · rcases List.mem_cons.1 h with h | h
        · exact Or.inl h
        · exact Or.inr (List.mem_cons_of_mem _ h)
      · rcases List.mem_cons.1 h with h | h
        · exact Or.inr (h ▸ List.mem_cons_self)
        · rcases ih h with h | h
          · exact Or.inl h
          · exact Or.inr (List.mem_cons_of_mem _ h)

/-- Inserting keeps the order. -/
theorem pairwise_insertSorted {α : Type} {id : WorkerId} {a : α} {l : List (WorkerId × α)}
    (h : l.Pairwise (fun p q => p.1 < q.1)) :
    (insertSorted id a l).Pairwise (fun p q => p.1 < q.1) := by
  induction l with
  | nil => simp [insertSorted]
  | cons head rest ih =>
    obtain ⟨key, b⟩ := head
    have ⟨least, tail⟩ := List.pairwise_cons.1 h
    unfold insertSorted
    split
    · rename_i below
      refine List.pairwise_cons.2 ⟨?_, h⟩
      intro p hp
      rcases List.mem_cons.1 hp with rfl | hp
      · exact below
      · exact WorkerId.lt_trans below (least p hp)
    · split
      · rename_i same
        subst same
        exact List.pairwise_cons.2 ⟨least, tail⟩
      · rename_i notBelow different
        refine List.pairwise_cons.2 ⟨?_, ih tail⟩
        intro p hp
        rcases mem_insertSorted hp with rfl | hp
        · rcases WorkerId.lt_or_lt_of_ne different with below | above
          · exact absurd below notBelow
          · exact above
        · exact least p hp

/-- Looking up after inserting. -/
theorem lookupIn_insertSorted {α : Type} (id other : WorkerId) (a : α)
    (l : List (WorkerId × α)) :
    lookupIn other (insertSorted id a l) = if id = other then some a else lookupIn other l := by
  induction l with
  | nil => simp [insertSorted, lookupIn]
  | cons head rest ih =>
    obtain ⟨key, b⟩ := head
    unfold insertSorted
    split
    · simp [lookupIn]
    · split
      · rename_i same
        subst same
        simp only [lookupIn]
        split <;> rfl
      · rename_i different
        simp only [lookupIn, ih]
        by_cases hk : key = other
        · subst hk
          simp [different]
        · simp [hk]

/-- Looking up after changing every record. -/
theorem lookupIn_map {α β : Type} (f : WorkerId → α → β) (id : WorkerId)
    (l : List (WorkerId × α)) :
    lookupIn id (l.map fun p => (p.1, f p.1 p.2)) = (lookupIn id l).map (f id) := by
  induction l with
  | nil => rfl
  | cons head rest ih =>
    by_cases h : head.1 = id
    · simp [lookupIn, h]
    · simpa [lookupIn, h] using ih

/-! ### Rosters -/

/-- A table with one record per worker, in the order of the workers. -/
structure Roster (α : Type) where
  entries : List (WorkerId × α)
  sorted : entries.Pairwise (fun p q => p.1 < q.1)

namespace Roster

variable {α β : Type}

/-- The table without workers. -/
def empty : Roster α := ⟨[], List.Pairwise.nil⟩

instance : Inhabited (Roster α) := ⟨empty⟩

/-- The record of a worker. -/
def get? (r : Roster α) (id : WorkerId) : Option α := lookupIn id r.entries

/-- Whether a worker has a record. -/
def contains (r : Roster α) (id : WorkerId) : Bool := (r.get? id).isSome

/-- The workers with a record, in order. -/
def ids (r : Roster α) : List WorkerId := r.entries.map Prod.fst

/-- The records, in the order of their workers. -/
def values (r : Roster α) : List α := r.entries.map Prod.snd

/-- The number of workers with a record. -/
def size (r : Roster α) : Nat := r.entries.length

/-- Gives a worker a record. -/
def insert (r : Roster α) (id : WorkerId) (a : α) : Roster α :=
  ⟨insertSorted id a r.entries, pairwise_insertSorted r.sorted⟩

/-- Changes every record, with its worker at hand. -/
def mapIdx (r : Roster α) (f : WorkerId → α → β) : Roster β :=
  ⟨r.entries.map fun p => (p.1, f p.1 p.2), by
    rw [List.pairwise_map]
    exact r.sorted⟩

/-- Changes every record. -/
def map (r : Roster α) (f : α → β) : Roster β := r.mapIdx fun _ => f

/-- Changes the record of one worker, if it has one. -/
def modify (r : Roster α) (id : WorkerId) (f : α → α) : Roster α :=
  r.mapIdx fun key a => if key = id then f a else a

@[simp] theorem get?_empty (id : WorkerId) : (empty : Roster α).get? id = none := rfl

@[simp] theorem get?_insert (r : Roster α) (id other : WorkerId) (a : α) :
    (r.insert id a).get? other = if id = other then some a else r.get? other :=
  lookupIn_insertSorted id other a r.entries

@[simp] theorem get?_mapIdx (r : Roster α) (f : WorkerId → α → β) (id : WorkerId) :
    (r.mapIdx f).get? id = (r.get? id).map (f id) := by
  exact lookupIn_map f id r.entries

@[simp] theorem get?_map (r : Roster α) (f : α → β) (id : WorkerId) :
    (r.map f).get? id = (r.get? id).map f := by
  simp [map]

@[simp] theorem get?_modify (r : Roster α) (id other : WorkerId) (f : α → α) :
    (r.modify id f).get? other = if other = id then (r.get? other).map f else r.get? other := by
  unfold modify
  rw [get?_mapIdx]
  by_cases h : other = id
  · simp [h]
  · simp [h]

@[simp] theorem ids_mapIdx (r : Roster α) (f : WorkerId → α → β) : (r.mapIdx f).ids = r.ids := by
  simp [ids, mapIdx, Function.comp_def]

@[simp] theorem ids_map (r : Roster α) (f : α → β) : (r.map f).ids = r.ids := ids_mapIdx _ _

@[simp] theorem ids_modify (r : Roster α) (id : WorkerId) (f : α → α) :
    (r.modify id f).ids = r.ids := ids_mapIdx _ _

/-- The listed workers are exactly the ones with a record. -/
theorem mem_ids_iff (r : Roster α) (id : WorkerId) : id ∈ r.ids ↔ (r.get? id).isSome := by
  unfold ids get?
  generalize r.entries = l
  induction l with
  | nil => simp [lookupIn]
  | cons head rest ih =>
    by_cases h : head.1 = id
    · simp [lookupIn, h]
    · have h' : ¬ id = head.1 := fun e => h e.symm
      simpa [lookupIn, h, h'] using ih

/-- The workers are listed in order. -/
theorem pairwise_ids (r : Roster α) : r.ids.Pairwise (· < ·) := List.pairwise_map.2 r.sorted

/-- No worker is listed twice. -/
theorem nodup_ids (r : Roster α) : r.ids.Nodup := r.pairwise_ids.imp WorkerId.ne_of_lt

/-- Tables with records for the same workers list them in the same order. -/
theorem ids_eq_of_isSome_get? {r : Roster α} {q : Roster β}
    (same : ∀ id, (r.get? id).isSome = (q.get? id).isSome) : r.ids = q.ids := by
  refine List.Perm.eq_of_pairwise ?_ r.pairwise_ids q.pairwise_ids ?_
  · intro a b _ _ below above
    exact absurd (WorkerId.lt_trans below above) (WorkerId.lt_irrefl a)
  · refine (List.perm_ext_iff_of_nodup r.nodup_ids q.nodup_ids).2 ?_
    intro id
    rw [mem_ids_iff, mem_ids_iff, same]

end Roster

end FrameMux
