import Mathlib.Data.List.Nodup
import Mathlib.Order.Lattice

/-!
# Object stores

An object store keeps records of a type `α` by their keys (`key : α → κ`), at most one of each key,
in the order of the keys.

`get_put` and `get_delete` are what the operations do to a look-up; `get_iff` says that a look-up
finds exactly the records.
-/

/-- Records in the order of their keys. -/
structure ObjectStore {α κ : Type} [LinearOrder κ] (key : α → κ) where
  records : List α
  sorted : (records.map key).Pairwise (· < ·)

namespace ObjectStore

variable {α κ : Type} [LinearOrder κ] {key : α → κ} (store : ObjectStore key)

def empty : ObjectStore key := ⟨[], .nil⟩

/-- The record of a key. -/
def get (k : κ) : Option α := store.records.find? fun record => key record = k

/-- The records before the place of a key, and those after it. -/
def before (k : κ) : List α := store.records.filter fun record => key record < k

def after (k : κ) : List α := store.records.filter fun record => k < key record

variable {store} {record : α} {k : κ}

theorem mem_before : record ∈ store.before k ↔ record ∈ store.records ∧ key record < k := by
  simp [before]

theorem mem_after : record ∈ store.after k ↔ record ∈ store.records ∧ k < key record := by
  simp [after]

theorem put_sorted (record : α) :
    ((store.before (key record) ++ record :: store.after (key record)).map key).Pairwise
      (· < ·) := by
  rw [List.map_append, List.map_cons]
  refine List.pairwise_append.2 ⟨store.sorted.sublist (List.filter_sublist.map key),
    List.pairwise_cons.2 ⟨fun k hk => ?_, store.sorted.sublist (List.filter_sublist.map key)⟩,
    fun a ha b hb => ?_⟩
  · obtain ⟨other, hother, rfl⟩ := List.mem_map.1 hk
    exact (mem_after.1 hother).2
  · obtain ⟨first, hfirst, rfl⟩ := List.mem_map.1 ha
    rcases List.mem_cons.1 hb with rfl | hb
    · exact (mem_before.1 hfirst).2
    · obtain ⟨second, hsecond, rfl⟩ := List.mem_map.1 hb
      exact (mem_before.1 hfirst).2.trans (mem_after.1 hsecond).2

variable (store) in
/-- Store a record, in place of another with its key. -/
def put (record : α) : ObjectStore key :=
  ⟨store.before (key record) ++ record :: store.after (key record), put_sorted record⟩

variable (store) in
/-- Drop the record of a key. -/
def delete (k : κ) : ObjectStore key :=
  ⟨store.records.filter fun record => key record ≠ k,
    store.sorted.sublist (List.filter_sublist.map key)⟩

theorem mem_put {other : α} :
    other ∈ (store.put record).records ↔
      other = record ∨ other ∈ store.records ∧ key other ≠ key record := by
  rw [put, List.mem_append, List.mem_cons, mem_before, mem_after, ne_iff_lt_or_gt]
  tauto

theorem mem_delete {other : α} :
    other ∈ (store.delete k).records ↔ other ∈ store.records ∧ key other ≠ k := by
  simp [delete]

/-! ## Look-ups -/

/-- Two records with one key are the same. -/
theorem eq_of_key {first second : α} (hfirst : first ∈ store.records)
    (hsecond : second ∈ store.records) (h : key first = key second) : first = second :=
  List.inj_on_of_nodup_map (store.sorted.imp fun hlt => hlt.ne) hfirst hsecond h

theorem get_iff : store.get k = some record ↔ record ∈ store.records ∧ key record = k := by
  constructor
  · intro h
    exact ⟨List.mem_of_find?_eq_some h, by simpa using List.find?_some h⟩
  · rintro ⟨hmem, rfl⟩
    cases hget : store.get (key record) with
    | none =>
      rw [get, List.find?_eq_none] at hget
      exact absurd (decide_eq_true rfl) (hget record hmem)
    | some other =>
      rw [eq_of_key (List.mem_of_find?_eq_some hget) hmem (by simpa using List.find?_some hget)]

theorem get_ext {store' : ObjectStore key} {k' : κ}
    (h : ∀ record, record ∈ store.records ∧ key record = k ↔
      record ∈ store'.records ∧ key record = k') : store.get k = store'.get k' :=
  Option.ext fun record => by simpa only [get_iff, Option.mem_def] using h record

theorem get_put :
    (store.put record).get k = if k = key record then some record else store.get k := by
  split
  · rename_i h
    exact get_iff.2 ⟨mem_put.2 (.inl rfl), h.symm⟩
  · rename_i h
    refine get_ext fun other => ?_
    rw [mem_put]
    constructor
    · rintro ⟨rfl | hother, hkey⟩
      · exact absurd hkey.symm h
      · exact ⟨hother.1, hkey⟩
    · rintro ⟨hmem, hkey⟩
      exact ⟨.inr ⟨hmem, fun heq => h (hkey.symm.trans heq)⟩, hkey⟩

theorem get_delete {k' : κ} :
    (store.delete k').get k = if k = k' then none else store.get k := by
  split
  · rename_i h
    rw [Option.eq_none_iff_forall_ne_some]
    intro other hother
    obtain ⟨hmem, hkey⟩ := get_iff.1 hother
    exact (mem_delete.1 hmem).2 (hkey.trans h)
  · rename_i h
    refine get_ext fun other => ?_
    rw [mem_delete]
    constructor
    · rintro ⟨hother, hkey⟩
      exact ⟨hother.1, hkey⟩
    · rintro ⟨hmem, hkey⟩
      exact ⟨⟨hmem, fun heq => h (hkey.symm.trans heq)⟩, hkey⟩

end ObjectStore
