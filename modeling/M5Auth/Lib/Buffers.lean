import Mathlib.Data.List.GetD
import Mathlib.Data.List.Nodup

/-!
# Buffers that are wiped

A memory holds buffers, and a reference is the number of one. `Memory.wipe` fills buffers with
zeros. `Memory.Clean live` says that every buffer is zero but the live ones: allocating makes a
buffer live (`Memory.Clean.alloc`) and wiping ends that (`Memory.Clean.wiped`), while what is not
wiped keeps its contents (`Memory.Wiped`).
-/

namespace Buffers

structure Memory where
  buffers : List (List UInt8) := []
  deriving DecidableEq

/-- Every byte is zero. -/
def Zero (buffer : List UInt8) : Prop := ∀ byte ∈ buffer, byte = 0

namespace Memory

def size (m : Memory) : ℕ := m.buffers.length

def read (m : Memory) (ref : ℕ) : List UInt8 := m.buffers.getD ref []

/-- A new buffer. Its reference is the size. -/
def alloc (m : Memory) (buffer : List UInt8) : Memory := ⟨m.buffers ++ [buffer]⟩

/-- Fills a buffer with zeros. -/
def fill (m : Memory) (ref : ℕ) : Memory := ⟨m.buffers.modify ref (·.map fun _ => 0)⟩

def wipe (m : Memory) (refs : List ℕ) : Memory := refs.foldl fill m

/-- All but the live buffers are zero. -/
def Clean (m : Memory) (live : List ℕ) : Prop := ∀ ref, ref ∉ live → Zero (m.read ref)

variable {m : Memory} {ref : ℕ}

/-! ## Operations -/

@[simp] theorem size_alloc (m : Memory) (buffer : List UInt8) :
    (m.alloc buffer).size = m.size + 1 := by
  simp [size, alloc]

@[simp] theorem size_fill (m : Memory) (ref : ℕ) : (m.fill ref).size = m.size := by
  simp [size, fill]

@[simp] theorem size_wipe (m : Memory) (refs : List ℕ) : (m.wipe refs).size = m.size := by
  induction refs generalizing m with
  | nil => rfl
  | cons ref refs ih => exact (ih _).trans (size_fill m ref)

theorem read_of_size_le (h : m.size ≤ ref) : m.read ref = [] :=
  List.getD_eq_default _ _ h

theorem read_alloc (m : Memory) (buffer : List UInt8) : (m.alloc buffer).read m.size = buffer := by
  simp [read, alloc, size]

theorem read_alloc_ne (buffer : List UInt8) (h : ref ≠ m.size) :
    (m.alloc buffer).read ref = m.read ref := by
  rcases Nat.lt_or_gt_of_ne h with hlt | hgt
  · exact List.getD_append _ _ _ _ hlt
  · rw [read_of_size_le (Nat.le_of_lt hgt), read_of_size_le (by rw [size_alloc]; omega)]

theorem zero_read_fill (m : Memory) (ref : ℕ) : Zero ((m.fill ref).read ref) := by
  intro byte hbyte
  simp only [read, fill, List.getD_eq_getElem?_getD, List.getElem?_modify_eq] at hbyte
  cases hget : m.buffers[ref]? with
  | none => simp [hget] at hbyte
  | some buffer =>
    rw [hget, Option.map_eq_map, Option.map_some, Option.getD_some] at hbyte
    obtain ⟨_, -, h⟩ := List.mem_map.1 hbyte
    exact h.symm

theorem read_fill_ne {ref' : ℕ} (h : ref' ≠ ref) : (m.fill ref).read ref' = m.read ref' := by
  simp [read, fill, List.getD_eq_getElem?_getD, Ne.symm h]

/-- What is zero stays zero. -/
theorem zero_fill {ref' : ℕ} (h : Zero (m.read ref)) : Zero ((m.fill ref').read ref) := by
  by_cases hsame : ref = ref'
  · rw [hsame]
    exact zero_read_fill m ref'
  · rw [read_fill_ne hsame]
    exact h

theorem zero_wipe_of_zero {refs : List ℕ} (h : Zero (m.read ref)) :
    Zero ((m.wipe refs).read ref) := by
  induction refs generalizing m with
  | nil => exact h
  | cons ref' refs ih => exact ih (zero_fill h)

theorem zero_wipe {refs : List ℕ} (h : ref ∈ refs) : Zero ((m.wipe refs).read ref) := by
  induction refs generalizing m with
  | nil => cases h
  | cons ref' refs ih =>
    rcases List.mem_cons.1 h with hfirst | h
    · rw [hfirst]
      exact zero_wipe_of_zero (m := m.fill ref') (zero_read_fill m ref')
    · exact ih h

/-- What is not wiped keeps its contents. -/
theorem read_wipe {refs : List ℕ} (h : ref ∉ refs) : (m.wipe refs).read ref = m.read ref := by
  induction refs generalizing m with
  | nil => rfl
  | cons ref' refs ih =>
    rw [List.mem_cons, not_or] at h
    exact (ih h.2).trans (read_fill_ne h.1)

/-! ## Live buffers -/

theorem clean_empty : Clean {} [] := fun _ _ _ hbyte => by simp [read] at hbyte

theorem Clean.alloc {live : List ℕ} (h : m.Clean live) (buffer : List UInt8) :
    (m.alloc buffer).Clean (m.size :: live) := by
  intro ref hnot
  rw [List.mem_cons, not_or] at hnot
  rw [read_alloc_ne buffer hnot.1]
  exact h ref hnot.2

/-- Some buffers are wiped, in any order, and no others. -/
structure Wiped (m m' : Memory) (refs : List ℕ) : Prop where
  size : m'.size = m.size
  zero : ∀ ref ∈ refs, Zero (m'.read ref)
  same : ∀ ref, ref ∉ refs → m'.read ref = m.read ref

theorem wiped_wipe (m : Memory) (refs : List ℕ) : m.Wiped (m.wipe refs) refs :=
  ⟨size_wipe m refs, fun _ => zero_wipe, fun _ => read_wipe⟩

theorem Wiped.trans {m' m'' : Memory} {refs refs' : List ℕ} (h : m.Wiped m' refs)
    (h' : m'.Wiped m'' refs') : m.Wiped m'' (refs ++ refs') where
  size := h'.size.trans h.size
  zero := fun ref hmem => by
    by_cases hlast : ref ∈ refs'
    · exact h'.zero ref hlast
    · rw [h'.same ref hlast]
      exact h.zero ref ((List.mem_append.1 hmem).resolve_right hlast)
  same := fun ref hnot => by
    rw [List.mem_append, not_or] at hnot
    rw [h'.same ref hnot.2, h.same ref hnot.1]

theorem Wiped.of_mem_iff {m' : Memory} {refs refs' : List ℕ} (h : m.Wiped m' refs)
    (hiff : ∀ ref, ref ∈ refs ↔ ref ∈ refs') : m.Wiped m' refs' :=
  ⟨h.size, fun ref hmem => h.zero ref ((hiff ref).2 hmem),
    fun ref hnot => h.same ref fun hmem => hnot ((hiff ref).1 hmem)⟩

theorem Clean.wiped {m' : Memory} {live refs live' : List ℕ} (h : m.Clean live)
    (hwiped : m.Wiped m' refs) (hrest : ∀ ref ∈ live, ref ∈ refs ∨ ref ∈ live') :
    m'.Clean live' := by
  intro ref hnot
  by_cases hmem : ref ∈ refs
  · exact hwiped.zero ref hmem
  · rw [hwiped.same ref hmem]
    exact h ref fun hlive => (hrest ref hlive).elim hmem hnot

/-- The live buffers: references to different buffers, and all others are zero. -/
structure Live (m : Memory) (live : List ℕ) : Prop where
  clean : m.Clean live
  nodup : live.Nodup
  bound : ∀ ref ∈ live, ref < m.size

theorem live_empty : Live {} [] := ⟨clean_empty, List.nodup_nil, by simp⟩

theorem Live.alloc {live : List ℕ} (h : m.Live live) (buffer : List UInt8) :
    (m.alloc buffer).Live (m.size :: live) where
  clean := h.clean.alloc buffer
  nodup := List.nodup_cons.2 ⟨fun hmem => Nat.lt_irrefl _ (h.bound _ hmem), h.nodup⟩
  bound := fun ref hmem => by
    rw [size_alloc]
    rcases List.mem_cons.1 hmem with rfl | hold
    · omega
    · have := h.bound ref hold
      omega

/-- What is not wiped stays live, in any order. -/
theorem Live.wiped {m' : Memory} {live refs live' : List ℕ} (h : m.Live live)
    (hwiped : m.Wiped m' refs) (hperm : (live' ++ refs).Perm live) : m'.Live live' where
  clean := h.clean.wiped hwiped fun ref hmem =>
    (List.mem_append.1 (hperm.mem_iff.2 hmem)).symm
  nodup := (List.nodup_append.1 (hperm.nodup_iff.2 h.nodup)).1
  bound := fun ref hmem => by
    rw [hwiped.size]
    exact h.bound ref (hperm.mem_iff.1 (List.mem_append_left _ hmem))

theorem Live.perm {live live' : List ℕ} (h : m.Live live) (hperm : live'.Perm live) :
    m.Live live' :=
  h.wiped (m.wiped_wipe []) (by rwa [List.append_nil])

/-- A wiped buffer was live, so the others keep their contents. -/
theorem Wiped.same_of_live {m' : Memory} {live refs live' : List ℕ} (h : m.Live live)
    (hwiped : m.Wiped m' refs) (hperm : (live' ++ refs).Perm live) {ref : ℕ} (hmem : ref ∈ live') :
    m'.read ref = m.read ref :=
  hwiped.same ref fun hmem' =>
    (List.nodup_append.1 (hperm.nodup_iff.2 h.nodup)).2.2 ref hmem ref hmem' rfl

end Memory

end Buffers
