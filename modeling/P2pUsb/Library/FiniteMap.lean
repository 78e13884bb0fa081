import Mathlib.Data.List.AList

/-! Bulk operations on non-dependent association lists: the size, removal of
every entry that fails a test, and in-place change of the values. -/

namespace AList
variable {κ ν μ : Type*}

def size (m : AList fun _ : κ => ν) : Nat := m.entries.length

/-- Keep exactly the entries that satisfy the test. -/
def retain (p : κ → ν → Bool) (m : AList fun _ : κ => ν) : AList fun _ : κ => ν :=
  ⟨m.entries.filter fun e => p e.1 e.2, m.nodupKeys.sublist List.filter_sublist⟩

/-- Change every value, keeping the keys and their order. -/
def mapVal (f : κ → ν → μ) (m : AList fun _ : κ => ν) : AList fun _ : κ => μ :=
  ⟨m.entries.map (.map id f), m.nodupKeys.map₂ f⟩

/-- Change the value at one key, if there is one. -/
def modify [DecidableEq κ] (k : κ) (f : ν → ν) (m : AList fun _ : κ => ν) :
    AList fun _ : κ => ν :=
  m.mapVal fun j v => if j = k then f v else v

theorem size_eq_keys (m : AList fun _ : κ => ν) : m.size = m.keys.length := by
  simp only [size, keys, List.keys, List.length_map]

theorem size_eq_zero {m : AList fun _ : κ => ν} : m.size = 0 ↔ ∀ k, k ∉ m := by
  rw [size_eq_keys, List.length_eq_zero_iff]
  exact List.eq_nil_iff_forall_not_mem

variable [DecidableEq κ]

theorem lookup_eq_some {m : AList fun _ : κ => ν} {k : κ} {v : ν} :
    m.lookup k = some v ↔ (⟨k, v⟩ : Σ _ : κ, ν) ∈ m.entries :=
  mem_lookup_iff

theorem mem_iff {m : AList fun _ : κ => ν} {k : κ} : k ∈ m ↔ ∃ v, m.lookup k = some v := by
  rw [← lookup_isSome, Option.isSome_iff_exists]

theorem mem_of_lookup {m : AList fun _ : κ => ν} {k : κ} {v : ν} (h : m.lookup k = some v) :
    k ∈ m := mem_iff.mpr ⟨v, h⟩

theorem any_entries {m : AList fun _ : κ => ν} {p : (Σ _ : κ, ν) → Bool} :
    m.entries.any p = true ↔ ∃ k v, m.lookup k = some v ∧ p ⟨k, v⟩ = true := by
  simp only [List.any_eq_true, lookup_eq_some]
  constructor
  · rintro ⟨⟨k, v⟩, he, hp⟩
    exact ⟨k, v, he, hp⟩
  · rintro ⟨k, v, he, hp⟩
    exact ⟨⟨k, v⟩, he, hp⟩

/-- One case split for a read after a write. -/
theorem lookup_insert_eq (m : AList fun _ : κ => ν) (j k : κ) (v : ν) :
    (m.insert k v).lookup j = if j = k then some v else m.lookup j := by
  split
  case isTrue h => subst h; exact lookup_insert m
  case isFalse h => exact lookup_insert_ne h

theorem lookup_insert_eq_some {m : AList fun _ : κ => ν} {j k : κ} {v w : ν} :
    (m.insert k v).lookup j = some w ↔ (j = k ∧ w = v) ∨ (j ≠ k ∧ m.lookup j = some w) := by
  rw [lookup_insert_eq]
  split
  case isTrue h => simp [h, eq_comm]
  case isFalse h => simp [h]

theorem lookup_erase_eq (m : AList fun _ : κ => ν) (j k : κ) :
    (m.erase k).lookup j = if j = k then none else m.lookup j := by
  split
  case isTrue h => subst h; exact lookup_erase j m
  case isFalse h => exact lookup_erase_ne h

theorem lookup_erase_eq_some {m : AList fun _ : κ => ν} {j k : κ} {v : ν} :
    (m.erase k).lookup j = some v ↔ j ≠ k ∧ m.lookup j = some v := by
  rw [lookup_erase_eq]
  split
  case isTrue h => exact iff_of_false (Option.some_ne_none v).symm fun both => both.1 h
  case isFalse h => exact (and_iff_right h).symm

@[simp] theorem lookup_retain (p : κ → ν → Bool) (m : AList fun _ : κ => ν) (k : κ) :
    (m.retain p).lookup k = (m.lookup k).filter (p k) := by
  ext v
  rw [Option.filter_eq_some_iff, lookup_eq_some, lookup_eq_some]
  exact List.mem_filter

theorem mem_retain {p : κ → ν → Bool} {m : AList fun _ : κ => ν} {k : κ} :
    k ∈ m.retain p ↔ ∃ v, m.lookup k = some v ∧ p k v = true := by
  simp only [mem_iff, lookup_retain, Option.filter_eq_some_iff]

@[simp] theorem lookup_mapVal (f : κ → ν → μ) (m : AList fun _ : κ => ν) (k : κ) :
    (m.mapVal f).lookup k = (m.lookup k).map (f k) :=
  List.dlookup_map₂ k

omit [DecidableEq κ] in
@[simp] theorem keys_mapVal (f : κ → ν → μ) (m : AList fun _ : κ => ν) :
    (m.mapVal f).keys = m.keys := List.map₂_keys f m.entries

omit [DecidableEq κ] in
@[simp] theorem mem_mapVal {f : κ → ν → μ} {m : AList fun _ : κ => ν} {k : κ} :
    k ∈ m.mapVal f ↔ k ∈ m := by
  rw [mem_keys, mem_keys, keys_mapVal]

theorem lookup_modify_eq (m : AList fun _ : κ => ν) (f : ν → ν) (j k : κ) :
    (m.modify k f).lookup j = if j = k then (m.lookup k).map f else m.lookup j := by
  rw [modify, lookup_mapVal]
  split
  case isTrue h => subst h; rfl
  case isFalse h => exact Option.map_id'

theorem lookup_modify_eq_some {m : AList fun _ : κ => ν} {f : ν → ν} {j k : κ} {v : ν} :
    (m.modify k f).lookup j = some v ↔
      (j = k ∧ ∃ u, m.lookup k = some u ∧ f u = v) ∨ (j ≠ k ∧ m.lookup j = some v) := by
  rw [lookup_modify_eq]
  split
  case isTrue h => simp [h]
  case isFalse h => simp [h]

@[simp] theorem lookup_modify_self (m : AList fun _ : κ => ν) (f : ν → ν) (k : κ) :
    (m.modify k f).lookup k = (m.lookup k).map f := by
  rw [lookup_modify_eq, if_pos rfl]

@[simp] theorem mem_modify {m : AList fun _ : κ => ν} {f : ν → ν} {j k : κ} :
    j ∈ m.modify k f ↔ j ∈ m := mem_mapVal

theorem size_insert_of_notMem {m : AList fun _ : κ => ν} {k : κ} {v : ν} (h : k ∉ m) :
    (m.insert k v).size = m.size + 1 := by
  rw [size, entries_insert_of_notMem h, List.length_cons, size]

theorem size_erase_le (m : AList fun _ : κ => ν) (k : κ) : (m.erase k).size ≤ m.size :=
  (List.kerase_sublist k m.entries).length_le

theorem size_insert_le (m : AList fun _ : κ => ν) (k : κ) (v : ν) :
    (m.insert k v).size ≤ m.size + 1 := by
  rw [size, entries_insert, List.length_cons]
  exact Nat.succ_le_succ (m.size_erase_le k)

theorem size_erase_of_mem {m : AList fun _ : κ => ν} {k : κ} (h : k ∈ m) :
    (m.erase k).size + 1 = m.size := by
  obtain ⟨v, front, back, -, all, rest⟩ := List.exists_of_kerase (AList.mem_keys.mp h)
  have erased : (m.erase k).entries = front ++ back := rest
  rw [size, size, erased, all, List.length_append, List.length_append, List.length_cons]
  exact Nat.add_assoc _ _ _

omit [DecidableEq κ] in
theorem size_retain (m : AList fun _ : κ => ν) (p : κ → ν → Bool) :
    (m.retain p).size = m.entries.countP fun e => p e.1 e.2 :=
  (List.countP_eq_length_filter).symm

omit [DecidableEq κ] in
theorem size_retain_le (m : AList fun _ : κ => ν) (p : κ → ν → Bool) :
    (m.retain p).size ≤ m.size := List.length_filter_le _ _

/-- The entries that pass a test, counted across a write. -/
theorem size_retain_insert (m : AList fun _ : κ => ν) (p : κ → ν → Bool) (k : κ) (v : ν) :
    ((m.insert k v).retain p).size + ((m.lookup k).any (p k)).toNat =
      (m.retain p).size + (p k v).toNat := by
  have count : ∀ b : Bool, (if b = true then 1 else 0) = b.toNat := by decide
  rw [size_retain, size_retain, entries_insert, List.countP_cons, count]
  cases found : m.lookup k with
  | none =>
      have absent : k ∉ m.entries.keys := List.dlookup_eq_none.mp found
      rw [List.kerase_of_notMem_keys absent]
      rfl
  | some w =>
      have present : k ∈ m.entries.keys := by
        rw [← List.dlookup_isSome]
        exact Option.isSome_iff_exists.mpr ⟨w, found⟩
      obtain ⟨w', front, back, absent, all, rest⟩ := List.exists_of_kerase present
      have same : w = w' := by
        have held : (⟨k, w'⟩ : Σ _ : κ, ν) ∈ m.entries := by
          rw [all]
          exact List.mem_append_right front List.mem_cons_self
        exact Option.some.inj (found.symm.trans (lookup_eq_some.mpr held))
      subst same
      rw [rest, all, List.countP_append, List.countP_append, List.countP_cons, count,
        Option.any_some]
      dsimp only
      omega

/-- A change of values that the test does not see. -/
theorem size_retain_modify (m : AList fun _ : κ => ν) (p : κ → ν → Bool) (k : κ) {f : ν → ν}
    (same : ∀ v, p k (f v) = p k v) : ((m.modify k f).retain p).size = (m.retain p).size := by
  rw [size_retain, size_retain]
  refine (List.countP_map ..).trans (List.countP_congr fun e _ => ?_)
  simp only [Function.comp, Sigma.map, id]
  split
  case isTrue here => rw [here, same]
  case isFalse => exact Iff.rfl

omit [DecidableEq κ] in
/-- Entries counted on one side inject into the keys of another map. -/
theorem countP_le_size {m : AList fun _ : κ => ν} {n : AList fun _ : κ => μ}
    {p : κ → ν → Bool} (h : ∀ k v, (⟨k, v⟩ : Σ _ : κ, ν) ∈ m.entries → p k v = true → k ∈ n) :
    (m.retain p).size ≤ n.size := by
  rw [size_eq_keys, size_eq_keys]
  refine (List.subperm_of_subset (m.retain p).keys_nodup ?_).length_le
  intro k hk
  obtain ⟨v, hv⟩ := List.mem_keys.mp hk
  obtain ⟨hm, hp⟩ := List.mem_filter.mp hv
  exact h k v hm hp

/-- Lists made of all entries, where only one key contributes. -/
theorem flatMap_entries_single {β : Type*} {m : AList fun _ : κ => ν} {k : κ} {v : ν}
    (found : m.lookup k = some v) {f : (Σ _ : κ, ν) → List β}
    (others : ∀ e : Σ _ : κ, ν, e ∈ m.entries → e.1 ≠ k → f e = []) :
    m.entries.flatMap f = f ⟨k, v⟩ := by
  obtain ⟨before, after, whole⟩ := List.append_of_mem (lookup_eq_some.mp found)
  have distinct := List.nodupKeys_iff_pairwise.mp m.nodupKeys
  rw [whole] at distinct others ⊢
  obtain ⟨-, rest, apart⟩ := List.pairwise_append.mp distinct
  have front : before.flatMap f = [] := by
    refine List.flatMap_eq_nil_iff.mpr fun e he => ?_
    exact others e (List.mem_append_left _ he) (apart e he _ List.mem_cons_self)
  have back : after.flatMap f = [] := by
    refine List.flatMap_eq_nil_iff.mpr fun e he => ?_
    exact others e (List.mem_append_right _ (List.mem_cons_of_mem _ he))
      ((List.pairwise_cons.mp rest).1 e he).symm
  rw [List.flatMap_append, List.flatMap_cons, front, back, List.nil_append, List.append_nil]

end AList
