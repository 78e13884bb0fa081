import P2pUsb.Library.FiniteMap

/-! Values that replace each other by key. A map with the order in which its keys came in
holds the latest value of every key. -/
namespace Coalescing
variable {κ α β : Type*} [DecidableEq κ] {key : α → κ}

/-- The last value with this key. -/
def latest (key : α → κ) (xs : List α) (k : κ) : Option α :=
  (xs.filter fun x => key x = k).getLast?

theorem latest_concat (xs : List α) (x : α) (k : κ) :
    latest key (xs ++ [x]) k = if k = key x then some x else latest key xs k := by
  rw [latest, List.filter_append, List.getLast?_append]
  split
  case isTrue own => simp [own]
  case isFalse other => simp [latest, Ne.symm other]

theorem key_of_latest {xs : List α} {x : α} {k : κ} (last : latest key xs k = some x) :
    key x = k := of_decide_eq_true (List.mem_filter.mp (List.mem_of_getLast? last)).2

theorem mem_of_latest {xs : List α} {x : α} {k : κ} (last : latest key xs k = some x) :
    x ∈ xs := (List.mem_filter.mp (List.mem_of_getLast? last)).1

/-- After it there is no other value with its key. -/
theorem latest_of_last {xs ys : List α} {x : α} (last : ∀ y ∈ ys, key y ≠ key x) :
    latest key (xs ++ x :: ys) (key x) = some x := by
  have others : (ys.filter fun y => key y = key x) = [] :=
    List.filter_eq_nil_iff.mpr fun y mem same => last y mem (of_decide_eq_true same)
  have own : (x :: ys).filter (fun y => key y = key x) = [x] := by
    rw [List.filter_cons, decide_eq_true rfl, if_pos rfl, others]
  rw [latest, List.filter_append, own, List.getLast?_concat]

/-- What is read off the values of one key only. -/
theorem filterMap_of_key {f : α → Option β} {k : κ} (own : ∀ x, key x ≠ k → f x = none)
    (xs : List α) : xs.filterMap f = (xs.filter fun x => key x = k).filterMap f := by
  rw [List.filterMap_filter]
  refine List.filterMap_congr fun x _ => ?_
  split
  case isTrue => rfl
  case isFalse other => exact own x fun same => other (decide_eq_true same)

/-- A reading of the latest value is the last one of all. -/
theorem last_reading {f : α → Option β} {k : κ} (own : ∀ x, key x ≠ k → f x = none)
    {xs : List α} {x : α} {y : β} (last : latest key xs k = some x) (read : f x = some y) :
    (xs.filterMap f).getLast? = some y := by
  obtain ⟨before, whole⟩ := List.getLast?_eq_some_iff.mp last
  rw [filterMap_of_key own, whole, List.filterMap_append, List.filterMap_cons_some read,
    List.filterMap_nil, List.getLast?_concat]

theorem no_reading {f : α → Option β} {k : κ} (own : ∀ x, key x ≠ k → f x = none)
    {xs : List α} (last : latest key xs k = none) : xs.filterMap f = [] := by
  rw [filterMap_of_key own, List.getLast?_eq_none_iff.mp last, List.filterMap_nil]

/-- In the order of the first occurrences a new value comes last. -/
theorem eraseDups_concat (ks : List κ) (k : κ) :
    (ks ++ [k]).eraseDups = if k ∈ ks then ks.eraseDups else ks.eraseDups ++ [k] := by
  rw [List.eraseDups_append]
  split
  case isTrue old =>
    have none : [k].removeAll ks = [] := by simp [List.removeAll, old]
    rw [none, List.eraseDups_nil, List.append_nil]
  case isFalse new =>
    have all : [k].removeAll ks = [k] := by simp [List.removeAll, new]
    rw [all]
    rfl

/-- The map holds the latest values, and the order lists its keys once each. -/
structure Holds (key : α → κ) (m : AList fun _ : κ => α) (order : List κ) (xs : List α) : Prop where
  values : ∀ k, m.lookup k = latest key xs k
  once : order.Nodup
  keys : ∀ k, k ∈ order ↔ k ∈ m

namespace Holds
variable {m : AList fun _ : κ => α} {order : List κ} {xs : List α}

theorem empty : Holds key (∅ : AList fun _ : κ => α) [] [] where
  values := fun _ => rfl
  once := List.nodup_nil
  keys := fun _ => iff_of_false List.not_mem_nil (AList.notMem_empty _)

theorem add (h : Holds key m order xs) (x : α) :
    Holds key (m.insert (key x) x) (if key x ∈ m then order else order ++ [key x]) (xs ++ [x]) where
  values := by
    intro k
    rw [AList.lookup_insert_eq, latest_concat, h.values]
  once := by
    split
    case isTrue => exact h.once
    case isFalse absent =>
      refine List.nodup_append.mpr ⟨h.once, List.nodup_singleton _, ?_⟩
      rintro k old k' new rfl
      rw [List.mem_singleton.mp new] at old
      exact absent ((h.keys _).mp old)
  keys := by
    intro k
    rw [AList.mem_insert]
    split
    case isTrue present =>
      rw [h.keys]
      exact ⟨.inr, fun either => either.elim (fun same => same ▸ present) id⟩
    case isFalse => rw [List.mem_append, List.mem_singleton, h.keys, or_comm]

theorem mem_flush (h : Holds key m order xs) {x : α} :
    x ∈ order.filterMap (fun k => m.lookup k) ↔ latest key xs (key x) = some x := by
  rw [List.mem_filterMap]
  constructor
  · rintro ⟨k, -, found⟩
    rw [h.values] at found
    rwa [key_of_latest found]
  · intro last
    rw [← h.values] at last
    exact ⟨key x, (h.keys _).mpr (AList.mem_of_lookup last), last⟩

theorem mem_keys (h : Holds key m order xs) {k : κ} : k ∈ m ↔ k ∈ xs.map key := by
  rw [AList.mem_iff, List.mem_map]
  constructor
  · rintro ⟨x, found⟩
    rw [h.values] at found
    exact ⟨x, mem_of_latest found, key_of_latest found⟩
  · rintro ⟨x, present, own⟩
    have some : latest key xs k ≠ none := by
      rw [latest, Ne, List.getLast?_eq_none_iff, List.filter_eq_nil_iff]
      exact fun none => none x present (decide_eq_true own)
    obtain ⟨y, last⟩ := Option.ne_none_iff_exists'.mp some
    exact ⟨y, (h.values k).trans last⟩

/-- The values in the order of their keys have these keys. -/
theorem keys_flush (h : Holds key m order xs) :
    (order.filterMap fun k => m.lookup k).map key = order := by
  have each : ∀ ks : List κ, (∀ k ∈ ks, k ∈ m) →
      (ks.filterMap fun k => m.lookup k).map key = ks := by
    intro ks listed
    induction ks with
    | nil => rfl
    | cons k ks ih =>
        obtain ⟨x, found⟩ := AList.mem_iff.mp (listed k List.mem_cons_self)
        have own : key x = k := key_of_latest ((h.values k).symm.trans found)
        rw [List.filterMap_cons, found, List.map_cons, own,
          ih fun j later => listed j (List.mem_cons_of_mem k later)]
  exact each order fun k listed => (h.keys k).mp listed

/-- A reading that only one key has is made once from the values of all keys. -/
theorem flush_reading (h : Holds key m order xs) {f : α → Option β} {k : κ}
    (own : ∀ x, key x ≠ k → f x = none) :
    (order.filterMap fun k => m.lookup k).filterMap f = ((latest key xs k).bind f).toList := by
  have others : ∀ j, j ≠ k → (m.lookup j).bind f = none := by
    intro j other
    rw [h.values]
    cases last : latest key xs j with
    | none => rfl
    | some x => exact own x fun same => other ((key_of_latest last).symm.trans same)
  have single : ∀ l : List κ, l.Nodup → l.filterMap (fun j => (m.lookup j).bind f) =
      if k ∈ l then ((m.lookup k).bind f).toList else [] := by
    intro l once
    induction l with
    | nil => rfl
    | cons j rest ih =>
        obtain ⟨fresh, once⟩ := List.nodup_cons.mp once
        rw [List.filterMap_cons, ih once]
        by_cases here : j = k
        · subst here
          rw [if_neg fresh, if_pos List.mem_cons_self]
          cases (m.lookup j).bind f <;> rfl
        · rw [others j here]
          simp [Ne.symm here]
  rw [List.filterMap_filterMap, single order h.once, ← h.values]
  split
  case isTrue => rfl
  case isFalse absent =>
    rw [h.keys] at absent
    rw [AList.lookup_eq_none.mpr absent]
    rfl

end Holds
end Coalescing
