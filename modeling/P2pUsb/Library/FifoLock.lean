import Mathlib.Data.List.Nodup

/-! Locks served in the order in which they are asked for: who has asked, who has
used the lock, and the queue with its holder in front. -/

structure FifoLock (ι : Type*) where
  asked : List ι
  used : List ι
  queue : List ι

namespace FifoLock
variable {ι : Type*}

inductive Step : FifoLock ι → FifoLock ι → Prop
  | ask (L : FifoLock ι) (i : ι) (fresh : i ∉ L.asked) :
      Step L { L with asked := L.asked ++ [i], queue := L.queue ++ [i] }
  | use (L : FifoLock ι) (i : ι) (holds : L.queue.head? = some i) (fresh : i ∉ L.used) :
      Step L { L with used := L.used ++ [i] }
  | leave (L : FifoLock ι) : Step L { L with queue := L.queue.tail }

/-- The queue is the end of the list of those who asked, and only its holder and
those who have left can have used the lock. -/
structure Valid (L : FifoLock ι) : Prop where
  distinct : L.asked.Nodup
  served : ∃ gone, L.asked = gone ++ L.queue ∧ L.used.Sublist (gone ++ L.queue.head?.toList)

theorem Valid.empty : Valid (⟨[], [], []⟩ : FifoLock ι) :=
  ⟨List.nodup_nil, [], rfl, .slnil⟩

theorem Valid.step {L L' : FifoLock ι} (h : L.Valid) (hs : Step L L') : L'.Valid := by
  obtain ⟨gone, asked, used⟩ := h.served
  cases hs with
  | ask i fresh =>
      refine ⟨?_, gone, ?_, used.trans ?_⟩
      · rw [List.nodup_append_comm, List.singleton_append]
        exact h.distinct.cons fresh
      · rw [asked, List.append_assoc]
      · cases L.queue with
        | nil => exact (List.Sublist.refl gone).append (List.nil_sublist _)
        | cons j rest => exact List.Sublist.refl _
  | use i holds fresh =>
      refine ⟨h.distinct, gone, asked, ?_⟩
      rw [holds] at used ⊢
      obtain ⟨front, back, same, inside, last⟩ := List.sublist_append_iff.mp used
      rcases List.sublist_singleton.mp last with rfl | rfl
      · rw [same, List.append_nil]
        exact inside.append (List.Sublist.refl _)
      · refine absurd ?_ fresh
        rw [same]
        exact List.mem_append_right _ (List.mem_singleton.mpr rfl)
  | leave =>
      cases queue : L.queue with
      | nil =>
          rw [queue] at asked used
          exact ⟨h.distinct, gone, asked, used⟩
      | cons i rest =>
          rw [queue] at asked used
          refine ⟨h.distinct, gone ++ [i], ?_, ?_⟩
          · rw [List.append_assoc]
            exact asked
          · exact used.trans (List.sublist_append_left _ _)

/-- Those who use the lock do so in the order in which they asked for it. -/
theorem Valid.in_order {L : FifoLock ι} (h : L.Valid) : L.used.Sublist L.asked := by
  obtain ⟨gone, asked, used⟩ := h.served
  rw [asked]
  refine used.trans ((List.Sublist.refl _).append ?_)
  cases L.queue with
  | nil => exact .slnil
  | cons i rest => exact List.singleton_sublist.mpr List.mem_cons_self

end FifoLock
