import Mathlib.Order.Defs.Unbundled

/-! Max-heaps in an array, with the sifts that go down to the bottom before they go up. The
comparisons of an operation are numbered, as each may come out in its own way: the operations
permute their elements whatever the comparisons say, and where they all agree with one total
preorder on the elements, they keep the heap in order. -/
namespace BinaryHeap
variable {α : Type*}

def parent (i : Nat) : Nat := (i - 1) / 2

/-- Moves the element up until its parent is not smaller; beside the heap the number of the next
comparison. -/
def siftUp (le : Nat → α → α → Bool) (n : Nat) (data : Array α) (pos : Nat) : Array α × Nat :=
  if h : 0 < pos ∧ pos < data.size then
    have above : parent pos < data.size := by unfold parent; omega
    if le n data[pos] data[parent pos] then (data, n + 1)
    else siftUp le (n + 1) (data.swap pos (parent pos)) (parent pos)
  else (data, n)
termination_by pos
decreasing_by unfold parent; omega

/-- Moves the element down along the larger children, and tells where it ends. -/
def descend (le : Nat → α → α → Bool) (n : Nat) (data : Array α) (pos : Nat) :
    (Array α × Nat) × Nat :=
  if h : 2 * pos + 2 < data.size then
    if le n data[2 * pos + 1] data[2 * pos + 2] then
      descend le (n + 1) (data.swap pos (2 * pos + 2)) (2 * pos + 2)
    else descend le (n + 1) (data.swap pos (2 * pos + 1)) (2 * pos + 1)
  else if h : 2 * pos + 1 < data.size then ((data.swap pos (2 * pos + 1), n), 2 * pos + 1)
  else ((data, n), pos)
termination_by data.size - pos

/-- The element at the root goes down to the bottom and from there up to its place. -/
def siftDownToBottom (le : Nat → α → α → Bool) (n : Nat) (data : Array α) : Array α × Nat :=
  let (down, pos) := descend le n data 0
  siftUp le down.2 down.1 pos

def push (le : Nat → α → α → Bool) (n : Nat) (data : Array α) (x : α) : Array α × Nat :=
  siftUp le n (data.push x) data.size

/-- The root; the last element takes its place. -/
def pop (le : Nat → α → α → Bool) (data : Array α) : Option (α × Array α) :=
  match data.back? with
  | none => none
  | some item =>
      if h : 0 < data.pop.size then
        some (data.pop[0], (siftDownToBottom le 0 (data.pop.set 0 item)).1)
      else some (item, data.pop)

variable {le : Nat → α → α → Bool} {n : Nat} {data : Array α} {pos : Nat} {x y : α}
  {rest : Array α}

theorem sift_up_perm (le : Nat → α → α → Bool) (n : Nat) (data : Array α) (pos : Nat) :
    (siftUp le n data pos).1.Perm data := by
  induction n, data, pos using siftUp.induct le with
  | case1 n data pos inside above level =>
      rw [siftUp, dif_pos inside, if_pos level]
  | case2 n data pos inside above smaller ih =>
      rw [siftUp, dif_pos inside, if_neg smaller]
      exact ih.trans (Array.swap_perm _ _)
  | case3 n data pos outside =>
      rw [siftUp, dif_neg outside]

theorem descend_perm (le : Nat → α → α → Bool) (n : Nat) (data : Array α) (pos : Nat) :
    (descend le n data pos).1.1.Perm data := by
  induction n, data, pos using descend.induct le with
  | case1 n data pos both right ih =>
      rw [descend, dif_pos both, if_pos right]
      exact ih.trans (Array.swap_perm _ _)
  | case2 n data pos both left ih =>
      rw [descend, dif_pos both, if_neg left]
      exact ih.trans (Array.swap_perm _ _)
  | case3 n data pos both one =>
      rw [descend, dif_neg both, dif_pos one]
      exact Array.swap_perm _ _
  | case4 n data pos both one =>
      rw [descend, dif_neg both, dif_neg one]

theorem sift_down_perm (le : Nat → α → α → Bool) (n : Nat) (data : Array α) :
    (siftDownToBottom le n data).1.Perm data :=
  (sift_up_perm le _ _ _).trans (descend_perm le n data 0)

theorem push_perm (le : Nat → α → α → Bool) (n : Nat) (data : Array α) (x : α) :
    (push le n data x).1.toList.Perm (x :: data.toList) := by
  have moved := (sift_up_perm le n (data.push x) data.size).toList
  rw [Array.toList_push] at moved
  exact moved.trans (List.perm_append_singleton x data.toList)

/-- What is popped is the root, whatever the comparisons say. -/
theorem pop_some (popped : pop le data = some (x, rest)) :
    data[0]? = some x ∧ data.toList.Perm (x :: rest.toList) := by
  rw [pop] at popped
  split at popped
  · cases popped
  · rename_i item last
    obtain ⟨⟨init⟩, rfl⟩ := Array.back?_eq_some_iff.mp last
    simp only [Array.pop_push] at popped
    cases init with
    | nil =>
        obtain ⟨rfl, rfl⟩ := Prod.mk.inj (Option.some.inj popped)
        exact ⟨rfl, .refl _⟩
    | cons root others =>
        have filled : 0 < (⟨root :: others⟩ : Array α).size := Nat.zero_lt_succ _
        rw [dif_pos filled] at popped
        obtain ⟨rfl, rfl⟩ := Prod.mk.inj (Option.some.inj popped)
        have moved := (sift_down_perm le 0 ((⟨root :: others⟩ : Array α).set 0 item)).toList
        refine ⟨by simp, ?_⟩
        rw [Array.toList_push]
        exact .trans (.cons root (List.perm_append_singleton item others)) (.cons root moved.symm)

variable {R : α → α → Prop}

/-- The element at a position is not larger than the one above it. -/
def Edge (R : α → α → Prop) (data : Array α) (i : Nat) : Prop :=
  ∀ x y, data[i]? = some x → data[parent i]? = some y → R x y

def Ordered (R : α → α → Prop) (data : Array α) : Prop := ∀ i, 0 < i → Edge R data i

/-- In order without the root. -/
def OrderedBelow (R : α → α → Prop) (data : Array α) : Prop :=
  ∀ i, 0 < i ∧ parent i ≠ 0 → Edge R data i

instance decidableEdges [DecidableRel R] {p : Nat → Prop} [DecidablePred p] :
    Decidable (∀ i, p i → Edge R data i) :=
  decidable_of_iff (∀ i < data.size, p i → ∀ x ∈ data[i]?, ∀ y ∈ data[parent i]?, R x y)
    ⟨fun h i asked x y there up => h i (Array.getElem?_eq_some_iff.mp there).1 asked x there y up,
      fun h i _ asked x there y up => h i asked x y there up⟩

instance [DecidableRel R] : Decidable (Ordered R data) :=
  inferInstanceAs (Decidable (∀ i, 0 < i → Edge R data i))

instance [DecidableRel R] : Decidable (OrderedBelow R data) :=
  inferInstanceAs (Decidable (∀ i, 0 < i ∧ parent i ≠ 0 → Edge R data i))

/-- In order but for the edges at one position, around which the order goes on. -/
structure HoleOrder (R : α → α → Prop) (data : Array α) (pos : Nat) : Prop where
  edges : ∀ i, 0 < i → i ≠ pos → parent i ≠ pos → Edge R data i
  grand : 0 < pos → ∀ i, 0 < i → parent i = pos →
    ∀ x y, data[i]? = some x → data[parent pos]? = some y → R x y

/-- In order but for the edge from one position upwards. -/
structure UpOrder (R : α → α → Prop) (data : Array α) (pos : Nat) : Prop extends
    HoleOrder R data pos where
  below : ∀ i, 0 < i → parent i = pos → Edge R data i

/-- All comparisons of an element with those of a list decide the relation. -/
def Places (le : Nat → α → α → Bool) (R : α → α → Prop) (x : α) (elements : List α) : Prop :=
  ∀ n, ∀ y ∈ elements, le n x y = true ↔ R x y

/-- All comparisons of the elements of a list do. -/
def Decides (le : Nat → α → α → Bool) (R : α → α → Prop) (elements : List α) : Prop :=
  ∀ x ∈ elements, Places le R x elements

theorem Places.mono {elements others : List α} (h : Places le R x elements)
    (fewer : others ⊆ elements) : Places le R x others :=
  fun n y present => h n y (fewer present)

theorem Decides.mono {elements others : List α} (h : Decides le R elements)
    (fewer : others ⊆ elements) : Decides le R others :=
  fun x present => (h x (fewer present)).mono fewer

theorem parent_lt {i : Nat} (h : 0 < i) : parent i < i := by
  unfold parent
  omega

theorem child_cases {i : Nat} (h : 0 < i) : i = 2 * parent i + 1 ∨ i = 2 * parent i + 2 := by
  unfold parent
  omega

theorem parent_left : parent (2 * pos + 1) = pos := by
  unfold parent
  omega

theorem parent_right : parent (2 * pos + 2) = pos := by
  unfold parent
  omega

/-- The root of a heap is not smaller than any element. -/
theorem Ordered.root_max [Std.Refl R] [IsTrans α R] (h : Ordered R data)
    (root : data[0]? = some x) :
    ∀ y ∈ data.toList, R y x := by
  have each : ∀ i : Nat, ∀ y, data[i]? = some y → R y x := by
    intro i
    induction i using Nat.strongRecOn with
    | _ i ih =>
    intro y there
    by_cases first : i = 0
    · subst first
      rw [Option.some.inj (there.symm.trans root)]
      exact refl_of R x
    · have positive : 0 < i := Nat.pos_of_ne_zero first
      have inside : parent i < data.size :=
        Nat.lt_trans (parent_lt positive) (Array.getElem?_eq_some_iff.mp there).1
      have above := Array.getElem?_eq_getElem inside
      exact trans_of R (h i positive y _ there above) (ih _ (parent_lt positive) _ above)
  intro y present
  obtain ⟨i, inside, rfl⟩ := List.getElem_of_mem present
  exact each i _ (by simp)

/-- What an element smaller than its parent leaves behind when it moves down. -/
theorem UpOrder.move [IsTrans α R] (o : UpOrder R data pos) (positive : 0 < pos)
    (inside : pos < data.size) (above : parent pos < data.size)
    (smaller : R data[parent pos] data[pos]) :
    UpOrder R (data.swap pos (parent pos)) (parent pos) := by
  have lower := parent_lt positive
  have sibling : ∀ i x, 0 < i → i ≠ pos → parent i = parent pos → data[i]? = some x →
      R x data[parent pos] := by
    intro i x child other same there
    refine o.edges i child other (by omega) x _ there ?_
    rw [same]
    exact Array.getElem?_eq_getElem above
  refine { edges := ?_, grand := ?_, below := ?_ }
  · intro i child other notBelow x y there up
    have notPos : i ≠ pos := fun same => notBelow (same ▸ rfl)
    rw [Array.getElem?_swap, if_neg (Ne.symm other), if_neg (Ne.symm notPos)] at there
    rw [Array.getElem?_swap, if_neg (Ne.symm notBelow)] at up
    by_cases under : parent i = pos
    · rw [if_pos under.symm] at up
      obtain rfl := Option.some.inj up
      exact o.grand positive i child under x _ there (Array.getElem?_eq_getElem above)
    · rw [if_neg (Ne.symm under)] at up
      exact o.edges i child notPos under x y there up
  · intro higher i child under x y there up
    have top := parent_lt higher
    rw [Array.getElem?_swap, if_neg (by omega), if_neg (by omega)] at up
    have upper : R data[parent pos] y := o.edges (parent pos) higher (by omega) (by omega) _ y
      (Array.getElem?_eq_getElem above) up
    have below := parent_lt child
    rw [Array.getElem?_swap, if_neg (by omega)] at there
    by_cases own : pos = i
    · rw [if_pos own] at there
      exact Option.some.inj there ▸ upper
    · rw [if_neg own] at there
      exact trans_of R (sibling i x child (Ne.symm own) under there) upper
  · intro i child under x y there up
    have below := parent_lt child
    rw [under, Array.getElem?_swap, if_pos rfl] at up
    obtain rfl := Option.some.inj up
    rw [Array.getElem?_swap, if_neg (by omega)] at there
    by_cases own : pos = i
    · rw [if_pos own] at there
      exact Option.some.inj there ▸ smaller
    · rw [if_neg own] at there
      exact trans_of R (sibling i x child (Ne.symm own) under there) smaller

theorem UpOrder.finish (o : UpOrder R data pos) (done : 0 < pos → Edge R data pos) :
    Ordered R data := by
  intro i positive
  by_cases own : i = pos
  · subst own
    exact done positive
  · by_cases under : parent i = pos
    · exact o.below i positive under
    · exact o.edges i positive own under

theorem sift_up_ordered [IsTrans α R] [Std.Total R] (n : Nat) (data : Array α) (pos : Nat)
    (moving : ∀ y, data[pos]? = some y → y = x) (places : Places le R x data.toList)
    (o : UpOrder R data pos) : Ordered R (siftUp le n data pos).1 := by
  induction n, data, pos using siftUp.induct le with
  | case1 n data pos inside above level =>
      rw [siftUp, dif_pos inside, if_pos level]
      refine o.finish fun positive y z there up => ?_
      obtain ⟨-, rfl⟩ := Array.getElem?_eq_some_iff.mp there
      obtain ⟨-, rfl⟩ := Array.getElem?_eq_some_iff.mp up
      have own : data[pos] = x := moving _ (Array.getElem?_eq_getElem inside.2)
      rw [own] at level ⊢
      exact (places n _ (by simp)).mp level
  | case2 n data pos inside above smaller ih =>
      rw [siftUp, dif_pos inside, if_neg smaller]
      have own : data[pos] = x := moving _ (Array.getElem?_eq_getElem inside.2)
      refine ih (fun y there => ?_) (places.mono (Array.swap_perm _ _).toList.subset) ?_
      · rw [Array.getElem?_swap, if_pos rfl] at there
        rw [← Option.some.inj there, own]
      · refine o.move inside.1 inside.2 above ?_
        rw [own] at smaller ⊢
        rcases Std.Total.total (r := R) data[parent pos] x with larger | wrong
        · exact larger
        · exact absurd ((places n _ (by simp)).mpr wrong) smaller
  | case3 n data pos outside =>
      rw [siftUp, dif_neg outside]
      refine o.finish fun positive y z there => ?_
      exact absurd ⟨positive, (Array.getElem?_eq_some_iff.mp there).1⟩ outside

/-- What the larger of the children leaves behind when it moves up. -/
theorem HoleOrder.move {child : Nat} (o : HoleOrder R data pos) (isChild : 0 < child)
    (under : parent child = pos) (inside : child < data.size) (here : pos < data.size)
    (largest : ∀ i x, 0 < i → parent i = pos → i ≠ child → data[i]? = some x → R x data[child]) :
    HoleOrder R (data.swap pos child) child := by
  have lower := parent_lt isChild
  constructor
  · intro i positive other notBelow x y there up
    rw [Array.getElem?_swap, if_neg (Ne.symm other)] at there
    rw [Array.getElem?_swap, if_neg (Ne.symm notBelow)] at up
    by_cases own : pos = i
    · rw [if_pos own] at there
      obtain rfl := Option.some.inj there
      have upper := parent_lt positive
      rw [if_neg (by omega)] at up
      exact o.grand (own ▸ positive) child isChild under _ y (Array.getElem?_eq_getElem inside)
        (own ▸ up)
    · rw [if_neg own] at there
      by_cases sibling : pos = parent i
      · rw [if_pos sibling] at up
        obtain rfl := Option.some.inj up
        exact largest i x positive sibling.symm other there
      · rw [if_neg sibling] at up
        exact o.edges i positive (Ne.symm own) (Ne.symm sibling) x y there up
  · intro _ i positive below x y there up
    have lowest := parent_lt positive
    rw [under, Array.getElem?_swap, if_neg (by omega), if_pos rfl] at up
    obtain rfl := Option.some.inj up
    rw [Array.getElem?_swap, if_neg (by omega), if_neg (by omega)] at there
    refine o.edges i positive (by omega) (by omega) x _ there ?_
    rw [below]
    exact Array.getElem?_eq_getElem inside

/-- Without children the hole is only to be closed upwards. -/
theorem HoleOrder.bottom (o : HoleOrder R data pos) (leaf : data.size ≤ 2 * pos + 1) :
    UpOrder R data pos :=
  { o with
    below := fun i positive under x y there => by
      have inside := (Array.getElem?_eq_some_iff.mp there).1
      have either := child_cases positive
      omega }

theorem descend_order [Std.Total R] (n : Nat) (data : Array α) (pos : Nat)
    (decides : Decides le R data.toList) (o : HoleOrder R data pos) :
    UpOrder R (descend le n data pos).1.1 (descend le n data pos).2 := by
  induction n, data, pos using descend.induct le with
  | case1 n data pos both right ih =>
      rw [descend, dif_pos both, if_pos right]
      refine ih (decides.mono (Array.swap_perm _ _).toList.subset)
        (o.move (by omega) parent_right both _ ?_)
      intro i x positive under other there
      obtain ⟨-, rfl⟩ := Array.getElem?_eq_some_iff.mp there
      have left : i = 2 * pos + 1 := by
        have either := child_cases positive
        omega
      subst left
      exact (decides _ (by simp) n _ (by simp)).mp right
  | case2 n data pos both left ih =>
      rw [descend, dif_pos both, if_neg left]
      refine ih (decides.mono (Array.swap_perm _ _).toList.subset)
        (o.move (by omega) parent_left (by omega) _ ?_)
      intro i x positive under other there
      obtain ⟨-, rfl⟩ := Array.getElem?_eq_some_iff.mp there
      have right : i = 2 * pos + 2 := by
        have either := child_cases positive
        omega
      subst right
      rcases Std.Total.total (r := R) data[2 * pos + 1] data[2 * pos + 2] with wrong | larger
      · exact absurd ((decides _ (by simp) n _ (by simp)).mpr wrong) left
      · exact larger
  | case3 n data pos both one =>
      rw [descend, dif_neg both, dif_pos one]
      refine (o.move (by omega) parent_left one _ ?_).bottom (by rw [Array.size_swap]; omega)
      intro i x positive under other there
      have inside := (Array.getElem?_eq_some_iff.mp there).1
      have either := child_cases positive
      omega
  | case4 n data pos both one =>
      rw [descend, dif_neg both, dif_neg one]
      exact o.bottom (by omega)

/-- The element from the root is where the descent ends. -/
theorem descend_moves (n : Nat) (data : Array α) (pos : Nat)
    (moving : ∀ y, data[pos]? = some y → y = x) :
    ∀ y, (descend le n data pos).1.1[(descend le n data pos).2]? = some y → y = x := by
  have swapped : ∀ (data : Array α) (i j : Nat) (inside : i < data.size) (below : j < data.size),
      (∀ y, data[i]? = some y → y = x) → ∀ y, (data.swap i j)[j]? = some y → y = x := by
    intro data i j inside below moving y there
    rw [Array.getElem?_swap, if_pos rfl] at there
    exact moving y ((Array.getElem?_eq_getElem inside).trans there)
  induction n, data, pos using descend.induct le with
  | case1 n data pos both right ih =>
      rw [descend, dif_pos both, if_pos right]
      exact ih (swapped _ _ _ _ _ moving)
  | case2 n data pos both left ih =>
      rw [descend, dif_pos both, if_neg left]
      exact ih (swapped _ _ _ _ _ moving)
  | case3 n data pos both one =>
      rw [descend, dif_neg both, dif_pos one]
      exact swapped _ _ _ _ _ moving
  | case4 n data pos both one =>
      rw [descend, dif_neg both, dif_neg one]
      exact moving

theorem push_ordered [IsTrans α R] [Std.Total R] (h : Ordered R data)
    (places : Places le R x (x :: data.toList)) : Ordered R (push le n data x).1 := by
  refine sift_up_ordered n _ _ (fun y there => ?_) (places.mono ?_) ?_
  · rw [Array.getElem?_push, if_pos rfl] at there
    exact (Option.some.inj there).symm
  · rw [Array.toList_push]
    exact (List.perm_append_singleton x data.toList).subset
  · have beyond : ∀ i y, 0 < i → parent i = data.size → (data.push x)[i]? ≠ some y := by
      intro i y positive under there
      have inside := (Array.getElem?_eq_some_iff.mp there).1
      have lower := parent_lt positive
      rw [Array.size_push] at inside
      omega
    refine { edges := ?_, grand := ?_, below := ?_ }
    · intro i positive own under y z there up
      rw [Array.getElem?_push, if_neg own] at there
      rw [Array.getElem?_push, if_neg under] at up
      exact h i positive y z there up
    · exact fun _ i positive under y z there => absurd there (beyond i y positive under)
    · exact fun i positive under y z there => absurd there (beyond i y positive under)

/-- The root leaves, so only the order of the others matters. -/
theorem pop_ordered [IsTrans α R] [Std.Total R] (h : OrderedBelow R data)
    (decides : Decides le R data.toList.tail) (popped : pop le data = some (x, rest)) :
    Ordered R rest := by
  rw [pop] at popped
  split at popped
  · cases popped
  · rename_i item last
    obtain ⟨⟨init⟩, rfl⟩ := Array.back?_eq_some_iff.mp last
    simp only [Array.pop_push] at popped
    cases init with
    | nil =>
        obtain ⟨-, rfl⟩ := Prod.mk.inj (Option.some.inj popped)
        exact fun i positive y z there => nomatch there
    | cons root others =>
        have filled : 0 < (⟨root :: others⟩ : Array α).size := Nat.zero_lt_succ _
        rw [dif_pos filled] at popped
        obtain ⟨-, rfl⟩ := Prod.mk.inj (Option.some.inj popped)
        have same : ((⟨root :: others⟩ : Array α).push item).toList.tail.Perm
            ((⟨root :: others⟩ : Array α).set 0 item).toList := by
          rw [Array.toList_push, Array.toList_set]
          exact List.perm_append_singleton item others
        have decides := decides.mono same.symm.subset
        have hole : HoleOrder R ((⟨root :: others⟩ : Array α).set 0 item) 0 := by
          refine { edges := fun i positive own under y z there up => ?_, grand := nofun }
          rw [Array.getElem?_set_ne _ (Ne.symm own)] at there
          rw [Array.getElem?_set_ne _ (Ne.symm under)] at up
          have inside := (Array.getElem?_eq_some_iff.mp there).1
          have lower := parent_lt positive
          refine h i ⟨positive, under⟩ y z ?_ ?_
          · rwa [Array.getElem?_push, if_neg (by omega)]
          · rwa [Array.getElem?_push, if_neg (by omega)]
        have down := descend_order 0 _ 0 decides hole
        have atRoot : ∀ y, ((⟨root :: others⟩ : Array α).set 0 item)[0]? = some y → y = item := by
          intro y there
          rw [Array.getElem?_set_self] at there
          exact (Option.some.inj there).symm
        refine sift_up_ordered _ _ _ (descend_moves 0 _ 0 atRoot) ?_ down
        refine (decides item ?_).mono (descend_perm le 0 _ 0).toList.subset
        exact List.mem_cons_self

end BinaryHeap
