import P2pUsb.Library.Machine
import P2pUsb.Qos.PriorityQueue

/-! Aging. The order of two requests can change while they are queued, and the heap is not
put in order when it does; and a comparison looks at the one request later than at the other. -/
namespace P2pUsb

namespace Priority

/-- What a priority becomes after a long wait. -/
def aged : Priority → Priority
  | .low => .medium
  | .medium => .high
  | other => other

theorem aged_at_least_high (p : Priority) : high.rank ≤ p.aged.rank ↔ p ≠ .low := by
  cases p <;> decide

theorem rank_inj {p q : Priority} (same : p.rank = q.rank) : p = q := by
  cases p <;> cases q <;> first | rfl | cases same

end Priority

namespace PrioritizedRequest
variable {now clock : Instant} {x y r : PrioritizedRequest}

/-- The second test of the wait comes after one that it implies. -/
theorem effective_priority_eq (r : PrioritizedRequest) (now : Instant) :
    r.effectivePriority now =
      if r.waitTime now > Duration.fromSecs 5 then r.priority.aged else r.priority := by
  rw [effectivePriority]
  by_cases long : r.waitTime now > Duration.fromSecs 5
  · rw [if_pos long, if_pos long]
    cases r.priority <;> rfl
  · have short : ¬ r.waitTime now > Duration.fromSecs 10 := fun longer =>
      long (Nat.lt_trans (by decide) longer)
    rw [if_neg long, if_neg long, if_neg short]

/-- After ten seconds only a request of low priority is below high priority. -/
theorem overdue_at_least_high (waited : Duration.fromSecs 10 < r.waitTime now) :
    Priority.high.rank ≤ (r.effectivePriority now).rank ↔ r.priority ≠ .low := by
  have long : r.waitTime now > Duration.fromSecs 5 := Nat.lt_trans (by decide) waited
  rw [effective_priority_eq, if_pos long]
  exact r.priority.aged_at_least_high

/-- Requests that were queued together and are level stay so. -/
theorem level_stays (together : x.queuedAt = y.queuedAt) (later : clock ≤ now)
    (level : x.effectivePriority clock = y.effectivePriority clock) :
    x.effectivePriority now = y.effectivePriority now := by
  have sameWait : ∀ t, x.waitTime t = y.waitTime t := fun t => congrArg (t - ·) together
  rw [effective_priority_eq, effective_priority_eq, sameWait] at level ⊢
  by_cases long : y.waitTime clock > Duration.fromSecs 5
  · have still : y.waitTime now > Duration.fromSecs 5 :=
      Nat.lt_of_lt_of_le long (Nat.sub_le_sub_right later _)
    rw [if_pos long, if_pos long] at level
    rw [if_pos still, if_pos still, level]
  · rw [if_neg long, if_neg long] at level
    rw [level]

theorem cmp_iff {t u : Instant} : cmp t u x y ≠ .gt ↔
    (x.effectivePriority t).rank < (y.effectivePriority u).rank ∨
      (x.effectivePriority t).rank = (y.effectivePriority u).rank ∧
        x.waitTime t ≤ y.waitTime u := by
  rw [cmp]
  rcases Nat.lt_trichotomy (x.effectivePriority t).rank (y.effectivePriority u).rank with
    lower | level | higher
  · rw [Nat.compare_eq_lt.mpr lower]
    exact iff_of_true (fun wrong => nomatch wrong) (.inl lower)
  · rw [Nat.compare_eq_eq.mpr level, Ordering.eq_then, Nat.compare_ne_gt]
    exact ⟨fun wait => .inr ⟨level, wait⟩, fun h => h.elim (fun lower => by omega) And.right⟩
  · rw [Nat.compare_eq_gt.mpr higher]
    exact iff_of_false (fun wrong => wrong rfl) fun h => by omega

/-- The order of the requests at a time. -/
def Behind (now : Instant) (x y : PrioritizedRequest) : Prop := cmp now now x y ≠ .gt

instance : DecidableRel (Behind now) := fun _ _ => inferInstanceAs (Decidable (_ ≠ _))

theorem behind_iff : Behind now x y ↔
    (x.effectivePriority now).rank < (y.effectivePriority now).rank ∨
      (x.effectivePriority now).rank = (y.effectivePriority now).rank ∧
        x.waitTime now ≤ y.waitTime now :=
  cmp_iff

instance : IsTrans PrioritizedRequest (Behind now) where
  trans x y z := by
    simp only [behind_iff, Duration]
    omega

instance : Std.Total (Behind now) where
  total x y := by
    simp only [behind_iff, Duration]
    omega

instance : Std.Refl (Behind now) where
  refl _ := behind_iff.mpr (.inr ⟨rfl, Nat.le_refl _⟩)

/-- Whatever comparison of the two a call makes comes out as it would at its end. -/
def Agree (clock : CallClock) (x y : PrioritizedRequest) : Prop :=
  ∀ n, le clock n x y = true ↔ Behind clock.finish x y

/-- The two do not age during the call, and one that has waited longer has done so by more than the
call takes. -/
def Apart (clock : CallClock) (x y : PrioritizedRequest) : Prop :=
  (∀ r ∈ [x, y], r.queuedAt ≤ clock.start ∧ (Duration.fromSecs 5 < r.waitTime clock.start ∨
    r.waitTime clock.finish ≤ Duration.fromSecs 5)) ∧
  (x.queuedAt < y.queuedAt → x.queuedAt + (clock.finish - clock.start) < y.queuedAt)

instance {clock : CallClock} : Decidable (Apart clock x y) := inferInstanceAs (Decidable (_ ∧ _))

theorem effective_steady {clock : CallClock} {t : Instant}
    (settled : Duration.fromSecs 5 < r.waitTime clock.start ∨
      r.waitTime clock.finish ≤ Duration.fromSecs 5)
    (inside : clock.start ≤ t ∧ t ≤ clock.finish) :
    r.effectivePriority t = r.effectivePriority clock.finish := by
  have longer : r.waitTime clock.start ≤ r.waitTime t := Nat.sub_le_sub_right inside.1 _
  have shorter : r.waitTime t ≤ r.waitTime clock.finish := Nat.sub_le_sub_right inside.2 _
  rw [effective_priority_eq, effective_priority_eq]
  rcases settled with aged | fresh
  · have now := Nat.lt_of_lt_of_le aged longer
    rw [if_pos now, if_pos (Nat.lt_of_lt_of_le now shorter)]
  · rw [if_neg (Nat.not_lt_of_le (Nat.le_trans shorter fresh)), if_neg (Nat.not_lt_of_le fresh)]

theorem agree_of_apart {clock : CallClock} (apart : Apart clock x y) : Agree clock x y := by
  intro n
  obtain ⟨each, apart⟩ := apart
  obtain ⟨builtX, settledX⟩ := each x (by simp)
  obtain ⟨builtY, settledY⟩ := each y (by simp)
  have first := clock.inside (2 * n)
  have second := clock.inside (2 * n + 1)
  have forward := clock.forward (2 * n)
  rw [le, bne_iff_ne, cmp_iff, behind_iff, effective_steady settledX first,
    effective_steady settledY second]
  simp only [waitTime, Instant, Duration] at *
  omega

theorem effective_mono (r : PrioritizedRequest) {t u : Instant} (later : t ≤ u) :
    (r.effectivePriority t).rank ≤ (r.effectivePriority u).rank := by
  have longer : r.waitTime t ≤ r.waitTime u := Nat.sub_le_sub_right later _
  rw [effective_priority_eq, effective_priority_eq]
  split
  case isTrue aged => rw [if_pos (Nat.lt_of_lt_of_le aged longer)]
  case isFalse =>
    split
    · cases r.priority <;> decide
    · exact Nat.le_refl _

/-- A request does not rank before itself, though it is looked at twice. -/
theorem agree_self (clock : CallClock) (x : PrioritizedRequest) : Agree clock x x := by
  intro n
  have forward := clock.forward (2 * n)
  have rises := x.effective_mono forward
  have waits : x.waitTime (clock.read (2 * n)) ≤ x.waitTime (clock.read (2 * n + 1)) :=
    Nat.sub_le_sub_right forward _
  rw [le, bne_iff_ne, cmp_iff, behind_iff]
  refine iff_of_true ?_ (.inr ⟨rfl, Nat.le_refl _⟩)
  rcases Nat.lt_or_eq_of_le rises with lower | level
  · exact .inl lower
  · exact .inr ⟨level, waits⟩

end PrioritizedRequest
open PrioritizedRequest (Behind Agree Apart)

inductive HeapCall where
  | push (clock : CallClock) (request : PrioritizedRequest)
  | pop (clock : CallClock)

/-- A request that is popped, with what was queued until then. -/
structure Popped where
  now : Instant
  queued : List PrioritizedRequest
  request : PrioritizedRequest
  deriving DecidableEq

/-- The law of aging: the highest effective priority, of those the longest wait, and no
request that has waited too long stays low or is overtaken by one that came later. -/
structure Popped.RespectsAging (e : Popped) : Prop where
  queued : e.request ∈ e.queued
  highest : ∀ x ∈ e.queued,
    (x.effectivePriority e.now).rank ≤ (e.request.effectivePriority e.now).rank
  longest : ∀ x ∈ e.queued, x.effectivePriority e.now = e.request.effectivePriority e.now →
    x.waitTime e.now ≤ e.request.waitTime e.now
  overdue : ∀ x ∈ e.queued, Duration.fromSecs 10 < x.waitTime e.now →
    Priority.high.rank ≤ (x.effectivePriority e.now).rank ∧ ¬ x.queuedAt < e.request.queuedAt

/-- The queue and the time at which the last call on it was over. -/
structure AgingQueue where
  queue : PriorityQueue
  clock : Instant

namespace AgingQueue

def start : AgingQueue := ⟨.new, 0⟩

def queued (s : AgingQueue) : List PrioritizedRequest := s.queue.heap.toList

/-- The clock does not go back, and a request is built before it is pushed. -/
def step (s : AgingQueue) : HeapCall → Option (AgingQueue × List Popped)
  | .push clock request =>
      if s.clock ≤ clock.start ∧ request.queuedAt ≤ clock.start then
        some (⟨s.queue.push clock request, clock.finish⟩, [])
      else none
  | .pop clock =>
      if s.clock ≤ clock.start then
        some (⟨(s.queue.pop clock).2, clock.finish⟩,
          ((s.queue.pop clock).1.map (⟨clock.start, s.queued, ·⟩)).toList)
      else none

/-- What came first at the last call comes first now, and nothing that has waited too long
is of low priority or came before it. -/
def StillFirst (s : AgingQueue) (now : Instant) : Prop :=
  ∀ f ∈ s.queued, (∀ x ∈ s.queued, Behind s.clock x f) → ∀ x ∈ s.queued,
    Behind now x f ∧
      (Duration.fromSecs 10 < x.waitTime now → x.priority ≠ .low ∧ f.queuedAt ≤ x.queuedAt)

/-- No request has come to rank before the one above it in the heap (but for the first one, where
that leaves), and the comparisons of the call come out as at its end. -/
def Punctual (s : AgingQueue) : HeapCall → Prop
  | .push clock request =>
      BinaryHeap.Ordered (Behind clock.finish) s.queue.heap ∧
        ∀ y ∈ s.queued, Agree clock request y
  | .pop clock =>
      s.StillFirst clock.start ∧ BinaryHeap.OrderedBelow (Behind clock.finish) s.queue.heap ∧
        ∀ x ∈ s.queued.tail, ∀ y ∈ s.queued.tail, Agree clock x y

instance (s : AgingQueue) (now : Instant) : Decidable (s.StillFirst now) :=
  inferInstanceAs (Decidable (∀ f ∈ s.queued, (∀ x ∈ s.queued, Behind s.clock x f) →
    ∀ x ∈ s.queued, Behind now x f ∧
      (Duration.fromSecs 10 < x.waitTime now → x.priority ≠ .low ∧ f.queuedAt ≤ x.queuedAt)))

/-- The same with nothing that ages during a call or was queued too closely for its readings. -/
def Unhurried (s : AgingQueue) : HeapCall → Prop
  | .push clock request =>
      BinaryHeap.Ordered (Behind clock.finish) s.queue.heap ∧
        ∀ y ∈ s.queued, Apart clock request y
  | .pop clock =>
      s.StillFirst clock.start ∧ BinaryHeap.OrderedBelow (Behind clock.finish) s.queue.heap ∧
        ∀ x ∈ s.queued.tail, ∀ y ∈ s.queued.tail, Apart clock x y

instance (s : AgingQueue) : (c : HeapCall) → Decidable (s.Unhurried c)
  | .push .. | .pop _ => inferInstanceAs (Decidable (_ ∧ _))

theorem Unhurried.punctual {s : AgingQueue} {c : HeapCall} (h : s.Unhurried c) : s.Punctual c := by
  cases c with
  | push clock request =>
      exact ⟨h.1, fun y present => PrioritizedRequest.agree_of_apart (h.2 y present)⟩
  | pop clock =>
      refine ⟨h.1, h.2.1, fun x there y present => ?_⟩
      exact PrioritizedRequest.agree_of_apart (h.2.2 x there y present)

end AgingQueue

def heapCalls : Machine AgingQueue HeapCall Popped where
  step := AgingQueue.step

namespace AgingQueue
variable {s s' : AgingQueue} {now : Instant} {clock : CallClock} {request r : PrioritizedRequest}
  {rest : PriorityQueue} {c : HeapCall} {out : List Popped} {tr : List Popped}

/-- The heap is in order as of the last call. -/
structure HeapInv (s : AgingQueue) : Prop where
  ordered : BinaryHeap.Ordered (Behind s.clock) s.queue.heap
  built : ∀ x ∈ s.queued, x.queuedAt ≤ s.clock

/-- What a pop takes out and leaves behind. -/
theorem pop_heap (popped : s.queue.pop clock = (some r, rest)) :
    BinaryHeap.pop (PrioritizedRequest.le clock) s.queue.heap = some (r, rest.heap) := by
  rw [PriorityQueue.pop] at popped
  split at popped
  · rename_i taken
    obtain ⟨same, rfl⟩ := Prod.mk.inj popped
    exact taken.trans (congrArg (fun a => some (a, _)) (Option.some.inj same))
  · cases popped

/-- Nothing is popped from an empty queue only. -/
theorem pop_rest (popped : s.queue.pop clock = (none, rest)) :
    rest = s.queue ∧ s.queue.heap = #[] := by
  rw [PriorityQueue.pop] at popped
  split at popped
  · cases popped
  · rename_i empty
    refine ⟨(Prod.mk.inj popped).2.symm, ?_⟩
    rw [BinaryHeap.pop] at empty
    split at empty
    · exact Array.back?_eq_none_iff.mp ‹_›
    · split at empty <;> cases empty

/-- A popped request came first at the time of the last call. -/
theorem popped_first (h : s.HeapInv) (popped : s.queue.pop clock = (some r, rest)) :
    r ∈ s.queued ∧ ∀ x ∈ s.queued, Behind s.clock x r := by
  obtain ⟨root, moved⟩ := BinaryHeap.pop_some (pop_heap popped)
  exact ⟨moved.mem_iff.mpr List.mem_cons_self, h.ordered.root_max root⟩

/-- The law holds of a pop exactly when what came first still does. -/
theorem popped_respects_iff (h : s.HeapInv) (later : s.clock ≤ now)
    (popped : s.queue.pop clock = (some r, rest)) :
    Popped.RespectsAging ⟨now, s.queued, r⟩ ↔ s.StillFirst now := by
  obtain ⟨queued, first⟩ := popped_first h popped
  constructor
  · intro law f there top x present
    -- whatever else came first was queued with the popped request and is level with it
    have tied : f.effectivePriority s.clock = r.effectivePriority s.clock ∧
        f.queuedAt = r.queuedAt := by
      have below := PrioritizedRequest.behind_iff.mp (first f there)
      have above := PrioritizedRequest.behind_iff.mp (top r queued)
      have builtF := h.built f there
      have builtR := h.built r queued
      simp only [PrioritizedRequest.waitTime, Instant, Duration] at below above builtF builtR ⊢
      exact ⟨Priority.rank_inj (by omega), by omega⟩
    have level := PrioritizedRequest.level_stays tied.2 later tied.1
    have sameWait : f.waitTime now = r.waitTime now := congrArg (now - ·) tied.2
    refine ⟨?_, fun waited => ?_⟩
    · rw [PrioritizedRequest.behind_iff, level, sameWait]
      rcases Nat.lt_or_eq_of_le (law.highest x present) with lower | same
      · exact .inl lower
      · exact .inr ⟨same, law.longest x present (Priority.rank_inj same)⟩
    · obtain ⟨high, notLater⟩ := law.overdue x present waited
      exact ⟨(PrioritizedRequest.overdue_at_least_high waited).mp high,
        tied.2 ▸ Nat.le_of_not_lt notLater⟩
  · intro still
    have each := still r queued first
    refine ⟨queued, fun x present => ?_, fun x present level => ?_, fun x present waited => ?_⟩
    · have below := PrioritizedRequest.behind_iff.mp (each x present).1
      change (x.effectivePriority now).rank ≤ (r.effectivePriority now).rank
      omega
    · have below := PrioritizedRequest.behind_iff.mp (each x present).1
      have sameRank := congrArg Priority.rank level
      exact (below.resolve_left fun lower => Nat.ne_of_lt lower sameRank).2
    · obtain ⟨notLow, notLater⟩ := (each x present).2 waited
      exact ⟨(PrioritizedRequest.overdue_at_least_high waited).mpr notLow,
        Nat.not_lt_of_le notLater⟩

theorem push_step (taken : s.step (.push clock request) = some (s', out)) :
    s.clock ≤ clock.start ∧ request.queuedAt ≤ clock.start ∧
      s' = ⟨s.queue.push clock request, clock.finish⟩ ∧ out = [] := by
  rw [step] at taken
  split at taken
  · rename_i inTime
    obtain ⟨rfl, rfl⟩ := Prod.mk.inj (Option.some.inj taken)
    exact ⟨inTime.1, inTime.2, rfl, rfl⟩
  · cases taken

theorem pop_step (taken : s.step (.pop clock) = some (s', out)) :
    s.clock ≤ clock.start ∧ s' = ⟨(s.queue.pop clock).2, clock.finish⟩ ∧
      ∀ e ∈ out, ∃ r rest, s.queue.pop clock = (some r, rest) ∧
        e = ⟨clock.start, s.queued, r⟩ := by
  rw [step] at taken
  split at taken
  · rename_i inTime
    obtain ⟨rfl, rfl⟩ := Prod.mk.inj (Option.some.inj taken)
    refine ⟨inTime, rfl, fun e shown => ?_⟩
    obtain ⟨r, popped, rfl⟩ := Option.map_eq_some_iff.mp (Option.mem_toList.mp shown)
    exact ⟨r, (s.queue.pop clock).2, Prod.ext popped rfl, rfl⟩
  · cases taken

theorem HeapInv.push (h : s.HeapInv) (inTime : s.clock ≤ clock.start)
    (built : request.queuedAt ≤ clock.start) (punctual : s.Punctual (.push clock request)) :
    HeapInv ⟨s.queue.push clock request, clock.finish⟩ where
  ordered := by
    refine BinaryHeap.push_ordered punctual.1 fun n y present => ?_
    rcases List.mem_cons.mp present with rfl | old
    · exact PrioritizedRequest.agree_self clock y n
    · exact punctual.2 y old n
  built x present := by
    rcases List.mem_cons.mp ((BinaryHeap.push_perm _ _ _ _).mem_iff.mp present) with rfl | old
    · exact Nat.le_trans built clock.start_le
    · exact Nat.le_trans (h.built x old) (Nat.le_trans inTime clock.start_le)

theorem HeapInv.pop (h : s.HeapInv) (inTime : s.clock ≤ clock.start)
    (punctual : s.Punctual (.pop clock)) : HeapInv ⟨(s.queue.pop clock).2, clock.finish⟩ := by
  have later := Nat.le_trans inTime clock.start_le
  match popped : s.queue.pop clock with
  | (some r, rest) =>
      have taken := pop_heap popped
      refine ⟨BinaryHeap.pop_ordered punctual.2.1 (fun x there n y present => ?_) taken, ?_⟩
      · exact punctual.2.2 x there y present n
      · intro x present
        have old := (BinaryHeap.pop_some taken).2.mem_iff.mpr (List.mem_cons_of_mem _ present)
        exact Nat.le_trans (h.built x old) later
  | (none, rest) =>
      obtain ⟨rfl, empty⟩ := pop_rest popped
      refine ⟨fun i positive x y there => ?_, fun x present =>
        Nat.le_trans (h.built x present) later⟩
      rw [empty] at there
      cases there

theorem heap_inv_start : start.HeapInv where
  ordered := fun i positive x y there => by simp [start, PriorityQueue.new] at there
  built := fun x present => nomatch present

/-- A punctual call keeps the heap in order, and what it pops is right. -/
theorem HeapInv.step (h : s.HeapInv) (punctual : s.Punctual c)
    (taken : s.step c = some (s', out)) : s'.HeapInv ∧ ∀ e ∈ out, e.RespectsAging := by
  cases c with
  | push clock request =>
      obtain ⟨inTime, built, rfl, rfl⟩ := push_step taken
      exact ⟨h.push inTime built punctual, fun e shown => nomatch shown⟩
  | pop clock =>
      obtain ⟨inTime, rfl, shows⟩ := pop_step taken
      refine ⟨h.pop inTime punctual, fun e shown => ?_⟩
      obtain ⟨r, rest, popped, rfl⟩ := shows e shown
      exact (popped_respects_iff h inTime popped).mpr punctual.1

theorem heap_inv (run : heapCalls.Exec Punctual start tr s) :
    s.HeapInv ∧ ∀ e ∈ tr, e.RespectsAging := by
  refine run.invariant (I := fun tr s => s.HeapInv ∧ ∀ e ∈ tr, e.RespectsAging)
    ⟨heap_inv_start, fun e shown => nomatch shown⟩ ?_
  intro tr s c s' out ⟨inv, before⟩ punctual taken
  obtain ⟨inv', shown⟩ := inv.step punctual taken
  refine ⟨inv', fun e present => ?_⟩
  rcases List.mem_append.mp present with old | new
  · exact before e old
  · exact shown e new

/-- In a run of punctual calls each pop respects aging, and the next one does exactly when
what came first at the last call still does; a request that has waited for more than ten
seconds is at high priority unless it was queued with low priority. -/
theorem dequeue_respects_aging_iff (run : heapCalls.Exec Punctual start tr s) :
    (∀ e ∈ tr, e.RespectsAging) ∧
      (∀ (clock : CallClock) r rest, s.clock ≤ clock.start →
        s.queue.pop clock = (some r, rest) →
        (Popped.RespectsAging ⟨clock.start, s.queued, r⟩ ↔ s.StillFirst clock.start)) ∧
      ∀ (r : PrioritizedRequest) now, Duration.fromSecs 10 < r.waitTime now →
        (Priority.high.rank ≤ (r.effectivePriority now).rank ↔ r.priority ≠ .low) := by
  obtain ⟨inv, right⟩ := heap_inv run
  exact ⟨right, fun clock r rest later popped => popped_respects_iff inv later popped,
    fun r now waited => PrioritizedRequest.overdue_at_least_high waited⟩

def bulkRequest (id : Nat) (priority : Priority) (queuedAt : Instant) : PrioritizedRequest where
  request := ⟨⟨id⟩, ⟨1⟩, .bulk 1 [] 0 none⟩
  clientId := "a"
  priority := priority
  queuedAt := queuedAt
  estimatedBytes := 0

/-- Three requests and one that comes later; of the last two the older one has aged first. -/
def exampleCalls : List HeapCall :=
  [.push (.moving 1) (bulkRequest 1 .medium 0),
    .push (.moving (Duration.fromSecs 1)) (bulkRequest 2 .high (Duration.fromSecs 1)),
    .push (.moving (Duration.fromSecs 2)) (bulkRequest 3 .medium (Duration.fromSecs 2)),
    .pop (.moving (Duration.fromSecs 3)),
    .push (.moving (Duration.fromSecs 4)) (bulkRequest 4 .high (Duration.fromSecs 4)),
    .pop (.moving (Duration.fromMillis 4500)), .pop (.moving (Duration.fromMillis 7500)),
    .pop (.moving (Duration.fromSecs 8))]

theorem dequeue_respects_aging_several : ∃ tr : List Popped,
    tr.map (fun e => e.request.id) = [⟨2⟩, ⟨4⟩, ⟨1⟩, ⟨3⟩] ∧
      tr.map (fun e => e.queued.length) = [3, 3, 2, 1] ∧ ∀ e ∈ tr, e.RespectsAging := by
  have run : ((heapCalls.within Unhurried).run start exampleCalls).map (fun last =>
      (last.2.map fun e => e.request.id, last.2.map fun e => e.queued.length)) =
        some ([⟨2⟩, ⟨4⟩, ⟨1⟩, ⟨3⟩], [3, 3, 2, 1]) := by
    decide +kernel
  obtain ⟨⟨s, tr⟩, run, same⟩ := Option.map_eq_some_iff.mp run
  obtain ⟨popped, waiting⟩ := Prod.mk.inj same
  have calls := Machine.Exec.mono (fun _ _ => Unhurried.punctual) (.of_within .start run)
  exact ⟨tr, popped, waiting, (dequeue_respects_aging_iff calls).1⟩

/-- A medium request, and a high one that comes a second later. -/
def bothQueued : AgingQueue where
  queue := (PriorityQueue.new.push (.still 0) (bulkRequest 1 .medium 0)).push
    (.still (Duration.fromSecs 1)) (bulkRequest 2 .high (Duration.fromSecs 1))
  clock := Duration.fromSecs 1

/-- After five seconds and a half the two are level, and the one that has waited less is popped;
a low request is of medium priority after any wait; and of two that were queued one after the
other the older one is not put before the other by a comparison that takes as long. -/
theorem aged_request_overtaken :
    heapCalls.Reach start [] bothQueued ∧
      (bothQueued.queue.pop (.still (Duration.fromMillis 5500))).1 =
        some (bulkRequest 2 .high (Duration.fromSecs 1)) ∧
      ¬ Popped.RespectsAging ⟨Duration.fromMillis 5500, bothQueued.queued,
        bulkRequest 2 .high (Duration.fromSecs 1)⟩ ∧
      (bulkRequest 3 .low 0).effectivePriority (Duration.fromSecs 11) = .medium ∧
      PrioritizedRequest.le (.moving 10) 0 (bulkRequest 4 .high 0) (bulkRequest 5 .high 1) = true ∧
      ¬ Behind 18 (bulkRequest 4 .high 0) (bulkRequest 5 .high 1) := by
  refine ⟨?_, by decide +kernel, fun law => ?_, by decide, by decide, by decide⟩
  · have first : heapCalls.Reach start ([] ++ [])
        ⟨PriorityQueue.new.push (.still 0) (bulkRequest 1 .medium 0), 0⟩ :=
      .next .start (a := HeapCall.push (.still 0) (bulkRequest 1 .medium 0)) trivial rfl
    exact first.next (a := HeapCall.push (.still (Duration.fromSecs 1))
      (bulkRequest 2 .high (Duration.fromSecs 1))) trivial rfl
  · have waited := law.longest (bulkRequest 1 .medium 0) (by decide +kernel) (by decide)
    exact absurd waited (by decide)

end AgingQueue
end P2pUsb
