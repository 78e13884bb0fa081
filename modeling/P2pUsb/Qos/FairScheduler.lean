import P2pUsb.Library.FiniteMap
import P2pUsb.Library.Machine
import P2pUsb.Library.RoundRobin
import P2pUsb.Policy.Quantities
import P2pUsb.Protocol.Types

/-! The fair scheduler: clients take turns while they are within their quota. Each call reads
the clock once, and the order of the clients is that of their map. -/
namespace P2pUsb

structure ClientSchedulerState where
  bytesTransferred : Nat
  windowStart : Instant
  lastServed : Instant
  deriving DecidableEq, Repr

namespace ClientSchedulerState

def new (now : Instant) : ClientSchedulerState := ⟨0, now, now⟩

def maybeResetWindow (state : ClientSchedulerState) (now : Instant) : ClientSchedulerState :=
  if now - state.windowStart > Duration.fromSecs 1 then
    { state with bytesTransferred := 0, windowStart := now }
  else state

/-- Where the addition panics the window has been reset and nothing else is written. -/
def recordTransfer (overflowChecks : Bool) (state : ClientSchedulerState) (now : Instant)
    (bytes : Nat) : ClientSchedulerState :=
  let state := state.maybeResetWindow now
  match addU64 overflowChecks state.bytesTransferred bytes with
  | some total => { state with bytesTransferred := total, lastServed := now }
  | none => state

theorem maybe_reset_window_twice (state : ClientSchedulerState) (now : Instant) :
    (state.maybeResetWindow now).maybeResetWindow now = state.maybeResetWindow now := by
  by_cases lapsed : now - state.windowStart > Duration.fromSecs 1
  · have fresh : ¬ now - now > Duration.fromSecs 1 := by simp
    rw [maybeResetWindow, maybeResetWindow, if_pos lapsed, if_neg fresh]
  · rw [maybeResetWindow, maybeResetWindow, if_neg lapsed, if_neg lapsed]

end ClientSchedulerState

structure FairScheduler where
  clients : AList fun _ : String => ClientSchedulerState
  clientQuota : Nat
  roundRobinIndex : Nat

namespace FairScheduler

def new (clientQuota : Nat) : FairScheduler := ⟨∅, clientQuota, 0⟩

def registerClient (s : FairScheduler) (now : Instant) (clientId : String) : FairScheduler :=
  if clientId ∈ s.clients then s
  else { s with clients := s.clients.insert clientId (.new now) }

def unregisterClient (s : FairScheduler) (clientId : String) : FairScheduler :=
  { s with clients := s.clients.erase clientId }

/-- Unknown clients are within their quota. -/
def isWithinQuota (s : FairScheduler) (now : Instant) (clientId : String) : Bool × FairScheduler :=
  match s.clients.lookup clientId with
  | some state =>
      (decide ((state.maybeResetWindow now).bytesTransferred < s.clientQuota),
        { s with clients := s.clients.modify clientId fun state => state.maybeResetWindow now })
  | none => (true, s)

def recordTransfer (overflowChecks : Bool) (s : FairScheduler) (now : Instant) (clientId : String)
    (bytes : Nat) : FairScheduler :=
  { s with
    clients := s.clients.modify clientId fun state =>
      state.recordTransfer overflowChecks now bytes }

def quotaRemaining (s : FairScheduler) (now : Instant) (clientId : String) : Nat × FairScheduler :=
  match s.clients.lookup clientId with
  | some state =>
      (s.clientQuota - (state.maybeResetWindow now).bytesTransferred,
        { s with clients := s.clients.modify clientId fun state => state.maybeResetWindow now })
  | none => (s.clientQuota, s)

/-- The loop of `select_next_client` over the offsets; the index stays inside the list. -/
def scan (now : Instant) (clients : List String) : List Nat → FairScheduler →
    Option String × FairScheduler
  | [], s => (none, s)
  | i :: rest, s =>
      let idx := (s.roundRobinIndex + i) % clients.length
      match clients[idx]? with
      | none => (none, s)
      | some clientId =>
          let tested := s.isWithinQuota now clientId
          if tested.1 then
            (some clientId, { tested.2 with roundRobinIndex := (idx + 1) % clients.length })
          else scan now clients rest tested.2

/-- The first client in the order of the last service. -/
def leastServed (s : FairScheduler) : Option String :=
  let clientsWithTime := s.clients.entries.map fun e => (e.1, e.2.lastServed)
  (clientsWithTime.mergeSort fun a b => decide (a.2 ≤ b.2)).head?.map Prod.fst

def selectNextClient (s : FairScheduler) (now : Instant) : Option String × FairScheduler :=
  let clients := s.clients.keys
  if clients.isEmpty then (none, s)
  else
    match scan now clients (List.range clients.length) s with
    | (some clientId, s) => (some clientId, s)
    | (none, s) => (s.leastServed, s)

/-- A registered client that is within its quota. -/
def WithinQuota (s : FairScheduler) (now : Instant) (clientId : String) : Prop :=
  ∃ state, s.clients.lookup clientId = some state ∧
    (state.maybeResetWindow now).bytesTransferred < s.clientQuota

end FairScheduler

/-- A call of `select_next_client`, with the scheduler before it. -/
structure Selection where
  before : FairScheduler
  now : Instant
  client : Option String

/-- A client within quota is taken where there is one. -/
def Selection.Eligible (e : Selection) : Prop :=
  (∃ other, e.before.WithinQuota e.now other) →
    ∃ clientId, e.client = some clientId ∧ e.before.WithinQuota e.now clientId

/-- The calls that leave the set of clients as it is. -/
inductive ScheduleCall where
  | recordTransfer (now : Instant) (clientId : String) (bytes : Nat)
  | isWithinQuota (now : Instant) (clientId : String)
  | quotaRemaining (now : Instant) (clientId : String)
  | selectNextClient (now : Instant)

def FairScheduler.step (overflowChecks : Bool) (s : FairScheduler) :
    ScheduleCall → FairScheduler × List Selection
  | .recordTransfer now clientId bytes => (s.recordTransfer overflowChecks now clientId bytes, [])
  | .isWithinQuota now clientId => ((s.isWithinQuota now clientId).2, [])
  | .quotaRemaining now clientId => ((s.quotaRemaining now clientId).2, [])
  | .selectNextClient now =>
      ((s.selectNextClient now).2, [⟨s, now, (s.selectNextClient now).1⟩])

def scheduleCalls (overflowChecks : Bool) : Machine FairScheduler ScheduleCall Selection where
  step s c := some (s.step overflowChecks c)

namespace FairScheduler
variable {s s' : FairScheduler} {now : Instant} {clientId : String}

/-- What a test of the quota leaves as it was: the clients, the index and, at the same time,
who is within quota. -/
structure SameChances (now : Instant) (s s' : FairScheduler) : Prop where
  keys : s'.clients.keys = s.clients.keys
  index : s'.roundRobinIndex = s.roundRobinIndex
  within : ∀ clientId, s'.WithinQuota now clientId ↔ s.WithinQuota now clientId

theorem is_within_quota_same (s : FairScheduler) (now : Instant) (clientId : String) :
    SameChances now s (s.isWithinQuota now clientId).2 := by
  rw [isWithinQuota]
  split
  · refine ⟨AList.keys_mapVal _ _, rfl, fun other => ?_⟩
    simp only [WithinQuota, AList.lookup_modify_eq]
    split
    case isTrue same =>
      subst same
      simp [ClientSchedulerState.maybe_reset_window_twice]
    case isFalse => exact Iff.rfl
  · exact ⟨rfl, rfl, fun _ => Iff.rfl⟩

theorem is_within_quota_iff (known : clientId ∈ s.clients) :
    (s.isWithinQuota now clientId).1 = true ↔ s.WithinQuota now clientId := by
  obtain ⟨state, found⟩ := AList.mem_iff.mp known
  simp [isWithinQuota, WithinQuota, found]

/-- A place in the order of the clients whose client is within quota. -/
def Ready (s : FairScheduler) (now : Instant) (pos : Nat) : Prop :=
  ∃ clientId, s.clients.keys[pos]? = some clientId ∧ s.WithinQuota now clientId

/-- The place of the client tested in a step of the loop. -/
def turn (s : FairScheduler) (i : Nat) : Nat :=
  RoundRobin.place s.clients.keys.length s.roundRobinIndex i

theorem SameChances.ready (h : SameChances now s s') (pos : Nat) :
    s'.Ready now pos ↔ s.Ready now pos := by
  simp only [Ready, h.keys, h.within]

theorem SameChances.turn (h : SameChances now s s') (i : Nat) : s'.turn i = s.turn i := by
  rw [FairScheduler.turn, FairScheduler.turn, h.keys, h.index]

/-- How the loop ends: at the first client that is within quota, or past all of them. -/
inductive ScanEnds (now : Instant) (s : FairScheduler) (offsets : List Nat) :
    Option String × FairScheduler → Prop
  | taken {before rest : List Nat} {i : Nat} {clientId : String} {s' : FairScheduler} :
      offsets = before ++ i :: rest → s.clients.keys[s.turn i]? = some clientId →
      s.WithinQuota now clientId → (∀ j ∈ before, ¬ s.Ready now (s.turn j)) →
      s'.clients.keys = s.clients.keys →
      s'.roundRobinIndex = (s.turn i + 1) % s.clients.keys.length →
      ScanEnds now s offsets (some clientId, s')
  | passed {s' : FairScheduler} :
      (∀ j ∈ offsets, ¬ s.Ready now (s.turn j)) → SameChances now s s' →
      ScanEnds now s offsets (none, s')

theorem scan_cons {i : Nat} {rest : List Nat}
    (here : s.clients.keys[s.turn i]? = some clientId) :
    scan now s.clients.keys (i :: rest) s =
      if (s.isWithinQuota now clientId).1 then
        (some clientId, { (s.isWithinQuota now clientId).2 with
          roundRobinIndex := (s.turn i + 1) % s.clients.keys.length })
      else scan now s.clients.keys rest (s.isWithinQuota now clientId).2 := by
  rw [turn, RoundRobin.place] at here
  rw [scan]
  simp only [here]
  rfl

theorem scan_ends (now : Instant) (offsets : List Nat) (filled : 0 < s.clients.keys.length) :
    ScanEnds now s offsets (scan now s.clients.keys offsets s) := by
  induction offsets generalizing s with
  | nil => exact .passed (fun j wrong => nomatch wrong) ⟨rfl, rfl, fun _ => Iff.rfl⟩
  | cons i rest ih =>
      have inside : s.turn i < s.clients.keys.length := Nat.mod_lt _ filled
      obtain ⟨clientId, here⟩ : ∃ clientId, s.clients.keys[s.turn i]? = some clientId :=
        ⟨_, List.getElem?_eq_getElem inside⟩
      have known : clientId ∈ s.clients := List.mem_of_getElem? here
      have tested := is_within_quota_same s now clientId
      rw [scan_cons here]
      split
      · rename_i within
        exact .taken (List.nil_append _).symm here ((is_within_quota_iff known).mp within)
          (fun j wrong => nomatch wrong) tested.keys rfl
      · rename_i without
        have notReady : ¬ s.Ready now (s.turn i) := by
          rintro ⟨other, there, inQuota⟩
          obtain rfl := Option.some.inj (here.symm.trans there)
          exact without ((is_within_quota_iff known).mpr inQuota)
        have later := ih (s := (s.isWithinQuota now clientId).2) (by rw [tested.keys]; exact filled)
        rw [tested.keys] at later
        generalize scan now s.clients.keys rest (s.isWithinQuota now clientId).2 = last at later ⊢
        cases later with
        | taken split there inQuota skipped keys index =>
            simp only [tested.keys, tested.turn, tested.ready,
              tested.within] at there inQuota skipped keys index
            subst split
            exact .taken List.cons_append.symm there inQuota
              (List.forall_mem_cons.mpr ⟨notReady, skipped⟩) keys index
        | passed skipped same =>
            simp only [tested.turn, tested.ready] at skipped
            refine .passed (List.forall_mem_cons.mpr ⟨notReady, skipped⟩) ?_
            exact ⟨same.keys.trans tested.keys, same.index.trans tested.index,
              fun x => (same.within x).trans (tested.within x)⟩

/-- The turns are those of the places, so each place has one. -/
theorem ready_has_turn (filled : 0 < s.clients.keys.length) {clientId : String}
    (inQuota : s.WithinQuota now clientId) :
    ∃ i ∈ List.range s.clients.keys.length, s.Ready now (s.turn i) := by
  obtain ⟨state, found, below⟩ := inQuota
  obtain ⟨pos, inside, there⟩ := List.getElem_of_mem
    (AList.mem_of_lookup found : clientId ∈ s.clients.keys)
  have waits := RoundRobin.place_ahead inside s.roundRobinIndex
  refine ⟨_, List.mem_range.mpr (RoundRobin.ahead_lt filled s.roundRobinIndex pos), clientId, ?_,
    state, found, below⟩
  rw [turn, waits, List.getElem?_eq_getElem inside, there]

/-- What a selection does: it takes the first client within quota, going round from the
index; where there is none the clients and the index stay. -/
theorem select_next_client_cases (s : FairScheduler) (now : Instant) :
    (∃ i < s.clients.keys.length, ∃ clientId, (s.selectNextClient now).1 = some clientId ∧
        s.clients.keys[s.turn i]? = some clientId ∧ s.WithinQuota now clientId ∧
        (∀ j < i, ¬ s.Ready now (s.turn j)) ∧
        (s.selectNextClient now).2.clients.keys = s.clients.keys ∧
        (s.selectNextClient now).2.roundRobinIndex = (s.turn i + 1) % s.clients.keys.length) ∨
      ((∀ clientId, ¬ s.WithinQuota now clientId) ∧
        (s.selectNextClient now).2.clients.keys = s.clients.keys) := by
  by_cases filled : 0 < s.clients.keys.length
  · have notEmpty : s.clients.keys.isEmpty = false :=
      List.isEmpty_eq_false_iff.mpr (List.ne_nil_of_length_pos filled)
    rw [selectNextClient]
    simp only [notEmpty, Bool.false_eq_true, if_false]
    have ends := scan_ends now (List.range s.clients.keys.length) filled
    generalize scan now s.clients.keys (List.range s.clients.keys.length) s = last at ends ⊢
    cases ends with
    | @taken before rest i clientId s' split there inQuota skipped keys index =>
        have inside : i < s.clients.keys.length :=
          List.mem_range.mp (split ▸ List.mem_append_right _ List.mem_cons_self)
        refine .inl ⟨i, inside, clientId, rfl, there, inQuota, fun j earlier => skipped j ?_, keys,
          index⟩
        have ascending := split ▸ List.pairwise_lt_range (n := s.clients.keys.length)
        have after := (List.pairwise_cons.mp (List.pairwise_append.mp ascending).2.1).1
        have listed := split ▸ List.mem_range.mpr (Nat.lt_trans earlier inside)
        rcases List.mem_append.mp listed with first | last
        · exact first
        · rcases List.mem_cons.mp last with rfl | last
          · exact absurd earlier (Nat.lt_irrefl j)
          · exact absurd earlier (Nat.lt_asymm (after j last))
    | passed skipped same =>
        refine .inr ⟨fun clientId inQuota => ?_, same.keys⟩
        obtain ⟨i, inside, ready⟩ := ready_has_turn filled inQuota
        exact skipped i inside ready
  · refine .inr ⟨fun clientId inQuota => ?_, ?_⟩
    · obtain ⟨state, found, -⟩ := inQuota
      exact filled (List.length_pos_of_mem (AList.mem_of_lookup found))
    · have empty : s.clients.keys.isEmpty = true :=
        List.isEmpty_iff.mpr (List.eq_nil_of_length_eq_zero (Nat.eq_zero_of_not_pos filled))
      rw [selectNextClient]
      simp only [empty, if_true]

theorem quota_remaining_same (s : FairScheduler) (now : Instant) (clientId : String) :
    (s.quotaRemaining now clientId).2.clients.keys = s.clients.keys ∧
      (s.quotaRemaining now clientId).2.roundRobinIndex = s.roundRobinIndex := by
  rw [quotaRemaining]
  split
  · exact ⟨AList.keys_mapVal _ _, rfl⟩
  · exact ⟨rfl, rfl⟩

theorem selection_eligible (s : FairScheduler) (now : Instant) :
    Selection.Eligible ⟨s, now, (s.selectNextClient now).1⟩ := by
  rintro ⟨other, inQuota⟩
  rcases select_next_client_cases s now with ⟨i, -, clientId, chosen, -, within, -⟩ | ⟨nobody, -⟩
  · exact ⟨clientId, chosen, within⟩
  · exact absurd inQuota (nobody other)

variable {overflowChecks : Bool} {s₀ : FairScheduler} {tr out : List Selection} {pos : Nat}
  {c : ScheduleCall}

/-- The clients stay what they were, and a client that is within quota at each selection has
been taken or is nearer by one place for each of them. -/
structure Waits (s₀ : FairScheduler) (clientId : String) (pos : Nat) (tr : List Selection)
    (s : FairScheduler) : Prop where
  keys : s.clients.keys = s₀.clients.keys
  nearer : (∀ e ∈ tr, e.before.WithinQuota e.now clientId) → (∃ e ∈ tr, e.client = some clientId) ∨
    RoundRobin.ahead s₀.clients.keys.length s.roundRobinIndex pos + tr.length ≤
      RoundRobin.ahead s₀.clients.keys.length s₀.roundRobinIndex pos

/-- A call that selects nobody. -/
theorem Waits.idle (h : Waits s₀ clientId pos tr s) (keys : s'.clients.keys = s.clients.keys)
    (index : s'.roundRobinIndex = s.roundRobinIndex) : Waits s₀ clientId pos (tr ++ []) s' := by
  rw [List.append_nil]
  exact ⟨keys.trans h.keys, index ▸ h.nearer⟩

theorem Waits.selectNextClient (h : Waits s₀ clientId pos tr s)
    (there : s₀.clients.keys[pos]? = some clientId) (now : Instant) :
    Waits s₀ clientId pos (tr ++ [⟨s, now, (s.selectNextClient now).1⟩])
      (s.selectNextClient now).2 := by
  rcases select_next_client_cases s now with
    ⟨i, inside, other, chosen, taken, -, skipped, keys, index⟩ | ⟨nobody, keys⟩
  · refine ⟨keys.trans h.keys, fun within => ?_⟩
    obtain ⟨before, last⟩ := List.forall_mem_append.mp within
    have ready : s.Ready now pos := ⟨clientId, h.keys ▸ there, last _ List.mem_cons_self⟩
    rcases h.nearer before with ⟨e, present, served⟩ | near
    · exact .inl ⟨e, List.mem_append_left _ present, served⟩
    · have bound : pos < s.clients.keys.length :=
        (List.getElem?_eq_some_iff.mp (h.keys ▸ there)).1
      rcases RoundRobin.taken_or_nearer bound ready skipped with mine | nearer
      · refine .inl ⟨_, List.mem_append_right _ List.mem_cons_self, ?_⟩
        have same : s.turn i = pos := mine
        rw [same, h.keys] at taken
        exact chosen.trans (taken.symm.trans there)
      · refine .inr ?_
        rw [index, ← h.keys, RoundRobin.ahead_mod, List.length_append, List.length_singleton]
        rw [← h.keys] at near
        change RoundRobin.ahead s.clients.keys.length (s.turn i + 1) pos < _ at nearer
        omega
  · refine ⟨keys.trans h.keys, fun within => ?_⟩
    exact absurd (within _ (List.mem_append_right _ List.mem_cons_self)) (nobody clientId)

theorem Waits.step (h : Waits s₀ clientId pos tr s) (there : s₀.clients.keys[pos]? = some clientId)
    (taken : (scheduleCalls overflowChecks).step s c = some (s', out)) :
    Waits s₀ clientId pos (tr ++ out) s' := by
  obtain ⟨rfl, rfl⟩ := Prod.mk.inj (Option.some.inj taken)
  cases c with
  | recordTransfer now other bytes => exact h.idle (AList.keys_mapVal _ _) rfl
  | isWithinQuota now other =>
      have same := is_within_quota_same s now other
      exact h.idle same.keys same.index
  | quotaRemaining now other =>
      have same := quota_remaining_same s now other
      exact h.idle same.1 same.2
  | selectNextClient now => exact h.selectNextClient there now

/-- From any state, in any order of the calls and at any times: a selection takes a client
within quota where there is one, and a client within quota at as many selections as there are
clients is taken by one of them. -/
theorem round_robin_fair (run : (scheduleCalls overflowChecks).Reach s₀ tr s) :
    (∀ e ∈ tr, e.Eligible) ∧
      ∀ clientId ∈ s₀.clients, s₀.clients.size ≤ tr.length →
        (∀ e ∈ tr, e.before.WithinQuota e.now clientId) → ∃ e ∈ tr, e.client = some clientId := by
  constructor
  · refine run.invariant (I := fun tr _ => ∀ e ∈ tr, e.Eligible) (fun e wrong => nomatch wrong) ?_
    intro tr s c s' out before _ taken e present
    rcases List.mem_append.mp present with old | new
    · exact before e old
    · obtain ⟨rfl, rfl⟩ := Prod.mk.inj (Option.some.inj taken)
      cases c with
      | recordTransfer | isWithinQuota | quotaRemaining => nomatch new
      | selectNextClient now =>
          obtain rfl := List.mem_singleton.mp new
          exact selection_eligible s now
  · intro clientId known enough within
    obtain ⟨pos, inside, here⟩ := List.getElem_of_mem (show clientId ∈ s₀.clients.keys from known)
    have there : s₀.clients.keys[pos]? = some clientId := by
      rw [List.getElem?_eq_getElem inside, here]
    have waits : Waits s₀ clientId pos tr s :=
      run.invariant (I := Waits s₀ clientId pos) ⟨rfl, fun _ => .inr (Nat.le_refl _)⟩
        fun _ _ _ _ _ inv _ taken => inv.step there taken
    rcases waits.nearer within with served | near
    · exact served
    · have bound := RoundRobin.ahead_lt (Nat.lt_of_le_of_lt (Nat.zero_le pos) inside)
        s₀.roundRobinIndex pos
      rw [AList.size_eq_keys] at enough
      omega

/-- Two clients, one of which has used up its quota; the index is at that one. -/
def oneOver : FairScheduler :=
  (((new 1000).registerClient 0 "b").registerClient 0 "a").recordTransfer true 0 "a" 2000

theorem round_robin_fair_pair :
    ∃ e ∈ [Selection.mk oneOver 0 (some "b"), ⟨(oneOver.selectNextClient 0).2, 0, some "b"⟩],
      e.client = some "b" := by
  have first : (scheduleCalls true).Reach oneOver ([] ++ [⟨oneOver, 0, some "b"⟩])
      (oneOver.selectNextClient 0).2 :=
    .next .start (a := ScheduleCall.selectNextClient 0) trivial rfl
  have second := first.next (a := ScheduleCall.selectNextClient 0) trivial rfl
  refine (round_robin_fair second).2 "b" (by decide) (by decide) fun e shown => ?_
  rcases List.mem_cons.mp shown with rfl | shown
  · exact ⟨_, rfl, by decide⟩
  · obtain rfl := List.mem_singleton.mp shown
    exact ⟨_, rfl, by decide⟩

end FairScheduler
end P2pUsb
