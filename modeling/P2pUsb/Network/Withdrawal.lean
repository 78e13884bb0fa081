import P2pUsb.Network.ConnectionPool

/-! When a disconnected server is left alone by the connection monitor. -/
namespace P2pUsb

/-- The servers that the round has still to look at. -/
def MonitorPhase.ahead : MonitorPhase → List EndpointId
  | .idle => []
  | .round rest | .backoff _ rest | .settingUp _ rest | .reconciling _ rest => rest

/-- The server that the monitor found missing and is at work on. -/
def MonitorPhase.current : MonitorPhase → Option EndpointId
  | .backoff server _ | .settingUp server _ => some server
  | .reconciling conn _ => some conn.server
  | .idle | .round _ => none

namespace ConnectionPool
variable {p q : ConnectionPool} {a : PoolStep} {out tr : List PoolEvent} {e : EndpointId}

/-- After a disconnect has returned and before the next connect call, the monitor
neither starts an attempt nor stores a connection. -/
def DisconnectRespected (e : EndpointId) (tr : List PoolEvent) : Prop :=
  ∀ before ok after, tr = before ++ .disconnected e ok :: after → .connectCalled e ∉ after →
    .attempt e ∉ after ∧ .monitorStored e ∉ after

/-- The round of the monitor has no more business with the server, and no connect
call has stored its connection without having made the server a target. -/
def Unattended (p : ConnectionPool) (e : EndpointId) : Prop :=
  e ∉ p.monitor.ahead ∧ p.monitor.current ≠ some e ∧ ⟨e, .stored⟩ ∉ p.calls

/-- A disconnect returns only when nobody is still to act on the server. -/
def Withdraws (e : EndpointId) (p : ConnectionPool) : PoolStep → Prop
  | .removeTarget => p.disconnecting = some (.closed e) → p.Unattended e
  | _ => True

instance (p : ConnectionPool) (e : EndpointId) : Decidable (p.Unattended e) :=
  inferInstanceAs (Decidable (_ ∧ _ ∧ _))

instance (e : EndpointId) (p : ConnectionPool) : (a : PoolStep) → Decidable (Withdraws e p a)
  | .removeTarget =>
      inferInstanceAs (Decidable (p.disconnecting = some (.closed e) → p.Unattended e))
  | .addAllowedServer _ | .removeAllowedServer _ | .connect _ | .checkConnected _ | .setUp _ _
  | .storeConnection _ | .addTarget _ | .disconnect _ | .closeConnection | .snapshot _ | .look
  | .sleepEnded | .monitorSetUp _ | .monitorStore | .endRound => inferInstanceAs (Decidable True)

/-- There is a connection, or the one there was is being closed. -/
def Has (p : ConnectionPool) (e : EndpointId) : Prop :=
  e ∈ p.connections ∨ ∃ phase, p.disconnecting = some phase ∧ phase.server = e

/-- Whoever may lead the monitor to the server leaves a connection for it to find. -/
structure Settled (e : EndpointId) (p : ConnectionPool) : Prop where
  target : e ∈ p.targetServers → p.Has e
  stored : ⟨e, .stored⟩ ∈ p.calls → p.Has e
  ahead : e ∈ p.monitor.ahead → p.Has e
  idle : p.monitor.current ≠ some e

theorem Has.present (has : p.Has e) (unlocked : p.disconnecting = none) : e ∈ p.connections := by
  rcases has with present | ⟨phase, begun, -⟩
  · exact present
  · cases unlocked.symm.trans begun

theorem Has.stored (has : p.Has e) (unlocked : p.disconnecting = none) (server : EndpointId)
    (conn : ConnectionRef) : Has { p with connections := p.connections.insert server conn } e :=
  .inl ((AList.mem_insert _).mpr (.inr (has.present unlocked)))

theorem Has.disconnected (has : p.Has e) (unlocked : p.disconnecting = none)
    (server : EndpointId) (conn : ConnectionRef) :
    Has { p with
      connections := p.connections.erase server
      disconnecting := some (.closing server conn) } e := by
  by_cases own : server = e
  · exact .inr ⟨_, rfl, own⟩
  · exact .inl (AList.mem_erase.mpr ⟨Ne.symm own, has.present unlocked⟩)

theorem Has.closed (has : p.Has e) {phase next : DisconnectPhase}
    (begun : p.disconnecting = some phase) (same : next.server = phase.server) :
    Has { p with disconnecting := some next } e := by
  rcases has with present | ⟨phase, found, own⟩
  · exact .inl present
  · cases begun.symm.trans found
    exact .inr ⟨_, rfl, same.trans own⟩

theorem Has.returned (has : p.Has e) {phase : DisconnectPhase}
    (begun : p.disconnecting = some phase) (other : phase.server ≠ e) :
    Has { p with disconnecting := none } e := by
  rcases has with present | ⟨phase, found, own⟩
  · exact .inl present
  · cases begun.symm.trans found
    exact absurd own other

theorem mem_set_call {calls : List ConnectCall} {i : Nat} {c d : ConnectCall}
    (h : d ∈ calls.set i c) (other : d ≠ c) : d ∈ calls :=
  (List.mem_or_eq_of_mem_set h).resolve_right other

namespace Settled

/-- A connect call that does not store its connection moves on. -/
theorem set_phase (settled : Settled e p) {i : Nat} {server : EndpointId} {phase : ConnectPhase}
    (other : phase ≠ .stored) : Settled e (p.setPhase i server phase) where
  target := settled.target
  stored stored := by
    refine settled.stored (mem_set_call stored fun same => ?_)
    exact other (ConnectCall.mk.inj same).2.symm
  ahead := settled.ahead
  idle := settled.idle

theorem targets (settled : Settled e p) {server : EndpointId} (has : server = e → p.Has e) :
    Settled e { p with targetServers := insert server p.targetServers } where
  target target := by
    rcases Finset.mem_insert.mp target with same | old
    · exact has same.symm
    · exact settled.target old
  stored := settled.stored
  ahead := settled.ahead
  idle := settled.idle

theorem stores (settled : Settled e p) (unlocked : p.disconnecting = none) (i : Nat)
    (server : EndpointId) (conn : ConnectionRef) : Settled e { p.setPhase i server .stored with
      connections := p.connections.insert server conn } where
  target target := (settled.target target).stored unlocked server conn
  stored stored := by
    rcases List.mem_or_eq_of_mem_set stored with old | new
    · exact (settled.stored old).stored unlocked server conn
    · cases new
      exact .inl ((AList.mem_insert _).mpr (.inl rfl))
  ahead ahead := (settled.ahead ahead).stored unlocked server conn
  idle := settled.idle

/-- What leaves nobody without what he has is harmless. -/
theorem of_has (settled : Settled e p) (kept : p.Has e → q.Has e)
    (same : q.targetServers = p.targetServers ∧ q.calls = p.calls ∧ q.monitor = p.monitor) :
    Settled e q where
  target target := kept (settled.target (same.1 ▸ target))
  stored stored := kept (settled.stored (same.2.1 ▸ stored))
  ahead ahead := kept (settled.ahead (same.2.2 ▸ ahead))
  idle := same.2.2 ▸ settled.idle

theorem removes (settled : Settled e p) {server : EndpointId}
    (begun : p.disconnecting = some (.closed server))
    (within : Withdraws e p .removeTarget) : Settled e { p with
      targetServers := p.targetServers.erase server
      disconnecting := none } := by
  by_cases own : server = e
  · subst own
    obtain ⟨passed, -, targeted⟩ := within begun
    exact ⟨fun target => absurd target (Finset.notMem_erase _ _),
      fun stored => absurd stored targeted, fun ahead => absurd ahead passed, settled.idle⟩
  · exact ⟨fun target => (settled.target (Finset.mem_of_mem_erase target)).returned begun own,
      fun stored => (settled.stored stored).returned begun own,
      fun ahead => (settled.ahead ahead).returned begun own, settled.idle⟩

/-- The monitor goes on with its round, and not to the server. -/
theorem of_monitor (settled : Settled e p) (ahead : e ∈ q.monitor.ahead → e ∈ p.monitor.ahead)
    (idle : q.monitor.current ≠ some e) (same : q.targetServers = p.targetServers ∧
      q.calls = p.calls ∧ q.connections = p.connections ∧ q.disconnecting = p.disconnecting) :
    Settled e q := by
  obtain ⟨targets, calls, connections, disconnecting⟩ := same
  have kept : q.Has e ↔ p.Has e := by rw [Has, connections, disconnecting, Has]
  exact ⟨fun target => kept.mpr (settled.target (targets ▸ target)),
    fun stored => kept.mpr (settled.stored (calls ▸ stored)),
    fun later => kept.mpr (settled.ahead (ahead later)), idle⟩

theorem next (settled : Settled e p) (within : Withdraws e p a) (does : p.Does a q out) :
    Settled e q := by
  cases does with
  | allow | disallow =>
      exact ⟨settled.target, settled.stored, settled.ahead, settled.idle⟩
  | connect server phase first =>
      refine ⟨settled.target, fun stored => ?_, settled.ahead, settled.idle⟩
      rcases List.mem_append.mp stored with old | new
      · exact settled.stored old
      · rcases first with rfl | rfl <;> simp at new
  | present call unlocked found =>
      refine (settled.set_phase ?_).targets fun same => .inl (same ▸ found)
      exact ConnectPhase.noConfusion
  | absent call | setUpFailed call => exact settled.set_phase ConnectPhase.noConfusion
  | setUp call =>
      refine ⟨settled.target, fun stored => ?_, settled.ahead, settled.idle⟩
      exact settled.stored (mem_set_call stored (by simp))
  | store call unlocked => exact settled.stores unlocked _ _ _
  | addTarget call =>
      refine (settled.set_phase ?_).targets fun same => ?_
      · exact ConnectPhase.noConfusion
      · exact settled.stored (List.mem_of_getElem? (same ▸ call))
  | notConnected => exact settled
  | disconnect unlocked found =>
      exact settled.of_has (fun has => has.disconnected unlocked _ _) ⟨rfl, rfl, rfl⟩
  | close begun => exact settled.of_has (fun has => has.closed begun rfl) ⟨rfl, rfl, rfl⟩
  | removeTarget begun => exact settled.removes begun within
  | snapshot idle all =>
      refine ⟨settled.target, settled.stored, fun ahead => ?_, by simp [MonitorPhase.current]⟩
      exact settled.target (all ▸ List.mem_toFinset.mpr ahead)
  | next begun unlocked =>
      refine settled.of_monitor (fun ahead => ?_) (by simp [MonitorPhase.current])
        ⟨rfl, rfl, rfl, rfl⟩
      rw [begun]
      exact List.mem_cons_of_mem _ ahead
  | missing begun unlocked missing =>
      refine settled.of_monitor (fun ahead => ?_) (fun current => ?_) ⟨rfl, rfl, rfl, rfl⟩
      · rw [begun]
        exact List.mem_cons_of_mem _ ahead
      · cases current
        have first : e ∈ p.monitor.ahead := by
          rw [begun]
          exact List.mem_cons_self
        exact missing ((settled.ahead first).present unlocked)
  | attempt begun | monitorSetUp begun =>
      refine settled.of_monitor (fun ahead => ?_) (fun current => ?_) ⟨rfl, rfl, rfl, rfl⟩
      · rwa [begun]
      · exact settled.idle (by rw [begun]; exact current)
  | monitorFailed begun =>
      refine settled.of_monitor (fun ahead => ?_) (by simp [MonitorPhase.current])
        ⟨rfl, rfl, rfl, rfl⟩
      rwa [begun]
  | monitorStore begun unlocked =>
      refine ⟨fun target => (settled.target target).stored unlocked _ _,
        fun stored => (settled.stored stored).stored unlocked _ _,
        fun ahead => (settled.ahead ?_).stored unlocked _ _, by simp [MonitorPhase.current]⟩
      rwa [begun]
  | endRound begun =>
      exact settled.of_monitor (fun ahead => absurd ahead List.not_mem_nil)
        (by simp [MonitorPhase.current]) ⟨rfl, rfl, rfl, rfl⟩

/-- The monitor is at work on another server, if on any. -/
theorem silent (settled : Settled e p) (does : p.Does a q out) :
    .attempt e ∉ out ∧ .monitorStored e ∉ out := by
  cases does with
  | attempt begun =>
      rename_i server rest
      have other : server ≠ e := fun same => settled.idle (by rw [begun, same]; rfl)
      exact ⟨by simpa using other.symm, by simp⟩
  | monitorStore begun =>
      rename_i conn rest attempts unlocked
      have other : conn.server ≠ e := fun same => settled.idle (by rw [begun, ← same]; rfl)
      exact ⟨by simp, by simpa using other.symm⟩
  | _ => exact ⟨by simp, by simp⟩

end Settled

/-- The monitor never acts on a server whose disconnects all return unattended. -/
theorem never_attempted {client : IrohClient}
    (run : connectionPool.Exec (Withdraws e) (new client) tr p) :
    .attempt e ∉ tr ∧ .monitorStored e ∉ tr := by
  have kept : Settled e p ∧ .attempt e ∉ tr ∧ .monitorStored e ∉ tr := by
    refine run.invariant (I := fun tr p => Settled e p ∧ .attempt e ∉ tr ∧ .monitorStored e ∉ tr)
      ⟨⟨fun h => absurd h (Finset.notMem_empty e), fun h => absurd h List.not_mem_nil,
        fun h => absurd h List.not_mem_nil, by simp [new, MonitorPhase.current]⟩, by simp, by simp⟩
      ?_
    rintro tr p a q out ⟨settled, attempts, stores⟩ within h
    obtain ⟨attempted, stored⟩ := settled.silent (step_does h)
    simp only [List.mem_append, not_or]
    exact ⟨settled.next within (step_does h), ⟨attempts, attempted⟩, stores, stored⟩
  exact kept.2

/-! ### What follows when somebody is still to act -/

/-- Without another connect call the monitor can come to act on the server. -/
def Chased (p : ConnectionPool) (e : EndpointId) : Prop :=
  ∃ tr q, connectionPool.Reach p tr q ∧ .connectCalled e ∉ tr ∧
    (.attempt e ∈ tr ∨ .monitorStored e ∈ tr)

theorem Chased.after (chased : q.Chased e) (h : p.step a = some (q, out))
    (quiet : .connectCalled e ∉ out) : p.Chased e := by
  obtain ⟨tr, r, run, uncalled, acted⟩ := chased
  have first : connectionPool.Reach p out q := Machine.Exec.next .start trivial h
  refine ⟨out ++ tr, r, first.trans run, ?_, ?_⟩
  · simpa only [List.mem_append, not_or] using ⟨quiet, uncalled⟩
  · exact acted.imp (List.mem_append_right out) (List.mem_append_right out)

theorem chased_now (h : p.step a = some (q, out)) (quiet : .connectCalled e ∉ out)
    (acted : .attempt e ∈ out ∨ .monitorStored e ∈ out) : p.Chased e :=
  ⟨out, q, Machine.Exec.next .start trivial h, quiet, acted⟩

/-- The map is free and has no connection to the server. -/
def Missing (p : ConnectionPool) (e : EndpointId) : Prop :=
  p.disconnecting = none ∧ e ∉ p.connections

/-- A connection attempt of the monitor: it fails, unless it is for this server. -/
theorem chased_set_up {server : EndpointId} {rest : List EndpointId} (missing : p.Missing e)
    (begun : p.monitor = .settingUp server rest)
    (go : server ≠ e → Chased { p with monitor := .round rest } e) : p.Chased e := by
  by_cases own : server = e
  · subst own
    have stored : Chased { p.establish server with
        monitor := .reconciling (p.fresh server) rest } server :=
      chased_now (a := .monitorStore) (by simp only [step, establish, missing.1]; rfl)
        (by simp) (.inr (by simp [fresh]))
    exact stored.after (a := .monitorSetUp true) (by simp [step, begun]) List.not_mem_nil
  · exact (go own).after (a := .monitorSetUp false) (by simp [step, begun]) List.not_mem_nil

theorem chased_backoff {server : EndpointId} {rest : List EndpointId} (missing : p.Missing e)
    (begun : p.monitor = .backoff server rest)
    (go : server ≠ e → Chased { p with monitor := .round rest } e) : p.Chased e := by
  have slept : p.step .sleepEnded =
      some ({ p with monitor := .settingUp server rest }, [.attempt server]) := by
    simp only [step, begun]
  by_cases own : server = e
  · subst own
    exact chased_now slept (by simp) (.inl (by simp))
  · exact (chased_set_up (p := { p with monitor := .settingUp server rest }) missing rfl go).after
      slept (by simp)

/-- The monitor is done with the server it is at work on, unless it is this one. -/
theorem chased_current (missing : p.Missing e) (busy : p.monitor ≠ .idle)
    (go : ∀ q : ConnectionPool, p.monitor.current ≠ some e → q.Missing e →
      q.monitor = .round p.monitor.ahead → q.targetServers = p.targetServers → q.Chased e) :
    p.Chased e := by
  cases begun : p.monitor with
  | idle => exact absurd begun busy
  | round rest =>
      rw [begun] at go
      exact go p (by simp [MonitorPhase.current]) missing begun rfl
  | backoff server rest =>
      rw [begun] at go
      exact chased_backoff missing begun fun other =>
        go _ (fun own => other (Option.some.inj own)) missing rfl rfl
  | settingUp server rest =>
      rw [begun] at go
      exact chased_set_up missing begun fun other =>
        go _ (fun own => other (Option.some.inj own)) missing rfl rfl
  | reconciling conn rest =>
      rw [begun] at go
      have stored : p.step .monitorStore = some ({ p with
          connections := p.connections.insert conn.server conn
          monitor := .round rest
          reconnectAttempts := p.reconnectAttempts.erase conn.server },
          [.monitorStored conn.server]) := by
        simp only [step, begun, missing.1]
      by_cases own : conn.server = e
      · exact chased_now stored (by simp) (.inr (by simp [own]))
      · have gone := go { p with
          connections := p.connections.insert conn.server conn
          monitor := .round rest
          reconnectAttempts := p.reconnectAttempts.erase conn.server }
            (fun same => own (Option.some.inj same)) ⟨missing.1, fun found => ?_⟩ rfl rfl
        · exact gone.after stored (by simp)
        · exact missing.2 (((AList.mem_insert _).mp found).resolve_left (Ne.symm own))

/-- The head of a round: it is passed over, or fails, unless it is this server. -/
theorem chased_head {server : EndpointId} {rest : List EndpointId} (missing : p.Missing e)
    (begun : p.monitor = .round (server :: rest))
    (go : ∀ q : ConnectionPool, server ≠ e → q.Missing e → q.monitor = .round rest →
      q.targetServers = p.targetServers → q.Chased e) : p.Chased e := by
  have looked : p.step .look = some (p.lookAt server rest, []) := by
    simp only [step, begun, missing.1]
  refine Chased.after ?_ looked List.not_mem_nil
  rw [lookAt]
  split
  case isTrue found =>
    exact go _ (fun own => missing.2 (own ▸ found)) missing rfl rfl
  case isFalse absent =>
    exact chased_backoff missing rfl fun other => go _ other missing rfl rfl

theorem chased_round {rest : List EndpointId} (missing : p.Missing e)
    (begun : p.monitor = .round rest) (ahead : e ∈ rest) : p.Chased e := by
  induction rest generalizing p with
  | nil => exact absurd ahead List.not_mem_nil
  | cons server rest ih =>
      refine chased_head missing begun fun q other missing begun _ => ih missing begun ?_
      exact (List.mem_cons.mp ahead).resolve_left other.symm

theorem chased_idle (missing : p.Missing e) (begun : p.monitor = .idle)
    (target : e ∈ p.targetServers) : p.Chased e := by
  have taken : p.step (.snapshot p.targetServers.toList) = some ({ p with
      monitor := .round p.targetServers.toList
      targets := p.targetServers.toList }, []) := by
    simp only [step, begun, Finset.nodup_toList, Finset.toList_toFinset, and_self, if_true]
  exact (chased_round (p := { p with
    monitor := .round p.targetServers.toList
    targets := p.targetServers.toList }) missing rfl (Finset.mem_toList.mpr target)).after taken
      List.not_mem_nil

theorem chased_target {rest : List EndpointId} (missing : p.Missing e)
    (begun : p.monitor = .round rest) (target : e ∈ p.targetServers) : p.Chased e := by
  induction rest generalizing p with
  | nil =>
      have ended : p.step .endRound = some ({ p with
          monitor := .idle
          reconnectAttempts :=
            p.reconnectAttempts.retain fun server _ => p.targets.contains server }, []) := by
        simp only [step, begun]
      have idle : Chased { p with
          monitor := .idle
          reconnectAttempts :=
            p.reconnectAttempts.retain fun server _ => p.targets.contains server } e :=
        chased_idle missing rfl target
      exact idle.after ended List.not_mem_nil
  | cons server rest ih =>
      exact chased_head missing begun fun q _ missing begun same =>
        ih missing begun (same ▸ target)

/-- A server that somebody is still to act on is chased. -/
theorem chased_of_attended (missing : p.Missing e) (attended : ¬ p.Unattended e) :
    p.Chased e := by
  have targeted : ∀ q : ConnectionPool, q.Missing e → e ∈ q.targetServers → q.Chased e := by
    intro q missing target
    by_cases idle : q.monitor = .idle
    · exact chased_idle missing idle target
    · exact chased_current missing idle fun r _ missing begun same =>
        chased_target missing begun (same ▸ target)
  by_cases waiting : ⟨e, .stored⟩ ∈ p.calls
  case pos =>
    obtain ⟨i, call⟩ := List.getElem?_of_mem waiting
    have added : p.step (.addTarget i) = some ({ p.setPhase i e (.returned true) with
        targetServers := insert e p.targetServers }, []) := by
      simp only [step, call]
    exact (targeted { p.setPhase i e (.returned true) with
      targetServers := insert e p.targetServers } missing (Finset.mem_insert_self e _)).after added
        List.not_mem_nil
  case neg =>
    have busy : p.monitor ≠ .idle := by
      intro idle
      refine attended ⟨?_, ?_, waiting⟩
      · rw [idle]
        exact List.not_mem_nil
      · rw [idle]
        simp [MonitorPhase.current]
    refine chased_current missing busy fun q other missing begun _ => ?_
    refine chased_round missing begun (Classical.byContradiction fun passed => ?_)
    exact attended ⟨passed, other, waiting⟩

/-- The server that is being disconnected has no connection any more. -/
def Released (p : ConnectionPool) : Prop :=
  ∀ phase, p.disconnecting = some phase → phase.server ∉ p.connections

theorem released_step (released : p.Released) (h : p.step a = some (q, out)) : q.Released := by
  intro phase begun
  cases step_does h with
  | disconnect unlocked found =>
      cases begun
      exact fun left => (AList.mem_erase.mp left).1 rfl
  | close before =>
      cases begun
      exact released (.closing _ _) before
  | removeTarget => cases begun
  | store call unlocked | monitorStore before unlocked => cases unlocked.symm.trans begun
  | _ => exact released phase begun

/-- In runs within the condition disconnects of the server are respected; from any
other step on, a run can go on without connect call until one is not. -/
theorem disconnect_respected (client : IrohClient) (e : EndpointId) :
    (∀ tr p, connectionPool.Exec (Withdraws e) (new client) tr p → DisconnectRespected e tr) ∧
    ∀ tr p a q out, connectionPool.Reach (new client) tr p → p.step a = some (q, out) →
      ¬ Withdraws e p a → ∃ rest r, connectionPool.Reach q rest r ∧
        ¬ DisconnectRespected e (tr ++ out ++ rest) := by
  constructor
  · rintro tr p run before ok after rfl -
    obtain ⟨attempted, stored⟩ := never_attempted run
    exact ⟨fun acted => attempted (by simp [acted]), fun acted => stored (by simp [acted])⟩
  · intro tr p a q out run h outside
    have start : (new client).Released := by
      intro phase begun
      cases begun
    have released : p.Released := run.stateInvariant (I := Released) start
      fun s a t out released _ h => released_step released h
    cases step_does h with
    | removeTarget begun =>
        rename_i server
        simp only [Withdraws, begun, Option.some.injEq, DisconnectPhase.closed.injEq] at outside
        obtain ⟨rfl, attended⟩ := Classical.not_imp.mp outside
        obtain ⟨rest, r, further, uncalled, acted⟩ := chased_of_attended
          (p := { p with
            targetServers := p.targetServers.erase server
            disconnecting := none }) ⟨rfl, released _ begun⟩ attended
        refine ⟨rest, r, further, fun respected => ?_⟩
        obtain ⟨attempted, stored⟩ := respected tr true rest (by simp) uncalled
        exact acted.elim attempted stored
    | _ => exact absurd trivial outside

def exampleConnect : List PoolStep :=
  [.connect ⟨"a"⟩, .checkConnected 0, .setUp 0 true, .storeConnection 0, .addTarget 0]

def exampleDisconnect : List PoolStep :=
  [.disconnect ⟨"a"⟩, .closeConnection, .removeTarget]

/-- Between two rounds nobody is still to act. -/
theorem disconnect_respected_between_rounds :
    ∃ p, connectionPool.Exec (Withdraws ⟨"a"⟩) (new ⟨∅⟩)
        [.connectCalled ⟨"a"⟩, .disconnected ⟨"a"⟩ true] p ∧
      DisconnectRespected ⟨"a"⟩ [.connectCalled ⟨"a"⟩, .disconnected ⟨"a"⟩ true] := by
  have run := Machine.Exec.of_within .start
    (rfl : (connectionPool.within (Withdraws ⟨"a"⟩)).run (new ⟨∅⟩)
      (exampleConnect ++ [.snapshot [⟨"a"⟩], .look, .endRound] ++ exampleDisconnect ++
        [.snapshot [], .endRound]) = some (_, _))
  exact ⟨_, run, (disconnect_respected ⟨∅⟩ ⟨"a"⟩).1 _ _ run⟩

/-- The snapshot is taken, the server is disconnected, the round goes on. -/
theorem stale_snapshot_reconnects :
    ∃ tr p, connectionPool.Reach (new ⟨∅⟩) tr p ∧ ¬ DisconnectRespected ⟨"a"⟩ tr := by
  have run := Machine.Reach.of_run
    (rfl : connectionPool.run (new ⟨∅⟩)
      (exampleConnect ++ [.snapshot [⟨"a"⟩]] ++ exampleDisconnect ++ [.look, .sleepEnded]) =
        some (_, _))
  refine ⟨_, _, run, fun respected => ?_⟩
  exact (respected [.connectCalled ⟨"a"⟩] true [.attempt ⟨"a"⟩] rfl (by simp)).1 List.mem_cons_self

end ConnectionPool
end P2pUsb
