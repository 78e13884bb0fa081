import P2pUsb.Network.Withdrawal

/-! When a client has at most one live connection to a server. -/
namespace P2pUsb

/-- From the look that found no connection to the store of a new one. -/
def ConnectPhase.settingUp? : ConnectPhase → Bool
  | .settingUp | .established _ => true
  | .looking | .stored | .returned _ => false

namespace ConnectionPool
variable {p q : ConnectionPool} {a : PoolStep} {out tr : List PoolEvent} {e : EndpointId}
  {c d : ConnectionRef}

/-- Whoever set the connection up has yet to store it, or a disconnect has taken it
out of the map and has yet to close it. -/
def InHand (p : ConnectionPool) (c : ConnectionRef) : Prop :=
  ⟨c.server, .established c⟩ ∈ p.calls ∨ (∃ rest, p.monitor = .reconciling c rest) ∨
    p.disconnecting = some (.closing c.server c)

/-- At most one connection to the server is established and not closed, and it is the
one in the map once it has got there. -/
def OneLive (e : EndpointId) (p : ConnectionPool) : Prop :=
  (∀ c ∈ p.live, ∀ d ∈ p.live, c.server = e → d.server = e → c = d) ∧
    ∀ c ∈ p.live, c.server = e → p.connections.lookup e = some c ∨ p.InHand c

/-- The server that the step looks up in the map to decide whether to connect. -/
def looksFor (p : ConnectionPool) : PoolStep → Option EndpointId
  | .checkConnected i => p.calls[i]?.map ConnectCall.server
  | .look => p.monitor.ahead.head?
  | _ => none

/-- Nobody is setting up a connection to the server. -/
def Unclaimed (p : ConnectionPool) (e : EndpointId) : Prop :=
  (∀ call ∈ p.calls, call.server = e → call.phase.settingUp? = false) ∧
    p.monitor.current ≠ some e

/-- No connection to the server is found missing while one is being set up. -/
def LooksAlone (e : EndpointId) (p : ConnectionPool) (a : PoolStep) : Prop :=
  p.looksFor a = some e → e ∉ p.connections → p.Unclaimed e

instance (p : ConnectionPool) (e : EndpointId) : Decidable (p.Unclaimed e) :=
  inferInstanceAs (Decidable (_ ∧ _))

instance (e : EndpointId) (p : ConnectionPool) (a : PoolStep) : Decidable (LooksAlone e p a) :=
  inferInstanceAs (Decidable (_ → _ → _))

/-- The call is setting up a connection to the server. -/
def CallClaims (p : ConnectionPool) (e : EndpointId) (i : Nat) : Prop :=
  ∃ phase, p.calls[i]? = some ⟨e, phase⟩ ∧ phase.settingUp? = true

/-- A setup is the only one, for a server without connection, and accounts for the
live connections that are in no other place. -/
structure Claimed (e : EndpointId) (p : ConnectionPool) : Prop where
  alone : ∀ i j, p.CallClaims e i → p.CallClaims e j → i = j
  apart : ∀ i, p.CallClaims e i → p.monitor.current ≠ some e
  released : p.Released
  absent : (∃ i, p.CallClaims e i) ∨ p.monitor.current = some e → ¬ p.Has e
  tracked : ∀ c ∈ p.live, c.server = e → p.connections.lookup e = some c ∨ p.InHand c

theorem claims_set {i j : Nat} {server : EndpointId} {phase : ConnectPhase}
    (h : CallClaims (p.setPhase i server phase) e j) :
    (j = i ∧ server = e ∧ phase.settingUp? = true) ∨ (j ≠ i ∧ p.CallClaims e j) := by
  obtain ⟨now, call, claiming⟩ := h
  rw [setPhase, List.getElem?_set] at call
  split at call
  case isTrue same =>
    split at call
    · cases call
      exact .inl ⟨same.symm, rfl, claiming⟩
    · cases call
  case isFalse other => exact .inr ⟨Ne.symm other, now, call, claiming⟩

theorem mem_set_of_ne {calls : List ConnectCall} {i : Nat} {old new call : ConnectCall}
    (there : calls[i]? = some old) (present : call ∈ calls) (other : call ≠ old) :
    call ∈ calls.set i new := by
  obtain ⟨j, here⟩ := List.getElem?_of_mem present
  have apart : i ≠ j := by
    rintro rfl
    exact other (Option.some.inj (here.symm.trans there))
  exact List.mem_of_getElem? ((List.getElem?_set_ne apart).trans here)

/-- A step that claims nothing new for the server. -/
theorem Claimed.of_fewer (claimed : Claimed e p) (claims : ∀ j, q.CallClaims e j → p.CallClaims e j)
    (current : q.monitor.current = some e → p.monitor.current = some e) (released : q.Released)
    (has : q.Has e → p.Has e)
    (tracked : ∀ c ∈ q.live, c.server = e → q.connections.lookup e = some c ∨ q.InHand c) :
    Claimed e q where
  alone i j hi hj := claimed.alone i j (claims i hi) (claims j hj)
  apart i hi now := claimed.apart i (claims i hi) (current now)
  released := released
  absent claim present := by
    refine claimed.absent ?_ (has present)
    rcases claim with ⟨i, hi⟩ | now
    · exact .inl ⟨i, claims i hi⟩
    · exact .inr (current now)
  tracked := tracked

/-- The allowlist, the targets and the counts of attempts do not matter. -/
theorem Claimed.unwatched (claimed : Claimed e p) (client : IrohClient)
    (targetServers : Finset EndpointId) (targets : List EndpointId)
    (reconnectAttempts : AList fun _ : EndpointId => Nat) :
    Claimed e { p with client, targetServers, targets, reconnectAttempts } :=
  ⟨claimed.alone, claimed.apart, claimed.released, claimed.absent, claimed.tracked⟩

/-- A step of the monitor that begins no setup for the server and ends none. -/
theorem Claimed.turn (claimed : Claimed e p) (monitor : MonitorPhase)
    (current : monitor.current = some e → p.monitor.current = some e)
    (empty : ∀ c rest, p.monitor ≠ .reconciling c rest) : Claimed e { p with monitor } := by
  refine claimed.of_fewer (fun j h => h) current claimed.released id fun c present own => ?_
  rcases claimed.tracked c present own with stored | call | ⟨rest, held⟩ | closing
  · exact .inl stored
  · exact .inr (.inl call)
  · exact absurd held (empty c rest)
  · exact .inr (.inr (.inr closing))

/-- A step of a call that has no connection in hand and begins no setup. -/
theorem Claimed.callTurn (claimed : Claimed e p) {i : Nat} {server : EndpointId}
    {old : ConnectPhase} (phase : ConnectPhase) (call : p.calls[i]? = some ⟨server, old⟩)
    (empty : ∀ c, old ≠ .established c)
    (claim : phase.settingUp? = true → old.settingUp? = true ∨ server ≠ e) :
    Claimed e (p.setPhase i server phase) := by
  refine claimed.of_fewer (fun j h => ?_) id claimed.released id fun c present own => ?_
  · rcases claims_set h with ⟨rfl, rfl, claiming⟩ | ⟨-, before⟩
    · exact ⟨old, call, (claim claiming).resolve_right (fun other => other rfl)⟩
    · exact before
  · rcases claimed.tracked c present own with stored | held | monitor
    · exact .inl stored
    · refine .inr (.inl (mem_set_of_ne call held fun same => ?_))
      exact empty c (congrArg ConnectCall.phase same).symm
    · exact .inr (.inr monitor)

/-- The first to claim a server that has no connection. -/
theorem Claimed.callBegins (claimed : Claimed e p) {i : Nat}
    (call : p.calls[i]? = some ⟨e, .looking⟩) (unlocked : p.disconnecting = none)
    (missing : e ∉ p.connections) (unclaimed : p.Unclaimed e) :
    Claimed e (p.setPhase i e .settingUp) := by
  have free : ∀ j, ¬ p.CallClaims e j := by
    rintro j ⟨phase, call, claiming⟩
    cases (unclaimed.1 _ (List.mem_of_getElem? call) rfl).symm.trans claiming
  have only : ∀ j, CallClaims (p.setPhase i e .settingUp) e j → j = i := by
    intro j h
    rcases claims_set h with ⟨same, -, -⟩ | ⟨-, before⟩
    · exact same
    · exact absurd before (free j)
  refine ⟨fun j k hj hk => (only j hj).trans (only k hk).symm, fun _ _ => unclaimed.2,
    claimed.released, fun _ has => missing (has.present unlocked), fun c present own => ?_⟩
  rcases claimed.tracked c present own with stored | held | monitor
  · exact .inl stored
  · exact .inr (.inl (mem_set_of_ne call held (by simp)))
  · exact .inr (.inr monitor)

/-- The setup of a call succeeds: the new connection is in its hands. -/
theorem Claimed.callEstablishes (claimed : Claimed e p) {i : Nat} {server : EndpointId}
    (call : p.calls[i]? = some ⟨server, .settingUp⟩) :
    Claimed e ((p.setPhase i server (.established (p.fresh server))).establish server) := by
  have turned : Claimed e (p.setPhase i server (.established (p.fresh server))) :=
    claimed.callTurn _ call (by simp) (by simp [ConnectPhase.settingUp?])
  refine turned.of_fewer (fun j h => h) id turned.released id fun c present own => ?_
  rcases List.mem_cons.mp present with rfl | old
  · exact .inr (.inl (List.mem_set (List.getElem?_eq_some_iff.mp call).1 _))
  · exact turned.tracked c old own

/-- A call that stores its connection held the only claim. -/
theorem Claimed.callStores (claimed : Claimed e p) {i : Nat} {server : EndpointId}
    {conn : ConnectionRef} (call : p.calls[i]? = some ⟨server, .established conn⟩)
    (unlocked : p.disconnecting = none) :
    Claimed e { p.setPhase i server .stored with
      connections := p.connections.insert server conn } := by
  have released : Released { p.setPhase i server .stored with
      connections := p.connections.insert server conn } := by
    intro phase begun
    cases unlocked.symm.trans begun
  by_cases own : server = e
  · subst own
    have claims : p.CallClaims server i := ⟨_, call, rfl⟩
    have missing := claimed.absent (.inl ⟨i, claims⟩)
    have free : ∀ j, ¬ CallClaims { p.setPhase i server .stored with
        connections := p.connections.insert server conn } server j := by
      intro j h
      rcases claims_set h with ⟨-, -, claiming⟩ | ⟨other, before⟩
      · cases claiming
      · exact other (claimed.alone j i before claims)
    have idle := claimed.apart i claims
    refine ⟨fun j _ hj => absurd hj (free j), fun j hj => absurd hj (free j), released,
      fun claim => ?_, fun c present own => .inl ?_⟩
    · rcases claim with ⟨j, hj⟩ | now
      · exact absurd hj (free j)
      · exact absurd now idle
    · rcases claimed.tracked c present own with stored | held | ⟨rest, held⟩ | closing
      · exact absurd (.inl (AList.mem_of_lookup stored)) missing
      · obtain ⟨j, there⟩ := List.getElem?_of_mem held
        rw [own] at there
        cases claimed.alone j i ⟨_, there, rfl⟩ claims
        cases there.symm.trans call
        exact AList.lookup_insert _
      · exact absurd (by rw [held, ← own]; rfl) idle
      · cases unlocked.symm.trans closing
  · refine claimed.of_fewer (fun j h => ?_) id released (fun has => ?_) fun c present mine => ?_
    · rcases claims_set h with ⟨-, same, -⟩ | ⟨-, before⟩
      · exact absurd same own
      · exact before
    · exact .inl (((AList.mem_insert _).mp (has.present unlocked)).resolve_left (Ne.symm own))
    · rcases claimed.tracked c present mine with stored | held | monitor
      · exact .inl ((AList.lookup_insert_ne (Ne.symm own)).trans stored)
      · refine .inr (.inl (mem_set_of_ne call held fun same => own ?_))
        rw [← mine]
        exact (congrArg ConnectCall.server same).symm
      · exact .inr (.inr monitor)

theorem Claimed.monitorBegins (claimed : Claimed e p) {rest : List EndpointId}
    (begun : p.monitor = .round (e :: rest)) (unlocked : p.disconnecting = none)
    (missing : e ∉ p.connections) (unclaimed : p.Unclaimed e) :
    Claimed e { p with monitor := .backoff e rest } := by
  have free : ∀ j, ¬ p.CallClaims e j := by
    rintro j ⟨phase, call, claiming⟩
    cases (unclaimed.1 _ (List.mem_of_getElem? call) rfl).symm.trans claiming
  refine ⟨fun i _ h => absurd h (free i), fun i h => absurd h (free i), claimed.released,
    fun _ has => missing (has.present unlocked), fun c present own => ?_⟩
  rcases claimed.tracked c present own with stored | call | ⟨rest, held⟩ | closing
  · exact .inl stored
  · exact .inr (.inl call)
  · cases begun.symm.trans held
  · exact .inr (.inr (.inr closing))

theorem Claimed.monitorEstablishes (claimed : Claimed e p) {server : EndpointId}
    {rest : List EndpointId} (begun : p.monitor = .settingUp server rest) :
    Claimed e { p.establish server with monitor := .reconciling (p.fresh server) rest } := by
  refine claimed.of_fewer (fun j h => h) (fun now => by rw [begun]; exact now) claimed.released id
    fun c present own => ?_
  rcases List.mem_cons.mp present with rfl | old
  · exact .inr (.inr (.inl ⟨rest, rfl⟩))
  · rcases claimed.tracked c old own with stored | call | ⟨rest, held⟩ | closing
    · exact .inl stored
    · exact .inr (.inl call)
    · cases begun.symm.trans held
    · exact .inr (.inr (.inr closing))

theorem Claimed.monitorStores (claimed : Claimed e p) {conn : ConnectionRef}
    {rest : List EndpointId} (begun : p.monitor = .reconciling conn rest)
    (unlocked : p.disconnecting = none) :
    Claimed e { p with
      connections := p.connections.insert conn.server conn
      monitor := .round rest } := by
  have released : Released { p with
      connections := p.connections.insert conn.server conn
      monitor := .round rest } := by
    intro phase begun
    cases unlocked.symm.trans begun
  by_cases own : conn.server = e
  · subst own
    have now : p.monitor.current = some conn.server := by rw [begun]; rfl
    have free : ∀ j, ¬ p.CallClaims conn.server j := fun j h => claimed.apart j h now
    have missing := claimed.absent (.inr now)
    refine ⟨fun j _ hj => absurd hj (free j), fun j hj => absurd hj (free j), released,
      fun claim => ?_, fun c present own => .inl ?_⟩
    · rcases claim with ⟨j, hj⟩ | now
      · exact absurd hj (free j)
      · cases now
    · rcases claimed.tracked c present own with stored | held | ⟨rest, held⟩ | closing
      · exact absurd (.inl (AList.mem_of_lookup stored)) missing
      · obtain ⟨j, there⟩ := List.getElem?_of_mem held
        rw [own] at there
        exact absurd ⟨_, there, rfl⟩ (free j)
      · cases begun.symm.trans held
        exact AList.lookup_insert _
      · cases unlocked.symm.trans closing
  · refine claimed.of_fewer (fun j h => h) (fun now => by cases now) released (fun has => ?_)
      fun c present mine => ?_
    · exact .inl (((AList.mem_insert _).mp (has.present unlocked)).resolve_left (Ne.symm own))
    · rcases claimed.tracked c present mine with stored | call | ⟨rest, held⟩ | closing
      · exact .inl ((AList.lookup_insert_ne (Ne.symm own)).trans stored)
      · exact .inr (.inl call)
      · cases begun.symm.trans held
        exact absurd mine own
      · cases unlocked.symm.trans closing

theorem Claimed.disconnects (claimed : Claimed e p) {server : EndpointId} {conn : ConnectionRef}
    (unlocked : p.disconnecting = none) (found : p.connections.lookup server = some conn)
    (released : Released { p with
      connections := p.connections.erase server
      disconnecting := some (.closing server conn) }) :
    Claimed e { p with
      connections := p.connections.erase server
      disconnecting := some (.closing server conn) } := by
  refine claimed.of_fewer (fun j h => h) id released (fun has => ?_) fun c present own => ?_
  · rcases has with left | ⟨phase, begun, same⟩
    · exact .inl (AList.mem_erase.mp left).2
    · cases begun
      exact .inl (same ▸ AList.mem_of_lookup found)
  · rcases claimed.tracked c present own with stored | call | monitor | closing
    · by_cases same : server = e
      · subst same
        cases found.symm.trans stored
        exact .inr (.inr (.inr (by rw [own])))
      · exact .inl ((AList.lookup_erase_ne (Ne.symm same)).trans stored)
    · exact .inr (.inl call)
    · exact .inr (.inr (.inl monitor))
    · cases unlocked.symm.trans closing

theorem Claimed.closes (claimed : Claimed e p) {server : EndpointId} {conn : ConnectionRef}
    (begun : p.disconnecting = some (.closing server conn))
    (released : Released { p with
      live := p.live.filter (· ≠ conn)
      disconnecting := some (.closed server) }) :
    Claimed e { p with
      live := p.live.filter (· ≠ conn)
      disconnecting := some (.closed server) } := by
  refine claimed.of_fewer (fun j h => h) id released (fun has => ?_) fun c present own => ?_
  · rcases has with present | ⟨phase, found, own⟩
    · exact .inl present
    · cases found
      exact .inr ⟨_, begun, own⟩
  · obtain ⟨present, other⟩ := List.mem_filter.mp present
    rcases claimed.tracked c present own with stored | call | monitor | closing
    · exact .inl stored
    · exact .inr (.inl call)
    · exact .inr (.inr (.inl monitor))
    · cases begun.symm.trans closing
      simp at other

theorem Claimed.unlocks (claimed : Claimed e p) {server : EndpointId}
    {targetServers : Finset EndpointId} (begun : p.disconnecting = some (.closed server))
    (released : Released { p with targetServers, disconnecting := none }) :
    Claimed e { p with targetServers, disconnecting := none } := by
  refine claimed.of_fewer (fun j h => h) id released (fun has => ?_) fun c present own => ?_
  · rcases has with present | ⟨phase, found, -⟩
    · exact .inl present
    · cases found
  · rcases claimed.tracked c present own with stored | call | monitor | closing
    · exact .inl stored
    · exact .inr (.inl call)
    · exact .inr (.inr (.inl monitor))
    · cases begun.symm.trans closing

theorem Claimed.connects (claimed : Claimed e p) {server : EndpointId} {phase : ConnectPhase}
    (idle : phase.settingUp? = false)
    (released : Released { p with calls := p.calls ++ [⟨server, phase⟩] }) :
    Claimed e { p with calls := p.calls ++ [⟨server, phase⟩] } := by
  refine claimed.of_fewer (fun j h => ?_) id released id fun c present own => ?_
  · obtain ⟨now, call, claiming⟩ := h
    rcases get_new_call call with new | old
    · cases new
      cases idle.symm.trans claiming
    · exact ⟨now, old, claiming⟩
  · rcases claimed.tracked c present own with stored | call | monitor
    · exact .inl stored
    · exact .inr (.inl (List.mem_append_left _ call))
    · exact .inr (.inr monitor)

theorem claimed_step (claimed : Claimed e p) (within : LooksAlone e p a)
    (h : p.step a = some (q, out)) : Claimed e q := by
  have released := released_step claimed.released h
  cases step_does h with
  | allow | disallow => exact claimed.unwatched _ _ _ _
  | connect server phase first =>
      refine claimed.connects ?_ released
      rcases first with rfl | rfl <;> rfl
  | present call unlocked found =>
      exact (claimed.callTurn (.returned true) call (by simp)
        (by simp [ConnectPhase.settingUp?])).unwatched _ _ _ _
  | absent call unlocked missing =>
      rename_i i server
      by_cases own : server = e
      · subst own
        refine claimed.callBegins call unlocked missing (within ?_ missing)
        simp only [looksFor, call, Option.map_some]
      · exact claimed.callTurn _ call (by simp) fun _ => .inr own
  | setUp call => exact claimed.callEstablishes call
  | setUpFailed call => exact claimed.callTurn _ call (by simp) (by simp [ConnectPhase.settingUp?])
  | store call unlocked => exact claimed.callStores call unlocked
  | addTarget call =>
      exact (claimed.callTurn (.returned true) call (by simp)
        (by simp [ConnectPhase.settingUp?])).unwatched _ _ _ _
  | notConnected => exact claimed
  | disconnect unlocked found => exact claimed.disconnects unlocked found released
  | close begun => exact claimed.closes begun released
  | removeTarget begun => exact claimed.unlocks begun released
  | snapshot idle all =>
      rename_i order
      exact (claimed.turn (.round order) (fun now => by cases now) (by simp [idle])).unwatched
        _ _ _ _
  | next begun =>
      rename_i server rest attempts unlocked
      exact (claimed.turn (.round rest) (fun now => by cases now) (by simp [begun])).unwatched
        _ _ _ _
  | endRound begun =>
      exact (claimed.turn .idle (fun now => by cases now) (by simp [begun])).unwatched _ _ _ _
  | missing begun unlocked missing =>
      rename_i server rest attempts
      by_cases own : server = e
      · subst own
        have unclaimed : p.Unclaimed server := by
          refine within ?_ missing
          simp only [looksFor, begun, MonitorPhase.ahead, List.head?_cons]
        exact (claimed.monitorBegins begun unlocked missing unclaimed).unwatched _ _ _ _
      · exact (claimed.turn (.backoff server rest) (fun now => absurd (Option.some.inj now) own)
          (by simp [begun])).unwatched _ _ _ _
  | attempt begun =>
      exact claimed.turn _ (fun now => by rw [begun]; exact now) (by simp [begun])
  | monitorSetUp begun => exact claimed.monitorEstablishes begun
  | monitorFailed begun => exact claimed.turn _ (fun now => by cases now) (by simp [begun])
  | monitorStore begun unlocked =>
      exact (claimed.monitorStores begun unlocked).unwatched _ _ _ _

/-- While the map has the server, its live connection is there or about to be closed. -/
theorem Claimed.kept (claimed : Claimed e p) (has : p.Has e) (present : c ∈ p.live)
    (own : c.server = e) :
    p.connections.lookup e = some c ∨ p.disconnecting = some (.closing e c) := by
  subst own
  rcases claimed.tracked c present rfl with stored | held | ⟨rest, held⟩ | closing
  · exact .inl stored
  · obtain ⟨i, there⟩ := List.getElem?_of_mem held
    exact absurd has (claimed.absent (.inl ⟨i, _, there, rfl⟩))
  · exact absurd has (claimed.absent (.inr (by rw [held]; rfl)))
  · exact .inr closing

/-- Otherwise whoever has set it up has it in hand. -/
theorem Claimed.held (claimed : Claimed e p) (missing : ¬ p.Has e) (present : c ∈ p.live)
    (own : c.server = e) :
    (∃ i : Nat, p.calls[i]? = some ⟨e, .established c⟩) ∨ ∃ rest, p.monitor =
      .reconciling c rest := by
  subst own
  rcases claimed.tracked c present rfl with stored | held | held | closing
  · exact absurd (.inl (AList.mem_of_lookup stored)) missing
  · exact .inl (List.getElem?_of_mem held)
  · exact .inr held
  · exact absurd (.inr ⟨_, closing, rfl⟩) missing

theorem Claimed.oneLive (claimed : Claimed e p) : OneLive e p := by
  refine ⟨fun c hc d hd ownc ownd => ?_, claimed.tracked⟩
  by_cases has : p.Has e
  · have apart : ∀ {c d}, p.connections.lookup e = some c →
        p.disconnecting ≠ some (.closing e d) := fun stored closing =>
      claimed.released _ closing (AList.mem_of_lookup stored)
    rcases claimed.kept has hc ownc with stored | closing <;>
      rcases claimed.kept has hd ownd with stored' | closing'
    · exact Option.some.inj (stored.symm.trans stored')
    · exact absurd closing' (apart stored)
    · exact absurd closing (apart stored')
    · have same := Option.some.inj (closing.symm.trans closing')
      exact (DisconnectPhase.closing.inj same).2
  · have current : ∀ {c rest}, c.server = e → p.monitor = .reconciling c rest →
        p.monitor.current = some e := by
      intro c rest own held
      rw [held, ← own]
      rfl
    rcases claimed.held has hc ownc with ⟨i, there⟩ | ⟨rest, held⟩ <;>
      rcases claimed.held has hd ownd with ⟨j, there'⟩ | ⟨rest', held'⟩
    · cases claimed.alone i j ⟨_, there, rfl⟩ ⟨_, there', rfl⟩
      cases there.symm.trans there'
      rfl
    · exact absurd (current ownd held') (claimed.apart i ⟨_, there, rfl⟩)
    · exact absurd (current ownc held) (claimed.apart j ⟨_, there', rfl⟩)
    · cases held.symm.trans held'
      rfl

theorem claimed_new (client : IrohClient) : Claimed e (new client) where
  alone i j := by
    rintro ⟨phase, call, -⟩
    cases call
  apart i := by
    rintro ⟨phase, call, -⟩
    cases call
  released phase begun := by cases begun
  absent claim := by
    rcases claim with ⟨i, phase, call, -⟩ | now
    · cases call
    · cases now
  tracked c present := by cases present

/-- In runs that look for the server only when nobody is setting it up, it has one
live connection at most. -/
theorem one_live_connection {client : IrohClient}
    (run : connectionPool.Exec (LooksAlone e) (new client) tr p) : OneLive e p :=
  (run.stateInvariant (claimed_new client) fun _ _ _ _ claimed within h =>
    claimed_step claimed within h).oneLive

def exampleReplaced : List PoolStep :=
  [.connect ⟨"a"⟩, .connect ⟨"a"⟩, .checkConnected 0, .checkConnected 1, .setUp 0 true,
    .setUp 1 true, .storeConnection 0, .storeConnection 1]

theorem one_live_connection_in_turn :
    ∃ p, connectionPool.Exec (LooksAlone ⟨"a"⟩) (new ⟨∅⟩)
        [.connectCalled ⟨"a"⟩, .disconnected ⟨"a"⟩ true, .connectCalled ⟨"a"⟩] p ∧
      p.live = [⟨⟨"a"⟩, 1⟩] ∧ OneLive ⟨"a"⟩ p := by
  have run := Machine.Exec.of_within .start
    (rfl : (connectionPool.within (LooksAlone ⟨"a"⟩)).run (new ⟨∅⟩)
      (exampleConnect ++ exampleDisconnect ++ [.connect ⟨"a"⟩, .checkConnected 1,
        .setUp 1 true, .storeConnection 1]) = some (_, _))
  exact ⟨_, run, rfl, one_live_connection run⟩

/-- Two calls that both look before either has stored: both connections live, and
the second has replaced the first. -/
theorem overlapping_connects_replace :
    ∃ tr p, connectionPool.Reach (new ⟨∅⟩) tr p ∧
      p.live = [⟨⟨"a"⟩, 1⟩, ⟨⟨"a"⟩, 0⟩] ∧
      p.connections.lookup ⟨"a"⟩ = some ⟨⟨"a"⟩, 1⟩ ∧ ¬ OneLive ⟨"a"⟩ p := by
  have run := Machine.Reach.of_run
    (rfl : connectionPool.run (new ⟨∅⟩) exampleReplaced = some (_, _))
  refine ⟨_, _, run, rfl, rfl, fun one => ?_⟩
  have same := one.1 ⟨⟨"a"⟩, 1⟩ List.mem_cons_self ⟨⟨"a"⟩, 0⟩
    (List.mem_cons_of_mem _ List.mem_cons_self) rfl rfl
  cases same

end ConnectionPool
end P2pUsb
