import Mathlib.Data.Finset.Dedup
import P2pUsb.Library.FiniteMap
import P2pUsb.Library.Machine
import P2pUsb.Network.Allowlist

/-! The connections of a client: `connect_to_server` and `disconnect_from_server`
calls and the connection monitor, interleaved at every access to the map and to
the target servers. How long the monitor sleeps is left open. -/
namespace P2pUsb

/-- A `ServerConnection` that was set up, and the how manieth it is. -/
structure ConnectionRef where
  server : EndpointId
  serial : Nat
  deriving DecidableEq, Repr

structure ReconnectionPolicy where
  maxRetries : Option Nat

namespace ReconnectionPolicy

/-- The policy of the monitor: any number of retries. -/
def default : ReconnectionPolicy := ⟨none⟩

def maxRetriesExceeded (policy : ReconnectionPolicy) (attempt : Nat) : Bool :=
  policy.maxRetries.any fun max => attempt > max

end ReconnectionPolicy

/-- Where a `connect_to_server` call stands once the allowlist let it pass. -/
inductive ConnectPhase where
  | looking
  | settingUp
  | established (conn : ConnectionRef)
  | stored
  | returned (ok : Bool)
  deriving DecidableEq, Repr

structure ConnectCall where
  server : EndpointId
  phase : ConnectPhase
  deriving DecidableEq, Repr

/-- Where the monitor stands, with the servers of its snapshot that are left. -/
inductive MonitorPhase where
  | idle
  | round (rest : List EndpointId)
  | backoff (server : EndpointId) (rest : List EndpointId)
  | settingUp (server : EndpointId) (rest : List EndpointId)
  | reconciling (conn : ConnectionRef) (rest : List EndpointId)
  deriving DecidableEq, Repr

/-- A `disconnect_from_server` call that has taken its connection out of the map
and keeps the map locked until it returns. -/
inductive DisconnectPhase where
  | closing (server : EndpointId) (conn : ConnectionRef)
  | closed (server : EndpointId)
  deriving DecidableEq, Repr

def DisconnectPhase.server : DisconnectPhase → EndpointId
  | closing server _ | closed server => server

/-- `live` are the connections established and not closed: their tasks are running. -/
structure ConnectionPool where
  client : IrohClient
  connections : AList fun _ : EndpointId => ConnectionRef
  targetServers : Finset EndpointId
  calls : List ConnectCall
  disconnecting : Option DisconnectPhase
  monitor : MonitorPhase
  targets : List EndpointId
  reconnectAttempts : AList fun _ : EndpointId => Nat
  live : List ConnectionRef
  next : Nat

/-- Calls of the user, the steps of a `connect_to_server` call, of the call that
disconnects, and of the monitor. The order in which a set is walked is arbitrary. -/
inductive PoolStep where
  | addAllowedServer (server : EndpointId)
  | removeAllowedServer (server : EndpointId)
  | connect (server : EndpointId)
  | checkConnected (call : Nat)
  | setUp (call : Nat) (ok : Bool)
  | storeConnection (call : Nat)
  | addTarget (call : Nat)
  | disconnect (server : EndpointId)
  | closeConnection
  | removeTarget
  | snapshot (order : List EndpointId)
  | look
  | sleepEnded
  | monitorSetUp (ok : Bool)
  | monitorStore
  | endRound
  deriving DecidableEq, Repr

inductive PoolEvent where
  | connectCalled (server : EndpointId)
  | disconnected (server : EndpointId) (ok : Bool)
  | attempt (server : EndpointId)
  | monitorStored (server : EndpointId)
  deriving DecidableEq, Repr

namespace ConnectionPool

def new (client : IrohClient) : ConnectionPool where
  client := client
  connections := ∅
  targetServers := ∅
  calls := []
  disconnecting := none
  monitor := .idle
  targets := []
  reconnectAttempts := ∅
  live := []
  next := 0

/-- The connection that the next successful `setup_connection` gives. -/
def fresh (p : ConnectionPool) (server : EndpointId) : ConnectionRef := ⟨server, p.next⟩

def establish (p : ConnectionPool) (server : EndpointId) : ConnectionPool :=
  { p with live := p.fresh server :: p.live, next := p.next + 1 }

def setPhase (p : ConnectionPool) (i : Nat) (server : EndpointId) (phase : ConnectPhase) :
    ConnectionPool :=
  { p with calls := p.calls.set i ⟨server, phase⟩ }

/-- The look into the map at the start of `connect_to_server`. -/
def checkConnected (p : ConnectionPool) (i : Nat) (server : EndpointId) : ConnectionPool :=
  if server ∈ p.connections then
    { p.setPhase i server (.returned true) with targetServers := insert server p.targetServers }
  else p.setPhase i server .settingUp

/-- The body of the monitor's loop for the next server of the snapshot. -/
def lookAt (p : ConnectionPool) (server : EndpointId) (rest : List EndpointId) : ConnectionPool :=
  if server ∈ p.connections then
    { p with monitor := .round rest, reconnectAttempts := p.reconnectAttempts.erase server }
  else
    let attempts := (p.reconnectAttempts.lookup server).getD 0 + 1
    { p with
      monitor := if ReconnectionPolicy.default.maxRetriesExceeded attempts then .round rest
        else .backoff server rest
      reconnectAttempts := p.reconnectAttempts.insert server attempts }

def step (p : ConnectionPool) : PoolStep → Option (ConnectionPool × List PoolEvent)
  | .addAllowedServer server => some ({ p with client := p.client.addAllowedServer server }, [])
  | .removeAllowedServer server =>
      some ({ p with client := p.client.removeAllowedServer server }, [])
  | .connect server =>
      let phase := if p.client.isServerAllowed server then .looking else .returned false
      some ({ p with calls := p.calls ++ [⟨server, phase⟩] }, [.connectCalled server])
  | .checkConnected i =>
      match p.calls[i]?, p.disconnecting with
      | some ⟨server, .looking⟩, none => some (p.checkConnected i server, [])
      | _, _ => none
  | .setUp i ok =>
      match p.calls[i]? with
      | some ⟨server, .settingUp⟩ =>
          some (if ok then
            (p.setPhase i server (.established (p.fresh server))).establish server
          else p.setPhase i server (.returned false), [])
      | _ => none
  | .storeConnection i =>
      match p.calls[i]?, p.disconnecting with
      | some ⟨server, .established conn⟩, none =>
          some ({ p.setPhase i server .stored with
            connections := p.connections.insert server conn }, [])
      | _, _ => none
  | .addTarget i =>
      match p.calls[i]? with
      | some ⟨server, .stored⟩ =>
          some ({ p.setPhase i server (.returned true) with
            targetServers := insert server p.targetServers }, [])
      | _ => none
  | .disconnect server =>
      match p.disconnecting, p.connections.lookup server with
      | some _, _ => none
      | none, none => some (p, [.disconnected server false])
      | none, some conn =>
          some ({ p with
            connections := p.connections.erase server
            disconnecting := some (.closing server conn) }, [])
  | .closeConnection =>
      match p.disconnecting with
      | some (.closing server conn) =>
          some ({ p with
            live := p.live.filter (· ≠ conn)
            disconnecting := some (.closed server) }, [])
      | _ => none
  | .removeTarget =>
      match p.disconnecting with
      | some (.closed server) =>
          some ({ p with
            targetServers := p.targetServers.erase server
            disconnecting := none }, [.disconnected server true])
      | _ => none
  | .snapshot order =>
      match p.monitor with
      | .idle =>
          if order.Nodup ∧ order.toFinset = p.targetServers then
            some ({ p with monitor := .round order, targets := order }, [])
          else none
      | _ => none
  | .look =>
      match p.monitor, p.disconnecting with
      | .round (server :: rest), none => some (p.lookAt server rest, [])
      | _, _ => none
  | .sleepEnded =>
      match p.monitor with
      | .backoff server rest =>
          some ({ p with monitor := .settingUp server rest }, [.attempt server])
      | _ => none
  | .monitorSetUp ok =>
      match p.monitor with
      | .settingUp server rest =>
          some (if ok then
            { p.establish server with monitor := .reconciling (p.fresh server) rest }
          else { p with monitor := .round rest }, [])
      | _ => none
  | .monitorStore =>
      match p.monitor, p.disconnecting with
      | .reconciling conn rest, none =>
          some ({ p with
            connections := p.connections.insert conn.server conn
            monitor := .round rest
            reconnectAttempts := p.reconnectAttempts.erase conn.server },
            [.monitorStored conn.server])
      | _, _ => none
  | .endRound =>
      match p.monitor with
      | .round [] =>
          some ({ p with
            monitor := .idle
            reconnectAttempts :=
              p.reconnectAttempts.retain fun server _ => p.targets.contains server }, [])
      | _ => none

end ConnectionPool

def connectionPool : Machine ConnectionPool PoolStep PoolEvent where
  step p a := p.step a

namespace ConnectionPool
variable {p q : ConnectionPool} {a : PoolStep} {out tr : List PoolEvent} {e : EndpointId}

/-- All that a step does, with what it found. -/
inductive Does (p : ConnectionPool) : PoolStep → ConnectionPool → List PoolEvent → Prop
  | allow (server : EndpointId) :
      Does p (.addAllowedServer server) { p with client := p.client.addAllowedServer server } []
  | disallow (server : EndpointId) :
      Does p (.removeAllowedServer server)
        { p with client := p.client.removeAllowedServer server } []
  | connect (server : EndpointId) (phase : ConnectPhase)
      (first : phase = .looking ∨ phase = .returned false) :
      Does p (.connect server) { p with calls := p.calls ++ [⟨server, phase⟩] }
        [.connectCalled server]
  | present {i : Nat} {server : EndpointId} (call : p.calls[i]? = some ⟨server, .looking⟩)
      (unlocked : p.disconnecting = none) (found : server ∈ p.connections) :
      Does p (.checkConnected i) { p.setPhase i server (.returned true) with
        targetServers := insert server p.targetServers } []
  | absent {i : Nat} {server : EndpointId} (call : p.calls[i]? = some ⟨server, .looking⟩)
      (unlocked : p.disconnecting = none) (missing : server ∉ p.connections) :
      Does p (.checkConnected i) (p.setPhase i server .settingUp) []
  | setUp {i : Nat} {server : EndpointId} (call : p.calls[i]? = some ⟨server, .settingUp⟩) :
      Does p (.setUp i true)
        ((p.setPhase i server (.established (p.fresh server))).establish server) []
  | setUpFailed {i : Nat} {server : EndpointId}
      (call : p.calls[i]? = some ⟨server, .settingUp⟩) :
      Does p (.setUp i false) (p.setPhase i server (.returned false)) []
  | store {i : Nat} {server : EndpointId} {conn : ConnectionRef}
      (call : p.calls[i]? = some ⟨server, .established conn⟩)
      (unlocked : p.disconnecting = none) :
      Does p (.storeConnection i) { p.setPhase i server .stored with
        connections := p.connections.insert server conn } []
  | addTarget {i : Nat} {server : EndpointId} (call : p.calls[i]? = some ⟨server, .stored⟩) :
      Does p (.addTarget i) { p.setPhase i server (.returned true) with
        targetServers := insert server p.targetServers } []
  | notConnected {server : EndpointId} (unlocked : p.disconnecting = none)
      (missing : server ∉ p.connections) :
      Does p (.disconnect server) p [.disconnected server false]
  | disconnect {server : EndpointId} {conn : ConnectionRef} (unlocked : p.disconnecting = none)
      (found : p.connections.lookup server = some conn) :
      Does p (.disconnect server) { p with
        connections := p.connections.erase server
        disconnecting := some (.closing server conn) } []
  | close {server : EndpointId} {conn : ConnectionRef}
      (begun : p.disconnecting = some (.closing server conn)) :
      Does p .closeConnection { p with
        live := p.live.filter (· ≠ conn)
        disconnecting := some (.closed server) } []
  | removeTarget {server : EndpointId} (begun : p.disconnecting = some (.closed server)) :
      Does p .removeTarget { p with
        targetServers := p.targetServers.erase server
        disconnecting := none } [.disconnected server true]
  | snapshot {order : List EndpointId} (quiet : p.monitor = .idle)
      (all : order.toFinset = p.targetServers) :
      Does p (.snapshot order) { p with monitor := .round order, targets := order } []
  | next {server : EndpointId} {rest : List EndpointId}
      {attempts : AList fun _ : EndpointId => Nat}
      (begun : p.monitor = .round (server :: rest)) (unlocked : p.disconnecting = none) :
      Does p .look { p with monitor := .round rest, reconnectAttempts := attempts } []
  | missing {server : EndpointId} {rest : List EndpointId}
      {attempts : AList fun _ : EndpointId => Nat}
      (begun : p.monitor = .round (server :: rest)) (unlocked : p.disconnecting = none)
      (missing : server ∉ p.connections) :
      Does p .look { p with monitor := .backoff server rest, reconnectAttempts := attempts } []
  | attempt {server : EndpointId} {rest : List EndpointId}
      (begun : p.monitor = .backoff server rest) :
      Does p .sleepEnded { p with monitor := .settingUp server rest } [.attempt server]
  | monitorSetUp {server : EndpointId} {rest : List EndpointId}
      (begun : p.monitor = .settingUp server rest) :
      Does p (.monitorSetUp true)
        { p.establish server with monitor := .reconciling (p.fresh server) rest } []
  | monitorFailed {server : EndpointId} {rest : List EndpointId}
      (begun : p.monitor = .settingUp server rest) :
      Does p (.monitorSetUp false) { p with monitor := .round rest } []
  | monitorStore {conn : ConnectionRef} {rest : List EndpointId}
      {attempts : AList fun _ : EndpointId => Nat}
      (begun : p.monitor = .reconciling conn rest) (unlocked : p.disconnecting = none) :
      Does p .monitorStore { p with
        connections := p.connections.insert conn.server conn
        monitor := .round rest
        reconnectAttempts := attempts } [.monitorStored conn.server]
  | endRound {attempts : AList fun _ : EndpointId => Nat} (begun : p.monitor = .round []) :
      Does p .endRound { p with monitor := .idle, reconnectAttempts := attempts } []

theorem check_connected_does {i : Nat} (h : p.step (.checkConnected i) = some (q, out)) :
    p.Does (.checkConnected i) q out := by
  simp only [step] at h
  split at h <;> cases h
  rename_i call unlocked
  rw [checkConnected]
  split
  case isTrue found => exact .present call unlocked found
  case isFalse missing => exact .absent call unlocked missing

theorem set_up_does {i : Nat} {ok : Bool} (h : p.step (.setUp i ok) = some (q, out)) :
    p.Does (.setUp i ok) q out := by
  simp only [step] at h
  split at h <;> cases h
  rename_i call
  cases ok with
  | true => exact .setUp call
  | false => exact .setUpFailed call

theorem disconnect_does {server : EndpointId} (h : p.step (.disconnect server) = some (q, out)) :
    p.Does (.disconnect server) q out := by
  simp only [step] at h
  split at h <;> cases h
  · rename_i unlocked missing
    exact .notConnected unlocked (AList.lookup_eq_none.mp missing)
  · rename_i unlocked found
    exact .disconnect unlocked found

theorem snapshot_does {order : List EndpointId} (h : p.step (.snapshot order) = some (q, out)) :
    p.Does (.snapshot order) q out := by
  simp only [step] at h
  split at h
  case h_1 quiet =>
    split at h <;> cases h
    rename_i all
    exact .snapshot quiet all.2
  case h_2 => cases h

theorem look_does (h : p.step .look = some (q, out)) : p.Does .look q out := by
  simp only [step] at h
  split at h <;> cases h
  rename_i begun unlocked
  simp only [lookAt]
  split
  case isTrue => exact .next begun unlocked
  case isFalse missing =>
    split
    · exact .next begun unlocked
    · exact .missing begun unlocked missing

theorem monitor_set_up_does {ok : Bool} (h : p.step (.monitorSetUp ok) = some (q, out)) :
    p.Does (.monitorSetUp ok) q out := by
  simp only [step] at h
  split at h <;> cases h
  rename_i begun
  cases ok with
  | true => exact .monitorSetUp begun
  | false => exact .monitorFailed begun

theorem step_does (h : p.step a = some (q, out)) : p.Does a q out := by
  cases a with
  | addAllowedServer server =>
      cases h
      exact .allow server
  | removeAllowedServer server =>
      cases h
      exact .disallow server
  | connect server =>
      cases h
      refine .connect server _ ?_
      split
      · exact .inl rfl
      · exact .inr rfl
  | checkConnected i => exact check_connected_does h
  | setUp i ok => exact set_up_does h
  | storeConnection i =>
      simp only [step] at h
      split at h <;> cases h
      rename_i call unlocked
      exact .store call unlocked
  | addTarget i =>
      simp only [step] at h
      split at h <;> cases h
      rename_i call
      exact .addTarget call
  | disconnect server => exact disconnect_does h
  | closeConnection =>
      simp only [step] at h
      split at h <;> cases h
      rename_i begun
      exact .close begun
  | removeTarget =>
      simp only [step] at h
      split at h <;> cases h
      rename_i begun
      exact .removeTarget begun
  | snapshot order => exact snapshot_does h
  | look => exact look_does h
  | sleepEnded =>
      simp only [step] at h
      split at h <;> cases h
      rename_i begun
      exact .attempt begun
  | monitorSetUp ok => exact monitor_set_up_does h
  | monitorStore =>
      simp only [step] at h
      split at h <;> cases h
      rename_i begun unlocked
      exact .monitorStore begun unlocked
  | endRound =>
      simp only [step] at h
      split at h <;> cases h
      rename_i begun
      exact .endRound begun

theorem get_new_call {calls : List ConnectCall} {j : Nat} {c d : ConnectCall}
    (h : (calls ++ [c])[j]? = some d) : d = c ∨ calls[j]? = some d := by
  rw [List.getElem?_append] at h
  split at h
  · exact .inr h
  · exact .inl (List.mem_singleton.mp (List.mem_of_getElem? h))

end ConnectionPool
end P2pUsb
