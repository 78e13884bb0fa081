import Mathlib.Data.Finset.Insert
import Mathlib.Data.Finset.Erase
import P2pUsb.Protocol.Types

/-! The allowlists of the server and of the client. On both sides an empty set
means that everyone is allowed, so entries that fail to parse and the removal of
the last entry open the list. Parsing of an identifier is a parameter. -/
namespace P2pUsb
variable {parse : String → Option EndpointId} {entries : List String} {e : EndpointId}

/-- Entries that are empty or do not parse are skipped, with a warning in the log. -/
def parseEndpointIds (parse : String → Option EndpointId) (texts : List String) :
    Finset EndpointId :=
  texts.foldl (fun allowlist text =>
    if text.isEmpty then allowlist
    else match parse text with
      | some endpointId => insert endpointId allowlist
      | none => allowlist) ∅

structure IrohServer where
  allowedClients : Finset EndpointId
  requireApproval : Bool

namespace IrohServer

def parseAllowlist (parse : String → Option EndpointId) (approvedClients : List String) :
    Finset EndpointId :=
  parseEndpointIds parse approvedClients

def new (parse : String → Option EndpointId) (approvedClients : List String)
    (requireApproval : Bool) : IrohServer where
  allowedClients := parseAllowlist parse approvedClients
  requireApproval := requireApproval

/-- The check at the start of `handle_connection`; a refused client sees nothing. -/
def admits (s : IrohServer) (remote : EndpointId) : Bool :=
  if s.requireApproval then !(s.allowedClients != ∅ && !decide (remote ∈ s.allowedClients))
  else true

def addClient (s : IrohServer) (endpointId : EndpointId) : Except String Unit × IrohServer :=
  (.ok (), { s with allowedClients := insert endpointId s.allowedClients })

def removeClient (s : IrohServer) (endpointId : EndpointId) : Except String Unit × IrohServer :=
  if endpointId ∈ s.allowedClients then
    (.ok (), { s with allowedClients := s.allowedClients.erase endpointId })
  else (.error ("Client not in allowlist: " ++ endpointId.text), s)

end IrohServer

structure IrohClient where
  allowedServers : Finset EndpointId

namespace IrohClient

def createIrohClient (parse : String → Option EndpointId) (nodeIds : List String) : IrohClient where
  allowedServers := parseEndpointIds parse nodeIds

def addAllowedServer (c : IrohClient) (serverId : EndpointId) : IrohClient where
  allowedServers := insert serverId c.allowedServers

def removeAllowedServer (c : IrohClient) (serverId : EndpointId) : IrohClient where
  allowedServers := c.allowedServers.erase serverId

def isServerAllowed (c : IrohClient) (serverId : EndpointId) : Bool :=
  c.allowedServers == ∅ || decide (serverId ∈ c.allowedServers)

end IrohClient

inductive AllowlistCall where
  | addClient (endpointId : EndpointId)
  | removeClient (endpointId : EndpointId)

namespace AllowlistCall

def endpointId : AllowlistCall → EndpointId
  | addClient id => id
  | removeClient id => id

def perform (s : IrohServer) : AllowlistCall → IrohServer
  | addClient id => (s.addClient id).2
  | removeClient id => (s.removeClient id).2

/-- What the call says about its endpoint. -/
def Adds : AllowlistCall → Prop
  | addClient _ => True
  | removeClient _ => False

end AllowlistCall

/-- The last call about the endpoint added it; without any, an entry of the
configuration parses to it. -/
def Approved (parse : String → Option EndpointId) (entries : List String)
    (calls : List AllowlistCall) (e : EndpointId) : Prop :=
  match calls.reverse.find? fun call => decide (call.endpointId = e) with
  | some call => call.Adds
  | none => ∃ text ∈ entries, text.isEmpty = false ∧ parse text = some e

theorem mem_parse_endpoint_ids :
    e ∈ parseEndpointIds parse entries ↔
      ∃ text ∈ entries, text.isEmpty = false ∧ parse text = some e := by
  induction entries using List.reverseRecOn with
  | nil => exact iff_of_false (Finset.notMem_empty e) fun ⟨_, wrong, _⟩ => nomatch wrong
  | append_singleton entries text ih =>
      rw [parseEndpointIds, List.foldl_append, ← parseEndpointIds, List.foldl_cons, List.foldl_nil]
      simp only [List.mem_append, List.mem_singleton, or_and_right, exists_or, exists_eq_left,
        ← ih]
      split
      case isTrue skipped => simp only [skipped, reduceCtorEq, false_and, or_false]
      case isFalse given =>
        rw [Bool.not_eq_true] at given
        cases parse text with
        | none => simp only [reduceCtorEq, and_false, or_false]
        | some id =>
            simp only [Finset.mem_insert, given, true_and, Option.some.injEq, or_comm,
              eq_comm (a := e)]

theorem approved_snoc (calls : List AllowlistCall) (call : AllowlistCall) :
    Approved parse entries (calls ++ [call]) e ↔
      if call.endpointId = e then call.Adds else Approved parse entries calls e := by
  rw [Approved, List.reverse_append, List.reverse_singleton, List.singleton_append,
    List.find?_cons]
  by_cases own : call.endpointId = e
  · simp only [own, decide_true, if_true]
  · simp only [own, decide_false, if_false, Approved]

theorem AllowlistCall.mem_perform (s : IrohServer) (call : AllowlistCall) :
    e ∈ (call.perform s).allowedClients ↔
      if call.endpointId = e then call.Adds else e ∈ s.allowedClients := by
  cases call with
  | addClient id =>
      simp only [perform, IrohServer.addClient, Finset.mem_insert, endpointId, Adds]
      by_cases own : id = e
      · simp only [own, true_or, if_true]
      · simp only [own, if_false, or_iff_right (Ne.symm own)]
  | removeClient id =>
      have removed : (AllowlistCall.perform s (removeClient id)).allowedClients =
          s.allowedClients.erase id := by
        simp only [perform, IrohServer.removeClient]
        split
        case isTrue => rfl
        case isFalse absent => exact (Finset.erase_eq_of_notMem absent).symm
      rw [removed, Finset.mem_erase, endpointId]
      by_cases own : id = e
      · simp only [own, ne_eq, not_true, false_and, if_true, Adds]
      · simp only [own, if_false, and_iff_right (Ne.symm own)]

namespace IrohServer

/-- The calls decide about the endpoints they name, the configuration about the others. -/
theorem mem_allowed_clients (parse : String → Option EndpointId) (entries : List String)
    (requireApproval : Bool) (calls : List AllowlistCall) (e : EndpointId) :
    e ∈ (calls.foldl AllowlistCall.perform (new parse entries requireApproval)).allowedClients ↔
      Approved parse entries calls e := by
  induction calls using List.reverseRecOn with
  | nil => exact mem_parse_endpoint_ids
  | append_singleton calls call ih =>
      rw [List.foldl_append, List.foldl_cons, List.foldl_nil, AllowlistCall.mem_perform,
        approved_snoc, ih]

theorem require_approval_kept (s : IrohServer) (calls : List AllowlistCall) :
    (calls.foldl AllowlistCall.perform s).requireApproval = s.requireApproval := by
  induction calls generalizing s with
  | nil => rfl
  | cons call calls ih =>
      rw [List.foldl_cons, ih]
      cases call with
      | addClient id => rfl
      | removeClient id =>
          simp only [AllowlistCall.perform, removeClient]
          split <;> rfl

theorem admits_iff {s : IrohServer} (required : s.requireApproval = true) :
    s.admits e = true ↔ s.allowedClients = ∅ ∨ e ∈ s.allowedClients := by
  simp only [admits, required, if_true, Bool.not_and, Bool.not_not, Bool.or_eq_true,
    decide_eq_true_eq, bne, beq_iff_eq]

end IrohServer

theorem IrohClient.is_server_allowed_iff {c : IrohClient} :
    c.isServerAllowed e = true ↔ c.allowedServers = ∅ ∨ e ∈ c.allowedServers := by
  rw [isServerAllowed, Bool.or_eq_true, beq_iff_eq, decide_eq_true_eq]

/-- While anyone is approved, only the approved are admitted; and removal opens
the client's list for a server only by taking the last entry. -/
theorem allowlists_closed_unless_empty (parse : String → Option EndpointId)
    (entries : List String) (calls : List AllowlistCall) (e : EndpointId) (c : IrohClient)
    (removed server : EndpointId) :
    ((calls.foldl AllowlistCall.perform (.new parse entries true)).admits e = true ↔
      (∀ any, ¬ Approved parse entries calls any) ∨ Approved parse entries calls e) ∧
    (c.isServerAllowed server = false ∧
        (c.removeAllowedServer removed).isServerAllowed server = true ↔
      c.allowedServers = {removed} ∧ server ≠ removed) := by
  constructor
  · rw [IrohServer.admits_iff (IrohServer.require_approval_kept _ calls),
      Finset.eq_empty_iff_forall_notMem]
    simp only [IrohServer.mem_allowed_clients]
  · rw [← Bool.not_eq_true, IrohClient.is_server_allowed_iff, IrohClient.is_server_allowed_iff,
      IrohClient.removeAllowedServer, Finset.mem_erase]
    constructor
    · rintro ⟨refused, emptied | ⟨-, listed⟩⟩
      · have only : c.allowedServers = {removed} :=
          ((Finset.erase_eq_empty_iff _ _).mp emptied).resolve_left fun none => refused (.inl none)
        refine ⟨only, ?_⟩
        rintro rfl
        exact refused (.inr (only ▸ Finset.mem_singleton_self server))
      · exact absurd (.inr listed) refused
    · rintro ⟨only, other⟩
      rw [only]
      refine ⟨?_, .inl (Finset.erase_singleton removed)⟩
      rintro (wrong | same)
      · exact Finset.singleton_ne_empty removed wrong
      · exact other (Finset.mem_singleton.mp same)

/-- The lists are closed exactly as long as someone is on them. -/
theorem allowlists_closed_iff (parse : String → Option EndpointId) (entries : List String)
    (calls : List AllowlistCall) (c : IrohClient) (removed : EndpointId) :
    (∀ e, ((calls.foldl AllowlistCall.perform (.new parse entries true)).admits e = true →
        Approved parse entries calls e) ↔ ∃ any, Approved parse entries calls any) ∧
    (∀ server, (c.isServerAllowed server = false →
        (c.removeAllowedServer removed).isServerAllowed server = false) ↔
      ¬ (c.allowedServers = {removed} ∧ server ≠ removed)) := by
  constructor
  · intro e
    rw [(allowlists_closed_unless_empty parse entries calls e c removed e).1]
    constructor
    · intro closed
      by_contra none
      push Not at none
      exact none e (closed (.inl none))
    · rintro ⟨any, approved⟩ (none | listed)
      · exact absurd approved (none any)
      · exact listed
  · intro server
    rw [← (allowlists_closed_unless_empty parse entries calls server c removed server).2,
      not_and, Bool.not_eq_true]

/-- An endpoint is named by 64 hexadecimal digits. -/
def parseHexId (text : String) : Option EndpointId :=
  if text.length = 64 ∧ text.toList.all fun c => c.isDigit || 'a' ≤ c && c ≤ 'f' then some ⟨text⟩
  else none

/-- The only entry does not parse, and the only server is removed. -/
theorem empty_allowlists_admit_all :
    (IrohServer.new parseHexId ["my-laptop"] true).admits ⟨"stranger"⟩ = true ∧
      ¬ Approved parseHexId ["my-laptop"] [] ⟨"stranger"⟩ ∧
      (IrohClient.mk {⟨"home"⟩}).isServerAllowed ⟨"stranger"⟩ = false ∧
      ((IrohClient.mk {⟨"home"⟩}).removeAllowedServer ⟨"home"⟩).isServerAllowed
        ⟨"stranger"⟩ = true := by
  refine ⟨by decide, ?_, by decide, by decide⟩
  rintro ⟨text, listed, -, parsed⟩
  obtain rfl := List.mem_singleton.mp listed
  cases parsed

end P2pUsb
