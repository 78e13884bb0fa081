import P2pUsb.Network.Steps

/-! The client's side of a transfer: the retry loop of the device proxy, and the
exchange between it and the server, with everything that the network may lose.
Each attempt has a stream of its own. -/
namespace P2pUsb

def isRetryableError : UsbError → Bool
  | .timeout | .busy | .io => true
  | _ => false

/-- `submit_transfer` of the connection, from the response on. -/
def transferReply : MessagePayload → Except String UsbResponse
  | .transferComplete response => .ok response
  | .error message => .error ("Server error: " ++ message)
  | _ => .error "Unexpected response to SubmitTransfer"

namespace DeviceProxy

def maxRetries : Nat := 3

/-- Where `submit_transfer` of the proxy stands. -/
inductive Phase where
  | ready
  | calling
  | sleeping
  | done (result : Except String UsbResponse)

/-- The rest of the loop body when the call has returned. -/
def afterAttempt (attempts : Nat) : Except String UsbResponse → Phase
  | .ok response =>
      match response.result with
      | .error error =>
          if isRetryableError error ∧ attempts < maxRetries then .sleeping
          else .done (.ok response)
      | _ => .done (.ok response)
  | .error _ =>
      if attempts < maxRetries then .sleeping else .done (.error "Transfer failed after retries")

/-- The outcomes that the proxy may try again. -/
def retryable : Except String UsbResponse → Bool
  | .ok ⟨_, .error error⟩ => isRetryableError error
  | .ok _ => false
  | .error _ => true

end DeviceProxy

/-- One attempt's stream: its request is on the way, is lost, is handled by a
connection of the server, or has its response. -/
inductive StreamPhase where
  | sent
  | lost
  | handling (conn : ConnId)
  | answered (payload : MessagePayload)

namespace StreamPhase

def isSent : StreamPhase → Bool
  | sent => true
  | _ => false

/-- The response of a connection goes to the stream that it handles. -/
def settle (phase : StreamPhase) : Effect → StreamPhase
  | .connection i (.responded payload) =>
      match phase with
      | handling j => if i = j then answered payload else phase
      | _ => phase
  | _ => phase

end StreamPhase

structure Exchange where
  attempts : Nat
  proxy : DeviceProxy.Phase
  streams : List StreamPhase
  server : Server

/-- The first three are the proxy's own, `fail` is any error of `send_message`. -/
inductive ExchangeStep where
  | call
  | reply
  | retry
  | fail (text : String)
  | lose (stream : Nat)
  | deliver (stream : Nat) (conn : ConnId)
  | server (action : Action)

inductive ExchangeEvent where
  | called
  | returned (outcome : Except String UsbResponse)
  | executed (conn : ConnId) (request : UsbRequest)

namespace Exchange

def start (filters : List String) (config : SharingConfig) (devices : List RusbDevice)
    (clock : ClockReading) : Exchange :=
  ⟨0, .ready, [], .new filters config devices clock⟩

/-- The transfers that the worker hands to a device in this step. -/
def executions (s : Server) : Action → List ExchangeEvent
  | .command _ =>
      match s.commands with
      | ⟨conn, token, .submitTransfer handle request⟩ :: _ =>
          (Server.executions s.manager ⟨conn, token, .submitTransfer handle request⟩).map
            fun _ => .executed conn request
      | _ => []
  | _ => []

def serverStep (engine : PolicyEngine) (x : Exchange) (action : Action) :
    Option (Exchange × List ExchangeEvent) :=
  (x.server.step engine action).map fun (next, out) =>
    ({ x with
        server := next
        streams := out.foldl (fun streams e => streams.map fun p => p.settle e) x.streams },
      executions x.server action)

/-- The request of the exchange, read by a connection of the client. -/
def submits (own : ConnId → Bool) (request : UsbRequest) : Action → Bool
  | .connection i (.message (.submitTransfer other)) => own i && other == request
  | _ => false

/-- The proxy submits `request` over the connections of its client, `own`. Every
other step of the server is free, but nobody else sends the request there. -/
def step (engine : PolicyEngine) (own : ConnId → Bool) (request : UsbRequest) (x : Exchange) :
    ExchangeStep → Option (Exchange × List ExchangeEvent)
  | .call =>
      match x.proxy with
      | .ready =>
          some ({ x with
            attempts := x.attempts + 1
            proxy := .calling
            streams := x.streams ++ [.sent] }, [.called])
      | _ => none
  | .reply =>
      match x.proxy, x.streams.getLast? with
      | .calling, some (.answered payload) =>
          let outcome := transferReply payload
          some ({ x with proxy := DeviceProxy.afterAttempt x.attempts outcome },
            [.returned outcome])
      | _, _ => none
  | .fail text =>
      match x.proxy with
      | .calling =>
          some ({ x with proxy := DeviceProxy.afterAttempt x.attempts (.error text) },
            [.returned (.error text)])
      | _ => none
  | .retry =>
      match x.proxy with
      | .sleeping => some ({ x with proxy := .ready }, [])
      | _ => none
  | .lose stream =>
      match x.streams[stream]? with
      | some .sent => some ({ x with streams := x.streams.set stream .lost }, [])
      | _ => none
  | .deliver stream conn =>
      match x.streams[stream]?, own conn with
      | some .sent, true =>
          serverStep engine { x with streams := x.streams.set stream (.handling conn) }
            (.connection conn (.message (.submitTransfer request)))
      | _, _ => none
  | .server action => if submits own request action then none else x.serverStep engine action

end Exchange

def exchange (engine : PolicyEngine) (own : ConnId → Bool) (request : UsbRequest) :
    Machine Exchange ExchangeStep ExchangeEvent where
  step := Exchange.step engine own request

end P2pUsb
