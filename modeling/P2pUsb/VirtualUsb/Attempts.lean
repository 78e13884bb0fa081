import P2pUsb.Network.Executions
import P2pUsb.VirtualUsb.Completion
import P2pUsb.VirtualUsb.Translation

/-! From a CMD_SUBMIT to the device: its task, the attempts of the device proxy,
and the executions on the server. -/
namespace P2pUsb
open ExchangeEvent

/-- A request is handed to the proxy at most once, executed at most once for
each attempt of the proxy, and attempted at most three times, each time after
the first because the attempt before has failed in a retryable way. -/
theorem executed_once_per_attempt {devid : UInt32} {seen : List BridgeEvent} {s : SocketBridge}
    {engine : PolicyEngine} {own : ConnId → Bool} {request : UsbRequest} {filters : List String}
    {config : SharingConfig} {devices : List RusbDevice} {clock : ClockReading}
    {tr : List ExchangeEvent} {x : Exchange}
    (bridge : SocketBridge.machine.Reach (.new devid) seen s)
    (run : (exchange engine own request).Reach (.start filters config devices clock) tr x)
    (i : Nat) :
    seen.countP (BridgeEvent.passes i) ≤ 1 ∧
      tr.countP (executes own request) ≤ tr.countP isCall ∧
      tr.countP isCall ≤ DeviceProxy.maxRetries ∧
      tr.countP isCall ≤ 1 + tr.countP isRetryable := by
  obtain ⟨calls, copied, limited, excused⟩ := Exchange.counted run
  have once := Bool.toNat_le x.proxy.attempted
  refine ⟨SocketBridge.passed_once bridge i, ?_, ?_, ?_⟩ <;> omega

namespace Exchange

def exampleOut : UsbRequest := ⟨⟨1⟩, ⟨1⟩, usbipToTransfer exampleHeader exampleCmd [7, 8, 9]⟩

def exampleStart : Exchange :=
  .start [] (UsbWorkerThread.exampleConfig .exclusive) [DeviceManager.exampleDevice 0 1 1] ⟨0, 0⟩

/-- Connection 0 reads the request of a stream and the worker executes it. -/
def exampleExecution (stream : Nat) : List ExchangeStep :=
  [.server (.connection 0 .accept), .deliver stream 0, .server (.connection 0 .release),
    .server (.connection 0 .enqueue)] ++ Server.serve.map .server

/-- The response to the first attempt is lost. -/
def exampleLostReply : List ExchangeStep :=
  (Server.attachRun 0 "a").map .server ++ [.call] ++ exampleExecution 0 ++
    [.fail "connection lost", .retry, .call, .server (.connection 0 .resume)] ++ exampleExecution 1

end Exchange

theorem executed_once_per_attempt_example : ∃ seen s tr x,
    SocketBridge.machine.Reach (.new 1) seen s ∧
      (exchange ⟨[], 0⟩ (· == 0) Exchange.exampleOut).Reach Exchange.exampleStart tr x ∧
      tr.countP (executes (· == 0) Exchange.exampleOut) ≤ tr.countP isCall := by
  have bridge := Machine.Reach.of_run (rfl : SocketBridge.machine.run (.new 1)
    SocketBridge.exampleAnswered = some (_, _))
  have run := Machine.Reach.of_run (rfl : (exchange ⟨[], 0⟩ (· == 0) Exchange.exampleOut).run
    Exchange.exampleStart Exchange.exampleLostReply = some (_, _))
  exact ⟨_, _, _, _, bridge, run, (executed_once_per_attempt bridge run 0).2.1⟩

/-- The write has succeeded, its response is lost, and it is executed again. -/
theorem lost_reply_executed_twice : ∃ tr x,
    (exchange ⟨[], 0⟩ (· == 0) Exchange.exampleOut).Reach Exchange.exampleStart tr x ∧
      Exchange.exampleOut.transfer.isIn = false ∧
      tr.countP (executes (· == 0) Exchange.exampleOut) = 2 := by
  have run := Machine.Reach.of_run (rfl : (exchange ⟨[], 0⟩ (· == 0) Exchange.exampleOut).run
    Exchange.exampleStart Exchange.exampleLostReply = some (_, _))
  exact ⟨_, _, run, rfl, rfl⟩

end P2pUsb
