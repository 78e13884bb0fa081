import P2pUsb.Network.Steps
import P2pUsb.Policy.Decision
import P2pUsb.Usb.SharingSettings

/-! How the server's configuration says that a device is shared, and how the server
shares it. The filters are all that the USB worker is started with, and its device
manager takes the default sharing configuration; the policies reach the policy engine,
which does not read their sharing settings. -/
namespace P2pUsb
namespace Config

/-- A device policy with the settings that the policy engine does not read. -/
structure DevicePolicy extends P2pUsb.DevicePolicy where
  sharingMode : SharingMode
  lockTimeoutSecs : Nat
  maxConcurrentClients : Nat

namespace DevicePolicy

def defaultLockTimeout : Nat := 300

def defaultMaxClients : Nat := 4

def setting (policy : DevicePolicy) : SharingSetting where
  mode := policy.sharingMode
  maxClients := policy.maxConcurrentClients
  lockTimeout := Duration.fromSecs policy.lockTimeoutSecs

end DevicePolicy

structure SharingSettings where
  defaultMode : SharingMode
  defaultLockTimeoutSecs : Nat

namespace SharingSettings

def default : SharingSettings where
  defaultMode := .exclusive
  defaultLockTimeoutSecs := 300

/-- The settings have no maximum of clients of their own, so the policies' default counts. -/
def setting (settings : SharingSettings) : SharingSetting where
  mode := settings.defaultMode
  maxClients := DevicePolicy.defaultMaxClients
  lockTimeout := Duration.fromSecs settings.defaultLockTimeoutSecs

end SharingSettings

structure UsbSettings where
  filters : List String

structure ServerConfig where
  usb : UsbSettings
  devicePolicies : List DevicePolicy
  sharing : SharingSettings
  timezoneOffsetHours : Int

namespace ServerConfig

def default : ServerConfig where
  usb := { filters := [] }
  devicePolicies := []
  sharing := .default
  timezoneOffsetHours := 0

/-- The policy engine of `IrohServer::new`. -/
def engine (config : ServerConfig) : PolicyEngine where
  policies := config.devicePolicies.map DevicePolicy.toDevicePolicy
  timezoneOffsetHours := config.timezoneOffsetHours

/-- `spawn_usb_worker` gets the filters; `UsbWorkerThread::new` calls `DeviceManager::new`. -/
def start (config : ServerConfig) (devices : List RusbDevice) (clock : ClockReading) : Server :=
  .new config.usb.filters .default devices clock

/-- The most specific policy for a device, and of two such the first. -/
def policyFor (config : ServerConfig) (info : DeviceInfo) : Option DevicePolicy :=
  FilterLevel.all.findSome? fun level =>
    config.devicePolicies.find? fun p => level.matches info p.deviceFilter.toList

def documentedSharing (config : ServerConfig) (info : DeviceInfo) : SharingSetting :=
  match config.policyFor info with
  | some policy => policy.setting
  | none => config.sharing.setting

/-- Every registered device is tracked under the setting that the configuration gives it. -/
def SharesAsConfigured (config : ServerConfig) (m : DeviceManager) : Prop :=
  ∀ key d info, m.devices.lookup key = some d → d.Describes info →
    (m.accessTracker.getState d.id).map DeviceSharingState.setting =
      some (config.documentedSharing info)

end ServerConfig
end Config

theorem DeviceManager.SharedUnder.next {m m' : DeviceManager} {config : SharingConfig}
    (hm : m.SharedUnder config) (step : WorkerStep m m') : m'.SharedUnder config := by
  cases step with
  | idle => exact hm
  | command env cmd => exact hm.handle_command env cmd
  | debounce pending => exact ⟨hm.configured, hm.shares⟩
  | fire env event => exact hm.ready_event env event

namespace Server
variable {engine : PolicyEngine} {s t : Server} {out : List Effect}

theorem run_shared {filters : List String} {config : SharingConfig} {devices : List RusbDevice}
    {clock : ClockReading} {tr : List Effect}
    (run : (server engine).Reach (new filters config devices clock) tr s) :
    s.manager.RegistryInv ∧ s.manager.SharedUnder config := by
  obtain ⟨registry, -⟩ := UsbWorkerThread.enumerate_devices_new devices
    (DeviceManager.RegistryInv.new filters config) fun _ _ wrong => (nomatch wrong)
  refine run.stateInvariant (I := fun s => s.manager.RegistryInv ∧ s.manager.SharedUnder config)
    ⟨registry, (DeviceManager.SharedUnder.new filters config).enumerate_devices devices⟩ ?_
  intro s a t out hs _ step
  exact ⟨hs.1.update (step_cases step).update, hs.2.next (step_manager step)⟩

end Server

/-- A registered device is tracked under the setting of the manager's own configuration. -/
theorem DeviceManager.SharedUnder.registered {m : DeviceManager} {config : SharingConfig}
    (hm : m.RegistryInv) (shared : m.SharedUnder config) {key : BusAddress} {d : UsbDevice}
    (found : m.devices.lookup key = some d) :
    (m.accessTracker.getState d.id).map DeviceSharingState.setting = some config.setting := by
  have known := AList.mem_of_lookup (hm.device_key key d found)
  obtain ⟨s, tracked⟩ := (hm.registered d.id).mp known
  rw [tracked, Option.map_some, shared.shares d.id s tracked]

namespace Config.ServerConfig

/-- In any reachable state the devices are shared as configured if and only if the setting
configured for each of them is the one that the server always uses. -/
theorem configured_sharing_followed (config : ServerConfig) {devices : List RusbDevice}
    {clock : ClockReading} {tr : List Effect} {s : Server}
    (run : (server config.engine).Reach (config.start devices clock) tr s) :
    config.SharesAsConfigured s.manager ↔
      ∀ key d info, s.manager.devices.lookup key = some d → d.Describes info →
        config.documentedSharing info = SharingConfig.default.setting := by
  obtain ⟨registry, shared⟩ := Server.run_shared run
  refine forall_congr' fun key => forall_congr' fun d => forall_congr' fun info => ?_
  refine forall_congr' fun found => forall_congr' fun _ => ?_
  rw [shared.registered registry found, Option.some.injEq]
  exact eq_comm

/-- Two clients may use the devices of one vendor at a time. -/
def exampleConfig : ServerConfig :=
  { ServerConfig.default with
    devicePolicies := [{
      deviceFilter := "1234:*"
      allowedClients := ["*"]
      timeWindows := none
      maxSessionDuration := none
      restrictedDeviceClasses := none
      sharingMode := .shared
      lockTimeoutSecs := DevicePolicy.defaultLockTimeout
      maxConcurrentClients := 2 }] }

/-- A policy that asks for what the server does anyhow. -/
def exclusiveConfig : ServerConfig :=
  { exampleConfig with
    devicePolicies := exampleConfig.devicePolicies.map fun policy =>
      { policy with
        sharingMode := .exclusive
        maxConcurrentClients := DevicePolicy.defaultMaxClients } }

/-- A device with a policy is plugged in later. -/
theorem configured_sharing_followed_hotplug : ∃ tr s d,
    (server exclusiveConfig.engine).Reach (exclusiveConfig.start [] ⟨0, 0⟩) tr s ∧
      s.manager.devices.lookup (1, 1) = some d ∧
      exclusiveConfig.policyFor (d.describe ⟨none, none, none⟩) =
        exclusiveConfig.devicePolicies.head? ∧
      (exclusiveConfig.SharesAsConfigured s.manager ↔
        ∀ key d info, s.manager.devices.lookup key = some d → d.Describes info →
          exclusiveConfig.documentedSharing info = SharingConfig.default.setting) := by
  have run : (server exclusiveConfig.engine).Reach (exclusiveConfig.start [] ⟨0, 0⟩) _ _ :=
    .next (.next (.next (.next (.next .start
      (a := .command (DeviceManager.exampleEnv 0 [])) trivial rfl)
      (a := .hotplug 1 1 .arrived) trivial rfl)
      (a := .tick ⟨HOTPLUG_DEBOUNCE_DURATION, 500⟩) trivial rfl)
      (a := .collect [⟨.arrived, HOTPLUG_DEBOUNCE_DURATION, 1, 1⟩]) trivial rfl)
      (a := .fire (DeviceManager.exampleEnv 0 [DeviceManager.exampleDevice 0 1 1])) trivial rfl
  exact ⟨_, _, _, run, rfl, by rfl, configured_sharing_followed _ run⟩

/-- The policy asks for a shared device, and the server keeps it exclusive. -/
theorem configured_sharing_ignored : ¬ ∀ devices clock tr s,
    (server exampleConfig.engine).Reach (exampleConfig.start devices clock) tr s →
      exampleConfig.SharesAsConfigured s.manager := by
  intro follows
  obtain ⟨d, found⟩ : ∃ d, (exampleConfig.start [DeviceManager.exampleDevice 0 1 1]
      ⟨0, 0⟩).manager.devices.lookup (1, 1) = some d := ⟨_, rfl⟩
  have shared := follows _ _ _ _ .start (1, 1) d (d.describe ⟨none, none, none⟩) found ⟨_, rfl⟩
  obtain rfl := Option.some.inj found
  exact absurd shared (by decide +kernel)

end Config.ServerConfig
end P2pUsb
