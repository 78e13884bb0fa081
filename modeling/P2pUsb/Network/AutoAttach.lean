import P2pUsb.Network.AutoReattach
import P2pUsb.Policy.Engine

/-! Which devices a client attaches by itself. The effective mode of a server decides at
startup only; on `--connect` and when a device arrives it is the mode of the entry, and with
patterns no mode at all. -/
namespace P2pUsb

inductive AutoConnectMode where
  | manual
  | auto
  | autoWithDevices
  deriving DecidableEq, Repr

structure ServerConfig where
  nodeId : String
  autoConnect : AutoConnectMode
  autoAttach : List String
  deriving DecidableEq, Repr

structure ClientConfig where
  globalAutoConnect : Option AutoConnectMode
  configured : List ServerConfig

def splitOnce (separator : Char) (text : List Char) : Option (List Char × List Char) :=
  match text.span fun c => c != separator with
  | (front, _ :: back) => some (front, back)
  | (_, []) => none

/-- `toLowercase` is `str::to_lowercase`. It goes by the tables of Unicode, of which nothing
here depends. -/
def ServerConfig.matchesPattern (toLowercase : List Char → List Char) (pattern vid pid : List Char)
    (productName : Option (List Char)) : Bool :=
  let patternLower := toLowercase pattern
  match splitOnce ':' patternLower with
  | some (patternVid, patternPid) =>
      if patternPid ≠ ['*'] then vid == patternVid && pid == patternPid
      else vid == patternVid
  | none =>
      match productName with
      | some name => decide (patternLower <:+: toLowercase name)
      | none => false

section Decisions
variable (toLowercase : List Char → List Char)

def ServerConfig.shouldAutoAttach (server : ServerConfig) (vendorId productId : UInt16)
    (productName : Option String) : Bool :=
  if server.autoAttach.isEmpty then server.autoConnect == .autoWithDevices
  else
    let vidStr := hex4 vendorId
    let pidStr := hex4 productId
    server.autoAttach.any fun pattern =>
      matchesPattern toLowercase pattern.toList vidStr pidStr (productName.map String.toList)

namespace ClientConfig

def findServer (config : ClientConfig) (nodeId : String) : Option ServerConfig :=
  config.configured.find? fun s => s.nodeId == nodeId

def effectiveAutoConnect (config : ClientConfig) (server : ServerConfig) : AutoConnectMode :=
  config.globalAutoConnect.getD server.autoConnect

def autoConnectServers (config : ClientConfig) : List ServerConfig :=
  config.configured.filter fun s =>
    match config.effectiveAutoConnect s with
    | .auto | .autoWithDevices => true
    | .manual => false

/-- The startup of `main` and its `auto_attach_devices`, for a server that was connected. -/
def startupAutoAttaches (config : ClientConfig) (server : ServerConfig) (device : DeviceInfo) :
    Bool :=
  decide (server ∈ config.autoConnectServers) &&
    config.effectiveAutoConnect server == .autoWithDevices &&
    server.shouldAutoAttach toLowercase device.vendorId device.productId device.product

/-- `connect_and_run`, for a device in the list of the server. -/
def connectAutoAttaches (config : ClientConfig) (serverId : EndpointId) (device : DeviceInfo) :
    Bool :=
  let serverConfig := config.findServer serverId.text
  let effectiveMode := (serverConfig.map config.effectiveAutoConnect).getD .manual
  (serverConfig.map fun s =>
    s.shouldAutoAttach toLowercase device.vendorId device.productId device.product).getD
      (effectiveMode == .autoWithDevices)

/-- The filter that `handle_notifications` gets from `connect_and_run`. -/
def matchesFilter (config : ClientConfig) (serverId : EndpointId) (device : DeviceInfo) : Bool :=
  ((config.findServer serverId.text).map fun s =>
    s.shouldAutoAttach toLowercase device.vendorId device.productId device.product).getD false

def arrivalAutoAttaches (config : ClientConfig) (serverId : EndpointId)
    (handler : NotificationHandler) (device : DeviceInfo) : Bool :=
  handler.previouslyAttached.contains device.id || config.matchesFilter toLowercase serverId device

end ClientConfig

/-- One of the patterns of the entry is for this device. -/
def ServerConfig.Matches (server : ServerConfig) (device : DeviceInfo) : Prop :=
  ∃ pattern ∈ server.autoAttach, matchesPattern toLowercase pattern.toList (hex4 device.vendorId)
    (hex4 device.productId) (device.product.map String.toList) = true

/-- What the entry says by itself: it has no patterns and the mode `full`, or a pattern for
this device. -/
def ServerConfig.Admits (server : ServerConfig) (device : DeviceInfo) : Prop :=
  server.autoAttach = [] ∧ server.autoConnect = .autoWithDevices ∨ server.Matches toLowercase device

/-- The documented table of the modes and the patterns. -/
def Documented (mode : AutoConnectMode) (server : ServerConfig) (device : DeviceInfo) : Prop :=
  match mode with
  | .manual => False
  | .auto => server.autoAttach ≠ [] ∧ server.Matches toLowercase device
  | .autoWithDevices => server.autoAttach = [] ∨ server.Matches toLowercase device

/-- Each way to attach a device follows the table. -/
structure PathsFollowTable (config : ClientConfig) (server : ServerConfig) (serverId : EndpointId)
    (handler : NotificationHandler) (device : DeviceInfo) : Prop where
  startup : config.startupAutoAttaches toLowercase server device = true ↔
    Documented toLowercase (config.effectiveAutoConnect server) server device
  connect : config.connectAutoAttaches toLowercase serverId device = true ↔
    Documented toLowercase (config.effectiveAutoConnect server) server device
  arrival : config.arrivalAutoAttaches toLowercase serverId handler device = true ↔
    Documented toLowercase (config.effectiveAutoConnect server) server device

end Decisions

section
variable {toLowercase : List Char → List Char} {config : ClientConfig} {server : ServerConfig}
  {serverId : EndpointId} {handler : NotificationHandler} {device : DeviceInfo}

theorem ServerConfig.Matches.patterns (found : server.Matches toLowercase device) :
    server.autoAttach ≠ [] := by
  obtain ⟨pattern, listed, -⟩ := found
  exact List.ne_nil_of_mem listed

theorem ServerConfig.should_auto_attach_iff :
    server.shouldAutoAttach toLowercase device.vendorId device.productId device.product = true ↔
      server.Admits toLowercase device := by
  unfold shouldAutoAttach Admits
  split
  case isTrue empty =>
    have none := List.isEmpty_iff.mp empty
    have nothing : ¬ server.Matches toLowercase device := fun found => found.patterns none
    simp only [beq_iff_eq, none, true_and, nothing, or_false]
  case isFalse some =>
    rw [List.isEmpty_iff] at some
    simp only [some, false_and, false_or, List.any_eq_true, Matches]

namespace ClientConfig

theorem startup_iff (configured : server ∈ config.configured) :
    config.startupAutoAttaches toLowercase server device = true ↔
      config.effectiveAutoConnect server = .autoWithDevices ∧ server.Admits toLowercase device := by
  simp only [startupAutoAttaches, Bool.and_eq_true, decide_eq_true_eq, beq_iff_eq, and_assoc,
    ServerConfig.should_auto_attach_iff, autoConnectServers, List.mem_filter]
  constructor
  · exact fun all => all.2.2
  · intro both
    refine ⟨configured, ?_, both⟩
    rw [both.1]

theorem matches_filter_iff :
    config.matchesFilter toLowercase serverId device = true ↔
      ∃ entry, config.findServer serverId.text = some entry ∧ entry.Admits toLowercase device := by
  unfold matchesFilter
  cases config.findServer serverId.text with
  | none => simp
  | some entry => simpa using ServerConfig.should_auto_attach_iff

theorem connect_iff :
    config.connectAutoAttaches toLowercase serverId device = true ↔
      ∃ entry, config.findServer serverId.text = some entry ∧ entry.Admits toLowercase device := by
  unfold connectAutoAttaches
  cases config.findServer serverId.text with
  | none => simp
  | some entry => simpa using ServerConfig.should_auto_attach_iff

theorem arrival_iff :
    config.arrivalAutoAttaches toLowercase serverId handler device = true ↔
      device.id ∈ handler.previouslyAttached ∨ ∃ entry,
        config.findServer serverId.text = some entry ∧ entry.Admits toLowercase device := by
  rw [arrivalAutoAttaches, Bool.or_eq_true, List.contains_iff_mem, matches_filter_iff]

/-- At startup the table is followed up to two of its rows. -/
theorem startup_table_iff (configured : server ∈ config.configured) :
    (config.startupAutoAttaches toLowercase server device = true ↔
        Documented toLowercase (config.effectiveAutoConnect server) server device) ↔
      (server.autoAttach = [] → config.effectiveAutoConnect server = .autoWithDevices →
        server.autoConnect = .autoWithDevices) ∧
      (server.Matches toLowercase device → config.effectiveAutoConnect server ≠ .auto) := by
  rw [startup_iff configured, ServerConfig.Admits]
  have some : server.Matches toLowercase device → server.autoAttach ≠ [] :=
    ServerConfig.Matches.patterns
  cases config.effectiveAutoConnect server with
  | manual => simp [Documented]
  | auto =>
      simp only [Documented, reduceCtorEq, false_and, false_iff, not_and, false_implies,
        implies_true, ne_eq, not_true, imp_false, true_and]
      exact ⟨fun none found => none (some found) found, fun none _ => none⟩
  | autoWithDevices =>
      simp only [Documented, true_and, forall_const, ne_eq, reduceCtorEq, not_false_eq_true,
        implies_true, and_true]
      constructor
      · intro table empty
        rcases table.mpr (.inl empty) with own | found
        · exact own.2
        · exact absurd empty (some found)
      · intro mode
        exact or_congr_left' fun _ => ⟨fun own => own.1, fun empty => ⟨empty, mode empty⟩⟩

/-- An entry by itself is what the table says when its own mode is the effective one, or has
nothing to add to a match. -/
theorem admits_table_iff :
    (server.Admits toLowercase device ↔
        Documented toLowercase (config.effectiveAutoConnect server) server device) ↔
      (server.autoAttach = [] → (server.autoConnect = .autoWithDevices ↔
        config.effectiveAutoConnect server = .autoWithDevices)) ∧
      (server.Matches toLowercase device → config.effectiveAutoConnect server ≠ .manual) := by
  rw [ServerConfig.Admits]
  have some : server.Matches toLowercase device → server.autoAttach ≠ [] :=
    ServerConfig.Matches.patterns
  by_cases empty : server.autoAttach = []
  · have none : ¬ server.Matches toLowercase device := fun found => some found empty
    cases config.effectiveAutoConnect server <;> simp [Documented, empty, none]
  · cases config.effectiveAutoConnect server <;> simp [Documented, empty]

end ClientConfig

theorem paths_follow_table_iff (configured : server ∈ config.configured) :
    (PathsFollowTable toLowercase config server serverId handler device ↔
      (server.autoAttach = [] → config.effectiveAutoConnect server = .autoWithDevices →
        server.autoConnect = .autoWithDevices) ∧
      (server.Matches toLowercase device → config.effectiveAutoConnect server ≠ .auto) ∧
      ((∃ entry, config.findServer serverId.text = some entry ∧ entry.Admits toLowercase device) ↔
        Documented toLowercase (config.effectiveAutoConnect server) server device) ∧
      (device.id ∈ handler.previouslyAttached →
        Documented toLowercase (config.effectiveAutoConnect server) server device)) ∧
    (config.findServer serverId.text = some server →
      (PathsFollowTable toLowercase config server serverId handler device ↔
        (server.autoAttach = [] → (server.autoConnect = .autoWithDevices ↔
          config.effectiveAutoConnect server = .autoWithDevices)) ∧
        (server.Matches toLowercase device →
          config.effectiveAutoConnect server = .autoWithDevices) ∧
        (device.id ∈ handler.previouslyAttached →
          Documented toLowercase (config.effectiveAutoConnect server) server device))) := by
  have general : PathsFollowTable toLowercase config server serverId handler device ↔
      ((server.autoAttach = [] → config.effectiveAutoConnect server = .autoWithDevices →
        server.autoConnect = .autoWithDevices) ∧
      (server.Matches toLowercase device → config.effectiveAutoConnect server ≠ .auto)) ∧
      ((∃ entry, config.findServer serverId.text = some entry ∧ entry.Admits toLowercase device) ↔
        Documented toLowercase (config.effectiveAutoConnect server) server device) ∧
      (device.id ∈ handler.previouslyAttached →
        Documented toLowercase (config.effectiveAutoConnect server) server device) := by
    rw [← ClientConfig.startup_table_iff configured]
    constructor
    · intro paths
      refine ⟨paths.startup, ClientConfig.connect_iff.symm.trans paths.connect, fun before => ?_⟩
      exact paths.arrival.mp (ClientConfig.arrival_iff.mpr (.inl before))
    · rintro ⟨startup, looked, before⟩
      refine ⟨startup, ClientConfig.connect_iff.trans looked, ?_⟩
      rw [ClientConfig.arrival_iff, looked]
      exact or_iff_right_of_imp before
  refine ⟨by rw [general, and_assoc], fun found => ?_⟩
  have own : (∃ entry, config.findServer serverId.text = some entry ∧
      entry.Admits toLowercase device) ↔ server.Admits toLowercase device := by
    simp only [found, Option.some.injEq, exists_eq_left']
  rw [general, own, ClientConfig.admits_table_iff]
  constructor
  · rintro ⟨⟨-, notAuto⟩, ⟨unfiltered, notManual⟩, before⟩
    refine ⟨unfiltered, fun found => ?_, before⟩
    cases mode : config.effectiveAutoConnect server with
    | manual => exact absurd mode (notManual found)
    | auto => exact absurd mode (notAuto found)
    | autoWithDevices => rfl
  · rintro ⟨unfiltered, filtered, before⟩
    refine ⟨⟨fun none full => (unfiltered none).mpr full, fun found auto => ?_⟩,
      ⟨unfiltered, fun found manual => ?_⟩, before⟩
    · exact absurd ((filtered found).symm.trans auto) AutoConnectMode.noConfusion
    · exact absurd ((filtered found).symm.trans manual) AutoConnectMode.noConfusion

/-- An entry with the mode `full` and a pattern is one on which every path agrees. -/
theorem paths_follow_table_full :
    PathsFollowTable (List.map Char.toLower) ⟨none, [⟨"a1", .autoWithDevices, ["1234:*"]⟩]⟩
      ⟨"a1", .autoWithDevices, ["1234:*"]⟩ ⟨"a1"⟩ .new (NotificationHandler.exampleInfo 1) :=
  ((paths_follow_table_iff (List.mem_singleton.mpr rfl)).2 rfl).mpr
    ⟨fun none => absurd none (by decide), fun _ => rfl, fun before => absurd before (by decide)⟩

/-- With a pattern for the device the mode `auto` documents an attachment, which does not
happen at startup, and `manual` none, which happens on `--connect`. -/
theorem patterns_without_the_mode :
    ¬ PathsFollowTable (List.map Char.toLower) ⟨none, [⟨"a1", .auto, ["1234:*"]⟩]⟩
      ⟨"a1", .auto, ["1234:*"]⟩ ⟨"a1"⟩ .new (NotificationHandler.exampleInfo 1) ∧
    ¬ PathsFollowTable (List.map Char.toLower) ⟨none, [⟨"a1", .manual, ["1234:*"]⟩]⟩
      ⟨"a1", .manual, ["1234:*"]⟩ ⟨"a1"⟩ .new (NotificationHandler.exampleInfo 1) := by
  have matched : (⟨"a1", .auto, ["1234:*"]⟩ : ServerConfig).Matches (List.map Char.toLower)
      (NotificationHandler.exampleInfo 1) :=
    ⟨"1234:*", List.mem_singleton.mpr rfl, by decide +kernel⟩
  constructor
  · intro paths
    have attached := paths.startup.mpr ⟨by decide, matched⟩
    exact absurd attached (by decide +kernel)
  · intro paths
    exact paths.connect.mp (by decide +kernel)

end
end P2pUsb
