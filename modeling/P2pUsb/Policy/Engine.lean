import P2pUsb.Library.FiniteMap
import P2pUsb.Protocol.Types

/-! The policy engine: access decisions and the sessions it watches. Text is
compared as lists of characters. Lowering the case of ASCII letters is enough:
no other character lowers to one of a device identifier. -/
namespace P2pUsb

/-- The monotonic clock beside the system clock, in milliseconds since 1970. -/
structure ClockReading where
  instant : Instant
  wallMillis : Nat
  deriving DecidableEq, Repr

/-- The system clock in whole seconds. -/
def ClockReading.wall (now : ClockReading) : Nat := now.wallMillis / 1000

/-- The fields of a device policy that the engine reads. -/
structure DevicePolicy where
  deviceFilter : String
  allowedClients : List String
  timeWindows : Option (List String)
  maxSessionDuration : Option Duration
  restrictedDeviceClasses : Option (List UInt8)

inductive PolicyDenialReason where
  | clientNotAllowed
  | outsideTimeWindow (currentTime : String) (allowedWindows : List String)
  | deviceClassRestricted (deviceClass : UInt8)
  | noMatchingPolicy
  deriving DecidableEq, Repr

inductive PolicyDecision where
  | allow
  | deny (reason : PolicyDenialReason)
  deriving DecidableEq, Repr

structure ActiveSession where
  handle : DeviceHandle
  deviceId : DeviceId
  clientId : EndpointId
  startedAt : Instant
  maxDuration : Option Duration
  windowExpiresAt : Option Instant

inductive SessionExpiredReason where
  | durationLimitReached | timeWindowExpired
  deriving DecidableEq, Repr

structure SessionExpiredEvent where
  handle : DeviceHandle
  deviceId : DeviceId
  clientId : EndpointId
  reason : SessionExpiredReason
  deriving DecidableEq, Repr

/-- What the engine is configured with; its sessions are kept apart. -/
structure PolicyEngine where
  policies : List DevicePolicy
  timezoneOffsetHours : Int

/-- Time of day as (hours, minutes). -/
abbrev TimeOfDay := Nat × Nat

def trim (text : List Char) : List Char :=
  ((text.dropWhile isWhiteSpace).reverse.dropWhile isWhiteSpace).reverse

def parseDigits : List Char → Nat → Option Nat
  | [], value => some value
  | c :: rest, value =>
      if c.isDigit then parseDigits rest (value * 10 + (c.toNat - '0'.toNat)) else none

/-- `str::parse::<u8>` -/
def parseU8 (text : List Char) : Option Nat :=
  let digits := match text with
    | '+' :: rest => rest
    | _ => text
  if digits.isEmpty then none
  else (parseDigits digits 0).filter fun value => decide (value < 256)

/-- `{:04x}` -/
def hex4 (value : UInt16) : List Char := (Nat.toDigits 16 value.toNat).leftpad 4 '0'

/-- `{:02}` -/
def dec2 (value : Nat) : List Char := (Nat.toDigits 10 value).leftpad 2 '0'

def eqIgnoreAsciiCase (a b : List Char) : Bool := a.map Char.toLower == b.map Char.toLower

namespace PolicyEngine

def filterMatchesExact (filter device : List Char) : Bool :=
  filter != ['*'] && eqIgnoreAsciiCase filter device

/-- The exact filter is looked for in all policies before the `VID:*` one. -/
def findMatchingPolicy (engine : PolicyEngine) (info : DeviceInfo) : Option DevicePolicy :=
  let device := hex4 info.vendorId ++ ':' :: hex4 info.productId
  let vidWildcard := hex4 info.vendorId ++ [':', '*']
  (engine.policies.find? fun p => filterMatchesExact p.deviceFilter.toList device).or
    (engine.policies.find? fun p => p.deviceFilter.toList == vidWildcard)

def findDefaultPolicy (engine : PolicyEngine) : Option DevicePolicy :=
  engine.policies.find? fun p => p.deviceFilter.toList == ['*']

def isClientAllowed (policy : DevicePolicy) (client : EndpointId) : Bool :=
  policy.allowedClients.any (fun c => c.toList == ['*']) ||
    policy.allowedClients.any fun c => eqIgnoreAsciiCase c.toList client.text.toList

def getCurrentTimeWithOffset (wall : Nat) (offsetHours : Int) : TimeOfDay :=
  let secsToday := (((wall : Int) + offsetHours * 3600).emod 86400).toNat
  (secsToday / 3600, secsToday % 3600 / 60)

def parseTime (time : List Char) : Option TimeOfDay :=
  match (trim time).splitOn ':' with
  | [hoursText, minutesText] =>
      (parseU8 hoursText).bind fun hours => (parseU8 minutesText).bind fun minutes =>
        if hours > 23 || minutes > 59 then none else some (hours, minutes)
  | _ => none

def parseTimeWindow (window : String) : Option (TimeOfDay × TimeOfDay) :=
  match window.toList.splitOn '-' with
  | [startText, endText] =>
      (parseTime startText).bind fun start => (parseTime endText).map fun stop => (start, stop)
  | _ => none

def timeInRange (time start stop : TimeOfDay) : Bool :=
  let timeMins := time.1 * 60 + time.2
  let startMins := start.1 * 60 + start.2
  let endMins := stop.1 * 60 + stop.2
  if startMins ≤ endMins then startMins ≤ timeMins && timeMins < endMins
  else startMins ≤ timeMins || timeMins < endMins

/-- The first window that the time lies in. -/
def currentWindow (now : TimeOfDay) (windows : List String) : Option (TimeOfDay × TimeOfDay) :=
  (windows.filterMap parseTimeWindow).find? fun w => timeInRange now w.1 w.2

def isWithinTimeWindow (engine : PolicyEngine) (wall : Nat) (windows : List String) :
    Bool × String :=
  let now := getCurrentTimeWithOffset wall engine.timezoneOffsetHours
  ((currentWindow now windows).isSome, String.ofList (dec2 now.1 ++ ':' :: dec2 now.2))

def calculateWindowExpiry (engine : PolicyEngine) (now : ClockReading) (windows : List String) :
    Option Instant :=
  let time := getCurrentTimeWithOffset now.wall engine.timezoneOffsetHours
  (currentWindow time windows).map fun window =>
    let nowMins := time.1 * 60 + time.2
    let endMins := window.2.1 * 60 + window.2.2
    -- a window that runs past midnight ends on the next day
    let minsUntilEnd := if endMins > nowMins then endMins - nowMins else 24 * 60 - nowMins + endMins
    now.instant + Duration.fromSecs (minsUntilEnd * 60)

def evaluatePolicy (engine : PolicyEngine) (wall : Nat) (policy : DevicePolicy)
    (client : EndpointId) (info : DeviceInfo) : PolicyDecision :=
  if !isClientAllowed policy client then .deny .clientNotAllowed
  else if policy.restrictedDeviceClasses.any fun classes => classes.contains info.deviceClass then
    .deny (.deviceClassRestricted info.deviceClass)
  else
    match policy.timeWindows with
    | none => .allow
    | some windows =>
        if windows.isEmpty then .allow
        else
          let (inWindow, currentTime) := engine.isWithinTimeWindow wall windows
          if inWindow then .allow else .deny (.outsideTimeWindow currentTime windows)

def checkAccess (engine : PolicyEngine) (wall : Nat) (client : EndpointId) (info : DeviceInfo) :
    PolicyDecision :=
  match (engine.findMatchingPolicy info).or engine.findDefaultPolicy with
  | some policy => engine.evaluatePolicy wall policy client info
  | none => if engine.policies.isEmpty then .allow else .deny .noMatchingPolicy

def getSessionDurationLimit (engine : PolicyEngine) (info : DeviceInfo) : Option Duration :=
  ((engine.findMatchingPolicy info).or engine.findDefaultPolicy).bind
    DevicePolicy.maxSessionDuration

def newSession (engine : PolicyEngine) (now : ClockReading) (handle : DeviceHandle)
    (deviceId : DeviceId) (info : DeviceInfo) (client : EndpointId) : ActiveSession where
  handle := handle
  deviceId := deviceId
  clientId := client
  startedAt := now.instant
  maxDuration := engine.getSessionDurationLimit info
  windowExpiresAt := (((engine.findMatchingPolicy info).or engine.findDefaultPolicy).bind
    DevicePolicy.timeWindows).bind (engine.calculateWindowExpiry now)

end PolicyEngine

/-- `active_sessions` of the engine. -/
abbrev ActiveSessions := AList fun _ : DeviceHandle => ActiveSession

namespace ActiveSessions

def registerSession (sessions : ActiveSessions) (engine : PolicyEngine) (now : ClockReading)
    (handle : DeviceHandle) (deviceId : DeviceId) (info : DeviceInfo) (client : EndpointId) :
    ActiveSessions :=
  sessions.insert handle (engine.newSession now handle deviceId info client)

def unregisterSession (sessions : ActiveSessions) (handle : DeviceHandle) : ActiveSessions :=
  sessions.erase handle

def expiredReason (now : Instant) (session : ActiveSession) : Option SessionExpiredReason :=
  if session.maxDuration.any fun max => decide (now - session.startedAt ≥ max) then
    some .durationLimitReached
  else if session.windowExpiresAt.any fun at' => decide (now ≥ at') then some .timeWindowExpired
  else none

/-- The map of the source is unordered; here it is run through in the order of its entries. -/
def checkExpiredSessions (sessions : ActiveSessions) (now : Instant) : List SessionExpiredEvent :=
  sessions.entries.filterMap fun e => (expiredReason now e.2).map fun reason => {
    handle := e.1
    deviceId := e.2.deviceId
    clientId := e.2.clientId
    reason := reason }

end ActiveSessions
end P2pUsb
