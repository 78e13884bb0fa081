import P2pUsb.Audit.Rotation
import P2pUsb.Protocol.Types

/-! The audit trail: what any number of callers log, through the channel and into the files. -/
namespace P2pUsb

inductive AuditLevel where
  | all | standard | security | off
  deriving DecidableEq, Repr

inductive AuditEventType where
  | clientConnected | clientDisconnected | deviceAttach | deviceDetach | authenticationFailure
  | configurationChange | transferStatistics | serverStarted | serverStopped | deviceArrived
  | deviceRemoved
  deriving DecidableEq, Repr

inductive AuditResult where
  | success | failure | denied
  deriving DecidableEq, Repr

inductive AuditDetails where
  | connection (remoteAddr reason : Option String)
  | device (deviceId : Nat) (handle vendorId productId : Option Nat) (error : Option String)
  | auth (reason : Option String)
  | config (setting : String) (oldValue newValue : Option String)
  | statistics (controlTransfers bulkTransfers interruptTransfers bytesIn bytesOut errors
      periodSeconds : Nat)
  | server (version reason : Option String)
  | hotplug (deviceId vendorId productId : Nat) (productName : Option String)
  | message (message : String)
  deriving DecidableEq, Repr

structure AuditEntry where
  timestamp : String
  eventType : AuditEventType
  endpointId : Option String
  deviceId : Option Nat
  result : AuditResult
  details : Option AuditDetails
  deriving DecidableEq, Repr

def AuditLevel.shouldLog (level : AuditLevel) (eventType : AuditEventType) : Bool :=
  match level with
  | .off => false
  | .security => eventType = .authenticationFailure || eventType = .configurationChange
  | .standard => eventType ≠ .transferStatistics
  | .all => true

/-- What the logger sends to the task of the writer. -/
inductive LoggerMessage where
  | log (entry : AuditEntry)
  | rotate
  | shutdown
  deriving DecidableEq, Repr

/-- The logger, its channel and the task of the writer, which receives until it is shut down. -/
structure AuditTrail where
  level : AuditLevel
  channel : List LoggerMessage
  receiving : Bool
  writer : AuditWriter

inductive TrailAction where
  | log (entry : AuditEntry)
  | rotate
  | shutdown
  | receive

inductive TrailEvent where
  | logged (entry : AuditEntry)
  | closing
  | wrote (entry : AuditEntry)
  | rotatedOut (log : List UInt8)

namespace AuditTrail

def new (level : AuditLevel) (config : AuditConfig) (directory : LogDirectory) : AuditTrail where
  level := level
  channel := []
  receiving := true
  writer := .new config directory

/-- A send fails once the receiver is gone. -/
def send (s : AuditTrail) (message : LoggerMessage) : AuditTrail :=
  if s.receiving then { s with channel := s.channel ++ [message] } else s

def log (s : AuditTrail) (entry : AuditEntry) : AuditTrail :=
  if s.level.shouldLog entry.eventType then s.send (.log entry) else s

end AuditTrail

/-- `line` is the JSON of an entry with the newline behind it. -/
def auditTrail (line : AuditEntry → LogLine) : Machine AuditTrail TrailAction TrailEvent where
  step s
    | .log entry => some (s.log entry, [.logged entry])
    | .rotate => some (s.send .rotate, [])
    | .shutdown => some (s.send .shutdown, [.closing])
    | .receive =>
        match s.channel with
        | [] => none
        | .log entry :: channel =>
            (AuditWriter.run.step s.writer (.log (line entry))).map fun next =>
              ({ s with channel := channel, writer := next.1 },
                .wrote entry :: next.2.map .rotatedOut)
        | .rotate :: channel =>
            (AuditWriter.run.step s.writer .rotate).map fun next =>
              ({ s with channel := channel, writer := next.1 }, next.2.map .rotatedOut)
        | .shutdown :: _ => some ({ s with channel := [], receiving := false }, [])

/-! ### The contents of the log -/

/-- As many entries as do not make the writer rotate. -/
def AuditConfig.Within (config : AuditConfig) (line : AuditEntry → LogLine)
    (entries : List AuditEntry) : Prop :=
  (∀ n ∈ config.maxEntries, entries.length < n) ∧
    ∀ m ∈ config.maxSizeMb, (entries.flatMap line).length < m * 1024 * 1024

namespace AuditWriter
variable {line : AuditEntry → LogLine} {w : AuditWriter} {entries : List AuditEntry}

/-- The log holds the lines of these entries, and the counters agree with it. -/
structure Holds (line : AuditEntry → LogLine) (w : AuditWriter) (entries : List AuditEntry) :
    Prop where
  opened : w.file = true → w.logOnDisk = some (entries.flatMap line) ∧
    w.entriesWritten = entries.length ∧ w.currentFileSize = (entries.flatMap line).length
  closed : w.file = false → w.logOnDisk = none ∧ entries = []

theorem open_file_holds (none : w.logOnDisk = none) : Holds line w.openFile [] := by
  have absent : w.path ∉ w.directory := AList.lookup_eq_none.mp none
  refine ⟨fun _ => ⟨?_, rfl, ?_⟩, fun wrong => nomatch wrong⟩
  · change (if w.path ∈ w.directory then w.directory else w.directory.insert w.path []).lookup
      w.path = some []
    rw [if_neg absent, AList.lookup_insert]
  · change (w.logOnDisk.getD []).length = 0
    rw [none]
    rfl

theorem Holds.log (hs : Holds line w entries) :
    w.logOnDisk = some (entries.flatMap line) ∨ w.logOnDisk = none ∧ entries = [] := by
  cases file : w.file with
  | true => exact .inl (hs.opened file).1
  | false => exact .inr (hs.closed file)

theorem append_holds (hs : Holds line w entries) (file : w.file = true) (entry : AuditEntry) :
    Holds line { w with
      directory := w.directory.modify w.path (· ++ line entry)
      entriesWritten := w.entriesWritten + 1
      currentFileSize := w.currentFileSize + (line entry).length } (entries ++ [entry]) := by
  obtain ⟨log, count, size⟩ := hs.opened file
  have longer : (entries ++ [entry]).flatMap line = entries.flatMap line ++ line entry := by
    rw [List.flatMap_append, List.flatMap_singleton]
  refine ⟨fun _ => ⟨?_, ?_, ?_⟩, fun wrong => absurd (file.symm.trans wrong) Bool.noConfusion⟩
  · change (w.directory.modify w.path (· ++ line entry)).lookup w.path = _
    rw [AList.lookup_modify_eq, if_pos rfl, longer]
    exact congrArg (Option.map (· ++ line entry)) log
  · rw [List.length_append, List.length_singleton, ← count]
  · rw [longer, List.length_append, ← size]

theorem written_holds (hs : Holds line w entries) (entry : AuditEntry) :
    Holds line (w.written (line entry)) (entries ++ [entry]) ∧
      (w.written (line entry)).file = true := by
  unfold written
  cases file : w.file with
  | true => exact ⟨append_holds hs file entry, file⟩
  | false =>
      obtain ⟨none, rfl⟩ := hs.closed file
      exact ⟨append_holds (open_file_holds none) rfl entry, rfl⟩

theorem rotate_files_log (path : String) (maxFiles : Nat) (directory : LogDirectory) :
    (rotateFiles path maxFiles directory).lookup path = none := by
  unfold rotateFiles
  by_cases present : path ∈ shiftAll path maxFiles directory
  · obtain ⟨log, found⟩ := AList.mem_iff.mp present
    rw [if_pos present, LogDirectory.lookup_rename found, if_neg (rotated_path_ne path 1).symm,
      if_pos rfl]
  · rw [if_neg present]
    exact AList.lookup_eq_none.mpr present

theorem rotate_holds (w : AuditWriter) : Holds line w.rotate [] ∧ w.rotate.file = true :=
  ⟨open_file_holds (w := { w with
    file := false
    directory := rotateFiles w.path w.maxFiles w.directory }) (rotate_files_log ..), rfl⟩

theorem any_le_eq_false {limit : Option Nat} {n : Nat} (size : Nat → Nat) :
    (limit.any fun m => decide (n ≥ size m)) = false ↔ ∀ m ∈ limit, n < size m := by
  cases limit with
  | none => exact iff_of_true rfl fun _ wrong => nomatch wrong
  | some m =>
      rw [Option.any_some, decide_eq_false_iff_not, Nat.not_le]
      exact ⟨fun less k same => Option.some.inj same ▸ less, fun all => all m rfl⟩

/-- The writer rotates exactly when the log is no longer within the limits. -/
theorem Holds.should_rotate (hs : Holds line w entries) (file : w.file = true) :
    w.shouldRotate = false ↔ w.config.Within line entries := by
  obtain ⟨-, count, size⟩ := hs.opened file
  unfold shouldRotate AuditConfig.Within
  rw [count, size, Bool.or_eq_false_iff]
  exact and_comm.trans (and_congr (any_le_eq_false id) (any_le_eq_false (· * 1024 * 1024)))

end AuditWriter

theorem AuditConfig.Within.drop_last {config : AuditConfig} {line : AuditEntry → LogLine}
    {entries : List AuditEntry} (within : config.Within line entries) :
    config.Within line entries.dropLast := by
  obtain ⟨last, whole⟩ := List.dropLast_prefix entries
  have fewer : entries.dropLast.length ≤ entries.length := (List.dropLast_sublist entries).length_le
  have shorter : (entries.dropLast.flatMap line).length ≤ (entries.flatMap line).length := by
    rw [← congrArg (List.flatMap line) whole, List.flatMap_append, List.length_append]
    exact Nat.le_add_right _ _
  exact ⟨fun n some => lt_of_le_of_lt fewer (within.1 n some),
    fun m some => lt_of_le_of_lt shorter (within.2 m some)⟩

namespace TrailEvent

def entry : TrailEvent → Option AuditEntry
  | .logged entry => some entry
  | _ => none

def writtenEntry : TrailEvent → Option AuditEntry
  | .wrote entry => some entry
  | _ => none

def log : TrailEvent → Option (List UInt8)
  | .rotatedOut log => some log
  | _ => none

def isClosing : TrailEvent → Bool
  | .closing => true
  | _ => false

end TrailEvent

namespace LoggerMessage

def entry : LoggerMessage → Option AuditEntry
  | .log entry => some entry
  | _ => none

def isShutdown : LoggerMessage → Bool
  | .shutdown => true
  | _ => false

end LoggerMessage

def wrote (tr : List TrailEvent) : List AuditEntry := tr.filterMap TrailEvent.writtenEntry

def rotatedOut (tr : List TrailEvent) : List (List UInt8) := tr.filterMap TrailEvent.log

/-- The parts of the elements before the first one that stops. -/
def partsUntil {α β : Type*} (stop : α → Bool) (part : α → Option β) (elements : List α) : List β :=
  (elements.takeWhile fun a => !stop a).filterMap part

/-- The entries that were logged before the first call of `shutdown`. -/
def loggedInTime (tr : List TrailEvent) : List AuditEntry :=
  partsUntil TrailEvent.isClosing TrailEvent.entry tr

/-- The entries that the writer is still going to receive. -/
def waiting (channel : List LoggerMessage) : List AuditEntry :=
  partsUntil LoggerMessage.isShutdown LoggerMessage.entry channel

section
variable {α β : Type*} {stop : α → Bool} {part : α → Option β}

theorem parts_until_append (elements more : List α) :
    partsUntil stop part (elements ++ more) =
      if elements.any stop then partsUntil stop part elements
      else partsUntil stop part elements ++ partsUntil stop part more := by
  induction elements with
  | nil => rfl
  | cons a elements ih =>
      unfold partsUntil at ih ⊢
      cases stopped : stop a with
      | true => simp [stopped]
      | false =>
          simp only [List.cons_append, List.takeWhile_cons, stopped, Bool.not_false, if_true,
            List.any_cons, Bool.false_or, List.filterMap_cons]
          rw [ih]
          cases part a <;> cases elements.any stop <;> rfl

/-- Elements that neither count nor stop change nothing. -/
theorem parts_until_quiet (elements : List α) {more : List α}
    (quiet : ∀ a ∈ more, part a = none) :
    partsUntil stop part (elements ++ more) = partsUntil stop part elements := by
  have none : partsUntil stop part more = [] := by
    rw [partsUntil, List.filterMap_eq_nil_iff]
    exact fun a mem => quiet a (List.takeWhile_subset _ mem)
  rw [parts_until_append, none, List.append_nil]
  exact ite_self _

end

namespace AuditTrail
variable {line : AuditEntry → LogLine} {s t : AuditTrail} {tr out : List TrailEvent}

/-- What has been logged in time is in the files or still in the channel. -/
structure Delivered (tr : List TrailEvent) (s : AuditTrail) : Prop where
  balance : wrote tr ++ waiting s.channel =
    (loggedInTime tr).filter fun entry => s.level.shouldLog entry.eventType
  closing : tr.any TrailEvent.isClosing = (!s.receiving || s.channel.any LoggerMessage.isShutdown)
  silent : s.receiving = false → s.channel = []

theorem waiting_send (s : AuditTrail) (message : LoggerMessage) :
    waiting (s.send message).channel =
      if (!s.receiving || s.channel.any LoggerMessage.isShutdown) then waiting s.channel
      else waiting s.channel ++ waiting [message] := by
  unfold send
  cases s.receiving with
  | false => rfl
  | true => exact parts_until_append s.channel [message]

theorem send_frame (s : AuditTrail) (message : LoggerMessage) :
    (s.send message).level = s.level ∧ (s.send message).receiving = s.receiving ∧
      (s.send message).writer = s.writer := by
  unfold send
  split <;> exact ⟨rfl, rfl, rfl⟩

theorem send_shutdown (s : AuditTrail) (message : LoggerMessage) :
    (!(s.send message).receiving || (s.send message).channel.any LoggerMessage.isShutdown) =
      (!s.receiving || s.channel.any LoggerMessage.isShutdown || message.isShutdown) := by
  unfold send
  cases receiving : s.receiving with
  | false => simp [receiving]
  | true => simp

namespace Delivered

theorem silent_send (hs : Delivered tr s) (message : LoggerMessage)
    (closed : (s.send message).receiving = false) : (s.send message).channel = [] := by
  have stopped := (s.send_frame message).2.1.symm.trans closed
  unfold send
  rw [if_neg (by rw [stopped]; exact Bool.false_ne_true)]
  exact hs.silent stopped

/-- A message that carries no entry. -/
theorem send (hs : Delivered tr s) {message : LoggerMessage} (plain : message.entry = none)
    (quiet : ∀ e ∈ out, e.entry = none ∧ e.writtenEntry = none)
    (closing : out.any TrailEvent.isClosing = message.isShutdown) :
    Delivered (tr ++ out) (s.send message) where
  balance := by
    have none : waiting [message] = [] := by
      unfold waiting partsUntil
      rw [List.filterMap_eq_nil_iff]
      intro m mem
      obtain rfl := List.mem_singleton.mp (List.takeWhile_subset _ mem)
      exact plain
    have written : wrote out = [] := List.filterMap_eq_nil_iff.mpr fun e mem => (quiet e mem).2
    have split : wrote (tr ++ out) = wrote tr ++ wrote out := List.filterMap_append
    rw [split, written, List.append_nil, waiting_send, none, List.append_nil, ite_self,
      loggedInTime, parts_until_quiet tr fun e mem => (quiet e mem).1, (s.send_frame message).1]
    exact hs.balance
  closing := by rw [List.any_append, hs.closing, closing, send_shutdown]
  silent := hs.silent_send message

theorem log (hs : Delivered tr s) (entry : AuditEntry) :
    Delivered (tr ++ [.logged entry]) (s.log entry) := by
  have split : wrote (tr ++ [.logged entry]) = wrote tr := by
    rw [wrote, List.filterMap_append]
    exact List.append_nil _
  have closing : (tr ++ [TrailEvent.logged entry]).any TrailEvent.isClosing =
      tr.any TrailEvent.isClosing := by
    rw [List.any_append]
    exact Bool.or_false _
  have early : loggedInTime (tr ++ [.logged entry]) =
      if tr.any TrailEvent.isClosing then loggedInTime tr else loggedInTime tr ++ [entry] :=
    parts_until_append tr [.logged entry]
  unfold AuditTrail.log
  cases wanted : s.level.shouldLog entry.eventType with
  | false =>
      refine ⟨?_, closing.trans hs.closing, hs.silent⟩
      rw [if_neg Bool.false_ne_true, split, hs.balance, early]
      split
      · rfl
      · rw [List.filter_append, List.filter_singleton, wanted]
        exact (List.append_nil _).symm
  | true =>
      have level := (s.send_frame (.log entry)).1
      rw [if_pos rfl]
      refine ⟨?_, ?_, hs.silent_send (.log entry)⟩
      · rw [split, waiting_send, early, ← hs.closing, level]
        split
        · exact hs.balance
        · rw [← List.append_assoc, hs.balance, List.filter_append, List.filter_singleton, wanted]
          rfl
      · rw [closing, hs.closing, send_shutdown]
        exact (Bool.or_false _).symm

/-- What the writer does with an entry, or without one, once it is received. -/
theorem receive (hs : Delivered tr s) {message : LoggerMessage} {channel : List LoggerMessage}
    (head : s.channel = message :: channel) (other : message.isShutdown = false)
    (writer : AuditWriter) (written : wrote out = message.entry.toList)
    (quiet : ∀ e ∈ out, e.entry = none ∧ e.isClosing = false) :
    Delivered (tr ++ out) { s with channel := channel, writer := writer } where
  balance := by
    have split : wrote (tr ++ out) = wrote tr ++ wrote out := List.filterMap_append
    have taken : waiting (message :: channel) = message.entry.toList ++ waiting channel := by
      unfold waiting partsUntil
      rw [List.takeWhile_cons, other, Bool.not_false, if_pos rfl, List.filterMap_cons]
      cases message.entry <;> rfl
    have balance := hs.balance
    rw [head, taken, ← List.append_assoc] at balance
    have early : loggedInTime (tr ++ out) = loggedInTime tr :=
      parts_until_quiet tr fun e mem => (quiet e mem).1
    rw [split, written, balance, early]
  closing := by
    have open' : out.any TrailEvent.isClosing = false := by
      rw [List.any_eq_false]
      exact fun e mem closes => Bool.false_ne_true ((quiet e mem).2.symm.trans closes)
    rw [List.any_append, open', hs.closing, head, List.any_cons, other]
    simp only [Bool.false_or, Bool.or_false]
  silent closed := by
    have empty := hs.silent closed
    rw [head] at empty
    cases empty

theorem shutDown (hs : Delivered tr s) {channel : List LoggerMessage}
    (head : s.channel = .shutdown :: channel) :
    Delivered (tr ++ []) { s with channel := [], receiving := false } where
  balance := by
    have balance := hs.balance
    rw [head] at balance
    rw [List.append_nil]
    exact balance
  closing := by
    have closing := hs.closing
    rw [head, List.any_cons] at closing
    rw [List.append_nil, closing]
    simp only [LoggerMessage.isShutdown, Bool.true_or, Bool.or_true, Bool.not_false, List.any_nil,
      Bool.or_false]
  silent _ := rfl

end Delivered

/-- The entries that were written are those of the logs that have been rotated out, log by log,
and then those of the log that is written now. -/
structure Blocks (config : AuditConfig) (line : AuditEntry → LogLine) (tr : List TrailEvent)
    (w : AuditWriter) (blocks : List (List AuditEntry)) (current : List AuditEntry) : Prop where
  configured : w.config = config
  out : rotatedOut tr = blocks.map (List.flatMap line)
  entries : wrote tr = blocks.flatten ++ current
  holds : w.Holds line current
  full : ∀ block ∈ blocks, config.Within line block.dropLast ∨ block.length ≤ 1

namespace Blocks
variable {config : AuditConfig} {w : AuditWriter} {blocks : List (List AuditEntry)}
  {current : List AuditEntry}

/-- Logs that go out, beside what else a step shows. -/
theorem parts_of_logs (tr : List TrailEvent) (logs : List (List UInt8)) :
    rotatedOut (tr ++ logs.map .rotatedOut) = rotatedOut tr ++ logs ∧
      wrote (tr ++ logs.map .rotatedOut) = wrote tr := by
  constructor
  · rw [rotatedOut, List.filterMap_append, List.filterMap_map]
    exact congrArg _ List.filterMap_some
  · have none : (logs.map TrailEvent.rotatedOut).filterMap TrailEvent.writtenEntry = [] := by
      rw [List.filterMap_map, List.filterMap_eq_nil_iff]
      exact fun _ _ => rfl
    rw [wrote, List.filterMap_append, none, List.append_nil]
    rfl

/-- A log goes out whole, and the next one is empty. -/
theorem rotate (hs : Blocks config line tr w blocks current)
    (whole : config.Within line current.dropLast ∨ current.length ≤ 1) :
    ∃ blocks',
      Blocks config line (tr ++ w.logOnDisk.toList.map .rotatedOut) w.rotate blocks' [] := by
  obtain ⟨out, same⟩ := parts_of_logs tr w.logOnDisk.toList
  have empty : AuditWriter.Holds line w.rotate [] := w.rotate_holds.1
  rcases hs.holds.log with log | ⟨none, rfl⟩
  · refine ⟨blocks ++ [current], hs.configured, ?_, ?_, empty, ?_⟩
    · rw [out, log, hs.out, List.map_append]
      rfl
    · rw [same, hs.entries, List.flatten_append, List.flatten_singleton, List.append_nil]
    · intro block mem
      rcases List.mem_append.mp mem with old | new
      · exact hs.full block old
      · obtain rfl := List.mem_singleton.mp new
        exact whole
  · refine ⟨blocks, hs.configured, ?_, ?_, empty, hs.full⟩
    · rw [out, none, hs.out]
      exact List.append_nil _
    · rw [same, hs.entries]

theorem write (hs : Blocks config line tr w blocks current)
    (room : config.Within line current ∨ current = []) (entry : AuditEntry) :
    ∃ blocks' current', Blocks config line
      (tr ++ .wrote entry :: (if (w.written (line entry)).shouldRotate then
        (w.written (line entry)).logOnDisk.toList else []).map .rotatedOut)
      (w.writeEntry (line entry)) blocks' current' ∧
      (config.Within line current' ∨ current' = []) := by
  obtain ⟨holds, file⟩ := AuditWriter.written_holds hs.holds entry
  have more : Blocks config line (tr ++ [.wrote entry]) (w.written (line entry)) blocks
      (current ++ [entry]) := by
    refine ⟨(w.written_config (line entry)).trans hs.configured, ?_, ?_, holds, hs.full⟩
    · rw [rotatedOut, List.filterMap_append, ← hs.out]
      exact List.append_nil _
    · rw [wrote, List.filterMap_append, ← List.append_assoc, ← hs.entries]
      rfl
  have split : ∀ rest : List TrailEvent, tr ++ .wrote entry :: rest =
      tr ++ [.wrote entry] ++ rest := fun rest => (List.append_assoc tr [_] rest).symm
  rw [split]
  cases full : (w.written (line entry)).shouldRotate with
  | false =>
      have within := (holds.should_rotate file).mp full
      rw [more.configured] at within
      have stays : w.writeEntry (line entry) = w.written (line entry) := by
        simp only [AuditWriter.writeEntry, full, Bool.false_eq_true, if_false]
      rw [stays, if_neg Bool.false_ne_true, List.map_nil, List.append_nil]
      exact ⟨blocks, current ++ [entry], more, .inl within⟩
  | true =>
      have goes : w.writeEntry (line entry) = (w.written (line entry)).rotate := by
        simp only [AuditWriter.writeEntry, full, if_true]
      have whole : config.Within line (current ++ [entry]).dropLast ∨
          (current ++ [entry]).length ≤ 1 := by
        rw [List.dropLast_concat]
        refine room.imp_right fun none => ?_
        rw [none]
        exact le_rfl
      obtain ⟨blocks', out⟩ := more.rotate whole
      rw [goes, if_pos rfl]
      exact ⟨blocks', [], out, .inr rfl⟩

theorem quiet (hs : Blocks config line tr w blocks current) (kept : rotatedOut out = [])
    (unwritten : wrote out = []) : Blocks config line (tr ++ out) w blocks current where
  configured := hs.configured
  out := by
    have split : rotatedOut (tr ++ out) = rotatedOut tr ++ rotatedOut out :=
      List.filterMap_append
    rw [split, kept, List.append_nil, hs.out]
  entries := by
    have split : wrote (tr ++ out) = wrote tr ++ wrote out := List.filterMap_append
    rw [split, unwritten, List.append_nil, hs.entries]
  holds := hs.holds
  full := hs.full

end Blocks

theorem Delivered.next (hs : Delivered tr s) {a : TrailAction}
    (step : (auditTrail line).step s a = some (t, out)) :
    t.level = s.level ∧ Delivered (tr ++ out) t := by
  have none_of : ∀ e ∈ ([] : List TrailEvent), e.entry = none ∧ e.writtenEntry = none :=
    List.forall_mem_nil _
  have quiet : ∀ (logs : List (List UInt8)), ∀ e ∈ logs.map TrailEvent.rotatedOut,
      e.entry = none ∧ e.isClosing = false := by
    intro logs e mem
    obtain ⟨log, -, rfl⟩ := List.mem_map.mp mem
    exact ⟨rfl, rfl⟩
  cases a with
  | log entry =>
      obtain ⟨rfl, rfl⟩ := Prod.mk.inj (Option.some.inj step)
      refine ⟨?_, hs.log entry⟩
      unfold AuditTrail.log
      split
      · exact (s.send_frame _).1
      · rfl
  | rotate =>
      obtain ⟨rfl, rfl⟩ := Prod.mk.inj (Option.some.inj step)
      exact ⟨(s.send_frame .rotate).1, hs.send rfl none_of rfl⟩
  | shutdown =>
      obtain ⟨rfl, rfl⟩ := Prod.mk.inj (Option.some.inj step)
      refine ⟨(s.send_frame .shutdown).1, hs.send rfl (fun e mem => ?_) rfl⟩
      obtain rfl := List.mem_singleton.mp mem
      exact ⟨rfl, rfl⟩
  | receive =>
      simp only [auditTrail] at step
      split at step
      case h_1 => cases step
      case h_2 entry channel head =>
        obtain ⟨rfl, rfl⟩ := Prod.mk.inj (Option.some.inj step)
        refine ⟨rfl, hs.receive head rfl _ (Blocks.parts_of_logs [.wrote entry] _).2 ?_⟩
        intro e mem
        rcases List.mem_cons.mp mem with rfl | out
        · exact ⟨rfl, rfl⟩
        · exact quiet _ e out
      case h_3 channel head =>
        obtain ⟨rfl, rfl⟩ := Prod.mk.inj (Option.some.inj step)
        have unwritten := (Blocks.parts_of_logs [] s.writer.logOnDisk.toList).2
        exact ⟨rfl, hs.receive head rfl _ unwritten (quiet _)⟩
      case h_4 channel head =>
        obtain ⟨rfl, rfl⟩ := Prod.mk.inj (Option.some.inj step)
        exact ⟨rfl, hs.shutDown head⟩

theorem Delivered.reach {level : AuditLevel} {config : AuditConfig} {directory : LogDirectory}
    (run : (auditTrail line).Reach (.new level config directory) tr s) :
    s.level = level ∧ Delivered tr s := by
  refine run.invariant (I := fun tr s => s.level = level ∧ Delivered tr s)
    ⟨rfl, rfl, rfl, fun _ => rfl⟩ fun tr s a t out hs _ step => ?_
  obtain ⟨level, delivered⟩ := hs.2.next step
  exact ⟨level.trans hs.1, delivered⟩

/-- What is so of the whole trail. -/
structure Trail (config : AuditConfig) (directory : LogDirectory) (line : AuditEntry → LogLine)
    (level : AuditLevel) (tr : List TrailEvent) (s : AuditTrail) : Prop where
  level : s.level = level
  delivered : Delivered tr s
  blocks : ∃ blocks current, Blocks config line tr s.writer blocks current ∧
    (config.Within line current ∨ current = [])
  rotation : AuditWriter.run.Reach (.new config directory) (rotatedOut tr) s.writer

namespace Trail
variable {config : AuditConfig} {directory : LogDirectory} {level : AuditLevel}

theorem new (line : AuditEntry → LogLine) (level : AuditLevel)
    (clean : config.path ∉ directory) :
    Trail config directory line level [] (AuditTrail.new level config directory) where
  level := rfl
  delivered := ⟨rfl, rfl, fun wrong => nomatch wrong⟩
  blocks := ⟨[], [], ⟨rfl, rfl, rfl, ⟨fun wrong => (nomatch wrong), fun _ =>
    ⟨AList.lookup_eq_none.mpr clean, rfl⟩⟩, List.forall_mem_nil _⟩, .inr rfl⟩
  rotation := .start

/-- A call, which leaves the writer alone. -/
theorem call (hs : Trail config directory line level tr s) (writer : t.writer = s.writer)
    (kept : rotatedOut out = []) (unwritten : wrote out = []) :
    (∃ blocks current, Blocks config line (tr ++ out) t.writer blocks current ∧
      (config.Within line current ∨ current = [])) ∧
    AuditWriter.run.Reach (.new config directory) (rotatedOut (tr ++ out)) t.writer := by
  rw [writer]
  constructor
  · obtain ⟨blocks, current, there, room⟩ := hs.blocks
    exact ⟨blocks, current, there.quiet kept unwritten, room⟩
  · have split : rotatedOut (tr ++ out) = rotatedOut tr ++ rotatedOut out :=
      List.filterMap_append
    rw [split, kept, List.append_nil]
    exact hs.rotation

theorem next (hs : Trail config directory line level tr s) {a : TrailAction}
    (step : (auditTrail line).step s a = some (t, out)) :
    Trail config directory line level (tr ++ out) t := by
  obtain ⟨same, delivered⟩ := hs.delivered.next step
  suffices written : (∃ blocks current, Blocks config line (tr ++ out) t.writer blocks current ∧
      (config.Within line current ∨ current = [])) ∧
      AuditWriter.run.Reach (.new config directory) (rotatedOut (tr ++ out)) t.writer from
    ⟨same.trans hs.level, delivered, written.1, written.2⟩
  cases a with
  | log entry =>
      obtain ⟨rfl, rfl⟩ := Prod.mk.inj (Option.some.inj step)
      have writer : (s.log entry).writer = s.writer := by
        unfold AuditTrail.log
        split
        · exact (s.send_frame _).2.2
        · rfl
      exact hs.call writer rfl rfl
  | rotate =>
      obtain ⟨rfl, rfl⟩ := Prod.mk.inj (Option.some.inj step)
      exact hs.call (s.send_frame .rotate).2.2 rfl rfl
  | shutdown =>
      obtain ⟨rfl, rfl⟩ := Prod.mk.inj (Option.some.inj step)
      exact hs.call (s.send_frame .shutdown).2.2 rfl rfl
  | receive =>
      obtain ⟨blocks, current, there, room⟩ := hs.blocks
      simp only [auditTrail] at step
      split at step
      case h_1 => cases step
      case h_2 entry channel head =>
        obtain ⟨rfl, rfl⟩ := Prod.mk.inj (Option.some.inj step)
        have whole := Blocks.parts_of_logs (tr ++ [.wrote entry])
        refine ⟨there.write room entry, ?_⟩
        have logs := (whole (if (s.writer.written (line entry)).shouldRotate then
          (s.writer.written (line entry)).logOnDisk.toList else [])).1
        have before : rotatedOut (tr ++ [.wrote entry]) = rotatedOut tr := by
          rw [rotatedOut, List.filterMap_append]
          exact List.append_nil _
        rw [before, List.append_assoc] at logs
        refine Eq.mpr (congrArg (AuditWriter.run.Reach _ · _) logs) ?_
        exact .next hs.rotation (a := .log (line entry)) trivial rfl
      case h_3 channel head =>
        obtain ⟨rfl, rfl⟩ := Prod.mk.inj (Option.some.inj step)
        obtain ⟨logs, -⟩ := Blocks.parts_of_logs tr s.writer.logOnDisk.toList
        have whole : config.Within line current.dropLast ∨ current.length ≤ 1 := by
          refine room.imp AuditConfig.Within.drop_last fun none => ?_
          rw [none]
          exact Nat.zero_le 1
        obtain ⟨blocks', kept⟩ := there.rotate whole
        refine ⟨⟨blocks', [], kept, .inr rfl⟩, ?_⟩
        refine Eq.mpr (congrArg (AuditWriter.run.Reach _ · _) logs) ?_
        exact .next hs.rotation (a := .rotate) trivial rfl
      case h_4 channel head =>
        obtain ⟨rfl, rfl⟩ := Prod.mk.inj (Option.some.inj step)
        exact hs.call rfl rfl rfl

theorem reach (clean : config.path ∉ directory)
    (run : (auditTrail line).Reach (.new level config directory) tr s) :
    Trail config directory line level tr s :=
  run.invariant (I := fun tr s => Trail config directory line level tr s) (.new line level clean)
    fun _ _ _ _ _ hs _ step => hs.next step

end Trail

/-- Whatever is logged at the level before the logger is shut down is written once and in order,
whole entries to a file. The files on disk are the newest logs; each of them was within the limits
until its last entry. -/
theorem trail_kept {config : AuditConfig} {directory : LogDirectory} {level : AuditLevel}
    (fresh : config.path ∉ directory) (clean : ∀ k, 1 ≤ k → rotatedPath config.path k ∉ directory)
    (run : (auditTrail line).Reach (new level config directory) tr s) :
    wrote tr ++ waiting s.channel =
        (loggedInTime tr).filter (fun entry => level.shouldLog entry.eventType) ∧
      ∃ (blocks : List (List AuditEntry)) (current : List AuditEntry),
        wrote tr = blocks.flatten ++ current ∧
        (s.writer.directory.lookup config.path).getD [] = current.flatMap line ∧
        (∀ k, 1 ≤ k → s.writer.directory.lookup (rotatedPath config.path k) =
          if k ≤ min blocks.length (AuditWriter.kept (config.maxFiles.getD 5)) then
            blocks.reverse[k - 1]?.map (List.flatMap line) else none) ∧
        (∀ block ∈ blocks, config.Within line block.dropLast ∨ block.length ≤ 1) ∧
        (config.Within line current ∨ current = []) := by
  have hs := Trail.reach fresh run
  obtain ⟨blocks, current, there, room⟩ := hs.blocks
  obtain ⟨same, rotated⟩ := AuditWriter.reach_rotated clean hs.rotation
  refine ⟨hs.level ▸ hs.delivered.balance, blocks, current, there.entries, ?_, fun k positive => ?_,
    there.full, room⟩
  · have log := there.holds.log
    rw [AuditWriter.logOnDisk, AuditWriter.path, same] at log
    rcases log with log | ⟨none, rfl⟩
    · rw [log]
      rfl
    · rw [none]
      rfl
  · have newest := rotated.logs k positive
    rw [AuditWriter.path, same, there.out, List.length_map, ← List.map_reverse,
      List.getElem?_map] at newest
    exact newest

def entryAt (timestamp : String) (eventType : AuditEventType) : AuditEntry :=
  ⟨timestamp, eventType, none, none, .success, none⟩

/-- One entry to a log. The second call is below the level, and the last one too late. -/
theorem trail_kept_rotated : ∃ tr s,
    (auditTrail fun entry => [UInt8.ofNat entry.timestamp.length, 10]).Reach
      (new .standard AuditWriter.twoFiles ∅) tr s ∧
      (wrote tr).map AuditEntry.timestamp = ["T", "TTT"] ∧
      wrote tr ++ waiting s.channel = (loggedInTime tr).filter
        fun entry => AuditLevel.standard.shouldLog entry.eventType := by
  have run := Machine.Reach.of_run (rfl :
    (auditTrail fun entry => [UInt8.ofNat entry.timestamp.length, 10]).run
      (new .standard AuditWriter.twoFiles ∅)
      [.log (entryAt "T" .serverStarted), .log (entryAt "TT" .transferStatistics), .receive,
        .rotate, .receive, .log (entryAt "TTT" .clientConnected), .shutdown,
        .log (entryAt "TTTT" .serverStopped), .receive, .receive] = some (_, _))
  have fresh : ∀ k, 1 ≤ k → rotatedPath AuditWriter.twoFiles.path k ∉ (∅ : LogDirectory) :=
    fun _ _ => AList.notMem_empty _
  exact ⟨_, _, run, rfl, (trail_kept (AList.notMem_empty _) fresh run).1⟩

end AuditTrail
end P2pUsb
