import P2pUsb.Library.Machine
import P2pUsb.VirtualUsb.MessageReader

/-! The reading loop of `run_blocking`: which read errors stop the bridge, and
when a broken message is sure to do so. -/
namespace P2pUsb
open ByteStream

def containsText (text pattern : String) : Bool := decide (pattern.toList <:+: text.toList)

def closureTexts : List String :=
  ["unexpected end of file", "end of file", "early eof", "failed to fill whole buffer",
   "Broken pipe", "Connection reset"]

def unavailableText : String := "Resource temporarily unavailable"

def timeoutTexts : List String := ["timed out", "WouldBlock", "operation timed out"]

inductive AfterError where
  | stop | retry
  deriving DecidableEq, Repr

/-- What the loop does after a read error with this text. -/
def onReadError (text : String) : AfterError :=
  if closureTexts.any (containsText text) then .stop
  else if containsText text unavailableText then .retry
  else if timeoutTexts.any (containsText text) then .stop
  else .retry

structure ReadLoop where
  socket : Socket
  running : Bool

/-- One round of the loop; a message that was read is handed on. -/
def runBlocking : Machine ReadLoop Unit UsbIpMessage where
  step s _ :=
    if s.running then
      match readUsbipMessageBlocking s.socket with
      | (.ok message, socket) => some ({ s with socket }, [message])
      | (.error e, socket) =>
          some ({ socket, running := decide (onReadError e.display = .retry) }, [])
    else none

/-- The round failed to read a message after it had taken some of its bytes. -/
def FailedInside (s t : ReadLoop) : Prop :=
  (∃ e, (readUsbipMessageBlocking s.socket).1 = .error e) ∧
    (unread t.socket).length < (unread s.socket).length

/-- The fixed part of a CMD_SUBMIT arrives, and so does the data it announces. -/
def SubmitArrives (header : UsbIpHeader) (socket : Socket) : Prop :=
  ∃ buf cmd, (readExact IoError.fillBuffer UsbIpCmdSubmit.size socket).1 = .ok buf ∧
    UsbIpCmdSubmit.readFixed buf = .ok (cmd, []) ∧
    (cmd.numberOfPackets = 0 → header.direction = 0 → ∃ data,
      (readExact IoError.fillBuffer cmd.transferBufferLength.toNat
        (readExact IoError.fillBuffer UsbIpCmdSubmit.size socket).2).1 = .ok data)

/-- The next message is a request that the socket does not interrupt, unless
it does so in the header with an error that the loop takes for the end. -/
def Uninterrupted (socket : Socket) : Prop :=
  match readExact IoError.fillBuffer UsbIpHeader.size socket with
  | (.error e, rest) =>
      (unread rest).length = (unread socket).length ∨
        onReadError (ReadError.header e).display = .stop
  | (.ok buf, rest) => ∃ header, UsbIpHeader.readFrom buf = .ok (header, []) ∧
      ((header.commandType = .ok .cmdSubmit ∧ SubmitArrives header rest) ∨
        (header.commandType = .ok .cmdUnlink ∧
          ∃ payload, (readExact IoError.fillBuffer unionSize rest).1 = .ok payload))

section Texts

theorem contains_of_missing {text pattern : String} {c : Char} (needed : c ∈ pattern.toList)
    (missing : c ∉ text.toList) : containsText text pattern = false := by
  refine decide_eq_false fun inside => ?_
  exact missing (inside.subset needed)

theorem digit_char_rare : ∀ d < 16, Nat.digitChar d ≠ 'l' ∧ Nat.digitChar d ≠ 'r' ∧
    Nat.digitChar d ≠ 't' := by
  decide

/-- Every text that the loop looks for has one of three letters. -/
theorem retry_of_missing {text : String} (l : 'l' ∉ text.toList) (r : 'r' ∉ text.toList)
    (t : 't' ∉ text.toList) : onReadError text = .retry := by
  have closed : closureTexts.any (containsText text) = false := by
    simp only [closureTexts, List.any_cons, List.any_nil, Bool.or_false, Bool.or_eq_false_iff]
    exact ⟨contains_of_missing (by decide) t, contains_of_missing (by decide) l,
      contains_of_missing (by decide) r, contains_of_missing (by decide) l,
      contains_of_missing (by decide) r, contains_of_missing (by decide) t⟩
  have timedOut : timeoutTexts.any (containsText text) = false := by
    simp only [timeoutTexts, List.any_cons, List.any_nil, Bool.or_false, Bool.or_eq_false_iff]
    exact ⟨contains_of_missing (by decide) t, contains_of_missing (by decide) l,
      contains_of_missing (by decide) t⟩
  simp [onReadError, closed, timedOut]

theorem hex_word_rare (value : UInt16) {c : Char} (known : c ∈ ['l', 'r', 't']) :
    c ∉ (hexWord value).toList := by
  have digits : ∀ shift, c ≠ Nat.digitChar (value.toNat / 2 ^ shift % 16) := by
    intro shift
    have rare := digit_char_rare (value.toNat / 2 ^ shift % 16) (Nat.mod_lt _ (by decide))
    simp only [List.mem_cons, List.not_mem_nil, or_false] at known
    rcases known with rfl | rfl | rfl
    · exact rare.1.symm
    · exact rare.2.1.symm
    · exact rare.2.2.symm
  have zero : c ≠ '0' ∧ c ≠ 'x' := by
    constructor <;> rintro rfl <;> exact absurd known (by decide)
  have printed : (hexWord value).toList = '0' :: 'x' :: [12, 8, 4, 0].map fun shift =>
      Nat.digitChar (value.toNat / 2 ^ shift % 16) := by
    rw [hexWord, String.toList_append, String.toList_ofList (l := List.map _ _)]
    rfl
  rw [printed]
  simp only [List.mem_cons, List.mem_map, not_or, not_exists, not_and]
  exact ⟨zero.1, zero.2, fun shift _ same => digits shift same.symm⟩

theorem unknown_command_retries {value : UInt16} {text : String}
    (unknown : UsbIpCommand.fromU16 value = .error text) : onReadError text = .retry := by
  have named : text = "Unknown USB/IP command: " ++ hexWord value := by
    unfold UsbIpCommand.fromU16 at unknown
    split at unknown
    · cases unknown
    split at unknown
    · cases unknown
    split at unknown
    · cases unknown
    split at unknown
    · cases unknown
    exact (Except.error.inj unknown).symm
  have rare : ∀ c ∈ ['l', 'r', 't'], c ∉ text.toList := by
    intro c known
    rw [named, String.toList_append, List.mem_append, not_or]
    refine ⟨?_, hex_word_rare value known⟩
    simp only [List.mem_cons, List.not_mem_nil, or_false] at known
    rcases known with rfl | rfl | rfl <;> decide
  exact retry_of_missing (rare 'l' (by decide)) (rare 'r' (by decide)) (rare 't' (by decide))

end Texts

theorem read_submit_le (header : UsbIpHeader) (s : Socket) :
    (unread (readSubmitBlocking header s).2).length ≤ (unread s).length := by
  have fixed := read_exact_le IoError.fillBuffer UsbIpCmdSubmit.size s
  unfold readSubmitBlocking
  split
  case h_1 got => rwa [got] at fixed
  case h_2 t got =>
    rw [got] at fixed
    split
    · exact fixed
    case h_2 cmd _ _ =>
      split
      case isFalse => exact fixed
      case isTrue =>
        have more := read_exact_le IoError.fillBuffer cmd.transferBufferLength.toNat t
        split <;> rename_i last <;> rw [last] at more <;> exact more.trans fixed

theorem read_unlink_le (header : UsbIpHeader) (s : Socket) :
    (unread (readUnlinkBlocking header s).2).length ≤ (unread s).length := by
  have payload := read_exact_le IoError.fillBuffer unionSize s
  unfold readUnlinkBlocking
  split
  case h_1 got => rwa [got] at payload
  case h_2 got =>
    rw [got] at payload
    split <;> exact payload

/-- All errors after the header stop the bridge. -/
def StopsAfterHeader (result : Except ReadError UsbIpMessage) : Prop :=
  ∀ e, result = .error e → onReadError e.display = .stop

theorem stops_of_ok (message : UsbIpMessage) : StopsAfterHeader (.ok message) := by
  intro e failed
  cases failed

/-- Behind its context an error is not recognised. -/
theorem context_retries : onReadError "Failed to read CMD_SUBMIT payload" = .retry ∧
    onReadError "Failed to read transfer data" = .retry ∧
    onReadError "Failed to read CMD_UNLINK payload" = .retry := by
  decide +kernel

theorem unexpected_retries :
    onReadError (ReadError.unexpected .retSubmit).display = .retry ∧
      onReadError (ReadError.unexpected .retUnlink).display = .retry := by
  decide +kernel

theorem not_stops_of_retry {e : ReadError} (retries : onReadError e.display = .retry) :
    ¬ StopsAfterHeader (.error e) := by
  intro stops
  have stopped := stops e rfl
  rw [retries] at stopped
  cases stopped

theorem submit_stops_iff (header : UsbIpHeader) (s : Socket) :
    StopsAfterHeader (readSubmitBlocking header s).1 ↔ SubmitArrives header s := by
  cases got : readExact IoError.fillBuffer UsbIpCmdSubmit.size s with
  | mk result t =>
  cases result with
  | error e =>
      have failed : readSubmitBlocking header s = (.error (.submitPayload e), t) := by
        rw [readSubmitBlocking, got]
      rw [failed, SubmitArrives, got]
      refine iff_of_false (not_stops_of_retry context_retries.1) ?_
      rintro ⟨buf, cmd, read, -⟩
      cases read
  | ok buf =>
      obtain ⟨cmd, fixed⟩ := UsbIpCmdSubmit.sized_fixed.exact (read_exact_ok got).2
      have arrives : SubmitArrives header s ↔
          (cmd.numberOfPackets = 0 → header.direction = 0 → ∃ data,
            (readExact IoError.fillBuffer cmd.transferBufferLength.toNat t).1 = .ok data) := by
        rw [SubmitArrives, got]
        refine ⟨?_, fun data => ⟨buf, cmd, rfl, fixed, data⟩⟩
        rintro ⟨buf', cmd', read, fixed', data⟩
        cases read
        cases fixed.symm.trans fixed'
        exact data
      rw [arrives, read_submit_parsed got fixed]
      by_cases plain : cmd.numberOfPackets = 0
      · rw [if_pos plain]
        by_cases out : header.direction = 0
        · by_cases some : 0 < cmd.transferBufferLength
          · rw [if_pos ⟨out, some⟩]
            cases last : readExact IoError.fillBuffer cmd.transferBufferLength.toNat t with
            | mk result u =>
            cases result with
            | error e =>
                refine iff_of_false (not_stops_of_retry context_retries.2.1) fun data => ?_
                obtain ⟨bytes, read⟩ := data plain out
                cases read
            | ok data =>
                exact iff_of_true (stops_of_ok _) fun _ _ => ⟨data, rfl⟩
          · have zero : cmd.transferBufferLength.toNat = 0 := by
              rw [UInt32.lt_iff_toNat_lt] at some
              exact Nat.eq_zero_of_not_pos some
            rw [if_neg fun both => some both.2, zero]
            refine iff_of_true (stops_of_ok _) fun _ _ => ⟨[], ?_⟩
            cases t <;> rfl
        · rw [if_neg fun both => out both.1]
          exact iff_of_true (stops_of_ok _) fun _ out' => absurd out' out
      · rw [if_neg plain]
        refine iff_of_true ?_ fun plain' => absurd plain' plain
        intro e failed
        cases failed
        decide

theorem unlink_stops_iff (header : UsbIpHeader) (s : Socket) :
    StopsAfterHeader (readUnlinkBlocking header s).1 ↔
      ∃ payload, (readExact IoError.fillBuffer unionSize s).1 = .ok payload := by
  unfold readUnlinkBlocking
  cases got : readExact IoError.fillBuffer unionSize s with
  | mk result t =>
  cases result with
  | error e =>
      refine iff_of_false (not_stops_of_retry context_retries.2.2) ?_
      rintro ⟨payload, read⟩
      cases read
  | ok payload =>
      obtain ⟨cmd, parsed⟩ := UsbIpCmdUnlink.sized payload
        (by rw [(read_exact_ok got).2]; decide)
      simp only [parsed]
      exact iff_of_true (stops_of_ok _) ⟨payload, rfl⟩

/-- What `readUsbipMessageBlocking` does when it has the header. -/
def readAfterHeader (header : UsbIpHeader) (socket : Socket) :
    Except ReadError UsbIpMessage × Socket :=
  match header.commandType with
  | .error text => (.error (.command text), socket)
  | .ok .cmdSubmit => readSubmitBlocking header socket
  | .ok .cmdUnlink => readUnlinkBlocking header socket
  | .ok cmd => (.error (.unexpected cmd), socket)

theorem read_after_header {s t : Socket} {buf : List UInt8} {header : UsbIpHeader}
    (got : readExact IoError.fillBuffer UsbIpHeader.size s = (.ok buf, t))
    (parsed : UsbIpHeader.readFrom buf = .ok (header, [])) :
    readUsbipMessageBlocking s = readAfterHeader header t := by
  rw [readUsbipMessageBlocking, got]
  simp only [parsed]
  rfl

theorem read_after_header_le (header : UsbIpHeader) (s : Socket) :
    (unread (readAfterHeader header s).2).length ≤ (unread s).length := by
  unfold readAfterHeader
  split
  · exact Nat.le_refl _
  · exact read_submit_le header s
  · exact read_unlink_le header s
  · exact Nat.le_refl _

theorem after_header_stops_iff (header : UsbIpHeader) (s : Socket) :
    StopsAfterHeader (readAfterHeader header s).1 ↔
      (header.commandType = .ok .cmdSubmit ∧ SubmitArrives header s) ∨
        (header.commandType = .ok .cmdUnlink ∧
          ∃ payload, (readExact IoError.fillBuffer unionSize s).1 = .ok payload) := by
  unfold readAfterHeader
  cases type : header.commandType with
  | error text =>
      refine iff_of_false (not_stops_of_retry (unknown_command_retries type)) ?_
      rintro (⟨submit, -⟩ | ⟨unlink, -⟩)
      · cases submit
      · cases unlink
  | ok cmd =>
      cases cmd with
      | cmdSubmit =>
          simp only [submit_stops_iff, true_and, Except.ok.injEq, reduceCtorEq, false_and,
            or_false]
      | cmdUnlink =>
          simp only [unlink_stops_iff, true_and, Except.ok.injEq, reduceCtorEq, false_and,
            false_or]
      | retSubmit =>
          refine iff_of_false (not_stops_of_retry unexpected_retries.1) ?_
          simp only [Except.ok.injEq, reduceCtorEq, false_and, or_self, not_false_eq_true]
      | retUnlink =>
          refine iff_of_false (not_stops_of_retry unexpected_retries.2) ?_
          simp only [Except.ok.injEq, reduceCtorEq, false_and, or_self, not_false_eq_true]

/-- One read: an error inside the message stops the bridge exactly on sockets
that do not interrupt the message otherwise. -/
theorem read_stops_iff (s : Socket) :
    (∀ e, (readUsbipMessageBlocking s).1 = .error e →
      (unread (readUsbipMessageBlocking s).2).length < (unread s).length →
        onReadError e.display = .stop) ↔ Uninterrupted s := by
  cases got : readExact IoError.fillBuffer UsbIpHeader.size s with
  | mk result t =>
  have less := read_exact_le IoError.fillBuffer UsbIpHeader.size s
  rw [got] at less
  cases result with
  | error e =>
      have failed : readUsbipMessageBlocking s = (.error (.header e), t) := by
        rw [readUsbipMessageBlocking, got]
      rw [failed, Uninterrupted, got]
      simp only [Except.error.injEq, forall_eq']
      constructor
      · intro stops
        by_cases same : (unread t).length = (unread s).length
        · exact .inl same
        · exact .inr (stops (Nat.lt_of_le_of_ne less same))
      · rintro (same | stops) taken
        · exact absurd same (Nat.ne_of_lt taken)
        · exact stops
  | ok buf =>
      obtain ⟨split, len⟩ := read_exact_ok got
      obtain ⟨header, parsed⟩ := UsbIpHeader.sized.exact len
      -- the whole header has been taken, so every error comes inside the message
      have taken : (unread (readAfterHeader header t).2).length < (unread s).length := by
        refine (read_after_header_le header t).trans_lt ?_
        rw [split, List.length_append, len]
        exact Nat.lt_add_of_pos_left (by decide)
      rw [read_after_header got parsed, Uninterrupted, got]
      simp only [taken, true_imp_iff, parsed, Except.ok.injEq, Prod.mk.injEq, and_true,
        exists_eq_left']
      exact after_header_stops_iff header t

theorem round_stops_iff {s t : ReadLoop} {a : Unit} {out : List UsbIpMessage}
    (step : runBlocking.step s a = some (t, out)) :
    (FailedInside s t → t.running = false ∧ ∀ b, runBlocking.step t b = none) ↔
      Uninterrupted s.socket := by
  have halts : t.running = false → ∀ b, runBlocking.step t b = none := by
    intro stopped b
    simp only [runBlocking, stopped, Bool.false_eq_true, if_false]
  rw [← read_stops_iff]
  simp only [runBlocking] at step
  split at step
  case isFalse => cases step
  split at step
  case h_1 message socket read =>
    cases step
    rw [read]
    refine iff_of_true ?_ fun e failed => nomatch failed
    rintro ⟨⟨e, failed⟩, -⟩
    rw [read] at failed
    cases failed
  case h_2 e socket read =>
    cases step
    rw [read]
    constructor
    · intro stops e' same taken
      cases same
      have stopped := (stops ⟨⟨e, by rw [read]⟩, taken⟩).1
      cases action : onReadError e.display with
      | stop => rfl
      | retry =>
          rw [action] at stopped
          cases stopped
    · rintro stops ⟨-, taken⟩
      have stopped : decide (onReadError e.display = .retry) = false := by
        rw [stops e rfl taken]
        rfl
      exact ⟨stopped, halts stopped⟩

/-- In every run of the loop, a read that fails inside a message ends the
bridge before another header is read, if and only if every message that the
loop starts on is uninterrupted. -/
theorem run_blocking_synchronised (s : ReadLoop) (as : List Unit) :
    runBlocking.EveryStep (fun s _ t _ => FailedInside s t →
        t.running = false ∧ ∀ b, runBlocking.step t b = none) s as ↔
      runBlocking.EveryStep (fun s _ _ _ => Uninterrupted s.socket) s as :=
  Machine.everyStep_congr (I := fun _ => True) (fun _ _ _ _ _ step => round_stops_iff step)
    (fun _ _ _ _ _ _ _ => trivial) trivial as

def readTimeout : IoError := ⟨.other, "Resource temporarily unavailable (os error 11)"⟩

theorem read_timeout_retries : onReadError (ReadError.header readTimeout).display = .retry := by
  decide +kernel

def headerFront : List UInt8 := [0, 0, 0, 1, 0, 0, 0, 7, 0, 0]
def headerBack : List UInt8 := [0, 1, 0, 0, 0, 0, 0, 0, 0, 2]

/-- The read timeout expires when ten bytes of a CMD_SUBMIT header have come. -/
def lateHeader : Socket :=
  [.chunk headerFront, .failed readTimeout, .chunk (headerBack ++ List.replicate 28 0)]

theorem late_header_resumed_inside : ∃ t, runBlocking.step ⟨lateHeader, true⟩ () = some (t, []) ∧
    FailedInside ⟨lateHeader, true⟩ t ∧ t.running = true ∧
    unread t.socket = headerBack ++ List.replicate 28 0 ∧ runBlocking.step t () ≠ none := by
  have read : readUsbipMessageBlocking lateHeader =
      (.error (.header readTimeout), [.chunk (headerBack ++ List.replicate 28 0)]) := rfl
  refine ⟨⟨[.chunk (headerBack ++ List.replicate 28 0)], true⟩, ?_, ⟨⟨_, by rw [read]⟩, ?_⟩, rfl,
    rfl, ?_⟩
  · simp only [runBlocking, if_true, read, read_timeout_retries, decide_true]
  · simp [unread, lateHeader, headerFront, Arrival.bytes]
  · simp only [runBlocking, if_true]
    split <;> exact Option.some_ne_none _

end P2pUsb
