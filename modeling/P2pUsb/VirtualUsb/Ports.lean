import P2pUsb.Library.Bitmap
import P2pUsb.Protocol.Types

/-! The ports of the virtual host controller: eight for USB 2.0 and below, eight for
USB 3.0 and above, and what the kernel's status file says about them. -/
namespace P2pUsb

def isSuperspeedPort (port : Nat) : Bool := port ≥ 8 && port < 16

def isHighSpeedPort (port : Nat) : Bool := port < 8

def portRangeForSpeed : DeviceSpeed → Nat × Nat
  | .low | .full | .high => (0, 7)
  | .super | .superPlus => (8, 15)

/-- The two bitmaps; a set bit is a port in use. -/
structure Ports where
  hs : BitVec 8
  ss : BitVec 8
  deriving DecidableEq, Repr

namespace Ports

def empty : Ports := ⟨0, 0⟩

def used (ports : Ports) (port : Nat) : Bool :=
  if isHighSpeedPort port then ports.hs.getLsbD port
  else if isSuperspeedPort port then ports.ss.getLsbD (port - 8)
  else false

def mark (ports : Ports) (port : Nat) : Ports :=
  if isHighSpeedPort port then { ports with hs := Bitmap.mark ports.hs port }
  else if isSuperspeedPort port then { ports with ss := Bitmap.mark ports.ss (port - 8) }
  else ports

def freePort (ports : Ports) (port : Nat) : Ports :=
  if isHighSpeedPort port then { ports with hs := Bitmap.clear ports.hs port }
  else if isSuperspeedPort port then { ports with ss := Bitmap.clear ports.ss (port - 8) }
  else ports

def noHighSpeedPort : String :=
  "No available high-speed VHCI ports (all 8 USB 2.0 ports in use, detach a device to free a port)"

def noSuperSpeedPort : String :=
  "No available super-speed VHCI ports (all 8 USB 3.0+ ports in use, detach a device to free a port)"

/-- The part of `allocate_port` under the lock of the bitmap, with the status of the
kernel read before. -/
def allocatePort (ports : Ports) (kernel : Ports) : DeviceSpeed → Except String Nat × Ports
  | .low | .full | .high =>
      match Bitmap.claim ports.hs kernel.hs with
      | (none, hs) => (.error noHighSpeedPort, { ports with hs })
      | (some freeBit, hs) => (.ok freeBit, { ports with hs })
  | .super | .superPlus =>
      match Bitmap.claim ports.ss kernel.ss with
      | (none, ss) => (.error noSuperSpeedPort, { ports with ss })
      | (some freeBit, ss) => (.ok (freeBit + 8), { ports with ss })

end Ports

/-! ### The status file -/

def splitWhitespace (line : List Char) : List (List Char) :=
  (line.splitOnP isWhiteSpace).filter (· ≠ [])

/-- `str::parse` for an unsigned type with the given largest value. -/
def parseUnsigned (max : Nat) (text : List Char) : Option Nat :=
  let digits := match text with
    | '+' :: digits => digits
    | digits => digits
  if digits ≠ [] ∧ digits.all Char.isDigit then
    let value := digits.foldl (fun n c => n * 10 + (c.toNat - '0'.toNat)) 0
    if value ≤ max then some value else none
  else none

/-- The port that a line of the status file reports in use. -/
def reportedPort (line : List Char) : Option Nat :=
  match splitWhitespace line with
  | hubType :: portStr :: statusStr :: _ =>
      (parseUnsigned 255 portStr).bind fun port =>
        let inUse := (parseUnsigned 65535 statusStr).getD 0 ≠ 4
        if inUse ∧ (hubType = ['h', 's'] ∧ port < 8 ∨
            hubType = ['s', 's'] ∧ 8 ≤ port ∧ port < 16) then some port
        else none
  | _ => none

/-- The lines after the header. `lines` would leave out an empty last line, which
has no parts. -/
def statusLines (content : String) : List (List Char) :=
  (content.toList.splitOn '\n').drop 1

def readKernelPortStatus (content : String) : Ports :=
  (statusLines content).foldl
    (fun ports line => (reportedPort line).elim ports ports.mark) .empty

namespace Ports
variable {ports kernel q : Ports} {speed : DeviceSpeed} {port p : Nat}

/-- The ports that a device of this speed can get. -/
def InRange (speed : DeviceSpeed) (p : Nat) : Prop :=
  (portRangeForSpeed speed).1 ≤ p ∧ p ≤ (portRangeForSpeed speed).2

instance (speed : DeviceSpeed) (p : Nat) : Decidable (InRange speed p) :=
  inferInstanceAs (Decidable (_ ∧ _))

theorem not_high (bit : Nat) : isHighSpeedPort (bit + 8) = false := by
  simp [isHighSpeedPort]

theorem is_super (h : p < 8) : isSuperspeedPort (p + 8) = true := by
  simp [isSuperspeedPort, show p + 8 < 16 by omega]

theorem used_high (h : p < 8) : ports.used p = ports.hs.getLsbD p := by
  rw [used, isHighSpeedPort, decide_eq_true h, if_pos rfl]

theorem used_super (h : p < 8) : ports.used (p + 8) = ports.ss.getLsbD p := by
  rw [used, not_high, is_super h, if_neg Bool.false_ne_true, if_pos rfl, Nat.add_sub_cancel]

theorem free_high (h : p < 8) :
    ports.freePort p = { ports with hs := Bitmap.clear ports.hs p } := by
  rw [freePort, isHighSpeedPort, decide_eq_true h, if_pos rfl]

theorem free_super (h : p < 8) :
    ports.freePort (p + 8) = { ports with ss := Bitmap.clear ports.ss p } := by
  rw [freePort, not_high, is_super h, if_neg Bool.false_ne_true, if_pos rfl, Nat.add_sub_cancel]

theorem used_lt (h : ports.used p = true) : p < 16 := by
  simp only [used, isHighSpeedPort, isSuperspeedPort, decide_eq_true_eq, Bool.and_eq_true] at h
  split at h
  · omega
  · split at h
    · omega
    · cases h

/-- A port belongs to one of the two bitmaps or to none. -/
theorem port_cases (p : Nat) : p < 8 ∨ (∃ bit, bit < 8 ∧ p = bit + 8) ∨ 16 ≤ p := by
  by_cases low : p < 8
  · exact .inl low
  · by_cases high : p < 16
    · exact .inr (.inl ⟨p - 8, by omega, by omega⟩)
    · exact .inr (.inr (Nat.not_lt.mp high))

theorem not_used (h : 16 ≤ p) : ports.used p = false := by
  rw [Bool.eq_false_iff]
  exact fun used => absurd (used_lt used) (Nat.not_lt.mpr h)

theorem in_range_low (h : p < 8) : InRange speed p ↔ portRangeForSpeed speed = (0, 7) := by
  cases speed <;> simp [InRange, portRangeForSpeed] <;> omega

theorem in_range_high (h : p < 8) : InRange speed (p + 8) ↔ portRangeForSpeed speed = (8, 15) := by
  cases speed <;> simp [InRange, portRangeForSpeed] <;> omega

theorem in_range_lt (h : InRange speed p) : p < 16 := by
  cases speed <;> simp only [InRange, portRangeForSpeed] at h <;> omega

theorem used_free : (ports.freePort port).used p = true ↔ ports.used p = true ∧ p ≠ port := by
  rcases port_cases port with low | ⟨bit, small, rfl⟩ | out
  · rcases port_cases p with low' | ⟨bit', small', rfl⟩ | out'
    · simp only [free_high low, used_high low', Bitmap.get_clear, Bool.and_eq_true,
        decide_eq_true_eq]
    · simp only [free_high low, used_super small']
      exact (and_iff_left (by omega)).symm
    · simp only [not_used out', Bool.false_eq_true, false_and]
  · rcases port_cases p with low' | ⟨bit', small', rfl⟩ | out'
    · simp only [free_super small, used_high low']
      exact (and_iff_left (by omega)).symm
    · simp only [free_super small, used_super small', Bitmap.get_clear, Bool.and_eq_true,
        decide_eq_true_eq, ne_eq, Nat.add_right_cancel_iff]
    · simp only [not_used out', Bool.false_eq_true, false_and]
  · have kept : ports.freePort port = ports := by
      rw [freePort, isHighSpeedPort, isSuperspeedPort, if_neg, if_neg]
      · simp only [Bool.and_eq_true, decide_eq_true_eq]
        omega
      · simp only [decide_eq_true_eq]
        omega
    rw [kept]
    refine ⟨fun h => ⟨h, fun same => ?_⟩, And.left⟩
    exact absurd (used_lt h) (by omega)

/-- The bit of a port after the status of the kernel has been merged for a speed. -/
def Merged (ports kernel : Ports) (speed : DeviceSpeed) (p : Nat) : Prop :=
  ports.used p = true ∨ InRange speed p ∧ kernel.used p = true

/-- The speed decides between two bitmaps, and nothing else. -/
theorem range_cases (speed : DeviceSpeed) :
    (portRangeForSpeed speed = (0, 7) ∧ ∀ ports kernel : Ports,
      ports.allocatePort kernel speed = ports.allocatePort kernel .low) ∨
    (portRangeForSpeed speed = (8, 15) ∧ ∀ ports kernel : Ports,
      ports.allocatePort kernel speed = ports.allocatePort kernel .super) := by
  cases speed with
  | low | full | high => exact .inl ⟨rfl, fun _ _ => rfl⟩
  | super | superPlus => exact .inr ⟨rfl, fun _ _ => rfl⟩

theorem not_in_range_high (low : portRangeForSpeed speed = (0, 7)) (h : p < 8) :
    ¬ InRange speed (p + 8) := by
  rw [in_range_high h, low]
  decide

theorem not_in_range_low (high : portRangeForSpeed speed = (8, 15)) (h : p < 8) :
    ¬ InRange speed p := by
  rw [in_range_low h, high]
  decide

/-- A port that is given out was free on both sides. -/
theorem allocate_ok (h : ports.allocatePort kernel speed = (.ok port, q)) :
    InRange speed port ∧ ports.used port = false ∧ kernel.used port = false ∧
      ∀ p, q.used p = true ↔ ports.Merged kernel speed p ∨ p = port := by
  rcases range_cases speed with ⟨low, same⟩ | ⟨high, same⟩
  · rw [same, allocatePort] at h
    split at h <;> cases h
    rename_i hs found
    obtain ⟨small, clear, free, bits⟩ := Bitmap.claim_some found
    refine ⟨(in_range_low small).mpr low, by rwa [used_high small], by rwa [used_high small],
      fun p => ?_⟩
    rcases port_cases p with low' | ⟨bit', small', rfl⟩ | out'
    · simp only [Merged, used_high low', (in_range_low low').mpr low, true_and, bits p low']
    · simp only [Merged, used_super small', not_in_range_high low small', false_and, or_false,
        show ¬ bit' + 8 = port by omega]
    · simp only [Merged, not_used out', Bool.false_eq_true, and_false, or_false,
        show ¬ p = port by omega]
  · rw [same, allocatePort] at h
    split at h <;> cases h
    rename_i bit ss found
    obtain ⟨small, clear, free, bits⟩ := Bitmap.claim_some found
    refine ⟨(in_range_high small).mpr high, by rwa [used_super small], by rwa [used_super small],
      fun p => ?_⟩
    rcases port_cases p with low' | ⟨bit', small', rfl⟩ | out'
    · simp only [Merged, used_high low', not_in_range_low high low', false_and, or_false,
        show ¬ p = bit + 8 by omega]
    · simp only [Merged, used_super small', (in_range_high small').mpr high, true_and,
        bits bit' small', Nat.add_right_cancel_iff]
    · simp only [Merged, not_used out', Bool.false_eq_true, and_false, or_false,
        show ¬ p = bit + 8 by omega]

theorem allocate_error {text : String} (h : ports.allocatePort kernel speed = (.error text, q)) :
    (∀ p, InRange speed p → ports.used p = true ∨ kernel.used p = true) ∧
      ∀ p, q.used p = true ↔ ports.Merged kernel speed p := by
  rcases range_cases speed with ⟨low, same⟩ | ⟨high, same⟩
  · rw [same, allocatePort] at h
    split at h <;> cases h
    rename_i hs found
    obtain ⟨full, bits⟩ := Bitmap.claim_none found
    refine ⟨fun p inside => ?_, fun p => ?_⟩
    · rcases port_cases p with low' | ⟨bit', small', rfl⟩ | out'
      · simpa only [used_high low'] using full p low'
      · exact absurd inside (not_in_range_high low small')
      · exact absurd (in_range_lt inside) (Nat.not_lt.mpr out')
    · rcases port_cases p with low' | ⟨bit', small', rfl⟩ | out'
      · simp only [Merged, used_high low', (in_range_low low').mpr low, true_and, bits p]
      · simp only [Merged, used_super small', not_in_range_high low small', false_and, or_false]
      · simp only [Merged, not_used out', Bool.false_eq_true, and_false, or_false]
  · rw [same, allocatePort] at h
    split at h <;> cases h
    rename_i ss found
    obtain ⟨full, bits⟩ := Bitmap.claim_none found
    refine ⟨fun p inside => ?_, fun p => ?_⟩
    · rcases port_cases p with low' | ⟨bit', small', rfl⟩ | out'
      · exact absurd inside (not_in_range_low high low')
      · simpa only [used_super small'] using full bit' small'
      · exact absurd (in_range_lt inside) (Nat.not_lt.mpr out')
    · rcases port_cases p with low' | ⟨bit', small', rfl⟩ | out'
      · simp only [Merged, used_high low', not_in_range_low high low', false_and, or_false]
      · simp only [Merged, used_super small', (in_range_high small').mpr high, true_and, bits bit']
      · simp only [Merged, not_used out', Bool.false_eq_true, and_false, or_false]

example : readKernelPortStatus ("hub port sta spd dev      sockfd local_busid\n" ++
    "hs  0000 006 002 00010002 000003 1-1\n" ++ "hs  0001 004 000 00000000 000000 0-0\n" ++
    "ss  0009 006 005 00010003 000004 2-1\n") = ⟨0b00000001, 0b00000010⟩ := by
  decide +kernel

end Ports
end P2pUsb
