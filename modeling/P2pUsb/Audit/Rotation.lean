import P2pUsb.Library.FiniteMap
import P2pUsb.Library.Machine

/-! The writer of the audit log and the rotation of its files. The directory of the log is
kept as a map from file names to contents, and every operation on it succeeds. An entry is the
line that is written for it. -/
namespace P2pUsb

abbrev LogLine := List UInt8

/-- The files of one directory. -/
abbrev LogDirectory := AList fun _ : String => List UInt8

/-- `std::fs::rename` -/
def LogDirectory.rename (directory : LogDirectory) (old new : String) : LogDirectory :=
  match directory.lookup old with
  | none => directory
  | some log => (directory.erase old).insert new log

/-- The fields that the writer reads; `path` is the file name. -/
structure AuditConfig where
  path : String
  maxSizeMb : Option Nat
  maxEntries : Option Nat
  maxFiles : Option Nat

inductive AuditMessage where
  | log (entry : LogLine)
  | rotate

structure AuditWriter where
  config : AuditConfig
  file : Bool
  entriesWritten : Nat
  currentFileSize : Nat
  directory : LogDirectory

def rotatedPath (base : String) (index : Nat) : String := base ++ "." ++ Nat.repr index

namespace AuditWriter

def new (config : AuditConfig) (directory : LogDirectory) : AuditWriter where
  config := config
  file := false
  entriesWritten := 0
  currentFileSize := 0
  directory := directory

def path (w : AuditWriter) : String := w.config.path

def maxFiles (w : AuditWriter) : Nat := w.config.maxFiles.getD 5

/-- The log as it is on disk. -/
def logOnDisk (w : AuditWriter) : Option (List UInt8) := w.directory.lookup w.path

/-- Opened to append, and created where it is not there. -/
def openFile (w : AuditWriter) : AuditWriter :=
  { w with
    directory := if w.path ∈ w.directory then w.directory else w.directory.insert w.path []
    currentFileSize := (w.logOnDisk.getD []).length
    file := true
    entriesWritten := 0 }

def shouldRotate (w : AuditWriter) : Bool :=
  (w.config.maxSizeMb.any fun maxSize => decide (w.currentFileSize ≥ maxSize * 1024 * 1024)) ||
    w.config.maxEntries.any fun maxEntries => decide (w.entriesWritten ≥ maxEntries)

/-- One pass of the loop of `rotate`. -/
def shift (path : String) (maxFiles : Nat) (directory : LogDirectory) (i : Nat) : LogDirectory :=
  let oldPath := rotatedPath path i
  let newPath := rotatedPath path (i + 1)
  if oldPath ∈ directory then
    if i + 1 ≥ maxFiles then directory.erase oldPath
    else LogDirectory.rename directory oldPath newPath
  else directory

/-- The loop over `(1..max_files).rev()`. -/
def shiftAll (path : String) (maxFiles : Nat) (directory : LogDirectory) : LogDirectory :=
  (List.range' 1 (maxFiles - 1)).reverse.foldl (shift path maxFiles) directory

/-- The files of `rotate` before it opens the log again. -/
def rotateFiles (path : String) (maxFiles : Nat) (directory : LogDirectory) : LogDirectory :=
  let directory := shiftAll path maxFiles directory
  if path ∈ directory then LogDirectory.rename directory path (rotatedPath path 1) else directory

def rotate (w : AuditWriter) : AuditWriter :=
  openFile { w with
    file := false
    directory := rotateFiles w.path w.maxFiles w.directory }

/-- The first half of `write_entry`: the line is in the file. -/
def written (w : AuditWriter) (line : LogLine) : AuditWriter :=
  let w := if w.file then w else w.openFile
  { w with
    directory := w.directory.modify w.path (· ++ line)
    entriesWritten := w.entriesWritten + 1
    currentFileSize := w.currentFileSize + line.length }

def writeEntry (w : AuditWriter) (line : LogLine) : AuditWriter :=
  let w := w.written line
  if w.shouldRotate then w.rotate else w

/-- The loop of `run`. A step shows the log that it rotates out. -/
def run : Machine AuditWriter AuditMessage (List UInt8) where
  step w
    | .log line => some (w.writeEntry line,
        if (w.written line).shouldRotate then (w.written line).logOnDisk.toList else [])
    | .rotate => some (w.rotate, w.logOnDisk.toList)

end AuditWriter

/-! ### Names -/

theorem rotated_path_inj (base : String) {i j : Nat} :
    rotatedPath base i = rotatedPath base j ↔ i = j := by
  refine ⟨fun same => ?_, fun same => same ▸ rfl⟩
  have chars := congrArg String.toList same
  simp only [rotatedPath, String.toList_append, Nat.toList_repr] at chars
  have value := congrArg (fun digits => Nat.ofDigitChars 10 digits 0)
    (List.append_cancel_left chars)
  simpa only [Nat.ofDigitChars_ten_toDigits] using value

theorem rotated_path_ne (base : String) (i : Nat) : rotatedPath base i ≠ base := by
  intro same
  have chars := congrArg (fun s => s.toList.length) same
  simp only [rotatedPath, String.toList_append, List.length_append] at chars
  have dot : ".".toList.length = 1 := rfl
  omega

theorem LogDirectory.lookup_rename {directory : LogDirectory} {old new : String} {log : List UInt8}
    (found : directory.lookup old = some log) (j : String) :
    (directory.rename old new).lookup j =
      if j = new then some log else if j = old then none else directory.lookup j := by
  rw [rename, found, AList.lookup_insert_eq, AList.lookup_erase_eq]

namespace AuditWriter
variable {path : String} {maxFiles : Nat} {directory : LogDirectory}

/-! ### What a rotation does to the files -/

/-- One pass moves one log to the next number, or away at the end. -/
theorem lookup_shift (path : String) (maxFiles : Nat) (directory : LogDirectory) (i : Nat)
    (empty : i + 1 < maxFiles → directory.lookup (rotatedPath path (i + 1)) = none) (k : Nat) :
    (shift path maxFiles directory i).lookup (rotatedPath path k) =
      if k = i then none
      else if k = i + 1 ∧ i + 1 < maxFiles then directory.lookup (rotatedPath path i)
      else directory.lookup (rotatedPath path k) := by
  unfold shift
  by_cases present : rotatedPath path i ∈ directory
  · obtain ⟨log, found⟩ := AList.mem_iff.mp present
    rw [if_pos present]
    by_cases last : i + 1 ≥ maxFiles
    · simp [last, AList.lookup_erase_eq, rotated_path_inj, Nat.not_lt.mpr last]
    · have inner : i + 1 < maxFiles := Nat.not_le.mp last
      simp only [last, if_false, LogDirectory.lookup_rename found, rotated_path_inj, inner,
        and_true]
      by_cases own : k = i
      · subst own
        simp
      · simp [own, found]
  · rw [if_neg present]
    have none := AList.lookup_eq_none.mpr present
    by_cases own : k = i
    · rw [if_pos own, own, none]
    · rw [if_neg own]
      split
      case isTrue next => rw [next.1, empty next.2, none]
      case isFalse => rfl

/-- The loop down to `j`: the logs from `j` on stand one number higher. -/
theorem lookup_shift_from (path : String) (directory : LogDirectory) (n j : Nat) (k : Nat) :
    ((List.range' j n).reverse.foldl (shift path (j + n)) directory).lookup (rotatedPath path k) =
      if k < j ∨ j + n ≤ k then directory.lookup (rotatedPath path k)
      else if k = j then none
      else directory.lookup (rotatedPath path (k - 1)) := by
  induction n generalizing j k with
  | zero =>
      rw [if_pos (by omega)]
      rfl
  | succ n ih =>
      have bound : j + (n + 1) = j + 1 + n := by omega
      rw [List.range'_succ, List.reverse_cons, List.foldl_append, bound, List.foldl_cons,
        List.foldl_nil, lookup_shift]
      · rw [ih, ih]
        by_cases own : k = j
        · rw [if_pos own, if_neg (by omega), if_pos own]
        · rw [if_neg own]
          split
          case isTrue next =>
            obtain ⟨rfl, inner⟩ := next
            rw [if_pos (by omega), if_neg (by omega), Nat.add_sub_cancel]
          case isFalse other =>
            by_cases outer : k < j ∨ j + 1 + n ≤ k
            · rw [if_pos outer, if_pos (by omega)]
            · rw [if_neg outer, if_neg (by omega), if_neg (by omega)]
      · intro inner
        rw [ih, if_neg (by omega), if_pos rfl]

theorem lookup_shift_all (path : String) (maxFiles : Nat) (directory : LogDirectory) {k : Nat}
    (positive : 1 ≤ k) : (shiftAll path maxFiles directory).lookup (rotatedPath path k) =
      if maxFiles ≤ k then directory.lookup (rotatedPath path k)
      else if k = 1 then none
      else directory.lookup (rotatedPath path (k - 1)) := by
  unfold shiftAll
  by_cases none : maxFiles = 0
  · rw [none, if_pos (Nat.zero_le k)]
    rfl
  · have loop := lookup_shift_from path directory (maxFiles - 1) 1 k
    rw [show 1 + (maxFiles - 1) = maxFiles by omega] at loop
    rw [loop]
    simp only [Nat.lt_one_iff, Nat.ne_of_gt positive, false_or]

/-- The loop leaves the log itself alone. -/
theorem lookup_shift_log (path : String) (maxFiles : Nat) (directory : LogDirectory) :
    (shiftAll path maxFiles directory).lookup path = directory.lookup path := by
  have each : ∀ (is : List Nat) (directory : LogDirectory),
      (is.foldl (shift path maxFiles) directory).lookup path = directory.lookup path := by
    intro is
    induction is with
    | nil => exact fun _ => rfl
    | cons i is ih =>
        intro directory
        rw [List.foldl_cons, ih]
        unfold shift
        by_cases present : rotatedPath path i ∈ directory
        · obtain ⟨log, found⟩ := AList.mem_iff.mp present
          rw [if_pos present]
          split
          · rw [AList.lookup_erase_eq, if_neg (rotated_path_ne path i).symm]
          · rw [LogDirectory.lookup_rename found, if_neg (rotated_path_ne path (i + 1)).symm,
              if_neg (rotated_path_ne path i).symm]
        · rw [if_neg present]
  exact each _ directory

variable {w : AuditWriter} {line : LogLine}

/-! Opening and writing touch the log only. -/

theorem lookup_open_file (w : AuditWriter) (k : Nat) :
    w.openFile.directory.lookup (rotatedPath w.path k) =
      w.directory.lookup (rotatedPath w.path k) := by
  change (if w.path ∈ w.directory then w.directory else w.directory.insert w.path []).lookup _ = _
  split
  · rfl
  · rw [AList.lookup_insert_eq, if_neg (rotated_path_ne w.path k)]

theorem open_file_log (w : AuditWriter) : w.path ∈ w.openFile.directory := by
  change w.path ∈ if w.path ∈ w.directory then w.directory else w.directory.insert w.path []
  split
  case isTrue present => exact present
  case isFalse => exact (AList.mem_insert _).mpr (.inl rfl)

theorem written_config (w : AuditWriter) (line : LogLine) : (w.written line).config = w.config := by
  unfold written
  split <;> rfl

theorem lookup_written (w : AuditWriter) (line : LogLine) (k : Nat) :
    (w.written line).directory.lookup (rotatedPath w.path k) =
      w.directory.lookup (rotatedPath w.path k) := by
  unfold written
  split
  · rw [AList.lookup_modify_eq, if_neg (rotated_path_ne w.path k)]
  · change (w.openFile.directory.modify w.path (· ++ line)).lookup _ = _
    rw [AList.lookup_modify_eq, if_neg (rotated_path_ne w.path k), w.lookup_open_file]

/-- The rotated logs after a rotation. -/
theorem lookup_rotate_files (path : String) (maxFiles : Nat) (directory : LogDirectory) {k : Nat}
    (positive : 1 ≤ k) : (rotateFiles path maxFiles directory).lookup (rotatedPath path k) =
      if k = 1 ∧ path ∈ directory then directory.lookup path
      else if maxFiles ≤ k then directory.lookup (rotatedPath path k)
      else if k = 1 then none
      else directory.lookup (rotatedPath path (k - 1)) := by
  have shifted := lookup_shift_all path maxFiles directory positive
  have log := lookup_shift_log path maxFiles directory
  have present : path ∈ shiftAll path maxFiles directory ↔ path ∈ directory := by
    rw [← AList.lookup_isSome, log, AList.lookup_isSome]
  unfold rotateFiles
  by_cases there : path ∈ directory
  · obtain ⟨content, found⟩ := AList.mem_iff.mp there
    rw [if_pos (present.mpr there), LogDirectory.lookup_rename (log.trans found)]
    simp only [rotated_path_inj, rotated_path_ne, if_false, there, and_true, shifted, found]
  · rw [if_neg (mt present.mp there), shifted]
    simp only [there, and_false, if_false]

theorem lookup_rotate (w : AuditWriter) (k : Nat) :
    w.rotate.directory.lookup (rotatedPath w.path k) =
      (rotateFiles w.path w.maxFiles w.directory).lookup (rotatedPath w.path k) :=
  lookup_open_file { w with
    file := false
    directory := rotateFiles w.path w.maxFiles w.directory } k

theorem rotate_log (w : AuditWriter) : w.path ∈ w.rotate.directory :=
  open_file_log { w with
    file := false
    directory := rotateFiles w.path w.maxFiles w.directory }

theorem written_log (w : AuditWriter) (line : LogLine) (opened : w.file → w.path ∈ w.directory) :
    w.path ∈ (w.written line).directory := by
  unfold written
  split
  case isTrue file => exact AList.mem_modify.mpr (opened file)
  case isFalse => exact AList.mem_modify.mpr w.open_file_log

/-! ### What is kept over a run -/

/-- As many rotated logs as the loop leaves room for. -/
def kept (maxFiles : Nat) : Nat := max 1 (maxFiles - 1)

/-- The rotated logs on disk are the newest `bound` of them, and the log is there from the first
rotation on. -/
structure Rotated (bound : Nat) (rotated : List (List UInt8)) (w : AuditWriter) : Prop where
  logs : ∀ k, 1 ≤ k → w.directory.lookup (rotatedPath w.path k) =
    if k ≤ min rotated.length bound then rotated.reverse[k - 1]? else none
  opened : w.file → w.path ∈ w.directory
  started : rotated ≠ [] → w.path ∈ w.directory

namespace Rotated
variable {rotated : List (List UInt8)} {bound : Nat}

theorem written (h : Rotated bound rotated w) (line : LogLine) :
    Rotated bound rotated (w.written line) where
  logs := by
    intro k positive
    have same := (w.lookup_written line k).trans (h.logs k positive)
    rwa [path, w.written_config line]
  opened := by
    intro _
    rw [path, w.written_config line]
    exact w.written_log line h.opened
  started := by
    intro _
    rw [path, w.written_config line]
    exact w.written_log line h.opened

theorem rotate (h : Rotated (kept w.maxFiles) rotated w) :
    Rotated (kept w.maxFiles) (rotated ++ w.logOnDisk.toList) w.rotate where
  logs := by
    intro k positive
    refine (w.lookup_rotate k).trans ((lookup_rotate_files _ _ _ positive).trans ?_)
    by_cases there : w.path ∈ w.directory
    · obtain ⟨content, found⟩ := AList.mem_iff.mp there
      have newest : (rotated ++ w.logOnDisk.toList).reverse = content :: rotated.reverse := by
        simp [logOnDisk, found]
      have count : (rotated ++ w.logOnDisk.toList).length = rotated.length + 1 := by
        simp [logOnDisk, found]
      have room : kept w.maxFiles = max 1 (w.maxFiles - 1) := rfl
      change _ = if k ≤ min (rotated ++ w.logOnDisk.toList).length _ then
        (rotated ++ w.logOnDisk.toList).reverse[k - 1]? else none
      rw [newest, count]
      by_cases first : k = 1
      · subst first
        rw [if_pos ⟨rfl, there⟩, if_pos (by omega), found]
        rfl
      · rw [if_neg (fun both => first both.1), if_neg first]
        by_cases last : w.maxFiles ≤ k
        · rw [if_pos last, h.logs k positive, if_neg (by omega), if_neg (by omega)]
        · obtain ⟨j, rfl⟩ : ∃ j, k = j + 2 := ⟨k - 2, by omega⟩
          have before := h.logs (j + 1) (Nat.succ_pos j)
          rw [if_neg last]
          exact before.trans (if_congr (by omega) rfl rfl)
    · obtain rfl : rotated = [] := by
        by_contra some
        exact there (h.started some)
      have silent : ∀ j, 1 ≤ j → w.directory.lookup (rotatedPath w.path j) = none := by
        intro j one
        rw [h.logs j one, if_neg (by simp; omega)]
      have nothing : w.logOnDisk = none := AList.lookup_eq_none.mpr there
      have none : (if k ≤ min ([] ++ w.logOnDisk.toList).length (kept w.rotate.maxFiles) then
          ([] ++ w.logOnDisk.toList).reverse[k - 1]? else none) = none := by
        rw [nothing, if_neg (by simp; omega)]
      refine Eq.trans ?_ none.symm
      rw [if_neg fun both => there both.2]
      split
      · exact silent k positive
      split
      · rfl
      · exact silent (k - 1) (by omega)
  opened := fun _ => w.rotate_log
  started := fun _ => w.rotate_log

end Rotated

/-- `Rotated` over a run; the configuration stays. -/
theorem reach_rotated {config : AuditConfig} {directory : LogDirectory}
    (clean : ∀ k, 1 ≤ k → rotatedPath config.path k ∉ directory) {rotated : List (List UInt8)}
    {w : AuditWriter} (reach : run.Reach (new config directory) rotated w) :
    w.config = config ∧ Rotated (kept (config.maxFiles.getD 5)) rotated w := by
  refine reach.invariant (I := fun rotated w =>
    w.config = config ∧ Rotated (kept (config.maxFiles.getD 5)) rotated w) ⟨rfl, ?_⟩ ?_
  · refine ⟨fun k positive => ?_, fun file => (Bool.false_ne_true file).elim,
      fun some => (some rfl).elim⟩
    rw [if_neg (by simp; omega)]
    exact AList.lookup_eq_none.mpr (clean k positive)
  · rintro tr w message next out ⟨same, h⟩ - step
    have files : w.maxFiles = config.maxFiles.getD 5 := by rw [maxFiles, same]
    cases message with
    | rotate =>
        obtain ⟨rfl, rfl⟩ := Prod.mk.inj (Option.some.inj step)
        exact ⟨same, files ▸ Rotated.rotate (files.symm ▸ h)⟩
    | log line =>
        obtain ⟨rfl, rfl⟩ := Prod.mk.inj (Option.some.inj step)
        have same := (w.written_config line).trans same
        have files : (w.written line).maxFiles = config.maxFiles.getD 5 := by rw [maxFiles, same]
        have h := h.written line
        unfold writeEntry
        by_cases full : (w.written line).shouldRotate
        · simp only [full, if_true]
          exact ⟨same, files ▸ Rotated.rotate (files.symm ▸ h)⟩
        · simp only [full, if_false, List.append_nil, Bool.false_eq_true]
          exact ⟨same, h⟩

/-- The rotated logs on disk are the newest ones, `m` of them at most, and one is missing only
where `m` others are there. -/
structure KeepsNewest (m : Nat) (rotated : List (List UInt8)) (w : AuditWriter) : Prop where
  newest : ∀ k, 1 ≤ k → w.directory.lookup (rotatedPath w.path k) =
    if k ≤ min rotated.length m then rotated.reverse[k - 1]? else none
  deleted : ∀ k, 1 ≤ k → k ≤ rotated.length → rotatedPath w.path k ∉ w.directory →
    ∀ j, 1 ≤ j → j ≤ m → rotatedPath w.path j ∈ w.directory

theorem on_disk_iff {rotated : List (List UInt8)} {bound k : Nat}
    (logs : w.directory.lookup (rotatedPath w.path k) =
      if k ≤ min rotated.length bound then rotated.reverse[k - 1]? else none) :
    1 ≤ k → (rotatedPath w.path k ∈ w.directory ↔ k ≤ min rotated.length bound) := by
  intro positive
  rw [← AList.lookup_isSome, logs]
  split
  case isTrue inside =>
    have short : k - 1 < rotated.reverse.length := by
      rw [List.length_reverse]
      omega
    rw [List.getElem?_eq_getElem short]
    exact iff_of_true rfl inside
  case isFalse outside => exact iff_of_false Bool.false_ne_true outside

/-- The loop deletes one log too many: `max_files` are kept only where that is one, or where
fewer logs were rotated. -/
theorem rotation_keeps_newest_iff (config : AuditConfig) (directory : LogDirectory)
    (clean : ∀ k, 1 ≤ k → rotatedPath config.path k ∉ directory) (rotated : List (List UInt8))
    (w : AuditWriter) (reach : run.Reach (new config directory) rotated w) :
    KeepsNewest (config.maxFiles.getD 5) rotated w ↔
      rotated.length < config.maxFiles.getD 5 ∨ rotated = [] ∨ config.maxFiles.getD 5 = 1 := by
  obtain ⟨-, h⟩ := reach_rotated clean reach
  generalize config.maxFiles.getD 5 = m at h
  have room : kept m = max 1 (m - 1) := rfl
  have there := fun k positive => on_disk_iff (k := k) (h.logs k positive) positive
  constructor
  · intro keeps
    by_contra missed
    have some : rotated.length ≠ 0 := fun none =>
      missed (.inr (.inl (List.length_eq_zero_iff.mp none)))
    have several : m ≠ 1 := fun one => missed (.inr (.inr one))
    have many : m ≤ rotated.length := Nat.not_lt.mp fun few => missed (.inl few)
    have counted := fun k positive => on_disk_iff (k := k) (keeps.newest k positive) positive
    -- for no file at all `.1` is there, otherwise `.m` is not
    by_cases none : m = 0
    · have extra := (counted 1 le_rfl).mp ((there 1 le_rfl).mpr (by omega))
      omega
    · have lost := (there m (by omega)).mp ((counted m (by omega)).mpr (by omega))
      omega
  · intro condition
    have bounds : min rotated.length (kept m) = min rotated.length m := by
      rcases condition with few | none | one
      · omega
      · rw [none]
        simp
      · omega
    refine ⟨fun k positive => ?_, fun k positive old gone j one inside => ?_⟩
    · rw [h.logs k positive, bounds]
    · have gone := mt (there k positive).mpr gone
      exact (there j one).mpr (by omega)

/-- Two files to keep, and a rotation after each entry. -/
def twoFiles : AuditConfig := ⟨"audit.log", none, some 1, some 2⟩

theorem two_rotations_keep_newest_iff :
    KeepsNewest 2 [[1], [2]] (((new twoFiles ∅).writeEntry [1]).writeEntry [2]) ↔
      2 < 2 ∨ [[(1 : UInt8)], [2]] = [] ∨ 2 = 1 :=
  rotation_keeps_newest_iff twoFiles ∅ (fun _ _ => AList.notMem_empty _) _ _
    (.of_run (show run.run _ [.log [1], .log [2]] = some _ from rfl))

/-- The second rotation deletes the first log, the only one that was kept. -/
theorem second_rotation_deletes :
    ¬∀ (config : AuditConfig) (directory : LogDirectory),
      (∀ k, 1 ≤ k → rotatedPath config.path k ∉ directory) →
      ∀ rotated w, run.Reach (new config directory) rotated w →
        KeepsNewest (config.maxFiles.getD 5) rotated w := by
  intro law
  have keeps := law twoFiles ∅ (fun _ _ => AList.notMem_empty _) _ _
    (.of_run (show run.run _ [.log [1], .log [2]] = some _ from rfl))
  have kept := keeps.newest 2 (by decide)
  have gone : (((new twoFiles ∅).writeEntry [1]).writeEntry [2]).directory.lookup "audit.log.2" =
      none := rfl
  exact Option.some_ne_none [1] (kept.symm.trans gone)

end AuditWriter
end P2pUsb
