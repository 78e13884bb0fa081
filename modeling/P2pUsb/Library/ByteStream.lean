import Mathlib.Data.List.Basic
import Mathlib.Data.UInt
import Mathlib.Data.Vector.Defs
import Mathlib.Tactic.Ring

/-! Binary formats: big-endian words, parsers over a buffer, and byte streams
that arrive in pieces and may fail between them. -/

namespace ByteStream

/-- The lowest `w` bytes of a number, the highest of them first. -/
def bigEndian : Nat → Nat → List UInt8
  | 0, _ => []
  | w + 1, v => UInt8.ofNat (v / 256 ^ w) :: bigEndian w v

def fromBigEndian (bs : List UInt8) : Nat :=
  bs.foldl (fun acc b => acc * 256 + b.toNat) 0

@[simp] theorem length_big_endian (w v : Nat) : (bigEndian w v).length = w := by
  induction w with
  | zero => rfl
  | succ w ih => simp [bigEndian, ih]

theorem fold_big_endian (w v acc : Nat) :
    (bigEndian w v).foldl (fun acc b => acc * 256 + b.toNat) acc =
      acc * 256 ^ w + v % 256 ^ w := by
  induction w generalizing acc with
  | zero => simp [bigEndian, Nat.mod_one]
  | succ w ih =>
      have digits : v % 256 ^ (w + 1) = v % 256 ^ w + 256 ^ w * (v / 256 ^ w % 256) :=
        Nat.mod_pow_succ
      have digit : (UInt8.ofNat (v / 256 ^ w)).toNat = v / 256 ^ w % 256 := UInt8.toNat_ofNat'
      rw [bigEndian, List.foldl_cons, ih, digit, digits, pow_succ]
      ring

theorem from_big_endian {w v : Nat} (small : v < 256 ^ w) :
    fromBigEndian (bigEndian w v) = v := by
  simp [fromBigEndian, fold_big_endian, Nat.mod_eq_of_lt small]

/-- Only the lowest `w` bytes count. -/
theorem big_endian_add (w k v : Nat) : bigEndian w (v + k * 256 ^ w) = bigEndian w v := by
  induction w generalizing k with
  | zero => rfl
  | succ w ih =>
      have shifted : v + k * 256 ^ (w + 1) = v + k * 256 * 256 ^ w := by ring
      have digit : (v + k * 256 * 256 ^ w) / 256 ^ w = v / 256 ^ w + k * 256 :=
        Nat.add_mul_div_right v (k * 256) (Nat.pow_pos (by decide))
      have same : UInt8.ofNat (v / 256 ^ w + k * 256) = UInt8.ofNat (v / 256 ^ w) := by
        apply UInt8.toNat_inj.mp
        simp only [UInt8.toNat_ofNat']
        omega
      rw [bigEndian, bigEndian, shifted, digit, same, ih]

theorem fold_from (bs : List UInt8) (acc : Nat) :
    bs.foldl (fun acc b => acc * 256 + b.toNat) acc =
      acc * 256 ^ bs.length + fromBigEndian bs := by
  induction bs generalizing acc with
  | nil => simp [fromBigEndian]
  | cons b bs ih =>
      rw [fromBigEndian, List.foldl_cons, List.foldl_cons, ih, ih, List.length_cons, pow_succ]
      ring

theorem from_big_endian_cons (b : UInt8) (bs : List UInt8) :
    fromBigEndian (b :: bs) = fromBigEndian bs + b.toNat * 256 ^ bs.length := by
  rw [fromBigEndian, List.foldl_cons, fold_from, Nat.zero_mul, Nat.zero_add, Nat.add_comm]

theorem from_big_endian_lt (bs : List UInt8) : fromBigEndian bs < 256 ^ bs.length := by
  induction bs with
  | nil => exact Nat.one_pos
  | cons b bs ih =>
      have digit : b.toNat + 1 ≤ 256 := b.toNat_lt
      rw [from_big_endian_cons, List.length_cons, pow_succ]
      calc fromBigEndian bs + b.toNat * 256 ^ bs.length
          < 256 ^ bs.length + b.toNat * 256 ^ bs.length := Nat.add_lt_add_right ih _
        _ = (b.toNat + 1) * 256 ^ bs.length := by ring
        _ ≤ 256 * 256 ^ bs.length := Nat.mul_le_mul_right _ digit
        _ = 256 ^ bs.length * 256 := Nat.mul_comm _ _

theorem big_endian_from (bs : List UInt8) : bigEndian bs.length (fromBigEndian bs) = bs := by
  induction bs with
  | nil => rfl
  | cons b bs ih =>
      have digit : (fromBigEndian bs + b.toNat * 256 ^ bs.length) / 256 ^ bs.length = b.toNat := by
        rw [Nat.add_mul_div_right _ _ (Nat.pow_pos (by decide)),
          Nat.div_eq_of_lt (from_big_endian_lt bs), Nat.zero_add]
      rw [List.length_cons, bigEndian, from_big_endian_cons, digit, big_endian_add, ih,
        UInt8.ofNat_toNat]

def writeU32 (v : UInt32) : List UInt8 := bigEndian 4 v.toNat

@[simp] theorem length_write_u32 (v : UInt32) : (writeU32 v).length = 4 :=
  length_big_endian 4 v.toNat

theorem read_write_u32 (v : UInt32) : UInt32.ofNat (fromBigEndian (writeU32 v)) = v := by
  have small : v.toNat < 256 ^ 4 := v.toNat_lt
  rw [writeU32, from_big_endian small, UInt32.ofNat_toNat]

theorem write_read_u32 {bs : List UInt8} (len : bs.length = 4) :
    writeU32 (UInt32.ofNat (fromBigEndian bs)) = bs := by
  have small : fromBigEndian bs < 256 ^ 4 := len ▸ from_big_endian_lt bs
  have whole := big_endian_from bs
  rw [len] at whole
  have kept : fromBigEndian bs % 2 ^ 32 = fromBigEndian bs := Nat.mod_eq_of_lt small
  rw [writeU32, UInt32.toNat_ofNat', kept, whole]

/-! ### Parsers -/

/-- A parser takes its value off the front of a buffer. -/
abbrev Parser (ε : Type) := StateT (List UInt8) (Except ε)

variable {ε δ α β : Type}

/-- The next `n` bytes, or the given error when fewer are left. -/
def takeBytes (short : ε) (n : Nat) : Parser ε (List.Vector UInt8 n) := fun bs =>
  if enough : n ≤ bs.length then
    .ok (⟨bs.take n, by rw [List.length_take, Nat.min_eq_left enough]⟩, bs.drop n)
  else .error short

def readU32 (short : ε) : Parser ε UInt32 := do
  let bytes ← takeBytes short 4
  return UInt32.ofNat (fromBigEndian bytes.toList)

/-- One value after the other. -/
def readTimes (p : Parser ε α) : Nat → Parser ε (List α)
  | 0 => return []
  | n + 1 => do
      let a ← p
      let as ← readTimes p n
      return a :: as

/-- The parser reads exactly these bytes, whatever follows them. -/
def Reads (p : Parser ε α) (bs : List UInt8) (a : α) : Prop :=
  ∀ rest, p (bs ++ rest) = .ok (a, rest)

/-- The parser fails on these bytes when nothing follows them. -/
def Fails (p : Parser ε α) (bs : List UInt8) (e : ε) : Prop := p bs = .error e

theorem Reads.pure (a : α) : Reads (Pure.pure a : Parser ε α) [] a := fun _ => rfl

theorem Reads.bind {p : Parser ε α} {f : α → Parser ε β} {bs cs : List UInt8} {a : α} {b : β}
    (first : Reads p bs a) (second : Reads (f a) cs b) : Reads (p >>= f) (bs ++ cs) b := by
  intro rest
  have here := first (cs ++ rest)
  rw [← List.append_assoc] at here
  change (p (bs ++ cs ++ rest) >>= fun r => f r.1 r.2) = _
  rw [here]
  exact second rest

theorem Reads.last {p : Parser ε α} {f : α → Parser ε β} {bs : List UInt8} {a : α} {b : β}
    (first : Reads p bs a) (second : f a = Pure.pure b) : Reads (p >>= f) bs b := by
  have empty : Reads (f a) [] b := by
    rw [second]
    exact .pure b
  have ended := first.bind empty
  rwa [List.append_nil] at ended

theorem Reads.alone {p : Parser ε α} {bs : List UInt8} {a : α} (h : Reads p bs a) :
    p bs = .ok (a, []) := by
  have whole := h []
  rwa [List.append_nil] at whole

theorem reads_take {bs : List UInt8} {n : Nat} (short : ε) (len : bs.length = n) :
    Reads (takeBytes short n) bs ⟨bs, len⟩ := by
  intro rest
  subst len
  simp [takeBytes]

theorem reads_u32 (short : ε) (v : UInt32) : Reads (readU32 short) (writeU32 v) v := by
  refine (reads_take short (length_write_u32 v)).last ?_
  exact congrArg Pure.pure (read_write_u32 v)

theorem reads_times {p : Parser ε α} {encode : α → List UInt8}
    (each : ∀ a, Reads p (encode a) a) (as : List α) :
    Reads (readTimes p as.length) (as.flatMap encode) as := by
  induction as with
  | nil => exact .pure []
  | cons a as ih => exact (each a).bind (ih.last rfl)

theorem take_short {bs : List UInt8} {n : Nat} (short : ε) (few : bs.length < n) :
    Fails (takeBytes short n) bs short := by
  simp only [Fails, takeBytes, dif_neg (Nat.not_le.mpr few)]

theorem Fails.first {p : Parser ε α} {bs : List UInt8} {e : ε} (h : Fails p bs e)
    (f : α → Parser ε β) : Fails (p >>= f) bs e := by
  change (p bs >>= fun r => f r.1 r.2) = _
  rw [h]
  rfl

/-- Every buffer that the parser accepts starts with what `encode` writes for its value. -/
def Spells (p : Parser ε α) (encode : α → List UInt8) : Prop :=
  ∀ bs a rest, p bs = .ok (a, rest) → bs = encode a ++ rest

theorem bind_ok {p : Parser ε α} {f : α → Parser ε β} {bs rest : List UInt8} {b : β}
    (h : (p >>= f) bs = .ok (b, rest)) :
    ∃ a between, p bs = .ok (a, between) ∧ f a between = .ok (b, rest) := by
  change (p bs >>= fun r => f r.1 r.2) = _ at h
  cases first : p bs with
  | error e =>
      rw [first] at h
      cases h
  | ok r =>
      rw [first] at h
      exact ⟨r.1, r.2, rfl, h⟩

theorem spells_take (short : ε) (n : Nat) : Spells (takeBytes short n) List.Vector.toList := by
  intro bs a rest read
  unfold takeBytes at read
  split at read
  case isTrue enough =>
    obtain ⟨rfl, rfl⟩ := Prod.mk.inj (Except.ok.inj read)
    exact (List.take_append_drop n bs).symm
  case isFalse => cases read

theorem spells_u32 (short : ε) : Spells (readU32 short) writeU32 := by
  intro bs v rest read
  obtain ⟨bytes, between, taken, last⟩ := bind_ok read
  obtain ⟨rfl, rfl⟩ := Prod.mk.inj (Except.ok.inj last)
  rw [spells_take short 4 bs bytes between taken, write_read_u32 (List.Vector.toList_length bytes)]

theorem spells_times {p : Parser ε α} {encode : α → List UInt8} (each : Spells p encode) {n : Nat}
    {bs rest : List UInt8} {as : List α} (read : readTimes p n bs = .ok (as, rest)) :
    bs = as.flatMap encode ++ rest ∧ as.length = n := by
  induction n generalizing bs as with
  | zero =>
      obtain ⟨rfl, rfl⟩ := Prod.mk.inj (Except.ok.inj read)
      exact ⟨rfl, rfl⟩
  | succ n ih =>
      obtain ⟨a, between, first, read⟩ := bind_ok read
      obtain ⟨others, left, more, last⟩ := bind_ok read
      obtain ⟨rfl, rfl⟩ := Prod.mk.inj (Except.ok.inj last)
      obtain ⟨split, count⟩ := ih more
      rw [each bs a between first, split, List.flatMap_cons, List.append_assoc, List.length_cons,
        count]
      exact ⟨rfl, rfl⟩

/-- The parser takes `n` bytes from every buffer that has them. -/
def Sized (p : Parser ε α) (n : Nat) : Prop :=
  ∀ bs, n ≤ bs.length → ∃ a, p bs = .ok (a, bs.drop n)

theorem sized_take (short : ε) (n : Nat) : Sized (takeBytes short n) n := by
  intro bs enough
  rw [takeBytes, dif_pos enough]
  exact ⟨_, rfl⟩

theorem Sized.bind {p : Parser ε α} {f : α → Parser ε β} {n m : Nat} (first : Sized p n)
    (second : ∀ a, Sized (f a) m) : Sized (p >>= f) (n + m) := by
  intro bs enough
  obtain ⟨a, got⟩ := first bs (by omega)
  obtain ⟨b, last⟩ := second a (bs.drop n) (by rw [List.length_drop]; omega)
  refine ⟨b, ?_⟩
  change (p bs >>= fun r => f r.1 r.2) = _
  rw [got, ← List.drop_drop]
  exact last

theorem Sized.map {p : Parser ε α} {n : Nat} (first : Sized p n) (f : α → β) :
    Sized (p >>= fun a => Pure.pure (f a)) n :=
  first.bind (m := 0) fun a _ _ => ⟨f a, rfl⟩

theorem sized_u32 (short : ε) : Sized (readU32 short) 4 := (sized_take short 4).map _

theorem Sized.exact {p : Parser ε α} {n : Nat} (h : Sized p n) {bs : List UInt8}
    (len : bs.length = n) : ∃ a, p bs = .ok (a, []) := by
  obtain ⟨a, got⟩ := h bs (Nat.le_of_eq len.symm)
  exact ⟨a, by rw [got, List.drop_of_length_le (Nat.le_of_eq len)]⟩

/-! ### Streams -/

/-- What a blocking read meets next: some bytes, a call to repeat, or an error.
The end of the list is the end of the stream. -/
inductive Arrival (ε : Type) where
  | chunk (bytes : List UInt8)
  | interrupted
  | failed (e : ε)
  deriving DecidableEq, Repr

abbrev Arrivals (ε : Type) := List (Arrival ε)

def Arrival.bytes : Arrival ε → List UInt8
  | .chunk bytes => bytes
  | .interrupted | .failed _ => []

/-- All bytes that are still to come. -/
def unread (s : Arrivals ε) : List UInt8 := s.flatMap Arrival.bytes

/-- The bytes of a buffer filled from the stream. After an error the bytes
taken so far are gone; `eof` is the error at the end of the stream. -/
def readExact (eof : ε) : Nat → Arrivals ε → Except ε (List UInt8) × Arrivals ε
  | 0, s => (.ok [], s)
  | _ + 1, [] => (.error eof, [])
  | n + 1, .chunk bytes :: s =>
      if n + 1 ≤ bytes.length then
        (.ok (bytes.take (n + 1)), .chunk (bytes.drop (n + 1)) :: s)
      else
        let (result, s) := readExact eof (n + 1 - bytes.length) s
        (result.map (bytes ++ ·), s)
  | n + 1, .interrupted :: s => readExact eof (n + 1) s
  | _ + 1, .failed e :: s => (.error e, s)
termination_by structural _ s => s

/-- The stream holds exactly these bytes and no error among them. -/
def Holds (s : Arrivals ε) (bs : List UInt8) : Prop :=
  unread s = bs ∧ ∀ e, .failed e ∉ s

theorem Holds.tail {a : Arrival ε} {s : Arrivals ε} {bs : List UInt8} (h : Holds (a :: s) bs) :
    Holds s (unread s) :=
  ⟨rfl, fun e present => h.2 e (List.mem_cons_of_mem a present)⟩

/-- Bytes that arrive in one piece. -/
theorem holds_chunk (bs : List UInt8) : Holds ([.chunk bs] : Arrivals ε) bs := by
  refine ⟨List.append_nil bs, fun e present => ?_⟩
  cases List.mem_singleton.mp present

/-- What was read stands before what is left, also after an error. -/
theorem read_exact_unread (eof : ε) (n : Nat) (s : Arrivals ε) :
    ∃ taken, unread s = taken ++ unread (readExact eof n s).2 ∧
      ∀ bs, (readExact eof n s).1 = .ok bs → bs = taken ∧ taken.length = n := by
  induction s generalizing n with
  | nil =>
      cases n with
      | zero => exact ⟨[], rfl, fun bs got => ⟨(Except.ok.inj got).symm, rfl⟩⟩
      | succ n => exact ⟨[], rfl, fun bs got => nomatch got⟩
  | cons a s ih =>
      cases n with
      | zero => exact ⟨[], rfl, fun bs got => ⟨(Except.ok.inj got).symm, rfl⟩⟩
      | succ n =>
          cases a with
          | interrupted => exact ih (n + 1)
          | failed e => exact ⟨[], rfl, fun bs got => nomatch got⟩
          | chunk bytes =>
              by_cases enough : n + 1 ≤ bytes.length
              · refine ⟨bytes.take (n + 1), ?_, ?_⟩
                · simp only [readExact, if_pos enough, unread, List.flatMap_cons, Arrival.bytes,
                    ← List.append_assoc, List.take_append_drop]
                · intro bs got
                  simp only [readExact, if_pos enough] at got
                  exact ⟨(Except.ok.inj got).symm, List.length_take_of_le enough⟩
              · obtain ⟨taken, split, whole⟩ := ih (n + 1 - bytes.length)
                refine ⟨bytes ++ taken, ?_, ?_⟩
                · simp only [readExact, if_neg enough, unread, List.flatMap_cons, Arrival.bytes,
                    List.append_assoc] at split ⊢
                  rw [split]
                · intro bs got
                  simp only [readExact, if_neg enough] at got
                  cases inner : (readExact eof (n + 1 - bytes.length) s).1 with
                  | error e =>
                      rw [inner] at got
                      exact nomatch got
                  | ok cs =>
                      rw [inner] at got
                      obtain ⟨rfl, len⟩ := whole cs inner
                      refine ⟨(Except.ok.inj got).symm, ?_⟩
                      rw [List.length_append]
                      omega

theorem read_exact_ok {eof : ε} {n : Nat} {s t : Arrivals ε} {bs : List UInt8}
    (h : readExact eof n s = (.ok bs, t)) : unread s = bs ++ unread t ∧ bs.length = n := by
  obtain ⟨taken, split, whole⟩ := read_exact_unread eof n s
  rw [h] at split whole
  obtain ⟨rfl, len⟩ := whole bs rfl
  exact ⟨split, len⟩

theorem read_exact_le (eof : ε) (n : Nat) (s : Arrivals ε) :
    (unread (readExact eof n s).2).length ≤ (unread s).length := by
  obtain ⟨taken, split, -⟩ := read_exact_unread eof n s
  rw [split, List.length_append]
  omega

/-- A stream without errors gives the bytes it holds. -/
theorem Holds.read (eof : ε) {s : Arrivals ε} {bs rest : List UInt8}
    (h : Holds s (bs ++ rest)) : (readExact eof bs.length s).1 = .ok bs ∧
      Holds (readExact eof bs.length s).2 rest := by
  induction s generalizing bs with
  | nil =>
      have empty : bs = [] ∧ rest = [] := List.append_eq_nil_iff.mp h.1.symm
      rw [empty.1, empty.2]
      exact ⟨rfl, rfl, h.2⟩
  | cons a s ih =>
      cases bs with
      | nil => exact ⟨rfl, h⟩
      | cons b bs =>
          cases a with
          | interrupted => exact ih ⟨h.1, h.tail.2⟩
          | failed e => exact absurd List.mem_cons_self (h.2 e)
          | chunk bytes =>
              have joined : bytes ++ unread s = b :: bs ++ rest := h.1
              by_cases enough : bs.length + 1 ≤ bytes.length
              · have front : bytes.take (bs.length + 1) = b :: bs := by
                  have taken := congrArg (List.take (bs.length + 1)) joined
                  rwa [List.take_append_of_le_length enough,
                    List.take_left' List.length_cons] at taken
                have back : bytes.drop (bs.length + 1) ++ unread s = rest := by
                  have dropped := congrArg (List.drop (bs.length + 1)) joined
                  rwa [List.drop_append_of_le_length enough,
                    List.drop_left' List.length_cons] at dropped
                simp only [List.length_cons, readExact, if_pos enough, front, true_and]
                refine ⟨back, fun e present => ?_⟩
                rcases List.mem_cons.mp present with same | later
                · cases same
                · exact h.tail.2 e later
              · obtain ⟨tail, more⟩ : ∃ tail, b :: bs = bytes ++ tail := by
                  refine (List.prefix_of_prefix_length_le (List.prefix_append bytes (unread s))
                    (joined ▸ List.prefix_append (b :: bs) rest) ?_).imp fun _ same => same.symm
                  simp only [List.length_cons]
                  omega
                have left : tail.length = bs.length + 1 - bytes.length := by
                  have total := congrArg List.length more
                  simp only [List.length_cons, List.length_append] at total
                  omega
                have rests : Holds s (tail ++ rest) := by
                  refine ⟨?_, h.tail.2⟩
                  rw [more, List.append_assoc] at joined
                  exact List.append_cancel_left joined
                have inner := ih rests
                rw [left] at inner
                rw [List.length_cons]
                simp only [readExact, if_neg enough, inner.1, more]
                exact ⟨rfl, inner.2⟩

theorem Holds.read_eq (eof : ε) {s : Arrivals ε} {bs rest : List UInt8} {n : Nat}
    (h : Holds s (bs ++ rest)) (len : bs.length = n) :
    ∃ t, readExact eof n s = (.ok bs, t) ∧ Holds t rest := by
  subst len
  exact ⟨_, Prod.ext (h.read eof).1 rfl, (h.read eof).2⟩

/-- Too few bytes on a stream without errors. -/
theorem Holds.short (eof : ε) {s : Arrivals ε} {bs : List UInt8} {n : Nat} (h : Holds s bs)
    (few : bs.length < n) : ∃ e t, readExact eof n s = (.error e, t) := by
  cases got : readExact eof n s with
  | mk result t =>
      cases result with
      | error e => exact ⟨e, t, rfl⟩
      | ok cs =>
          obtain ⟨split, len⟩ := read_exact_ok got
          have total := congrArg List.length (h.1.symm.trans split)
          rw [List.length_append] at total
          omega

/-- The front of what a stream without errors holds, if it is long enough. -/
theorem Holds.front (eof : ε) {s : Arrivals ε} {bs : List UInt8} {n : Nat} (h : Holds s bs)
    (enough : n ≤ bs.length) :
    ∃ t, readExact eof n s = (.ok (bs.take n), t) ∧ Holds t (bs.drop n) := by
  rw [← List.take_append_drop n bs] at h
  exact h.read_eq eof (List.length_take_of_le enough)

/-- The reader takes exactly these bytes from a stream without errors. -/
def Receives (r : Arrivals ε → Except δ α × Arrivals ε) (bs : List UInt8) (a : α) : Prop :=
  ∀ s rest, Holds s (bs ++ rest) → (r s).1 = .ok a ∧ Holds (r s).2 rest

/-- The reader fails on a stream without errors that starts with these bytes. -/
def Refuses (r : Arrivals ε → Except δ α × Arrivals ε) (bs : List UInt8) : Prop :=
  ∀ s rest, Holds s (bs ++ rest) → ∃ e, (r s).1 = .error e

/-- Repeated calls, up to the first that fails. -/
def repeatRead (r : Arrivals ε → Except δ α × Arrivals ε) :
    Nat → Arrivals ε → Except δ (List α) × Arrivals ε
  | 0, s => (.ok [], s)
  | n + 1, s =>
      match r s with
      | (.error e, s) => (.error e, s)
      | (.ok a, s) =>
          let (result, s) := repeatRead r n s
          (result.map (a :: ·), s)

variable {r : Arrivals ε → Except δ α × Arrivals ε} {encode : α → List UInt8}

theorem repeat_step {s t : Arrivals ε} {a : α} (h : r s = (.ok a, t)) (n : Nat) :
    repeatRead r (n + 1) s =
      ((repeatRead r n t).1.map (a :: ·), (repeatRead r n t).2) := by
  simp only [repeatRead, h]

/-- Messages written one after the other are read back one after the other. -/
theorem receives_all {as : List α} (each : ∀ a ∈ as, Receives r (encode a) a) :
    Receives (repeatRead r as.length) (as.flatMap encode) as := by
  induction as with
  | nil => exact fun s rest h => ⟨rfl, h⟩
  | cons a as ih =>
      intro s rest h
      rw [List.flatMap_cons, List.append_assoc] at h
      obtain ⟨first, then'⟩ := each a List.mem_cons_self s _ h
      obtain ⟨others, left⟩ := ih (fun b hb => each b (List.mem_cons_of_mem a hb)) _ rest then'
      rw [List.length_cons, repeat_step (Prod.ext first rfl), others]
      exact ⟨rfl, left⟩

/-- One message that cannot be read ends the calls with an error. -/
theorem refuses_all {as : List α} {bad : α} (present : bad ∈ as)
    (refused : Refuses r (encode bad))
    (each : ∀ a ∈ as, Receives r (encode a) a ∨ Refuses r (encode a)) :
    Refuses (repeatRead r as.length) (as.flatMap encode) := by
  induction as with
  | nil => exact nomatch present
  | cons a as ih =>
      intro s rest h
      rw [List.flatMap_cons, List.append_assoc] at h
      have stopped : Refuses r (encode a) → ∃ e, (repeatRead r (as.length + 1) s).1 = .error e := by
        intro stops
        obtain ⟨e, failed⟩ := stops s _ h
        have ended : r s = (.error e, (r s).2) := Prod.ext failed rfl
        exact ⟨e, by rw [repeatRead, ended]⟩
      rcases List.mem_cons.mp present with same | later
      · exact stopped (same ▸ refused)
      rcases each a List.mem_cons_self with reads | stops
      · obtain ⟨first, then'⟩ := reads s _ h
        obtain ⟨e, failed⟩ := ih later (fun b hb => each b (List.mem_cons_of_mem a hb)) _ rest then'
        refine ⟨e, ?_⟩
        rw [List.length_cons, repeat_step (Prod.ext first rfl), failed]
        rfl
      · exact stopped stops

end ByteStream
