import P2pUsb.Library.ByteStream

/-! Messages as frames on a stream: a length of four bytes, then the encoding. -/
namespace P2pUsb
open ByteStream

structure ProtocolVersion where
  major : UInt8
  minor : UInt8
  patch : UInt8
  deriving DecidableEq, Repr

def currentVersion : ProtocolVersion := ⟨1, 1, 0⟩

/-- The errors of the protocol crate, over those of the serializer (`π`) and of
the stream (`ε`). -/
inductive ProtocolError (π ε : Type) where
  | serialization (e : π)
  | incompatibleVersion (major minor expectedMajor expectedMinor : UInt8)
  | invalidMessageType
  | bufferTooSmall (needed available : Nat)
  | frameTooLarge (size max : Nat)
  | incompleteFrame (expected actual : Nat)
  | io (e : ε)
  deriving DecidableEq, Repr

/-- The serializer for messages of type `μ`, which is a library of its own. -/
structure Postcard (μ π : Type) where
  toAllocvec : μ → Except π (List UInt8)
  fromBytes : List UInt8 → Except π μ

/-- Decoding undoes encoding. -/
def Postcard.RoundTrips {μ π : Type} (P : Postcard μ π) : Prop :=
  ∀ m bytes, P.toAllocvec m = .ok bytes → P.fromBytes bytes = .ok m

/-- A writer takes the bytes of `write_all`, or fails. -/
structure Writer (ω ε : Type) where
  writeAll : ω → List UInt8 → Except ε Unit × ω

/-- The writer that `Vec<u8>` is: it never fails. -/
def vecWriter (ε : Type) : Writer (List UInt8) ε := ⟨fun out bytes => (.ok (), out ++ bytes)⟩

def maxFrameSize : Nat := 32 * 1024 * 1024

variable {μ π ε ω : Type} (P : Postcard μ π)

def encodeMessage (message : μ) : Except (ProtocolError π ε) (List UInt8) :=
  (P.toAllocvec message).mapError .serialization

def decodeMessage (bytes : List UInt8) : Except (ProtocolError π ε) μ :=
  (P.fromBytes bytes).mapError .serialization

def validateVersion (messageVersion : ProtocolVersion) : Except (ProtocolError π ε) Unit :=
  if messageVersion.major ≠ currentVersion.major then
    .error (.incompatibleVersion messageVersion.major messageVersion.minor
      currentVersion.major currentVersion.minor)
  else .ok ()

def encodeFramed (message : μ) : Except (ProtocolError π ε) (List UInt8) := do
  let messageBytes ← encodeMessage P message
  let messageLen := messageBytes.length
  if maxFrameSize < messageLen then throw (.frameTooLarge messageLen maxFrameSize)
  else return writeU32 (UInt32.ofNat messageLen) ++ messageBytes

/-- `u32::from_be_bytes` of a prefix, as a `usize`. -/
def prefixLength (lenBytes : List UInt8) : Nat :=
  (UInt32.ofNat (fromBigEndian lenBytes)).toNat

def decodeFramed (frame : List UInt8) : Except (ProtocolError π ε) μ :=
  if frame.length < 4 then .error (.incompleteFrame 4 frame.length)
  else
    let length := prefixLength (frame.take 4)
    if maxFrameSize < length then .error (.frameTooLarge length maxFrameSize)
    else if frame.length < 4 + length then .error (.incompleteFrame (4 + length) frame.length)
    else decodeMessage P ((frame.drop 4).take length)

def writeFramed (W : Writer ω ε) (writer : ω) (message : μ) :
    Except (ProtocolError π ε) Unit × ω :=
  match encodeFramed P message with
  | .error e => (.error e, writer)
  | .ok framed =>
      let (result, writer) := W.writeAll writer framed
      (result.mapError .io, writer)

/-- `read_framed` with the sizes of the buffers that it allocates. `eof` is what `read_exact`
fails with at the end of the stream. -/
def readFramedAllocating (eof : ε) (reader : Arrivals ε) :
    Except (ProtocolError π ε) μ × Arrivals ε × List Nat :=
  match readExact eof 4 reader with
  | (.error e, reader) => (.error (.io e), reader, [])
  | (.ok lenBytes, reader) =>
      let length := prefixLength lenBytes
      if maxFrameSize < length then (.error (.frameTooLarge length maxFrameSize), reader, [])
      else
        match readExact eof length reader with
        | (.error e, reader) => (.error (.io e), reader, [length])
        | (.ok messageBytes, reader) => (decodeMessage P messageBytes, reader, [length])

def readFramed (eof : ε) (reader : Arrivals ε) : Except (ProtocolError π ε) μ × Arrivals ε :=
  let (result, reader, _) := readFramedAllocating P eof reader
  (result, reader)

/-- One message after the other, up to the first that is not written. -/
def writeAllFramed (W : Writer ω ε) : ω → List μ → Except (ProtocolError π ε) Unit × ω
  | writer, [] => (.ok (), writer)
  | writer, message :: messages =>
      match writeFramed P W writer message with
      | (.error e, writer) => (.error e, writer)
      | (.ok (), writer) => writeAllFramed W writer messages

/-- The encoding exists and a frame may carry it. -/
def Postcard.Fits (message : μ) : Prop :=
  ∃ bytes, P.toAllocvec message = .ok bytes ∧ bytes.length ≤ maxFrameSize

def frame (messageBytes : List UInt8) : List UInt8 :=
  writeU32 (UInt32.ofNat messageBytes.length) ++ messageBytes

/-- What stands on the stream for a message. -/
def Postcard.framed (message : μ) : List UInt8 :=
  match P.toAllocvec message with
  | .ok bytes => frame bytes
  | .error _ => []

variable {P} {m : μ} {bytes : List UInt8}

theorem prefix_length (small : bytes.length ≤ maxFrameSize) :
    prefixLength (writeU32 (UInt32.ofNat bytes.length)) = bytes.length := by
  have word : bytes.length < 2 ^ 32 := by
    have bound : maxFrameSize < 2 ^ 32 := by decide
    omega
  rw [prefixLength, read_write_u32, UInt32.toNat_ofNat_of_lt' word]

theorem encode_framed (encoded : P.toAllocvec m = .ok bytes) :
    (encodeFramed P m : Except (ProtocolError π ε) _) =
      if maxFrameSize < bytes.length then .error (.frameTooLarge bytes.length maxFrameSize)
      else .ok (frame bytes) := by
  rw [encodeFramed, encodeMessage, encoded]
  rfl

theorem encode_framed_fits (fits : P.Fits m) :
    (encodeFramed P m : Except (ProtocolError π ε) _) = .ok (P.framed m) := by
  obtain ⟨bytes, encoded, small⟩ := fits
  rw [encode_framed encoded, if_neg (Nat.not_lt.mpr small), Postcard.framed, encoded]

theorem decode_message (lawful : P.RoundTrips) (encoded : P.toAllocvec m = .ok bytes) :
    (decodeMessage P bytes : Except (ProtocolError π ε) μ) = .ok m := by
  rw [decodeMessage, lawful m bytes encoded]
  rfl

theorem framed_append (encoded : P.toAllocvec m = .ok bytes) (rest : List UInt8) :
    P.framed m ++ rest = writeU32 (UInt32.ofNat bytes.length) ++ (bytes ++ rest) := by
  rw [Postcard.framed, encoded]
  exact List.append_assoc _ _ _

/-- The frame in front of a buffer decides what is decoded. -/
theorem decode_framed (lawful : P.RoundTrips) (fits : P.Fits m) (rest : List UInt8) :
    (decodeFramed P (P.framed m ++ rest) : Except (ProtocolError π ε) μ) = .ok m := by
  obtain ⟨bytes, encoded, small⟩ := fits
  have split := framed_append encoded rest
  have word : (writeU32 (UInt32.ofNat bytes.length)).length = 4 := length_write_u32 _
  have enough : ¬ (P.framed m ++ rest).length < 4 + bytes.length := by
    rw [split, List.length_append, List.length_append, word]
    omega
  rw [decodeFramed, if_neg (by omega), split, List.take_left' word, List.drop_left' word,
    prefix_length small]
  dsimp only
  rw [if_neg (Nat.not_lt.mpr small), ← split, if_neg enough, List.take_left' rfl]
  exact decode_message lawful encoded

theorem receives_framed (eof : ε) (lawful : P.RoundTrips) (fits : P.Fits m) :
    Receives (readFramed P eof) (P.framed m) m := by
  obtain ⟨bytes, encoded, small⟩ := fits
  intro s rest h
  rw [framed_append encoded] at h
  obtain ⟨t, word, after⟩ := h.read_eq eof (length_write_u32 _)
  obtain ⟨u, body, left⟩ := after.read_eq eof rfl
  rw [readFramed, readFramedAllocating, word]
  simp only [prefix_length small, if_neg (Nat.not_lt.mpr small), body,
    decode_message lawful encoded, true_and]
  exact left

theorem write_framed_vec (fits : P.Fits m) (out : List UInt8) :
    (writeFramed P (vecWriter ε) out m : Except (ProtocolError π ε) Unit × List UInt8) =
      (.ok (), out ++ P.framed m) := by
  rw [writeFramed, encode_framed_fits fits]
  rfl

theorem write_all_framed_vec {ms : List μ} (fits : ∀ m ∈ ms, P.Fits m) (out : List UInt8) :
    (writeAllFramed P (vecWriter ε) out ms : Except (ProtocolError π ε) Unit × List UInt8) =
      (.ok (), out ++ ms.flatMap P.framed) := by
  induction ms generalizing out with
  | nil => rw [writeAllFramed, List.flatMap_nil, List.append_nil]
  | cons m ms ih =>
      rw [writeAllFramed, write_framed_vec (fits m List.mem_cons_self)]
      dsimp only
      rw [ih fun n present => fits n (List.mem_cons_of_mem m present), List.flatMap_cons,
        List.append_assoc]

/-- Frames written one after the other are read back one after the other and
nothing behind them is touched; a frame in a buffer is decoded whatever follows
it; and what no frame may carry is not written. -/
theorem framed_round_trip (lawful : P.RoundTrips) (eof : ε) :
    (∀ ms : List μ, (∀ m ∈ ms, P.Fits m) → ∃ out,
      (writeAllFramed P (vecWriter ε) [] ms : Except (ProtocolError π ε) Unit × List UInt8) =
        (.ok (), out) ∧
      ∀ trailing stream, Holds stream (out ++ trailing) →
        (repeatRead (readFramed P eof) ms.length stream).1 = .ok ms ∧
          Holds (repeatRead (readFramed P eof) ms.length stream).2 trailing) ∧
    (∀ m : μ, P.Fits m → ∃ framed,
      (encodeFramed P m : Except (ProtocolError π ε) _) = .ok framed ∧
      ∀ rest, (decodeFramed P (framed ++ rest) : Except (ProtocolError π ε) μ) = .ok m) ∧
    ∀ (m : μ) (bytes : List UInt8), P.toAllocvec m = .ok bytes → maxFrameSize < bytes.length →
      (encodeFramed P m : Except (ProtocolError π ε) _) =
        .error (.frameTooLarge bytes.length maxFrameSize) := by
  refine ⟨fun ms fits => ?_, fun m fits => ?_, fun m bytes encoded large => ?_⟩
  · refine ⟨ms.flatMap P.framed, write_all_framed_vec fits [], fun trailing stream held => ?_⟩
    exact receives_all (fun m present => receives_framed eof lawful (fits m present)) _ _ held
  · exact ⟨P.framed m, encode_framed_fits fits, decode_framed lawful fits⟩
  · rw [encode_framed encoded, if_pos large]

/-- Two messages, in the bytes that postcard gives them: the three numbers of the
version, then the number of the variant. -/
inductive KeepAlive where
  | ping | pong
  deriving DecidableEq, Repr

def keepAliveCodec : Postcard KeepAlive Unit where
  toAllocvec
    | .ping => .ok [1, 1, 0, 8]
    | .pong => .ok [1, 1, 0, 9]
  fromBytes
    | 1 :: 1 :: 0 :: 8 :: _ => .ok .ping
    | 1 :: 1 :: 0 :: 9 :: _ => .ok .pong
    | _ => .error ()

theorem keep_alive_round_trips : keepAliveCodec.RoundTrips := by
  intro m bytes encoded
  cases m <;> cases encoded <;> rfl

def keepAliveStream : Arrivals String :=
  [.chunk [0, 0, 0, 4, 1, 1], .interrupted, .chunk [0, 8, 0, 0, 0, 4, 1, 1, 0, 9, 5]]

theorem framed_round_trip_keep_alive :
    (repeatRead (readFramed keepAliveCodec "end of stream") 2 keepAliveStream).1 =
        .ok [.ping, .pong] ∧
      unread (repeatRead (readFramed keepAliveCodec "end of stream") 2 keepAliveStream).2 =
        [5] := by
  have fits : ∀ m ∈ [KeepAlive.ping, .pong], keepAliveCodec.Fits m := by
    intro m _
    cases m with
    | ping => exact ⟨_, rfl, by decide⟩
    | pong => exact ⟨_, rfl, by decide⟩
  obtain ⟨out, written, read⟩ :=
    (framed_round_trip keep_alive_round_trips "end of stream").1 [.ping, .pong] fits
  have frames : out = [0, 0, 0, 4, 1, 1, 0, 8, 0, 0, 0, 4, 1, 1, 0, 9] :=
    (congrArg Prod.snd written).symm.trans (by decide +kernel)
  have held : Holds keepAliveStream (out ++ [5]) := by
    refine ⟨by rw [frames]; rfl, fun e present => ?_⟩
    simp [keepAliveStream] at present
  exact ⟨(read [5] _ held).1, (read [5] _ held).2.1⟩

end P2pUsb
