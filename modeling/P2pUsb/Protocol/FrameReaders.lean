import P2pUsb.Protocol.Codec

/-! The three readers of a frame: out of a buffer, off a blocking stream, and off an
asynchronous one into a buffer again. -/
namespace P2pUsb
open ByteStream

variable {μ π ε : Type} (P : Postcard μ π)

/-- The third component are the sizes of the buffers allocated. To an
asynchronous reader an interruption is a poll that finds nothing yet. -/
def readFramedAsync (eof : ε) (reader : Arrivals ε) :
    Except (ProtocolError π ε) (List UInt8) × Arrivals ε × List Nat :=
  match readExact eof 4 reader with
  | (.error e, reader) => (.error (.io e), reader, [])
  | (.ok lenBytes, reader) =>
      let length := prefixLength lenBytes
      if maxFrameSize < length then (.error (.frameTooLarge length maxFrameSize), reader, [])
      else
        match readExact eof length reader with
        | (.error e, reader) => (.error (.io e), reader, [length])
        | (.ok messageBytes, reader) =>
            (.ok (lenBytes ++ messageBytes), reader, [length, 4 + length])

/-- The bytes start with a length that no frame may have. -/
def Oversized (bytes : List UInt8) : Prop :=
  4 ≤ bytes.length ∧ maxFrameSize < prefixLength (bytes.take 4)

/-- The bytes start with a whole frame. -/
def WholeFrame (bytes : List UInt8) : Prop :=
  4 + prefixLength (bytes.take 4) ≤ bytes.length ∧ prefixLength (bytes.take 4) ≤ maxFrameSize

def frameBody (bytes : List UInt8) : List UInt8 :=
  (bytes.drop 4).take (prefixLength (bytes.take 4))

variable {P} {b : List UInt8} {s : Arrivals ε}

theorem decode_framed_body (framed : WholeFrame b) :
    (decodeFramed P b : Except (ProtocolError π ε) μ) = decodeMessage P (frameBody b) := by
  obtain ⟨enough, small⟩ := framed
  rw [decodeFramed, if_neg (by omega)]
  dsimp only
  rw [if_neg (Nat.not_lt.mpr small), if_neg (Nat.not_lt.mpr enough), frameBody]

theorem decode_framed_oversized (large : Oversized b) :
    (decodeFramed P b : Except (ProtocolError π ε) μ) =
      .error (.frameTooLarge (prefixLength (b.take 4)) maxFrameSize) := by
  rw [decodeFramed, if_neg (Nat.not_lt.mpr large.1)]
  exact if_pos large.2

theorem decode_framed_fails (unframed : ¬ WholeFrame b) :
    ∃ e, (decodeFramed P b : Except (ProtocolError π ε) μ) = .error e := by
  unfold decodeFramed
  dsimp only
  split
  case isTrue => exact ⟨_, rfl⟩
  split
  case isTrue => exact ⟨_, rfl⟩
  split
  case isTrue => exact ⟨_, rfl⟩
  case isFalse small enough => exact absurd ⟨Nat.not_lt.mp enough, Nat.not_lt.mp small⟩ unframed

/-- A stream whose bytes are no whole frame: the prefix is short, or too large, or the
body is short. -/
theorem unframed_cases (unframed : ¬ WholeFrame b) :
    b.length < 4 ∨ Oversized b ∨
      4 ≤ b.length ∧ ¬ maxFrameSize < prefixLength (b.take 4) ∧
        (b.drop 4).length < prefixLength (b.take 4) := by
  by_cases short : b.length < 4
  · exact .inl short
  by_cases large : maxFrameSize < prefixLength (b.take 4)
  · exact .inr (.inl ⟨Nat.not_lt.mp short, large⟩)
  refine .inr (.inr ⟨Nat.not_lt.mp short, large, ?_⟩)
  by_contra whole
  rw [List.length_drop] at whole
  exact unframed ⟨by omega, Nat.not_lt.mp large⟩

theorem read_framed_body (eof : ε) (held : Holds s b) (framed : WholeFrame b) :
    (readFramed P eof s).1 = decodeMessage P (frameBody b) := by
  obtain ⟨enough, small⟩ := framed
  obtain ⟨t, word, after⟩ := held.front eof (n := 4) (by omega)
  obtain ⟨u, body, -⟩ := after.front eof (n := prefixLength (b.take 4))
    (by rw [List.length_drop]; omega)
  simp only [readFramed, readFramedAllocating, word, if_neg (Nat.not_lt.mpr small), body,
    frameBody]

theorem read_framed_oversized (eof : ε) (held : Holds s b) (large : Oversized b) :
    ∃ t, readFramedAllocating P eof s =
        (.error (.frameTooLarge (prefixLength (b.take 4)) maxFrameSize), t, []) ∧
      Holds t (b.drop 4) := by
  obtain ⟨t, word, after⟩ := held.front eof large.1
  exact ⟨t, by simp only [readFramedAllocating, word, if_pos large.2], after⟩

theorem read_framed_fails (eof : ε) (held : Holds s b) (unframed : ¬ WholeFrame b) :
    ∃ e, (readFramed P eof s).1 = .error e := by
  rcases unframed_cases unframed with short | large | ⟨enough, small, short⟩
  · obtain ⟨e, t, failed⟩ := held.short eof short
    exact ⟨.io e, by rw [readFramed, readFramedAllocating, failed]⟩
  · obtain ⟨t, failed, -⟩ := read_framed_oversized (P := P) eof held large
    rw [readFramed, failed]
    exact ⟨_, rfl⟩
  · obtain ⟨t, word, after⟩ := held.front eof enough
    obtain ⟨e, u, failed⟩ := after.short eof short
    exact ⟨.io e, by simp only [readFramed, readFramedAllocating, word, if_neg small, failed]⟩

theorem read_framed_async_body (eof : ε) (held : Holds s b) (framed : WholeFrame b) :
    (readFramedAsync eof s : Except (ProtocolError π ε) _ × _).1 =
      .ok (b.take (4 + prefixLength (b.take 4))) := by
  obtain ⟨enough, small⟩ := framed
  obtain ⟨t, word, after⟩ := held.front eof (n := 4) (by omega)
  obtain ⟨u, body, -⟩ := after.front eof (n := prefixLength (b.take 4))
    (by rw [List.length_drop]; omega)
  simp only [readFramedAsync, word, if_neg (Nat.not_lt.mpr small), body, List.take_add]

theorem read_framed_async_oversized (eof : ε) (held : Holds s b) (large : Oversized b) :
    ∃ t, (readFramedAsync eof s : Except (ProtocolError π ε) _ × _) =
        (.error (.frameTooLarge (prefixLength (b.take 4)) maxFrameSize), t, []) ∧
      Holds t (b.drop 4) := by
  obtain ⟨t, word, after⟩ := held.front eof large.1
  exact ⟨t, by simp only [readFramedAsync, word, if_pos large.2], after⟩

theorem read_framed_async_fails (eof : ε) (held : Holds s b) (unframed : ¬ WholeFrame b) :
    ∃ e, (readFramedAsync eof s : Except (ProtocolError π ε) _ × _).1 = .error e := by
  rcases unframed_cases unframed with short | large | ⟨enough, small, short⟩
  · obtain ⟨e, t, failed⟩ := held.short eof short
    exact ⟨.io e, by rw [readFramedAsync, failed]⟩
  · obtain ⟨t, failed, -⟩ := read_framed_async_oversized (π := π) eof held large
    exact ⟨_, congrArg Prod.fst failed⟩
  · obtain ⟨t, word, after⟩ := held.front eof enough
    obtain ⟨e, u, failed⟩ := after.short eof short
    exact ⟨.io e, by simp only [readFramedAsync, word, if_neg small, failed]⟩

/-- What the asynchronous reader hands on is the frame itself, without what follows. -/
theorem framed_take (framed : WholeFrame b) :
    WholeFrame (b.take (4 + prefixLength (b.take 4))) ∧
      frameBody (b.take (4 + prefixLength (b.take 4))) = frameBody b := by
  have front : (b.take (4 + prefixLength (b.take 4))).take 4 = b.take 4 := by
    rw [List.take_take, Nat.min_eq_left (Nat.le_add_right 4 _)]
  have whole : (b.take (4 + prefixLength (b.take 4))).length = 4 + prefixLength (b.take 4) :=
    List.length_take_of_le framed.1
  refine ⟨⟨?_, ?_⟩, ?_⟩
  · rw [front, whole]
  · rw [front]
    exact framed.2
  · rw [frameBody, front, List.drop_take, Nat.add_sub_cancel_left, List.take_take, Nat.min_self,
      frameBody]

/-- The three readers succeed together, with one message, and none of them looks at
more than the prefix of a frame that is too large. -/
theorem frame_readers_agree (P : Postcard μ π) (eof eofAsync : ε) {s t : Arrivals ε}
    (blocking : Holds s b) (async : Holds t b) :
    (∀ m, (decodeFramed P b : Except (ProtocolError π ε) μ) = .ok m ↔
      (readFramed P eof s).1 = .ok m) ∧
    (∀ m, (decodeFramed P b : Except (ProtocolError π ε) μ) = .ok m ↔
      ((readFramedAsync eofAsync t).1 >>= decodeFramed P) = .ok m) ∧
    (Oversized b →
      (decodeFramed P b : Except (ProtocolError π ε) μ) =
        .error (.frameTooLarge (prefixLength (b.take 4)) maxFrameSize) ∧
      readFramed P eof s = ((readFramedAllocating P eof s).1, (readFramedAllocating P eof s).2.1) ∧
      (∃ rest, readFramedAllocating P eof s =
          (.error (.frameTooLarge (prefixLength (b.take 4)) maxFrameSize), rest, []) ∧
        Holds rest (b.drop 4)) ∧
      ∃ rest, (readFramedAsync eofAsync t : Except (ProtocolError π ε) _ × _) =
          (.error (.frameTooLarge (prefixLength (b.take 4)) maxFrameSize), rest, []) ∧
        Holds rest (b.drop 4)) := by
  refine ⟨fun m => ?_, fun m => ?_, fun large => ⟨decode_framed_oversized large,
    rfl, read_framed_oversized eof blocking large,
    read_framed_async_oversized eofAsync async large⟩⟩
  · by_cases framed : WholeFrame b
    · rw [decode_framed_body framed, read_framed_body eof blocking framed]
    · obtain ⟨e, buffered⟩ := decode_framed_fails (P := P) (ε := ε) framed
      obtain ⟨e', streamed⟩ := read_framed_fails (P := P) eof blocking framed
      rw [buffered, streamed]
      exact ⟨fun wrong => (nomatch wrong), fun wrong => (nomatch wrong)⟩
  · by_cases framed : WholeFrame b
    · obtain ⟨again, body⟩ := framed_take framed
      rw [read_framed_async_body eofAsync async framed, decode_framed_body framed, ← body,
        ← decode_framed_body again]
      rfl
    · obtain ⟨e, buffered⟩ := decode_framed_fails (P := P) (ε := ε) framed
      obtain ⟨e', streamed⟩ := read_framed_async_fails (π := π) eofAsync async framed
      rw [buffered, streamed]
      exact ⟨fun wrong => (nomatch wrong), fun wrong => (nomatch wrong)⟩

/-- A ping with a byte behind it, in pieces that differ, and a prefix one above the limit. -/
theorem frame_readers_agree_ping :
    (readFramed keepAliveCodec "end"
        [.chunk [0, 0, 0], .interrupted, .chunk [4, 1, 1, 0, 8, 7]]).1 = .ok .ping ∧
      ((readFramedAsync "eof" [.chunk [0, 0, 0, 4], .chunk [1, 1, 0, 8, 7]]).1 >>=
        decodeFramed keepAliveCodec) = .ok .ping ∧
      (decodeFramed keepAliveCodec [2, 0, 0, 1, 5] : Except (ProtocolError Unit String) _) =
        .error (.frameTooLarge 33554433 33554432) := by
  have unfailing : ∀ e : String, .failed e ∉
      ([.chunk [0, 0, 0], .interrupted, .chunk [4, 1, 1, 0, 8, 7]] : Arrivals String) := by
    intro e present
    simp at present
  have pieces : ∀ e : String, .failed e ∉
      ([.chunk [0, 0, 0, 4], .chunk [1, 1, 0, 8, 7]] : Arrivals String) := by
    intro e present
    simp at present
  have ping := frame_readers_agree keepAliveCodec "end" "eof"
    (b := [0, 0, 0, 4, 1, 1, 0, 8, 7]) ⟨rfl, unfailing⟩ ⟨rfl, pieces⟩
  have large := frame_readers_agree keepAliveCodec "end" "eof"
    (holds_chunk [2, 0, 0, 1, 5]) (holds_chunk [2, 0, 0, 1, 5])
  refine ⟨(ping.1 .ping).mp rfl, (ping.2.1 .ping).mp rfl, ?_⟩
  exact (large.2.2 ⟨by decide, by decide⟩).1

end P2pUsb
