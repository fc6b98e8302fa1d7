import Runix.Ipc.Fs
import Runix.Ipc.Sockets

/-!
# The wire formats read their own words

The requests and the responses of the filesystem, the sockets and the MARSHAL format:
each decoder finds exactly the encodings of the messages within the bounds, so the
servers that append one byte at a time and decode after each lose no message.
-/

namespace Runix.Ipc

open Lib Lib.ByteStrings Lib.Reading Lib.Streaming SocketResponse

/-! ## Sockets -/

theorem SocketError.from_byte_eq_some_iff (byte : UInt8) (cause : SocketError) :
    SocketError.fromByte byte = some cause ↔ cause.toByte = byte := by
  unfold SocketError.fromByte
  split <;> cases cause <;> simp_all [SocketError.toByte, eq_comm]

theorem word_from_word (low high : UInt8) : word (fromWord low high) = [low, high] := by
  have small : leNat [low, high] < 2 ^ 16 := Nat.lt_of_lt_of_eq (le_nat_lt _) (by simp)
  rw [word, fromWord, UInt16.toNat_ofNat_of_lt' small]
  exact le_bytes_of_le_nat rfl

theorem decode_data_eq (buf : Bytes) : decodeData buf = (Fs.decodeData buf).map Prod.fst := by
  have bounds : maxDataLen = maxPayloadLen := rfl
  by_cases short : buf.length < 2
  · simp [decodeData, Fs.decodeData, short]
  by_cases above : leNat (buf.take 2) > maxPayloadLen
  · simp [decodeData, Fs.decodeData, bounds, short, above]
  by_cases cut : buf.length < 2 + leNat (buf.take 2)
  · simp [decodeData, Fs.decodeData, bounds, short, above, cut]
  · simp [decodeData, Fs.decodeData, bounds, short, above, cut]

theorem decode_data_sound {buf data : Bytes} (found : decodeData buf = some data) :
    data.length ≤ maxPayloadLen ∧ encodeData data <+: buf := by
  rw [decode_data_eq, Option.map_eq_some_iff] at found
  obtain ⟨⟨_, size⟩, read, rfl⟩ := found
  obtain ⟨bounded, front, -⟩ := (Fs.data_reads _ _ _).mp read
  exact ⟨bounded, front⟩

theorem SocketRequest.reads :
    Reads SocketRequest.decode SocketRequest.encode SocketRequest.Bounded := by
  apply reads_of_round_trip
  · intro request bounded rest
    exact decode_encode bounded rest
  · intro buf request size found
    unfold decode at found
    split at found
    · simp at found
    split at found
    · split at found
      · cases found
        exact ⟨trivial, by simp [encode, word_from_word]⟩
      · simp at found
    · split at found
      · simp only [Option.map_eq_some_iff, Prod.mk.injEq] at found
        obtain ⟨data, read, rfl, -⟩ := found
        obtain ⟨bounded, front⟩ := decode_data_sound read
        exact ⟨bounded, by simpa [encode] using front⟩
      · simp at found
    · split at found
      · cases found
        exact ⟨trivial, by simp [encode, word_from_word]⟩
      · simp at found
    · split at found
      · cases found
        exact ⟨trivial, by simp [encode]⟩
      · simp at found
    · cases found
      exact ⟨trivial, by simp [encode]⟩
    · simp at found

variable {response : SocketResponse}

theorem decode_failure_sound {failure : UInt8 → SocketError → SocketResponse} {rest : Bytes} {size : Nat}
    (found : decodeFailure failure rest = some (response, size)) :
    ∃ handle cause, response = failure handle cause ∧ [handle, cause.toByte] <+: rest := by
  unfold decodeFailure at found
  split at found
  · simp only [Option.map_eq_some_iff, Prod.mk.injEq, SocketError.from_byte_eq_some_iff] at found
    obtain ⟨cause, rfl, rfl, -⟩ := found
    exact ⟨_, cause, rfl, by simp⟩
  · simp at found

theorem decode_handle_sound {build : UInt8 → SocketResponse} {rest : Bytes} {size : Nat}
    (found : (rest.head?.map fun handle => (build handle, 2)) = some (response, size)) :
    ∃ handle, response = build handle ∧ [handle] <+: rest := by
  cases rest with
  | nil => simp at found
  | cons handle rest =>
    cases found
    exact ⟨handle, rfl, by simp⟩

theorem SocketResponse.reads : Reads decode encode SocketResponse.Bounded := by
  apply reads_of_round_trip
  · intro response bounded rest
    exact decode_encode bounded rest
  · intro buf response size found
    unfold decode at found
    split at found
    · simp at found
    split at found
    · obtain ⟨handle, rfl, front⟩ := decode_handle_sound found
      exact ⟨trivial, by simpa [encode] using front⟩
    · simp only [Option.map_eq_some_iff, Option.bind_eq_some_iff, Prod.mk.injEq,
        List.head?_eq_some_iff, SocketError.from_byte_eq_some_iff] at found
      obtain ⟨cause, ⟨_, ⟨rest, rfl⟩, rfl⟩, rfl, -⟩ := found
      exact ⟨trivial, by simp [encode]⟩
    · split at found
      · cases found
        exact ⟨trivial, by simp [encode, word_from_word]⟩
      · simp at found
    · obtain ⟨handle, cause, rfl, front⟩ := decode_failure_sound found
      exact ⟨trivial, by simpa [encode] using front⟩
    · split at found
      · simp only [Option.map_eq_some_iff, Prod.mk.injEq] at found
        obtain ⟨payload, read, rfl, -⟩ := found
        obtain ⟨bounded, front⟩ := decode_data_sound read
        exact ⟨bounded, by simpa [encode] using front⟩
      · simp at found
    · obtain ⟨handle, rfl, front⟩ := decode_handle_sound found
      exact ⟨trivial, by simpa [encode] using front⟩
    · obtain ⟨handle, cause, rfl, front⟩ := decode_failure_sound found
      exact ⟨trivial, by simpa [encode] using front⟩
    · obtain ⟨handle, rfl, front⟩ := decode_handle_sound found
      exact ⟨trivial, by simpa [encode] using front⟩
    · obtain ⟨handle, cause, rfl, front⟩ := decode_failure_sound found
      exact ⟨trivial, by simpa [encode] using front⟩
    · simp at found

/-! ## MARSHAL -/

def MarshalRequest.Bounded (request : MarshalRequest) : Prop :=
  request.kerkeseJson.length ≤ maxJsonLen

theorem MarshalRequest.reads :
    Reads MarshalRequest.decode MarshalRequest.encode MarshalRequest.Bounded := by
  have bytes : Reads decodeBytes encodeBytes fun json => json.length ≤ maxJsonLen :=
    bytes_stream.decode_iff
  apply bytes.wrap MarshalRequest.mk
  · intro json
    rfl
  · rintro ⟨json⟩
    simp [Bounded]

theorem MarshalResponse.reads :
    Reads MarshalResponse.decode MarshalResponse.encode MarshalResponse.Bounded :=
  response_stream.decode_iff

/-! ## The six formats -/

theorem wire_formats_exact :
    Exact FsRequest.decode FsRequest.encode FsRequest.Bounded ∧
      Exact FsResponse.decode FsResponse.encode FsResponse.Bounded ∧
      Exact SocketRequest.decode SocketRequest.encode SocketRequest.Bounded ∧
      Exact decode encode SocketResponse.Bounded ∧
      Exact MarshalRequest.decode MarshalRequest.encode MarshalRequest.Bounded ∧
      Exact MarshalResponse.decode MarshalResponse.encode MarshalResponse.Bounded := by
  refine ⟨FsRequest.reads.exact ?_, FsResponse.reads.exact ?_, SocketRequest.reads.exact ?_,
    reads.exact ?_, MarshalRequest.reads.exact ?_, MarshalResponse.reads.exact ?_⟩
  · intro request
    cases request <;> simp [FsRequest.encode]
  · intro response
    cases response <;> simp [FsResponse.encode]
  · intro request
    cases request <;> simp [SocketRequest.encode]
  · intro response
    cases response <;> simp [encode]
  · intro request
    simp [MarshalRequest.encode, encodeBytes, leBytes]
  · intro response
    cases response <;> simp [MarshalResponse.encode]

end Runix.Ipc
