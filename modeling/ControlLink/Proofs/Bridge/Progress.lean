/-
# ControlLink.Proofs.Bridge.Progress — decoding ends, and little stays behind

A frame or an error takes at least one byte out of the buffer of a codec (`length_next`), so a codec
comes to wait however malformed its bytes are: after as many frames and errors as there are bytes at
most (`exists_drained`). What it keeps while it waits is the beginning of a frame (`Pending`): a
marker behind which the header or some of the announced bytes are missing. Since no header that
announces more than the frame limit is waited on, that is never more than 66 bytes.
-/
import ControlLink.Proofs.Bridge.Noise

namespace ControlLink.Bridge

set_option autoImplicit false

/-! ## What is kept -/

/-- What a codec keeps while it waits: nothing, or a marker behind which something is missing. -/
inductive Pending (marker : UInt8) : Bytes → Prop where
  | nothing : Pending marker []
  | header {rest : Bytes} : rest.length < 2 → Pending marker (marker :: rest)
  | body {low high : UInt8} {body : Bytes} : Bytes.toNat [low, high] ≤ frameLimit →
      body.length < Bytes.toNat [low, high] → Pending marker (marker :: low :: high :: body)

section Waiting

variable {marker : UInt8} {buffer rest : Bytes}

/-- The header of a frame and all but one of the bytes of the longest one. -/
theorem Pending.length_le (pending : Pending marker buffer) : buffer.length ≤ 66 := by
  cases pending with
  | nothing => exact Nat.zero_le _
  | header short =>
      rw [List.length_cons]
      omega
  | body fits short =>
      have limit : frameLimit = 64 := rfl
      simp only [List.length_cons]
      omega

theorem decodeMarked_eq_waiting_iff (marker : UInt8) (bytes : Bytes) :
    decodeMarked (marker :: bytes) = .waiting rest ↔
      rest = marker :: bytes ∧ Pending marker (marker :: bytes) := by
  match bytes with
  | [] => simp [decodeMarked, Pending.header, eq_comm]
  | [low] => simp [decodeMarked, Pending.header, eq_comm]
  | low :: high :: body =>
      rw [decodeMarked]
      split
      next large =>
        simp only [reduceCtorEq, false_iff, not_and]
        rintro - (_ | short | ⟨fits, -⟩)
        · exact absurd short (by simp)
        · omega
      next fits =>
        split
        next short => simp [Pending.body (Nat.le_of_not_lt fits) short, eq_comm]
        next whole =>
          simp only [reduceCtorEq, false_iff, not_and]
          rintro - (_ | short | ⟨-, short⟩)
          · exact absurd short (by simp)
          · omega

/-- **A codec waits exactly on the beginning of a frame**, and discards what is in front of it. -/
theorem decode_eq_waiting_iff : decode marker buffer = .waiting rest ↔
    rest = buffer.dropWhile (· != marker) ∧ Pending marker rest := by
  rw [decode]
  obtain nothing | ⟨bytes, found⟩ := dropWhile_marker marker buffer
  · rw [nothing]
    constructor
    · rintro ⟨⟩
      exact ⟨rfl, .nothing⟩
    · rintro ⟨rfl, -⟩
      rfl
  · rw [found, decodeMarked_eq_waiting_iff]
    exact and_congr_right fun same => by rw [same]

end Waiting

namespace Codec

/-! ## What is taken out -/

/-- **A frame or an error takes something out of the buffer**, and an answer that there is neither
adds nothing. -/
theorem length_next (codec : Codec) :
    (outcome? codec.next.1).toList.length + codec.next.2.buffer.length ≤ codec.buffer.length := by
  have firm := decode_firm codec.side.inbound codec.buffer
  rw [next]
  cases decided : decode codec.side.inbound codec.buffer with
  | waiting rest =>
      obtain ⟨rfl, -⟩ := decode_eq_waiting_iff.1 decided
      simpa [outcome?] using (List.dropWhile_suffix _).length_le
  | frame data rest =>
      rw [decided] at firm
      have fewer := firm.2.1
      simp only [outcome?, Option.map_some, Option.toList_some, List.length_singleton]
      omega
  | oversized length rest =>
      rw [decided] at firm
      have fewer := firm.2.1
      simp only [outcome?, Option.toList_some, List.length_singleton]
      omega

theorem outcome?_eq_none_iff {answer : Except LinkError (Option Bytes)} :
    outcome? answer = none ↔ answer = .ok none := by
  rcases answer with error | _ | data <;> simp [outcome?]

theorem length_next_lt {codec : Codec} (decided : codec.next.1 ≠ .ok none) :
    codec.next.2.buffer.length < codec.buffer.length := by
  obtain ⟨outcome, told⟩ := Option.ne_none_iff_exists'.1 (mt outcome?_eq_none_iff.1 decided)
  have fewer := codec.length_next
  rw [told, Option.toList_some, List.length_singleton] at fewer
  omega

theorem pending_next {codec : Codec} (waits : codec.next.1 = .ok none) :
    Pending codec.side.inbound codec.next.2.buffer := by
  revert waits
  rw [next]
  cases decided : decode codec.side.inbound codec.buffer with
  | waiting rest => exact fun _ => (decode_eq_waiting_iff.1 decided).2
  | frame data rest => exact fun waits => by cases waits
  | oversized length rest => exact fun waits => by cases waits

/-- **No calls take out more than there is**, whenever they come. -/
theorem length_run (codec : Codec) (calls : List Call) :
    (codec.run calls).1.length + (codec.run calls).2.buffer.length ≤
      codec.buffer.length + (pushed calls).length := by
  induction calls generalizing codec with
  | nil => simp [run, pushed]
  | cons call calls ih =>
      cases call with
      | push data =>
          have grown : (codec.push data).buffer.length = codec.buffer.length + data.length :=
            List.length_append
          have later := ih (codec.push data)
          simp only [run, pushed, List.length_append]
          omega
      | next =>
          have first := codec.length_next
          have later := ih codec.next.2
          simp only [run, pushed, List.length_append]
          omega

/-- A codec that is asked again and again waits in the end, and gives out something until then. -/
theorem exists_drained (codec : Codec) : ∃ count ≤ codec.buffer.length,
    (codec.run (List.replicate count .next)).1.length = count ∧
      (codec.run (List.replicate count .next)).2.next.1 = .ok none := by
  induction bytes : codec.buffer.length using Nat.strongRecOn generalizing codec with
  | ind bytes ih =>
      subst bytes
      by_cases waits : codec.next.1 = .ok none
      · exact ⟨0, Nat.zero_le _, rfl, waits⟩
      · have fewer := length_next_lt waits
        obtain ⟨count, bounded, given, drained⟩ := ih _ fewer codec.next.2 rfl
        obtain ⟨outcome, told⟩ := Option.ne_none_iff_exists'.1 (mt outcome?_eq_none_iff.1 waits)
        refine ⟨count + 1, Nat.le_trans (Nat.succ_le_succ bounded) fewer, ?_, drained⟩
        simp only [List.replicate_succ, run, told, Option.toList_some, List.length_append,
          List.length_singleton, given]
        omega

/-- **Decoding ends, and little stays behind.** Whatever is in the buffer of a codec, an answer with
a frame or an error leaves fewer bytes in it, and an answer with neither leaves the beginning of a
frame, 66 bytes at most whatever was pushed before. Asked again and again, a codec comes to such an
answer after at most as many frames and errors as there were bytes; and calls and pushes in any order
never give out more frames and errors than there were bytes in all. -/
theorem decoding_ends (codec : Codec) :
    (codec.next.1 ≠ .ok none → codec.next.2.buffer.length < codec.buffer.length) ∧
    (codec.next.1 = .ok none → Pending codec.side.inbound codec.next.2.buffer) ∧
    (∃ count ≤ codec.buffer.length,
      let drained := codec.run (List.replicate count .next)
      drained.1.length = count ∧ drained.2.next.1 = .ok none) ∧
    (∀ calls, (codec.run calls).1.length ≤ codec.buffer.length + (pushed calls).length) ∧
    ∀ calls, (codec.run calls).2.next.1 = .ok none →
      (codec.run calls).2.next.2.buffer.length ≤ 66 := by
  refine ⟨length_next_lt, pending_next, codec.exists_drained, fun calls => ?_, fun _ waits => ?_⟩
  · exact Nat.le_trans (Nat.le_add_right _ _) (codec.length_run calls)
  · exact (pending_next waits).length_le

/-- A header that announces 256 bytes, a frame, and the beginning of the longest frame. -/
theorem decoding_ends_malformed :
    let malformed : Codec :=
      { side := .host,
        buffer := [0x78, 0x3E, 0x00, 0x01, 0x3E, 0x01, 0x00, 0x6F, 0x3E, 0x40, 0x00] }
    let drained := malformed.run [.next, .next]
    malformed.next.1 = .error (.frameTooLong frameLimit 256) ∧
      malformed.next.2.buffer.length < malformed.buffer.length ∧
      drained.1 = [.error (.frameTooLong frameLimit 256), .ok [0x6F]] ∧
      drained.2.next.1 = .ok none ∧
      Pending Side.host.inbound drained.2.next.2.buffer ∧
      drained.2.next.2.buffer.length ≤ 66 := by
  intro malformed drained
  have refused : malformed.next.1 = .error (.frameTooLong frameLimit 256) := by decide
  have waits : drained.2.next.1 = .ok none := by decide
  obtain ⟨shrinks, -, -, -, bounded⟩ := decoding_ends malformed
  exact ⟨refused, shrinks (by decide), by decide, waits, (decoding_ends drained.2).2.1 waits,
    bounded [.next, .next] waits⟩

end Codec

end ControlLink.Bridge
