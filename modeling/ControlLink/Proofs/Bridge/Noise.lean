/-
# ControlLink.Proofs.Bridge.Noise — frames come through noise

Between the frames on a stream there may be noise (`Noise`): bytes without the marker of the
receiver, perhaps behind a header that announces too long a frame. The frames themselves may hold
any bytes, markers too.

A codec may be asked for the next frame at any time, also in the middle of one. No call loses or
adds anything (`drain_run`): what has come out of the codec, and then what is in its buffer together
with all that is still to be pushed, is what is in the whole stream. The whole stream holds one
error for each such header and each frame, in their places, and leaves nothing behind
(`drain_transmit`).
-/
import ControlLink.Proofs.Bridge.Stream

namespace ControlLink.Bridge

set_option autoImplicit false

@[simp] theorem Side.inbound_other (side : Side) : side.other.inbound = side.outbound := by
  cases side <;> rfl

/-! ## Calls on a codec -/

namespace Codec

inductive Call where
  | push (data : Bytes)
  | next

/-- The bytes that are pushed, in order. -/
def pushed : List Call → Bytes
  | [] => []
  | .push data :: calls => data ++ pushed calls
  | .next :: calls => pushed calls

/-- A frame or an error in the answer of a codec, which has neither while it waits. -/
def outcome? : Except LinkError (Option Bytes) → Option (Except LinkError Bytes)
  | .ok answer => answer.map .ok
  | .error error => some (.error error)

/-- The frames and the errors that calls take out of a codec, in order, and the codec behind them. -/
def run (codec : Codec) : List Call → List (Except LinkError Bytes) × Codec
  | [] => ([], codec)
  | .push data :: calls => (codec.push data).run calls
  | .next :: calls =>
    ((outcome? codec.next.1).toList ++ (codec.next.2.run calls).1, (codec.next.2.run calls).2)

theorem run_append (codec : Codec) (calls more : List Call) :
    codec.run (calls ++ more) =
      ((codec.run calls).1 ++ ((codec.run calls).2.run more).1, ((codec.run calls).2.run more).2) := by
  induction calls generalizing codec with
  | nil => simp [run]
  | cons call calls ih => cases call <;> simp [run, ih]

theorem side_run (codec : Codec) (calls : List Call) : (codec.run calls).2.side = codec.side := by
  induction calls generalizing codec with
  | nil => rfl
  | cons call calls ih =>
      cases call with
      | push data => exact ih _
      | next =>
          show (codec.next.2.run calls).2.side = codec.side
          rw [ih, next]
          cases decode codec.side.inbound codec.buffer <;> rfl

/-- A call for the next frame takes the first of what is in the buffer and all that comes later. -/
theorem drain_next (codec : Codec) (more : Bytes) :
    drain codec.side.inbound (codec.buffer ++ more) =
      ((outcome? codec.next.1).toList ++ (drain codec.side.inbound (codec.next.2.buffer ++ more)).1,
        (drain codec.side.inbound (codec.next.2.buffer ++ more)).2) := by
  have firm := decode_firm codec.side.inbound codec.buffer
  rw [next]
  cases decided : decode codec.side.inbound codec.buffer with
  | waiting rest =>
      rw [decided] at firm
      simp [outcome?, drain_congr (firm more)]
  | frame data rest =>
      rw [decided] at firm
      simp [outcome?, drain_of_frame (firm.2.2 more)]
  | oversized length rest =>
      rw [decided] at firm
      simp [outcome?, drain_of_oversized (firm.2.2 more)]

/-- **Calls neither lose nor add anything**, whenever they come. -/
theorem drain_run (codec : Codec) (calls : List Call) (more : Bytes) :
    drain codec.side.inbound (codec.buffer ++ (pushed calls ++ more)) =
      ((codec.run calls).1 ++
          (drain codec.side.inbound ((codec.run calls).2.buffer ++ more)).1,
        (drain codec.side.inbound ((codec.run calls).2.buffer ++ more)).2) := by
  induction calls generalizing codec with
  | nil => simp [run, pushed]
  | cons call calls ih =>
      cases call with
      | push data =>
          have later := ih (codec.push data)
          simpa [run, pushed, push] using later
      | next =>
          have side : codec.next.2.side = codec.side := side_run codec [.next]
          have later := ih codec.next.2
          rw [side] at later
          simp [run, pushed, drain_next codec, later]

/-- A codec that waits has nothing in its buffer but the beginning of a frame. -/
theorem drain_of_next_none {codec : Codec} (waits : codec.next.1 = .ok none) :
    drain codec.side.inbound codec.buffer = ([], codec.next.2.buffer) := by
  revert waits
  rw [next]
  cases decided : decode codec.side.inbound codec.buffer with
  | waiting rest => simp [drain_of_waiting decided]
  | frame data rest => simp
  | oversized length rest => simp

/-- A codec that has discarded what it can stays as it is until more is pushed. -/
theorem run_replicate_of_waiting {codec : Codec}
    (waits : decode codec.side.inbound codec.buffer = .waiting codec.buffer) (count : Nat) :
    codec.run (List.replicate count .next) = ([], codec) := by
  have still : codec.next = (.ok none, codec) := by simp [next, waits]
  induction count with
  | zero => rfl
  | succ count ih => simp [List.replicate_succ, run, still, outcome?, ih]

/-- **Asked often enough, a codec gives out everything in its buffer.** -/
theorem run_replicate_next (codec : Codec) (count : Nat)
    (enough : (drain codec.side.inbound codec.buffer).1.length < count) :
    codec.run (List.replicate count .next) =
      ((drain codec.side.inbound codec.buffer).1,
        { codec with buffer := (drain codec.side.inbound codec.buffer).2 }) := by
  induction count generalizing codec with
  | zero => omega
  | succ count ih =>
      rw [List.replicate_succ, run, next]
      cases decided : decode codec.side.inbound codec.buffer with
      | waiting rest =>
          have still : Codec.run { codec with buffer := rest } (List.replicate count .next) =
              ([], { codec with buffer := rest }) :=
            run_replicate_of_waiting (decode_of_waiting decided) count
          simp [still, outcome?, drain_of_waiting decided]
      | frame data rest =>
          rw [drain_of_frame decided] at enough ⊢
          have later := ih { codec with buffer := rest } (by simpa using enough)
          simp [later, outcome?]
      | oversized length rest =>
          rw [drain_of_oversized decided] at enough ⊢
          have later := ih { codec with buffer := rest } (by simpa using enough)
          simp [later, outcome?]

end Codec

/-! ## Noise -/

/-- A header that announces too long a frame, in bytes that are not taken for markers. -/
structure Oversized (marker : UInt8) where
  low : UInt8
  high : UInt8
  low_ne : low ≠ marker
  high_ne : high ≠ marker
  large : frameLimit < Bytes.toNat [low, high]

/-- What may stand between frames: bytes without the marker, perhaps behind an oversized header. -/
structure Noise (marker : UInt8) where
  header : Option (Oversized marker) := none
  bytes : Bytes := []
  quiet : marker ∉ bytes

namespace Noise

variable {marker : UInt8}

/-- The noise on the stream. -/
def stream (noise : Noise marker) : Bytes :=
  match noise.header with
  | some header => marker :: header.low :: header.high :: noise.bytes
  | none => noise.bytes

/-- The errors that the noise comes to. -/
def errors (noise : Noise marker) : List (Except LinkError Bytes) :=
  match noise.header with
  | some header => [.error (.frameTooLong frameLimit (Bytes.toNat [header.low, header.high]))]
  | none => []

end Noise

section Streams

variable {marker : UInt8}

/-- Bytes without the marker are discarded. -/
theorem drain_of_quiet {bytes : Bytes} (quiet : marker ∉ bytes) :
    drain marker bytes = ([], []) := by
  have gone : bytes.dropWhile (· != marker) = [] := by
    simp only [List.dropWhile_eq_nil_iff, bne_iff_ne]
    rintro byte member rfl
    exact quiet member
  apply drain_of_waiting
  rw [decode, gone]
  rfl

/-- **Noise comes to the errors about its headers** and leaves nothing behind. -/
theorem drain_noise (noise : Noise marker) : drain marker noise.stream = (noise.errors, []) := by
  obtain ⟨header, bytes, quiet⟩ := noise
  cases header with
  | none => exact drain_of_quiet quiet
  | some header =>
      have silent : marker ∉ header.low :: header.high :: bytes := by
        simp [quiet, header.low_ne.symm, header.high_ne.symm]
      have refused := decode_marked marker header.low header.high bytes
      rw [if_pos header.large] at refused
      simp only [Noise.stream, Noise.errors]
      rw [drain_of_oversized refused, drain_of_quiet silent]

end Streams

/-- What one end of a bridge sends, each frame with noise in front of it, and noise at the end. -/
def transmit (sender : Codec) (last : Noise sender.side.outbound) :
    List (Noise sender.side.outbound × Bytes) → Except LinkError Bytes
  | [] => .ok last.stream
  | (noise, frame) :: rest => do
    let piece ← sender.wrap frame
    let later ← transmit sender last rest
    return noise.stream ++ (piece ++ later)

/-- What is to be received of it. -/
def due {marker : UInt8} (last : Noise marker) (sent : List (Noise marker × Bytes)) :
    List (Except LinkError Bytes) :=
  (sent.flatMap fun entry => entry.1.errors ++ [.ok entry.2]) ++ last.errors

/-- **A stream holds the frames that were sent and the errors of its noise**, each in its place, and
nothing is left of it. -/
theorem drain_transmit (sender : Codec) (last : Noise sender.side.outbound)
    (sent : List (Noise sender.side.outbound × Bytes))
    (fits : ∀ entry ∈ sent, entry.2.length ≤ frameLimit) :
    ∃ stream, transmit sender last sent = .ok stream ∧
      drain sender.side.outbound stream = (due last sent, []) := by
  induction sent with
  | nil => exact ⟨last.stream, rfl, drain_noise last⟩
  | cons entry sent ih =>
      obtain ⟨noise, frame⟩ := entry
      obtain ⟨later, sends, drained⟩ := ih fun entry member => fits entry (.tail _ member)
      have short : frame.length ≤ frameLimit := fits _ (.head _)
      obtain ⟨piece, wrapped⟩ : ∃ piece, sender.wrap frame = .ok piece := by
        simp [Codec.wrap, encode, Nat.not_lt.2 short]
      refine ⟨noise.stream ++ (piece ++ later), by rw [transmit, wrapped, sends]; rfl, ?_⟩
      rw [drain_append, drain_noise, List.nil_append, drain_of_frame (decode_encode wrapped later),
        drained]
      simp [due]

/-! ## Frames through noise -/

/-- **Frames come through noise.** The frames that one end of a bridge sends are what the other end
receives, whatever bytes they hold and whatever noise stands around them; each header in the noise
that announces too much comes to one error in its place, and nothing else comes out. That is so
however the stream is divided into pushes and whenever the codec is asked in between: what has come
out of it so far is the beginning of what is due; once all is pushed and the codec waits, all that is
due has come out and nothing is left; and asked often enough, it does wait. -/
theorem noise_passed (sender : Codec) (last : Noise sender.side.outbound)
    (sent : List (Noise sender.side.outbound × Bytes))
    (fits : ∀ entry ∈ sent, entry.2.length ≤ frameLimit) :
    let receiver : Codec := { side := sender.side.other }
    ∃ stream, transmit sender last sent = .ok stream ∧
      (∀ calls, Codec.pushed calls <+: stream → (receiver.run calls).1 <+: due last sent) ∧
      (∀ calls, Codec.pushed calls = stream → (receiver.run calls).2.next.1 = .ok none →
        (receiver.run calls).1 = due last sent ∧ (receiver.run calls).2.next.2.buffer = []) ∧
      ∀ calls, Codec.pushed calls = stream → ∀ count, (due last sent).length < count →
        receiver.run (calls ++ List.replicate count .next) = (due last sent, receiver) := by
  intro receiver
  obtain ⟨stream, sends, drained⟩ := drain_transmit sender last sent fits
  have marker : receiver.side.inbound = sender.side.outbound := Side.inbound_other _
  -- What has come out, and then what is in the buffer and still to come, is what is due.
  have kept (calls more) (whole : Codec.pushed calls ++ more = stream) :
      (receiver.run calls).1 ++
          (drain sender.side.outbound ((receiver.run calls).2.buffer ++ more)).1 = due last sent ∧
        (drain sender.side.outbound ((receiver.run calls).2.buffer ++ more)).2 = [] := by
    have all := receiver.drain_run calls more
    rw [List.nil_append, whole, marker, drained, Prod.mk.injEq] at all
    exact ⟨all.1.symm, all.2.symm⟩
  refine ⟨stream, sends, ?_, ?_, ?_⟩
  · rintro calls ⟨more, whole⟩
    exact ⟨_, (kept calls more whole).1⟩
  · intro calls whole waits
    have side := receiver.side_run calls
    have nothing := Codec.drain_of_next_none waits
    have all := kept calls [] (by rwa [List.append_nil])
    rw [side, marker] at nothing
    rw [List.append_nil, nothing, List.append_nil] at all
    exact all
  · intro calls whole count enough
    have side := receiver.side_run calls
    have all := kept calls [] (by rwa [List.append_nil])
    rw [List.append_nil] at all
    have fewer : (drain sender.side.outbound (receiver.run calls).2.buffer).1.length < count := by
      rw [← all.1, List.length_append] at enough
      omega
    have rest := (receiver.run calls).2.run_replicate_next count (by rwa [side, marker])
    rw [side, marker, all.2] at rest
    rw [Codec.run_append, rest, all.1]

/-- A header that announces 256 bytes. -/
def announcement : Oversized Side.device.outbound where
  low := 0x00
  high := 0x01
  low_ne := by decide
  high_ne := by decide
  large := by decide

/-- Frames that look like headers, between noise and a header that announces too much. -/
def disguised : List (Noise Side.device.outbound × Bytes) :=
  [({ bytes := [0x78], quiet := by decide }, [0x3E, 0x01, 0x00]),
    ({ header := some announcement, bytes := [0x79], quiet := by decide }, [0x3E, 0xFF, 0xFF])]

/-- The receiver is asked in the middle of the noise, of the header and of a frame. -/
theorem noise_passed_disguised :
    let noiseless : Noise Side.device.outbound := { quiet := by decide }
    let receiver : Codec := { side := .host }
    let calls : List Codec.Call :=
      [.next, .push [0x78, 0x3E, 0x03], .next, .push [0x00, 0x3E, 0x01, 0x00, 0x3E], .next, .next,
        .push [0x00, 0x01, 0x79, 0x3E, 0x03, 0x00, 0x3E, 0xFF], .next, .next, .push [0xFF]]
    transmit { side := .device } noiseless disguised = .ok (Codec.pushed calls) ∧
      (receiver.run calls).1 <+: due noiseless disguised ∧
      receiver.run (calls ++ List.replicate 4 .next) =
        ([.ok [0x3E, 0x01, 0x00], .error (.frameTooLong frameLimit 256), .ok [0x3E, 0xFF, 0xFF]],
          receiver) := by
  intro noiseless receiver calls
  have fits : ∀ entry ∈ disguised, entry.2.length ≤ frameLimit := by decide
  obtain ⟨stream, sends, begins, -, ends⟩ := noise_passed { side := .device } noiseless disguised fits
  have whole : stream = Codec.pushed calls := by
    have same : transmit { side := .device } noiseless disguised = .ok (Codec.pushed calls) := rfl
    rw [sends] at same
    exact Except.ok.inj same
  subst whole
  exact ⟨sends, begins calls (List.prefix_refl _), ends calls rfl 4 (by decide)⟩

end ControlLink.Bridge
