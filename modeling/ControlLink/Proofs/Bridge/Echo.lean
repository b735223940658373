/-
# ControlLink.Proofs.Bridge.Echo — an end of a bridge that hears itself

The frames that an end of a bridge sends stand behind the marker of the other direction. If they
come back to it, its codec does not skip them as frames: it discards byte by byte up to the next
inbound marker, and that may stand in the bytes of a frame or be the length of one (`Harmless`).

A codec ignores a stream exactly if what follows the first inbound marker in it is the beginning of
a frame at most (`ignores_iff`). Sooner or later harmless frames make up that frame, so the codec
ignores its own frames, and goes on to ignore any harmless ones, exactly if all of them are harmless
(`ignored_own_frames`).
-/
import ControlLink.Proofs.Bridge.Progress

namespace ControlLink.Bridge

set_option autoImplicit false

namespace Codec

/-- What a codec sends for frames. -/
def stream (codec : Codec) : List Bytes → Except LinkError Bytes
  | [] => .ok []
  | frame :: frames => do
    let piece ← codec.wrap frame
    let later ← codec.stream frames
    return piece ++ later

/-- Nothing comes out of the codec, however much of the stream is there, in whichever pieces it came
and whenever the codec is asked. -/
def Ignores (codec : Codec) (stream : Bytes) : Prop :=
  ∀ calls, pushed calls <+: stream → (codec.run calls).1 = []

theorem pushed_replicate_next (count : Nat) : pushed (List.replicate count .next) = [] := by
  induction count with
  | zero => rfl
  | succ count ih => exact ih

end Codec

/-- A frame that shows no inbound marker to the end that sends it, in its bytes or as its length. -/
structure Harmless (side : Side) (frame : Bytes) : Prop where
  content : side.inbound ∉ frame
  length : frame.length ≠ side.inbound.toNat

theorem harmless_iff {side : Side} {frame : Bytes} :
    Harmless side frame ↔ side.inbound ∉ frame ∧ frame.length ≠ side.inbound.toNat :=
  ⟨fun harmless => ⟨harmless.content, harmless.length⟩, fun shown => ⟨shown.1, shown.2⟩⟩

/-! ## Streams that are ignored -/

section Streams

variable {marker : UInt8} {side : Side} {buffer : Bytes}

/-- Nothing is in a buffer but the beginning of a frame. -/
theorem drain_eq_nil_iff :
    (drain marker buffer).1 = [] ↔ Pending marker (buffer.dropWhile (· != marker)) := by
  have waits : decode marker buffer = .waiting (buffer.dropWhile (· != marker)) ↔
      Pending marker (buffer.dropWhile (· != marker)) :=
    decode_eq_waiting_iff.trans (and_iff_right rfl)
  rw [← waits]
  cases decided : decode marker buffer with
  | waiting rest => simp [drain_of_waiting decided, (decode_eq_waiting_iff.1 decided).1]
  | frame data rest => simp [drain_of_frame decided]
  | oversized length rest => simp [drain_of_oversized decided]

/-- **A codec ignores a stream exactly if it waits on it.** -/
theorem ignores_iff {stream : Bytes} : Codec.Ignores { side } stream ↔
    Pending side.inbound (stream.dropWhile (· != side.inbound)) := by
  rw [← drain_eq_nil_iff]
  constructor
  · intro ignored
    let count := (drain side.inbound stream).1.length + 1
    have all := Codec.run_replicate_next { side, buffer := stream } count (Nat.lt_succ_self _)
    have begins : Codec.pushed (.push stream :: List.replicate count .next) <+: stream := by
      refine ⟨[], ?_⟩
      rw [Codec.pushed, Codec.pushed_replicate_next, List.append_nil, List.append_nil]
    have nothing := ignored _ begins
    rw [Codec.run, Codec.push, List.nil_append, all] at nothing
    exact nothing
  · rintro nothing calls ⟨more, rfl⟩
    have kept := Codec.drain_run { side } calls more
    rw [List.nil_append] at kept
    rw [kept] at nothing
    exact (List.append_eq_nil_iff.1 nothing).1

theorem ignores_of_notMem {stream : Bytes} (quiet : side.inbound ∉ stream) :
    Codec.Ignores { side } stream := by
  rw [ignores_iff, ← drain_eq_nil_iff, drain_of_quiet quiet]

/-- Once a marker has come, any 66 further bytes bring something out. -/
theorem not_ignores {stream more : Bytes} (loud : side.inbound ∈ stream) (many : 66 ≤ more.length) :
    ¬ Codec.Ignores { side } (stream ++ more) := by
  rw [ignores_iff]
  intro pending
  have some : stream.dropWhile (· != side.inbound) ≠ [] := by
    simpa [List.dropWhile_eq_nil_iff] using loud
  have few := pending.length_le
  rw [List.dropWhile_append, if_neg (by simpa using some), List.length_append] at few
  have first := List.length_pos_iff.2 some
  omega

end Streams

/-! ## Streams that are sent -/

section Frames

variable {codec : Codec} {frame : Bytes} {frames more : List Bytes}

/-- A frame behind its header. -/
def Codec.piece (codec : Codec) (frame : Bytes) : Bytes :=
  codec.side.outbound :: Bytes.littleEndian 2 frame.length ++ frame

theorem stream_eq (fits : ∀ frame ∈ frames, frame.length ≤ frameLimit) :
    codec.stream frames = .ok (frames.flatMap codec.piece) := by
  induction frames with
  | nil => rfl
  | cons frame frames ih =>
      obtain ⟨short, others⟩ := List.forall_mem_cons.1 fits
      rw [Codec.stream, Codec.wrap, encode, if_neg (Nat.not_lt.2 short), ih others]
      rfl

/-- **What a harmless frame is sent as holds no inbound marker.** -/
theorem inbound_mem_piece_iff (fits : frame.length ≤ frameLimit) :
    codec.side.inbound ∈ codec.piece frame ↔ ¬ Harmless codec.side frame := by
  have limit : frameLimit = 64 := rfl
  have small : frame.length < 256 := by omega
  have high : frame.length / 256 = 0 := Nat.div_eq_of_lt small
  have marker : codec.side.inbound ≠ codec.side.outbound ∧ codec.side.inbound ≠ 0 := by
    cases codec.side <;> decide
  have low : codec.side.inbound = UInt8.ofNat frame.length ↔
      frame.length = codec.side.inbound.toNat := by
    rw [← UInt8.toNat_inj, UInt8.toNat_ofNat_of_lt' small, eq_comm]
  -- The markers differ, and the high byte of a length is zero: what is left is the low byte.
  simp [Codec.piece, Bytes.littleEndian, high, low, marker, harmless_iff, or_iff_not_imp_right]

theorem inbound_mem_flatMap_iff (codec : Codec)
    (fits : ∀ frame ∈ frames, frame.length ≤ frameLimit) :
    codec.side.inbound ∈ frames.flatMap codec.piece ↔
      ∃ frame ∈ frames, ¬ Harmless codec.side frame := by
  rw [List.mem_flatMap]
  exact exists_congr fun frame => and_congr_right fun member =>
    inbound_mem_piece_iff (fits _ member)

theorem harmless_nil (side : Side) : Harmless side [] where
  content := List.not_mem_nil
  length := by cases side <;> decide

end Frames

/-- **What an end of a bridge ignores of its own frames.** The frames that a codec sends, pushed
into a codec of the same end in whichever pieces, bring out no frame and no error exactly if what
stands from the first inbound marker on, if there is one, is the beginning of a frame. If all the
frames are harmless there is none, whatever harmless frames follow them; and if one of them is not,
enough empty frames behind it do bring something out. -/
theorem ignored_own_frames (side : Side) (frames : List Bytes)
    (fits : ∀ frame ∈ frames, frame.length ≤ frameLimit) :
    let codec : Codec := { side }
    ∃ stream, codec.stream frames = .ok stream ∧
      (codec.Ignores stream ↔ Pending side.inbound (stream.dropWhile (· != side.inbound))) ∧
      ((∀ frame ∈ frames, Harmless side frame) ↔
        ∀ more : List Bytes, (∀ frame ∈ more, frame.length ≤ frameLimit ∧ Harmless side frame) →
          ∃ longer, codec.stream (frames ++ more) = .ok longer ∧ codec.Ignores longer) := by
  intro codec
  refine ⟨_, stream_eq fits, ignores_iff, ?_, ?_⟩
  · intro harmless more further
    have all : ∀ frame ∈ frames ++ more, frame.length ≤ frameLimit ∧ Harmless side frame := by
      intro frame member
      rcases List.mem_append.1 member with first | second
      · exact ⟨fits _ first, harmless _ first⟩
      · exact further _ second
    refine ⟨_, stream_eq fun frame member => (all frame member).1, ignores_of_notMem fun loud => ?_⟩
    obtain ⟨frame, member, harmful⟩ :=
      (inbound_mem_flatMap_iff codec fun frame member => (all frame member).1).1 loud
    exact harmful (all frame member).2
  · intro ignored frame member
    by_contra harmful
    let empty : List Bytes := List.replicate 22 []
    have further : ∀ frame ∈ empty, frame.length ≤ frameLimit ∧ Harmless side frame := by
      intro frame member
      rw [List.eq_of_mem_replicate member]
      exact ⟨Nat.zero_le _, harmless_nil side⟩
    obtain ⟨longer, sent, ignores⟩ := ignored empty further
    have loud := (inbound_mem_flatMap_iff codec fits).2 ⟨frame, member, harmful⟩
    have whole : ∀ frame ∈ frames ++ empty, frame.length ≤ frameLimit :=
      List.forall_mem_append.2 ⟨fits, fun frame member => (further frame member).1⟩
    rw [stream_eq whole, List.flatMap_append, Except.ok.injEq] at sent
    subst sent
    exact not_ignores loud (by simp [empty, codec, Codec.piece]) ignores

/-- Two harmless frames, and a third one behind them. -/
theorem ignored_own_frames_harmless :
    let host : Codec := { side := .host }
    (∀ frame ∈ ([[0x73], [0x65, 0x69]] : List Bytes), frame.length ≤ frameLimit) ∧
      host.stream [[0x73], [0x65, 0x69]] =
        .ok [0x3C, 0x01, 0x00, 0x73, 0x3C, 0x02, 0x00, 0x65, 0x69] ∧
      host.Ignores [0x3C, 0x01, 0x00, 0x73, 0x3C, 0x02, 0x00, 0x65, 0x69] := by
  intro host
  have fits : ∀ frame ∈ ([[0x73], [0x65, 0x69]] : List Bytes), frame.length ≤ frameLimit := by
    decide
  obtain ⟨stream, sent, ignores, -⟩ := ignored_own_frames .host [[0x73], [0x65, 0x69]] fits
  cases sent
  exact ⟨fits, rfl, ignores.2 .nothing⟩

/-- A host that hears its own frame `>`, zero, zero takes an empty frame from it. -/
theorem own_frame_decoded :
    let host : Codec := { side := .host }
    host.stream [[0x3E, 0x00, 0x00]] = .ok [0x3C, 0x03, 0x00, 0x3E, 0x00, 0x00] ∧
      (host.push [0x3C, 0x03, 0x00, 0x3E, 0x00, 0x00]).next.1 = .ok (some []) ∧
      ¬ host.Ignores [0x3C, 0x03, 0x00, 0x3E, 0x00, 0x00] := by
  intro host
  refine ⟨rfl, rfl, fun ignores => ?_⟩
  have nothing := ignores [.push [0x3C, 0x03, 0x00, 0x3E, 0x00, 0x00], .next] (List.prefix_refl _)
  exact absurd nothing (by decide)

end ControlLink.Bridge
