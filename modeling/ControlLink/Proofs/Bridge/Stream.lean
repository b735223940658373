/-
# ControlLink.Proofs.Bridge.Stream — reads may cut a stream anywhere

What a link receives depends on the bytes of its stream and not on the reads that they come in. The
codec decides on a frame only once all of it is there, and more bytes do not change a decision
(`decode_firm`). So a link that has read part of its stream is as good as one buffer that holds what
was kept and all that is still to come (`Link.pending`): a receive takes from that buffer what the
codec finds at its front (`receive_pending`).

`drain` takes everything from a buffer, which may be done in parts (`drain_append`). The outcomes of
the receives on a link are those of the whole stream drained at once, and after them only that the
link is closed (`segmentation`).
-/
import ControlLink.Bridge.Link
import Mathlib.Data.List.TakeWhile

namespace ControlLink.Bridge

set_option autoImplicit false

/-! ## What the codec decides -/

/-- A decision on the front of a buffer that stands whatever comes behind the buffer. Waiting only
discards bytes that would be discarded anyway. -/
def Decoded.Firm (marker : UInt8) (buffer : Bytes) : Decoded → Prop
  | waiting rest => ∀ more, decode marker (buffer ++ more) = decode marker (rest ++ more)
  | frame data rest => data.length ≤ frameLimit ∧ rest.length < buffer.length ∧
      ∀ more, decode marker (buffer ++ more) = .frame data (rest ++ more)
  | oversized length rest => frameLimit < length ∧ rest.length < buffer.length ∧
      ∀ more, decode marker (buffer ++ more) = .oversized length (rest ++ more)

section Decisions

variable {marker : UInt8} {buffer : Bytes}

/-- A buffer holds no marker, or one is in front after the bytes before it are discarded. -/
theorem dropWhile_marker (marker : UInt8) (buffer : Bytes) :
    buffer.dropWhile (· != marker) = [] ∨
      ∃ bytes, buffer.dropWhile (· != marker) = marker :: bytes := by
  cases found : buffer.dropWhile (· != marker) with
  | nil => exact .inl rfl
  | cons byte bytes =>
      have some : buffer.dropWhile (· != marker) ≠ [] := by simp [found]
      have first := List.head_dropWhile_not (· != marker) some
      simp only [found, List.head_cons, bne_eq_false_iff_eq] at first
      exact .inr ⟨bytes, by rw [first]⟩

/-- What is in front of the first marker does not matter. -/
theorem decode_of_found {bytes : Bytes}
    (found : buffer.dropWhile (· != marker) = marker :: bytes) (more : Bytes) :
    decode marker (buffer ++ more) = decode marker (marker :: bytes ++ more) := by
  simp [decode, List.dropWhile_append, found]

theorem decode_marked (marker low high : UInt8) (body : Bytes) :
    decode marker (marker :: low :: high :: body) =
      if frameLimit < Bytes.toNat [low, high] then
        .oversized (Bytes.toNat [low, high]) (low :: high :: body)
      else if body.length < Bytes.toNat [low, high] then .waiting (marker :: low :: high :: body)
      else .frame (body.take (Bytes.toNat [low, high])) (body.drop (Bytes.toNat [low, high])) := by
  have front : (marker :: low :: high :: body).dropWhile (· != marker) =
      marker :: low :: high :: body := by simp
  rw [decode, front]
  rfl

/-- A buffer with a marker in front: its header decides as soon as it is there, unless it announces
a frame that is not there yet. -/
theorem decode_firm_marked (marker : UInt8) (bytes : Bytes) :
    (decode marker (marker :: bytes)).Firm marker (marker :: bytes) := by
  match bytes with
  | [] =>
      have waits : decode marker [marker] = .waiting [marker] := by simp [decode, decodeMarked]
      rw [waits]
      exact fun _ => rfl
  | [low] =>
      have waits : decode marker [marker, low] = .waiting [marker, low] := by
        simp [decode, decodeMarked]
      rw [waits]
      exact fun _ => rfl
  | low :: high :: body =>
      rw [decode_marked]
      by_cases large : frameLimit < Bytes.toNat [low, high]
      · rw [if_pos large]
        refine ⟨large, by simp, fun more => ?_⟩
        exact (decode_marked ..).trans (if_pos large)
      by_cases short : body.length < Bytes.toNat [low, high]
      · rw [if_neg large, if_pos short]
        exact fun _ => rfl
      · have whole : Bytes.toNat [low, high] ≤ body.length := Nat.le_of_not_lt short
        rw [if_neg large, if_neg short]
        refine ⟨?_, ?_, fun more => ?_⟩
        · rw [List.length_take]
          omega
        · simp only [List.length_drop, List.length_cons]
          omega
        · have enough : ¬ (body ++ more).length < Bytes.toNat [low, high] := by
            rw [List.length_append]
            omega
          have split := decode_marked marker low high (body ++ more)
          rw [if_neg large, if_neg enough, List.take_append_of_le_length whole,
            List.drop_append_of_le_length whole] at split
          exact split

/-- **What the codec decides, it decides whatever comes later.** -/
theorem decode_firm (marker : UInt8) (buffer : Bytes) :
    (decode marker buffer).Firm marker buffer := by
  obtain nothing | ⟨bytes, found⟩ := dropWhile_marker marker buffer
  · have waits : decode marker buffer = .waiting [] := by rw [decode, nothing]; rfl
    rw [waits]
    intro more
    simp [decode, List.dropWhile_append, nothing]
  · have onward := decode_of_found found
    have same : decode marker buffer = decode marker (marker :: bytes) := by
      simpa using onward []
    have fewer : (marker :: bytes).length ≤ buffer.length := by
      rw [← found]
      exact (List.dropWhile_suffix _).length_le
    have firm := decode_firm_marked marker bytes
    rw [← same] at firm
    cases decided : decode marker buffer with
    | waiting rest =>
        rw [decided] at firm
        exact fun more => (onward more).trans (firm more)
    | frame data rest =>
        rw [decided] at firm
        obtain ⟨fits, shorter, stands⟩ := firm
        exact ⟨fits, Nat.lt_of_lt_of_le shorter fewer, fun more => (onward more).trans (stands more)⟩
    | oversized length rest =>
        rw [decided] at firm
        obtain ⟨long, shorter, stands⟩ := firm
        exact ⟨long, Nat.lt_of_lt_of_le shorter fewer, fun more => (onward more).trans (stands more)⟩

end Decisions

/-! ## Everything in a buffer -/

/-- The frames and the errors in a buffer, in order, and the bytes that are kept in the end. -/
def drain (marker : UInt8) (buffer : Bytes) : List (Except LinkError Bytes) × Bytes :=
  match _decided : decode marker buffer with
  | .waiting rest => ([], rest)
  | .frame data rest => (.ok data :: (drain marker rest).1, (drain marker rest).2)
  | .oversized length rest =>
    (.error (.frameTooLong frameLimit length) :: (drain marker rest).1, (drain marker rest).2)
termination_by buffer.length
decreasing_by
  all_goals
    have firm := decode_firm marker buffer
    rw [_decided] at firm
    exact firm.2.1

section Drains

variable {marker : UInt8} {buffer data rest : Bytes} {length : Nat}

theorem drain_of_waiting (decided : decode marker buffer = .waiting rest) :
    drain marker buffer = ([], rest) := by
  rw [drain]
  split <;> simp_all

theorem drain_of_frame (decided : decode marker buffer = .frame data rest) :
    drain marker buffer = (.ok data :: (drain marker rest).1, (drain marker rest).2) := by
  rw [drain]
  split <;> simp_all

theorem drain_of_oversized (decided : decode marker buffer = .oversized length rest) :
    drain marker buffer = (.error (.frameTooLong frameLimit length) :: (drain marker rest).1,
      (drain marker rest).2) := by
  rw [drain]
  split <;> simp_all

/-- What comes out of a buffer is what comes out of any other that is decided alike. -/
theorem drain_congr {other : Bytes} (alike : decode marker buffer = decode marker other) :
    drain marker buffer = drain marker other := by
  cases decided : decode marker other with
  | waiting rest => rw [drain_of_waiting decided, drain_of_waiting (alike.trans decided)]
  | frame data rest => rw [drain_of_frame decided, drain_of_frame (alike.trans decided)]
  | oversized length rest =>
      rw [drain_of_oversized decided, drain_of_oversized (alike.trans decided)]

/-- What is kept while waiting is kept from then on. -/
theorem decode_of_waiting (decided : decode marker buffer = .waiting rest) :
    decode marker rest = .waiting rest := by
  have firm := decode_firm marker buffer
  rw [decided] at firm
  have same := firm []
  rwa [List.append_nil, List.append_nil, decided, eq_comm] at same

/-- **A buffer may be drained in parts**: first what is there, then what was kept of it and what
came behind it. -/
theorem drain_append (marker : UInt8) (buffer more : Bytes) :
    drain marker (buffer ++ more) =
      ((drain marker buffer).1 ++ (drain marker ((drain marker buffer).2 ++ more)).1,
        (drain marker ((drain marker buffer).2 ++ more)).2) := by
  have firm := decode_firm marker buffer
  fun_induction drain marker buffer with
  | case1 buffer rest decided =>
      rw [decided] at firm
      rw [List.nil_append]
      exact drain_congr (firm more)
  | case2 buffer data rest decided ih =>
      rw [decided] at firm
      rw [drain_of_frame (firm.2.2 more), ih (decode_firm marker rest)]
      rfl
  | case3 buffer length rest decided ih =>
      rw [decided] at firm
      rw [drain_of_oversized (firm.2.2 more), ih (decode_firm marker rest)]
      rfl

/-- Nothing else comes out of a buffer than frames that fit and errors about headers. -/
theorem outcome_of_mem_drain {outcome : Except LinkError Bytes}
    (member : outcome ∈ (drain marker buffer).1) :
    (∃ frame, outcome = .ok frame ∧ frame.length ≤ frameLimit) ∨
      ∃ length, outcome = .error (.frameTooLong frameLimit length) ∧ frameLimit < length := by
  have firm := decode_firm marker buffer
  fun_induction drain marker buffer with
  | case1 buffer rest decided => cases member
  | case2 buffer data rest decided ih =>
      rw [decided] at firm
      rcases List.mem_cons.1 member with rfl | later
      · exact .inl ⟨data, rfl, firm.1⟩
      · exact ih later (decode_firm marker rest)
  | case3 buffer length rest decided ih =>
      rw [decided] at firm
      rcases List.mem_cons.1 member with rfl | later
      · exact .inr ⟨length, rfl, firm.1⟩
      · exact ih later (decode_firm marker rest)

end Drains

/-! ## Frames on a stream -/

section Frames

variable {marker : UInt8} {frame piece : Bytes}

/-- A frame on the stream is taken from it, whatever follows. -/
theorem decode_encode (encoded : encode marker frame = .ok piece) (more : Bytes) :
    decode marker (piece ++ more) = .frame frame more := by
  unfold encode at encoded
  split at encoded
  · cases encoded
  · rename_i fits
    cases encoded
    have length_eq : Bytes.toNat (Bytes.littleEndian 2 frame.length) = frame.length := by
      have small : frame.length < Nat.pow 256 2 := Nat.lt_of_le_of_lt (Nat.le_of_not_lt fits) (by decide)
      rw [Bytes.toNat_littleEndian, Nat.mod_eq_of_lt small]
    simp only [Bytes.littleEndian] at length_eq
    have shape := decode_marked marker (UInt8.ofNat frame.length) (UInt8.ofNat (frame.length / 256))
      (frame ++ more)
    rw [length_eq, if_neg fits, if_neg (by simp), List.take_left, List.drop_left] at shape
    exact shape

/-- Less than a whole frame is waited with. -/
theorem decode_of_incomplete {part : Bytes} (encoded : encode marker frame = .ok piece)
    (begins : part <+: piece) (less : part ≠ piece) : ∃ rest, decode marker part = .waiting rest := by
  obtain ⟨more, rfl⟩ := begins
  have whole := decode_encode encoded []
  rw [List.append_nil] at whole
  have firm := decode_firm marker part
  cases decided : decode marker part with
  | waiting rest => exact ⟨rest, rfl⟩
  | frame data rest =>
      -- A decision on a part is one on the whole, which leaves nothing behind.
      rw [decided] at firm
      have same := (firm.2.2 more).symm.trans whole
      simp only [Decoded.frame.injEq, List.append_eq_nil_iff] at same
      obtain ⟨-, -, rfl⟩ := same
      simp at less
  | oversized length rest =>
      rw [decided] at firm
      have same := (firm.2.2 more).symm.trans whole
      cases same

end Frames

/-! ## Links -/

/-- What a receive makes of a decision. A link whose stream is at its end does not wait. -/
def Decoded.outcome : Decoded → Except LinkError Bytes
  | waiting _ => .error .closed
  | frame data _ => .ok data
  | oversized length _ => .error (.frameTooLong frameLimit length)

def Decoded.rest : Decoded → Bytes
  | waiting rest | frame _ rest | oversized _ rest => rest

/-- The bytes of the stream that no receive has taken, read or not. -/
def Link.pending (link : Link) : Bytes := link.codec.buffer ++ link.incoming.flatten

/-- The outcomes of so many receives one after another. -/
def Link.outcomes (limit : Nat) : Nat → Link → List (Except LinkError Bytes)
  | 0, _ => []
  | count + 1, link => (link.receive limit).1 :: outcomes limit count (link.receive limit).2

/-- Reading goes on until the codec can decide, and its decision is the one on all that is to come. -/
theorem pull_eq (codec : Codec) (reads : List Bytes) :
    ∃ buffer left, Link.pull codec reads =
        ((decode codec.side.inbound (codec.buffer ++ reads.flatten)).outcome,
          { codec with buffer }, left) ∧
      buffer ++ left.flatten =
        (decode codec.side.inbound (codec.buffer ++ reads.flatten)).rest := by
  induction reads generalizing codec with
  | nil =>
      rw [Link.pull, Codec.next, List.flatten_nil, List.append_nil]
      cases decode codec.side.inbound codec.buffer with
      | waiting rest => exact ⟨rest, [], rfl, List.append_nil rest⟩
      | frame data rest => exact ⟨rest, [], rfl, List.append_nil rest⟩
      | oversized length rest => exact ⟨rest, [], rfl, List.append_nil rest⟩
  | cons read reads ih =>
      have firm := decode_firm codec.side.inbound codec.buffer
      rw [Link.pull, Codec.next]
      cases decided : decode codec.side.inbound codec.buffer with
      | waiting rest =>
          rw [decided] at firm
          obtain ⟨buffer, left, pulled, kept⟩ := ih ({ codec with buffer := rest }.push read)
          have same := firm (read :: reads).flatten
          have later : rest ++ read ++ reads.flatten = rest ++ (read :: reads).flatten := by simp
          simp only [Codec.push] at pulled kept
          rw [later, ← same] at pulled kept
          exact ⟨buffer, left, pulled, kept⟩
      | frame data rest =>
          rw [decided] at firm
          rw [firm.2.2]
          exact ⟨rest, read :: reads, rfl, rfl⟩
      | oversized length rest =>
          rw [decided] at firm
          rw [firm.2.2]
          exact ⟨rest, read :: reads, rfl, rfl⟩

/-- **A receive takes from a link what the codec finds at the front of all that is pending**, however
much of that has been read. -/
theorem receive_pending (link : Link) :
    (link.receive frameLimit).1 = (decode link.codec.side.inbound link.pending).outcome ∧
      (link.receive frameLimit).2.pending = (decode link.codec.side.inbound link.pending).rest ∧
      (link.receive frameLimit).2.codec.side = link.codec.side := by
  obtain ⟨buffer, left, pulled, kept⟩ := pull_eq link.codec link.incoming
  have firm := decode_firm link.codec.side.inbound link.pending
  have front : link.codec.buffer ++ link.incoming.flatten = link.pending := rfl
  rw [front] at pulled kept
  rw [Link.receive, pulled]
  cases decided : decode link.codec.side.inbound link.pending with
  | waiting rest =>
      rw [decided] at kept
      exact ⟨rfl, kept, rfl⟩
  | oversized length rest =>
      rw [decided] at kept
      exact ⟨rfl, kept, rfl⟩
  | frame data rest =>
      rw [decided] at kept firm
      simp only [Decoded.outcome, if_neg (Nat.not_lt.2 firm.1)]
      exact ⟨trivial, kept, trivial⟩

/-- **What receives on a link come to**: what is in all that is pending, and then nothing but that
the link is closed. -/
theorem outcomes_eq (link : Link) (count : Nat) :
    link.outcomes frameLimit count =
      (drain link.codec.side.inbound link.pending).1.take count ++
        List.replicate (count - (drain link.codec.side.inbound link.pending).1.length)
          (.error .closed) := by
  induction count generalizing link with
  | zero => simp [Link.outcomes]
  | succ count ih =>
      obtain ⟨taken, pending, side⟩ := receive_pending link
      rw [Link.outcomes, ih, taken, side, pending]
      cases decided : decode link.codec.side.inbound link.pending with
      | waiting rest =>
          have again := decode_of_waiting decided
          simp only [Decoded.outcome, Decoded.rest, drain_of_waiting decided, drain_of_waiting again]
          simp [List.replicate_succ]
      | frame data rest =>
          simp only [Decoded.outcome, Decoded.rest, drain_of_frame decided]
          simp
      | oversized length rest =>
          simp only [Decoded.outcome, Decoded.rest, drain_of_oversized decided]
          simp

/-- **It does not matter where the reads cut a stream.** The receives on a link come to what is in
its whole stream when that is drained at once, and after the last of it the link is closed for good.
What is in a stream are frames that fit and errors about headers. A whole frame that is due is among
them, before all that comes from behind it; what is only a part of one in the end is not. -/
theorem segmentation {stream : Bytes} {reads : List Bytes} (divided : reads.flatten = stream) :
    (∀ count, Link.outcomes frameLimit count { incoming := reads } =
      (drain Side.host.inbound stream).1.take count ++
        List.replicate (count - (drain Side.host.inbound stream).1.length) (.error .closed)) ∧
    (∀ other : List Bytes, other.flatten = stream → ∀ count,
      Link.outcomes frameLimit count { incoming := other } =
        Link.outcomes frameLimit count { incoming := reads }) ∧
    (∀ outcome ∈ (drain Side.host.inbound stream).1,
      (∃ frame, outcome = .ok frame ∧ frame.length ≤ frameLimit) ∨
        ∃ length, outcome = .error (.frameTooLong frameLimit length) ∧ frameLimit < length) ∧
    ∀ before frame piece, ({ side := .device } : Codec).wrap frame = .ok piece →
      (drain Side.host.inbound before).2 = [] →
      (∀ more, stream = before ++ piece ++ more → (drain Side.host.inbound stream).1 =
        (drain Side.host.inbound before).1 ++ .ok frame :: (drain Side.host.inbound more).1) ∧
      (∀ part, stream = before ++ part → part <+: piece → part ≠ piece →
        (drain Side.host.inbound stream).1 = (drain Side.host.inbound before).1) := by
  have received {reads : List Bytes} (divided : reads.flatten = stream) (count : Nat) :
      Link.outcomes frameLimit count { incoming := reads } =
        (drain Side.host.inbound stream).1.take count ++
          List.replicate (count - (drain Side.host.inbound stream).1.length) (.error .closed) := by
    have pending : ({ incoming := reads } : Link).pending = stream := divided
    have all := outcomes_eq { incoming := reads } count
    rwa [pending] at all
  refine ⟨received divided, ?_, fun outcome member => outcome_of_mem_drain member, ?_⟩
  · intro other alike count
    rw [received alike, received divided]
  intro before frame piece wrapped even
  have encoded : encode Side.host.inbound frame = .ok piece := wrapped
  constructor
  · rintro more rfl
    rw [List.append_assoc, drain_append, even, List.nil_append,
      drain_of_frame (decode_encode encoded more)]
  · rintro part rfl begins less
    obtain ⟨rest, waits⟩ := decode_of_incomplete encoded begins less
    rw [drain_append, even, List.nil_append, drain_of_waiting waits, List.append_nil]

/-- Reads that end inside noise, headers and frames: a byte of noise, a header that announces too
much, a frame, and the beginning of another. -/
def ragged : List Bytes :=
  [[0x78, 0x3E], [0x00], [0x01, 0x3E, 0x02], [0x00, 0x6F], [0x6B, 0x3E, 0x05], [0x00, 0x61]]

/-- Such a stream comes to the same in one piece. -/
theorem segmentation_ragged :
    Link.outcomes frameLimit 4 { incoming := ragged } =
        [.error (.frameTooLong frameLimit 256), .ok [0x6F, 0x6B], .error .closed, .error .closed] ∧
      Link.outcomes frameLimit 4 { incoming := [ragged.flatten] } =
        Link.outcomes frameLimit 4 { incoming := ragged } := by
  have divided : ragged.flatten = ragged.flatten := rfl
  obtain ⟨-, alike, -⟩ := segmentation divided
  exact ⟨by decide, alike [ragged.flatten] (List.append_nil _) 4⟩

end ControlLink.Bridge
