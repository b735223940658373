/-
# ControlLink.Proofs.Wire.Offset — a frame is read where it has bytes

A reader of a buffer reaches a byte by its offset, or a part by the offset where it starts or ends.
Here each of these can fail: `byteAt?`, `behind?` and `before?` answer nothing if the offset lies
outside. `byOffset?` reads a frame by them alone, with the lengths checked one by one on the way. It
always answers, and as `decode` does (`byOffset?_eq`): no check is too weak for the offsets that
come after it.

So the grammar of responses at the end is the whole of what a device can make a reader do: the frames
that are read, the causes for which the others are refused, and no read past the end of a frame.
-/
import ControlLink.Proofs.Wire.Response

namespace ControlLink.Wire.Response

set_option autoImplicit false

open Device

/-! ## Reaching into bytes -/

/-- The byte at an offset, if there is one. -/
def byteAt? (bytes : Bytes) (offset : Nat) : Option UInt8 := bytes[offset]?

/-- The bytes from an offset on, if it is not behind their end. -/
def behind? (bytes : Bytes) (start : Nat) : Option Bytes :=
  if start ≤ bytes.length then some (bytes.drop start) else none

/-- The bytes before an offset, if it is not behind their end. -/
def before? (bytes : Bytes) (stop : Nat) : Option Bytes :=
  if stop ≤ bytes.length then some (bytes.take stop) else none

/-- The word of four bytes that starts at an offset. -/
def wordAt? (bytes : Bytes) (offset : Nat) : Option UInt32 := do
  let b0 ← byteAt? bytes offset
  let b1 ← byteAt? bytes (offset + 1)
  let b2 ← byteAt? bytes (offset + 2)
  let b3 ← byteAt? bytes (offset + 3)
  return UInt32.ofNat (Bytes.toNat [b0, b1, b2, b3])

/-! ## Reading by offsets -/

/-- The state record in the body of a frame. -/
def recordByOffset? (body : Bytes) : Option (Except WireError Status) :=
  if body.length < Status.size then
    some (.error (.frameTooShort (Status.size + 1) (body.length + 1)))
  else do
    let record ← before? body Status.size
    let major ← byteAt? record 0
    let minor ← byteAt? record 1
    let patch ← byteAt? record 2
    let featureBits ← byteAt? record 3
    let a ← byteAt? record 4
    let b ← byteAt? record 5
    let c ← byteAt? record 6
    let d ← byteAt? record 7
    let prefixLength ← byteAt? record 8
    let server ← byteAt? record 9
    let active ← byteAt? record 10
    let awake ← byteAt? record 11
    let model ← byteAt? record 12
    return .ok {
      version := ⟨major, minor, patch⟩
      featureBits
      address := Address.ofOctets? a b c d prefixLength
      serverConnected := server != 0
      active := active != 0
      keepAwake := awake != 0
      model := ⟨model⟩ }

/-- The fault that the body of an error frame tells, if the body has a code. Whether there is a code
and whether a second byte follows it is asked of the bytes, and needs no offset to be inside. -/
def faultOf? (body : Bytes) : Option Fault :=
  match body[0]?, body[1]? with
  | none, _ => none
  | some code, sub =>
    if code = Fault.updateCode then
      some (match sub with
        | some sub => .update (.ofCode sub)
        | none => .unrecognized code)
    else some (.ofCode code)

/-- The two words in a progress frame. -/
def progressByOffset? (frame : Bytes) : Option (Except WireError Response) :=
  if frame.length < 9 then some (.error (.frameTooShort 9 frame.length))
  else do
    let received ← wordAt? frame 1
    let total ← wordAt? frame 5
    return .ok (.progress received total)

/-- Reads a frame by offsets. Nothing is answered if one of them lies outside the bytes. -/
def byOffset? (frame : Bytes) : Option (Except WireError Response) :=
  if frameLimit < frame.length then some (.error (.frameTooLong frameLimit frame.length))
  else
    match frame.head? with
    | none => some (.error (.frameTooShort 1 0))
    | some code =>
      match ResponseType.ofCode code with
      | .known .state => do
        let body ← behind? frame 1
        let record ← recordByOffset? body
        return record.map .state
      | .known .config =>
        if frame.length < 2 then some (.error (.frameTooShort 2 frame.length))
        else do
          let blocks ← byteAt? frame 1
          return .ok (.config blocks)
      | .known .ok => some (.ok .ok)
      | .known .error => do
        let body ← behind? frame 1
        match faultOf? body with
        | some fault => return .ok (.error fault)
        | none => return .error (.frameTooShort 2 frame.length)
      | .known .progress => progressByOffset? frame
      | .known .complete => some (.ok .complete)
      | .unknown code => some (.error (.unknownResponse code))

/-! ## No offset lies outside -/

theorem recordByOffset?_eq (body : Bytes) :
    recordByOffset? body = some (match Status.decode? body with
      | some status => .ok status
      | none => .error (.frameTooShort (Status.size + 1) (body.length + 1))) := by
  unfold recordByOffset?
  by_cases short : body.length < Status.size
  · rw [if_pos short]
    cases record : Status.decode? body with
    | some status => exact absurd (Status.exists_decode?_iff.1 ⟨_, record⟩) (Nat.not_le.2 short)
    | none => rfl
  · rw [if_neg short]
    match body, Nat.le_of_not_lt short with
    | _ :: _ :: _ :: _ :: _ :: _ :: _ :: _ :: _ :: _ :: _ :: _ :: _ :: rest, enough =>
      rw [before?, if_pos enough]
      rfl

theorem faultOf?_eq (body : Bytes) : faultOf? body = Fault.decode? body := by
  match body with
  | [] => rfl
  | [code] =>
      by_cases update : code = Fault.updateCode
      · subst update
        rfl
      · simp [faultOf?, Fault.decode?, update]
  | code :: sub :: rest =>
      by_cases update : code = Fault.updateCode <;> simp [faultOf?, Fault.decode?, update]

theorem progressByOffset?_eq (code : UInt8) (body : Bytes) :
    progressByOffset? (code :: body) = some (ofBody .progress body) := by
  unfold progressByOffset?
  by_cases short : (code :: body).length < 9
  · have refused : ofBody .progress body = _ := ofBody_of_short short
    rw [if_pos short, refused]
    rfl
  · rw [if_neg short]
    match body, Nat.le_of_not_lt short with
    | _ :: _ :: _ :: _ :: _ :: _ :: _ :: _ :: rest, _ => rfl

/-- **No offset lies outside**: reading by offsets answers, and as reading does. -/
theorem byOffset?_eq (frame : Bytes) : byOffset? frame = some (decode frame) := by
  unfold byOffset? decode
  by_cases long : frameLimit < frame.length
  · rw [if_pos long, if_pos long]
  rw [if_neg long, if_neg long]
  cases frame with
  | nil => rfl
  | cons code body =>
      have body_eq : behind? (code :: body) 1 = some body :=
        if_pos (Nat.succ_le_succ (Nat.zero_le body.length))
      simp only [List.head?_cons]
      cases ResponseType.ofCode code with
      | unknown code => rfl
      | known kind =>
          cases kind with
          | state =>
              simp only [body_eq, Option.bind_eq_bind, Option.bind_some, recordByOffset?_eq, ofBody]
              cases Status.decode? body <;> rfl
          | config => cases body <;> rfl
          | ok => rfl
          | error =>
              simp only [body_eq, Option.bind_eq_bind, Option.bind_some, faultOf?_eq, ofBody]
              cases body with
              | nil => rfl
              | cons code rest => cases rest <;> rfl
          | progress => exact progressByOffset?_eq code body
          | complete => rfl

/-! ## The grammar of responses -/

/-- **The grammar of responses.** A frame is read exactly if it fits a transport, starts with one of
the six codes, and is as long as a frame of that kind is at least; every other frame is refused, for
the first of four causes that it gives and for no other; and while a frame is read, no byte outside
it is asked for. -/
theorem grammar (frame : Bytes) :
    ((∃ response, decode frame = .ok response) ↔
      frame.length ≤ frameLimit ∧ ∃ kind : ResponseKind,
        frame.head? = some kind.code ∧ kind.leastLength ≤ frame.length) ∧
    (∀ error, decode frame = .error error ↔ Refused frame error) ∧
    byOffset? frame = some (decode frame) := by
  refine ⟨?_, fun error => decode_eq_error_iff, byOffset?_eq frame⟩
  constructor
  · rintro ⟨response, read⟩
    obtain ⟨fits, kind, body, rfl, reads⟩ := decode_eq_ok_iff.1 read
    exact ⟨fits, kind, rfl, exists_reads_iff.1 ⟨response, reads⟩⟩
  · rintro ⟨fits, kind, starts, enough⟩
    obtain ⟨body, rfl⟩ := List.head?_eq_some_iff.1 starts
    obtain ⟨response, reads⟩ := exists_reads_iff.2 enough
    exact ⟨response, decode_eq_ok_iff.2 ⟨fits, kind, body, rfl, reads⟩⟩

end ControlLink.Wire.Response
