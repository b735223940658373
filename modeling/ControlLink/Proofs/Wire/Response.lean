/-
# ControlLink.Proofs.Wire.Response — which frames are responses, and what is written of them

`Reads` lists the forms of a response, and `decode_eq_ok_iff` says that a frame is read as a response
exactly if it fits a transport and has one of these forms. A frame of one of the six kinds has a form
exactly if it is long enough (`exists_reads_iff`), so all that can be wrong with a frame are the four
causes of `Refused` (`decode_eq_error_iff`).

What is read is written as the beginning of its frame, flags and the prefix length of no address
apart (`settled`), and read again as the same (`Reads.again`); bytes behind a frame change nothing
(`Reads.append`), unless the frame is the lone code of an update fault, which the next byte would
complete (`Reads.eq_nil_of_lone`).
-/
import ControlLink.Proofs.Device.Record
import ControlLink.Proofs.Wire.Word
import ControlLink.Wire.Response

namespace ControlLink.Wire

set_option autoImplicit false

open Device

namespace ResponseType

theorem code_of_ofCode {code : UInt8} {kind : ResponseKind} (found : ofCode code = .known kind) :
    kind.code = code := by
  unfold ofCode at found
  split at found
  · rename_i known among
    cases found
    simpa using List.find?_some among
  · cases found

theorem ofCode_eq_unknown_iff {code other : UInt8} :
    ofCode code = .unknown other ↔ other = code ∧ ∀ kind : ResponseKind, kind.code ≠ code := by
  have all (kind : ResponseKind) : kind ∈ ResponseKind.all := by cases kind <;> decide
  unfold ofCode
  cases found : ResponseKind.all.find? (·.code == code) with
  | some kind =>
      have coded : kind.code = code := by simpa using List.find?_some found
      simp only [reduceCtorEq, false_iff, not_and]
      exact fun _ foreign => foreign kind coded
  | none =>
      have foreign (kind : ResponseKind) : kind.code ≠ code := by
        simpa using List.find?_eq_none.1 found kind (all kind)
      simp [foreign, eq_comm]

end ResponseType

namespace ResponseKind

theorem code_inj {kind other : ResponseKind} (same : kind.code = other.code) : kind = other := by
  have known := congrArg ResponseType.ofCode same
  simpa using known

/-- The length of the shortest frame of a kind. -/
def leastLength : ResponseKind → Nat
  | state => 14
  | config | error => 2
  | ok | complete => 1
  | progress => 9

theorem leastLength_le_frameLimit (kind : ResponseKind) : kind.leastLength ≤ frameLimit := by
  cases kind <;> decide

end ResponseKind

namespace Response

/-! ## The forms of a response -/

/-- The bodies that are read, by the kind of their frame, with what they are read as. -/
inductive Reads : ResponseKind → Bytes → Response → Prop
  | state {body : Bytes} {status : Status} (record : Status.decode? body = some status) :
      Reads .state body (.state status)
  | config (blocks : UInt8) (rest : Bytes) : Reads .config (blocks :: rest) (.config blocks)
  | ok (rest : Bytes) : Reads .ok rest .ok
  /-- The code of an update fault tells a fault of its own only if nothing follows it. -/
  | fault (code : UInt8) (rest : Bytes) (lone : code = Fault.updateCode → rest = []) :
      Reads .error (code :: rest) (.error (.ofCode code))
  | updateFault (sub : UInt8) (rest : Bytes) :
      Reads .error (Fault.updateCode :: sub :: rest) (.error (.update (.ofCode sub)))
  | progress (r0 r1 r2 r3 t0 t1 t2 t3 : UInt8) (rest : Bytes) :
      Reads .progress (r0 :: r1 :: r2 :: r3 :: t0 :: t1 :: t2 :: t3 :: rest)
        (.progress (UInt32.ofNat (Bytes.toNat [r0, r1, r2, r3]))
          (UInt32.ofNat (Bytes.toNat [t0, t1, t2, t3])))
  | complete (rest : Bytes) : Reads .complete rest .complete

theorem reads_of_ofBody {kind : ResponseKind} {body : Bytes} {response : Response}
    (read : ofBody kind body = .ok response) : Reads kind body response := by
  cases kind with
  | state =>
      simp only [ofBody] at read
      split at read
      · rename_i status record
        cases read
        exact .state record
      · cases read
  | config =>
      cases body with
      | nil => cases read
      | cons blocks rest => cases read; exact .config blocks rest
  | ok => cases read; exact .ok body
  | error =>
      match body with
      | [] => cases read
      | [code] => cases read; exact .fault code [] fun _ => rfl
      | code :: sub :: rest =>
          by_cases update : code = Fault.updateCode
          · simp only [ofBody, Fault.decode?, update, if_true] at read
            cases read
            rw [update]
            exact .updateFault sub rest
          · simp only [ofBody, Fault.decode?, update, if_false] at read
            cases read
            exact .fault code (sub :: rest) fun same => absurd same update
  | progress =>
      simp only [ofBody] at read
      split at read
      · cases read
        exact .progress ..
      · cases read
  | complete => cases read; exact .complete body

theorem Reads.ofBody_eq {kind : ResponseKind} {body : Bytes} {response : Response}
    (reads : Reads kind body response) : ofBody kind body = .ok response := by
  cases reads with
  | state record => simp only [ofBody, record]
  | fault code rest lone =>
      cases rest with
      | nil => rfl
      | cons sub rest =>
          have plain : code ≠ Fault.updateCode := fun same => by cases lone same
          simp only [ofBody, Fault.decode?, plain, if_false]
  | _ => rfl

/-- **What is read of a frame** is what one of the forms says. -/
theorem decode_eq_ok_iff {frame : Bytes} {response : Response} :
    decode frame = .ok response ↔ frame.length ≤ frameLimit ∧
      ∃ (kind : ResponseKind) (body : Bytes),
        frame = kind.code :: body ∧ Reads kind body response := by
  unfold decode
  by_cases long : frameLimit < frame.length
  · simp [long, Nat.not_le.2 long]
  rw [if_neg long]
  cases frame with
  | nil => simp
  | cons code body =>
      constructor
      · intro read
        simp only at read
        split at read
        · rename_i kind found
          rw [← ResponseType.code_of_ofCode found]
          exact ⟨Nat.le_of_not_lt long, kind, body, rfl, reads_of_ofBody read⟩
        · cases read
      · rintro ⟨-, kind, body, same, reads⟩
        obtain ⟨rfl, rfl⟩ := List.cons.inj same
        simp only [ResponseType.ofCode_code, reads.ofBody_eq]

theorem decode_cons_eq_ok_iff {kind : ResponseKind} {body : Bytes} {response : Response} :
    decode (kind.code :: body) = .ok response ↔
      (kind.code :: body).length ≤ frameLimit ∧ Reads kind body response := by
  rw [decode_eq_ok_iff]
  refine and_congr_right fun _ => ⟨?_, fun reads => ⟨kind, body, rfl, reads⟩⟩
  rintro ⟨other, rest, same, reads⟩
  obtain ⟨coded, rfl⟩ := List.cons.inj same
  exact ResponseKind.code_inj coded ▸ reads

/-- A frame of a kind has a form exactly if it is long enough. -/
theorem exists_reads_iff {kind : ResponseKind} {body : Bytes} :
    (∃ response, Reads kind body response) ↔ kind.leastLength ≤ body.length + 1 := by
  constructor
  · rintro ⟨response, reads⟩
    cases reads with
    | state record => exact Nat.succ_le_succ (Status.exists_decode?_iff.1 ⟨_, record⟩)
    | _ => simp [ResponseKind.leastLength]
  · intro enough
    cases kind with
    | state =>
        obtain ⟨status, record⟩ := Status.exists_decode?_iff.2 (Nat.le_of_succ_le_succ enough)
        exact ⟨_, .state record⟩
    | config => match body, enough with
      | blocks :: rest, _ => exact ⟨_, .config blocks rest⟩
    | ok => exact ⟨_, .ok body⟩
    | error => match body, enough with
      | code :: rest, _ =>
        by_cases lone : code = Fault.updateCode → rest = []
        · exact ⟨_, .fault code rest lone⟩
        · obtain ⟨rfl, more⟩ := Classical.not_imp.1 lone
          obtain ⟨sub, rest, rfl⟩ := List.exists_cons_of_ne_nil more
          exact ⟨_, .updateFault sub rest⟩
    | progress => match body, enough with
      | _ :: _ :: _ :: _ :: _ :: _ :: _ :: _ :: rest, _ => exact ⟨_, .progress ..⟩
    | complete => exact ⟨_, .complete body⟩

theorem ofBody_of_short {kind : ResponseKind} {body : Bytes}
    (short : body.length + 1 < kind.leastLength) :
    ofBody kind body = .error (.frameTooShort kind.leastLength (body.length + 1)) := by
  have unread (response : Response) : ¬ Reads kind body response := fun reads =>
    Nat.not_le.2 short (exists_reads_iff.1 ⟨response, reads⟩)
  cases kind with
  | state =>
      simp only [ofBody]
      cases record : Status.decode? body with
      | some status => exact absurd (.state record) (unread _)
      | none => rfl
  | config => match body, short with
    | [], _ => rfl
  | ok => simp [ResponseKind.leastLength] at short
  | error => match body, short with
    | [], _ => rfl
  | progress =>
      simp only [ofBody]
      split
      · exact absurd (.progress ..) (unread _)
      · rfl
  | complete => simp [ResponseKind.leastLength] at short

/-! ## What can be wrong with a frame -/

/-- The causes for which a frame is refused, each with what is reported. -/
inductive Refused : Bytes → WireError → Prop
  | tooLong {frame : Bytes} (long : frameLimit < frame.length) :
      Refused frame (.frameTooLong frameLimit frame.length)
  | empty : Refused [] (.frameTooShort 1 0)
  | unknown {code : UInt8} {body : Bytes} (fits : (code :: body).length ≤ frameLimit)
      (foreign : ∀ kind : ResponseKind, kind.code ≠ code) :
      Refused (code :: body) (.unknownResponse code)
  | tooShort {kind : ResponseKind} {body : Bytes}
      (short : (kind.code :: body).length < kind.leastLength) :
      Refused (kind.code :: body) (.frameTooShort kind.leastLength (kind.code :: body).length)

theorem Refused.decode_eq {frame : Bytes} {error : WireError} (refused : Refused frame error) :
    decode frame = .error error := by
  cases refused with
  | tooLong long => simp only [decode, long, if_true]
  | empty => rfl
  | unknown fits foreign =>
      simp only [decode, Nat.not_lt.2 fits, if_false,
        ResponseType.ofCode_eq_unknown_iff.2 ⟨rfl, foreign⟩]
  | @tooShort kind body short =>
      have fits : ¬ frameLimit < (kind.code :: body).length :=
        Nat.not_lt.2 (Nat.le_trans (Nat.le_of_lt short) kind.leastLength_le_frameLimit)
      simp only [decode, fits, if_false, ResponseType.ofCode_code]
      exact ofBody_of_short short

/-- A frame is read or refused. -/
theorem reads_or_refused (frame : Bytes) :
    (∃ response, decode frame = .ok response) ∨ ∃ error, Refused frame error := by
  by_cases long : frameLimit < frame.length
  · exact .inr ⟨_, .tooLong long⟩
  have fits := Nat.le_of_not_lt long
  cases frame with
  | nil => exact .inr ⟨_, .empty⟩
  | cons code body =>
      by_cases known : ∃ kind : ResponseKind, kind.code = code
      · obtain ⟨kind, rfl⟩ := known
        by_cases short : (kind.code :: body).length < kind.leastLength
        · exact .inr ⟨_, .tooShort short⟩
        · obtain ⟨response, reads⟩ := exists_reads_iff.2 (Nat.le_of_not_lt short)
          exact .inl ⟨response, decode_eq_ok_iff.2 ⟨fits, kind, body, rfl, reads⟩⟩
      · exact .inr ⟨_, .unknown fits fun kind same => known ⟨kind, same⟩⟩

theorem decode_eq_error_iff {frame : Bytes} {error : WireError} :
    decode frame = .error error ↔ Refused frame error := by
  refine ⟨fun unread => ?_, Refused.decode_eq⟩
  obtain ⟨response, read⟩ | ⟨cause, refused⟩ := reads_or_refused frame
  · rw [read] at unread
    cases unread
  · rw [refused.decode_eq] at unread
    cases unread
    exact refused

/-- A frame that cannot be read is not mistaken for a fault of the device. -/
theorem decode_ne_device (frame : Bytes) (fault : Fault) : decode frame ≠ .error (.device fault) :=
  fun unread => nomatch decode_eq_error_iff.1 unread

/-! ## What is written of a response that was read -/

/-- A frame with its state record settled, if it is a state frame. -/
def settled : Bytes → Bytes
  | [] => []
  | code :: body =>
    if code = ResponseKind.state.code then code :: Status.settled body else code :: body

theorem settled_of_ne {kind : ResponseKind} (other : kind ≠ .state) (body : Bytes) :
    settled (kind.code :: body) = kind.code :: body := by
  have differs : kind.code ≠ ResponseKind.state.code := by
    cases kind <;> first | decide | exact absurd rfl other
  simp only [settled, differs, if_false]

@[simp] theorem length_settled (frame : Bytes) : (settled frame).length = frame.length := by
  cases frame with
  | nil => rfl
  | cons code body =>
      simp only [settled]
      split
      · simp [Status.settled]
      · rfl

/-- A response is written as the beginning of the settled frame. -/
theorem Reads.prefix_settled {kind : ResponseKind} {body : Bytes} {response : Response}
    (reads : Reads kind body response) : response.encode <+: settled (kind.code :: body) := by
  cases reads with
  | state record =>
      exact List.cons_prefix_cons.2 ⟨rfl, Status.prefix_settled record⟩
  | config blocks rest => exact ⟨rest, rfl⟩
  | ok rest => exact ⟨body, rfl⟩
  | fault code rest lone =>
      refine ⟨rest, ?_⟩
      rw [encode, Response.body, Fault.encode_ofCode]
      rfl
  | updateFault sub rest =>
      refine ⟨rest, ?_⟩
      rw [encode, Response.body, Fault.encode, UpdateFault.code_ofCode]
      rfl
  | progress r0 r1 r2 r3 t0 t1 t2 t3 rest =>
      refine ⟨rest, ?_⟩
      simp only [encode, Response.body, Bytes.littleEndian_ofNat_toNat]
      rfl
  | complete rest => exact ⟨body, rfl⟩

/-- What is written of a response is of the same form. -/
theorem Reads.again {kind : ResponseKind} {body : Bytes} {response : Response}
    (reads : Reads kind body response) : Reads kind response.body response := by
  cases reads with
  | state record => exact .state (Status.decode?_encode record)
  | config blocks rest => exact .config blocks []
  | ok rest => exact .ok []
  | fault code rest lone =>
      rw [Response.body, Fault.encode_ofCode]
      exact .fault code [] fun _ => rfl
  | updateFault sub rest =>
      rw [Response.body, Fault.encode, UpdateFault.code_ofCode]
      exact .updateFault sub []
  | progress r0 r1 r2 r3 t0 t1 t2 t3 rest =>
      rw [Response.body, Bytes.littleEndian_ofNat_toNat, Bytes.littleEndian_ofNat_toNat]
      exact .progress r0 r1 r2 r3 t0 t1 t2 t3 []
  | complete rest => exact .complete []

/-- Bytes behind a body change nothing, but for the lone code of an update fault. -/
theorem Reads.append {kind : ResponseKind} {body : Bytes} {response : Response}
    (reads : Reads kind body response) (more : Bytes)
    (whole : kind = .error → body ≠ [Fault.updateCode]) : Reads kind (body ++ more) response := by
  cases reads with
  | state record => exact .state (Status.decode?_append record more)
  | config blocks rest => exact .config blocks (rest ++ more)
  | ok => exact .ok (body ++ more)
  | fault code rest lone =>
      refine .fault code (rest ++ more) fun update => ?_
      have same : code :: rest = [Fault.updateCode] := by rw [update, lone update]
      exact absurd same (whole rfl)
  | updateFault sub rest => exact .updateFault sub (rest ++ more)
  | progress r0 r1 r2 r3 t0 t1 t2 t3 rest => exact .progress r0 r1 r2 r3 t0 t1 t2 t3 (rest ++ more)
  | complete => exact .complete (body ++ more)

/-- A byte behind the lone code of an update fault makes another fault of it. -/
theorem Reads.eq_nil_of_lone {more : Bytes} {response : Response}
    (read : Reads .error [Fault.updateCode] response)
    (longer : Reads .error (Fault.updateCode :: more) response) : more = [] := by
  cases more with
  | nil => rfl
  | cons sub rest =>
      have lone : Except.ok response = Except.ok (.error (.unrecognized Fault.updateCode)) :=
        read.ofBody_eq.symm
      have both : Except.ok response = Except.ok (.error (.update (.ofCode sub))) :=
        longer.ofBody_eq.symm
      rw [both] at lone
      cases lone

/-- **What was read is written as it was.** A response takes no more bytes than the frame from which
it was read, is read again from what is written, and is written as the frame starts, but that in a
state frame the flags become 0 or 1 and the prefix length of no address becomes 0. A frame with any
bytes behind it, up to the limit, is read as the same response exactly if it is not the lone code of
an update fault, or nothing is behind it. -/
theorem reencoding {frame : Bytes} {response : Response} (read : decode frame = .ok response) :
    response.encode.length ≤ frame.length ∧
    decode response.encode = .ok response ∧
    response.encode <+: settled frame ∧
    ∀ more : Bytes, (frame ++ more).length ≤ frameLimit →
      (decode (frame ++ more) = .ok response ↔
        more = [] ∨ frame ≠ [ResponseKind.error.code, Fault.updateCode]) := by
  obtain ⟨fits, kind, body, rfl, reads⟩ := decode_eq_ok_iff.1 read
  have starts := reads.prefix_settled
  have short : response.encode.length ≤ (kind.code :: body).length :=
    length_settled (kind.code :: body) ▸ starts.length_le
  have coded : response.encode = kind.code :: response.body := by
    rw [encode, kind_of_ofBody reads.ofBody_eq]
  refine ⟨short, ?_, starts, fun more room => ⟨fun longer => ?_, fun whole => ?_⟩⟩
  · rw [coded] at short ⊢
    exact decode_cons_eq_ok_iff.2 ⟨Nat.le_trans short fits, reads.again⟩
  · refine Classical.or_iff_not_imp_right.2 fun lone => ?_
    obtain ⟨same, rfl⟩ := List.cons.inj (Classical.not_not.1 lone)
    cases ResponseKind.code_inj same
    exact reads.eq_nil_of_lone (decode_cons_eq_ok_iff.1 longer).2
  · obtain rfl | other := whole
    · rwa [List.append_nil]
    · have whole : kind = .error → body ≠ [Fault.updateCode] := by
        rintro rfl rfl
        exact other rfl
      exact decode_cons_eq_ok_iff.2 ⟨room, reads.append more whole⟩

/-- A state frame of fifteen bytes, with flags that are neither 0 nor 1 and a prefix length without
an address. -/
def unassigned : Bytes := [0x73, 0, 9, 0, 0x83, 0, 0, 0, 0, 24, 2, 0, 0xFF, 6, 0xAA]

/-- Its flags become 1, its prefix length becomes 0, and what was behind the record is gone. -/
theorem reencoding_unassigned :
    ∃ response, decode unassigned = .ok response ∧
      response.encode <+: [0x73, 0, 9, 0, 0x83, 0, 0, 0, 0, 0, 1, 0, 1, 6, 0xAA] ∧
      decode (unassigned ++ List.replicate 49 0) = .ok response := by
  obtain ⟨response, read⟩ : ∃ response, decode unassigned = .ok response := ⟨_, rfl⟩
  obtain ⟨-, -, starts, longer⟩ := reencoding read
  exact ⟨response, read, starts, (longer _ (by decide)).2 (.inr (by decide))⟩

end Response

end ControlLink.Wire
