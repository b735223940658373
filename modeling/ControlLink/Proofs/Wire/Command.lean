/-
# ControlLink.Proofs.Wire.Command — reading a command gives back what was written

`decode_encode_append` reads a written command from the front of a frame, whatever follows it there;
`decode_encode` is the case in which nothing does. So different commands are written differently
(`encode_inj`).

The other way round, a frame from which a command can be read starts with that command as it is
written, but for a byte that switches something on and is not 1 (`prefix_settled`). Which frames
these are is `exists_ofArguments_iff`: the frame of a kind is as long as the kind asks, and if it
counts blocks, they fit one transfer.
-/
import ControlLink.Proofs.Wire.Block
import ControlLink.Proofs.Wire.Word

namespace ControlLink.Wire

set_option autoImplicit false

namespace CommandKind

theorem code_of_ofCode? {code : UInt8} {kind : CommandKind} (found : ofCode? code = some kind) :
    kind.code = code := by
  simpa using List.find?_some found

/-- The kinds whose frames have a number of blocks behind the code. -/
def isCounted : CommandKind → Bool
  | writeConfig | updateData => true
  | _ => false

end CommandKind

namespace BlockCount

theorem ofNat_toNat_eq_ok_iff {byte : UInt8} {count : BlockCount} :
    ofNat byte.toNat = .ok count ↔ count.toByte = byte := by
  rw [ofNat_eq_ok_iff, ← toNat_toByte, UInt8.toNat_inj]

/-- What is made of a count byte, if anything is, is made of the count that is written so. -/
theorem map_ofNat_eq_ok_iff {α : Type} {byte : UInt8} {make : BlockCount → α} {made : α} :
    (ofNat byte.toNat).map make = .ok made ↔ ∃ count, count.toByte = byte ∧ make count = made := by
  simp only [← ofNat_toNat_eq_ok_iff]
  cases ofNat byte.toNat <;> simp [Except.map]

theorem exists_toByte_eq_iff {byte : UInt8} :
    (∃ count : BlockCount, count.toByte = byte) ↔ byte.toNat ≤ blockLimit := by
  constructor
  · rintro ⟨count, rfl⟩
    exact count.toNat_toByte ▸ count.le_limit
  · intro fits
    exact ⟨⟨byte.toNat, fits⟩, by simp [toByte]⟩

end BlockCount

namespace Command

/-! ## What was written is read -/

theorem ofArguments_arguments_append (command : Command) (rest : Bytes) :
    ofArguments command.kind (command.arguments ++ rest) = .ok command := by
  cases command with
  | writeConfig blocks =>
      simp [ofArguments, arguments, kind, BlockCount.toNat_toByte, Except.map]
  | setKeepAwake enabled => cases enabled <;> rfl
  | updateStart size checksum =>
      have size_eq := Bytes.ofNat_toNat_littleEndian size
      have checksum_eq := Bytes.ofNat_toNat_littleEndian checksum
      simp only [Bytes.littleEndian] at size_eq checksum_eq
      simp only [ofArguments, arguments, kind, Bytes.littleEndian, List.cons_append,
        List.nil_append, size_eq, checksum_eq]
  | updateData packets length =>
      have length_eq := Bytes.ofNat_toNat_littleEndian_two length
      simp only [Bytes.littleEndian] at length_eq
      simp only [ofArguments, arguments, kind, Bytes.littleEndian, List.cons_append,
        List.nil_append, BlockCount.toNat_toByte, BlockCount.ofNat_val, Except.map, length_eq]
  | _ => rfl

/-- **What was written is read back**, whatever follows it. -/
theorem decode_encode_append (command : Command) (rest : Bytes) :
    decode (command.encode ++ rest) = .ok command := by
  simp only [encode, List.cons_append, decode, CommandKind.ofCode?_code]
  exact ofArguments_arguments_append command rest

@[simp] theorem decode_encode (command : Command) : decode command.encode = .ok command := by
  have read := decode_encode_append command []
  rwa [List.append_nil] at read

theorem encode_inj {command other : Command} : command.encode = other.encode ↔ command = other := by
  constructor
  · intro same
    have read := decode_encode command
    rw [same, decode_encode other] at read
    exact (Except.ok.inj read).symm
  · rintro rfl
    rfl

theorem frameLength_bounds (kind : CommandKind) : 1 ≤ kind.frameLength ∧ kind.frameLength ≤ 9 := by
  cases kind <;> decide

/-! ## What is read was written -/

theorem decode_eq_ok_iff {frame : Bytes} {command : Command} :
    decode frame = .ok command ↔ ∃ (kind : CommandKind) (arguments : Bytes),
      frame = kind.code :: arguments ∧ ofArguments kind arguments = .ok command := by
  constructor
  · intro read
    cases frame with
    | nil => cases read
    | cons code arguments =>
        simp only [decode] at read
        split at read
        · rename_i kind found
          rw [← CommandKind.code_of_ofCode? found]
          exact ⟨kind, arguments, rfl, read⟩
        · cases read
  · rintro ⟨kind, arguments, rfl, read⟩
    simp only [decode, CommandKind.ofCode?_code, read]

/-- A frame with 1 in place of another byte that switches keeping awake on. -/
def settled : Bytes → Bytes
  | code :: enabled :: rest =>
    if code = CommandKind.setKeepAwake.code ∧ enabled ≠ 0 then code :: 1 :: rest
    else code :: enabled :: rest
  | frame => frame

theorem settled_of_ne {kind : CommandKind} (other : kind ≠ .setKeepAwake) (arguments : Bytes) :
    settled (kind.code :: arguments) = kind.code :: arguments := by
  have differs : kind.code ≠ CommandKind.setKeepAwake.code := by
    cases kind <;> first | decide | exact absurd rfl other
  cases arguments with
  | nil => rfl
  | cons enabled rest => simp only [settled, differs, false_and, if_false]

/-- **A frame that is read starts with its command** as that is written. -/
theorem prefix_settled {kind : CommandKind} {arguments : Bytes} {command : Command}
    (read : ofArguments kind arguments = .ok command) :
    command.encode <+: settled (kind.code :: arguments) := by
  unfold ofArguments at read
  split at read
  case h_7 count rest =>
    obtain ⟨blocks, rfl, rfl⟩ := BlockCount.map_ofNat_eq_ok_iff.1 read
    rw [settled_of_ne (by decide)]
    exact ⟨rest, rfl⟩
  case h_8 enabled rest =>
    cases read
    refine ⟨rest, ?_⟩
    by_cases off : enabled = 0 <;> simp [settled, encode, Command.kind, Command.arguments, off]
  case h_9 s0 s1 s2 s3 c0 c1 c2 c3 rest =>
    cases read
    rw [settled_of_ne (by decide)]
    refine ⟨rest, ?_⟩
    simp only [encode, Command.arguments, Command.kind, Bytes.littleEndian_ofNat_toNat]
    rfl
  case h_10 count l0 l1 rest =>
    obtain ⟨packets, rfl, rfl⟩ := BlockCount.map_ofNat_eq_ok_iff.1 read
    rw [settled_of_ne (by decide)]
    refine ⟨rest, ?_⟩
    simp only [encode, Command.arguments, Command.kind, Bytes.littleEndian_ofNat_toNat_two]
    rfl
  case h_11 => cases read
  all_goals
    cases read
    rw [settled_of_ne (by decide)]
    exact ⟨arguments, rfl⟩

/-- **Which arguments are read**: as many as the kind asks for, and a count of blocks that fit one
transfer. -/
theorem exists_ofArguments_iff {kind : CommandKind} {arguments : Bytes} :
    (∃ command, ofArguments kind arguments = .ok command) ↔
      kind.frameLength ≤ arguments.length + 1 ∧
        (kind.isCounted → ∀ count, arguments[0]? = some count → count.toNat ≤ blockLimit) := by
  have counted {byte : UInt8} {make : BlockCount → Command} :
      (∃ command, (BlockCount.ofNat byte.toNat).map make = .ok command) ↔
        byte.toNat ≤ blockLimit := by
    simp only [BlockCount.map_ofNat_eq_ok_iff, ← BlockCount.exists_toByte_eq_iff]
    exact ⟨fun ⟨_, count, same, _⟩ => ⟨count, same⟩, fun ⟨count, same⟩ => ⟨_, count, same, rfl⟩⟩
  unfold ofArguments
  split
  case h_11 write wake start data =>
    have short : ¬ kind.frameLength ≤ arguments.length + 1 := by
      intro enough
      cases kind with
      | writeConfig => match arguments, enough with
        | count :: rest, _ => exact write count rest rfl rfl
      | setKeepAwake => match arguments, enough with
        | enabled :: rest, _ => exact wake enabled rest rfl rfl
      | updateStart => match arguments, enough with
        | _ :: _ :: _ :: _ :: _ :: _ :: _ :: _ :: rest, _ =>
          exact start _ _ _ _ _ _ _ _ rest rfl rfl
      | updateData => match arguments, enough with
        | count :: _ :: _ :: rest, _ => exact data count _ _ rest rfl rfl
      | _ => contradiction
    simp [short]
  case h_7 | h_10 => simp [counted, CommandKind.frameLength, CommandKind.isCounted]
  all_goals simp [CommandKind.frameLength, CommandKind.isCounted]

/-! ## Both ways -/

/-- **The codec of commands.** A command is written in as many bytes as its kind asks for, at most
nine, and read back from the front of whatever starts with them. What is read from a frame is what
the frame starts with, but that a byte which switches keeping awake on is written as 1. A frame is
read exactly if it starts with one of the ten codes, is as long as a frame of that kind, and counts
no more blocks than fit one transfer. -/
theorem codec (command : Command) (frame rest : Bytes) :
    (command.encode.length = command.kind.frameLength ∧
      1 ≤ command.encode.length ∧ command.encode.length ≤ 9 ∧
      decode (command.encode ++ rest) = .ok command) ∧
    (decode frame = .ok command → command.encode <+: settled frame) ∧
    ((∃ accepted, decode frame = .ok accepted) ↔
      ∃ kind : CommandKind, frame.head? = some kind.code ∧ kind.frameLength ≤ frame.length ∧
        (kind.isCounted → ∀ count, frame[1]? = some count → count.toNat ≤ blockLimit)) := by
  have length := length_encode command
  have bounds := frameLength_bounds command.kind
  refine ⟨⟨length, ?_, ?_, decode_encode_append command rest⟩, ?_, ?_⟩
  · rw [length]
    exact bounds.1
  · rw [length]
    exact bounds.2
  · intro read
    obtain ⟨kind, arguments, rfl, taken⟩ := decode_eq_ok_iff.1 read
    exact prefix_settled taken
  · constructor
    · rintro ⟨accepted, read⟩
      obtain ⟨kind, arguments, rfl, taken⟩ := decode_eq_ok_iff.1 read
      obtain ⟨enough, fits⟩ := exists_ofArguments_iff.1 ⟨accepted, taken⟩
      exact ⟨kind, rfl, enough, fits⟩
    · rintro ⟨kind, starts, enough, fits⟩
      obtain ⟨arguments, rfl⟩ := List.head?_eq_some_iff.1 starts
      obtain ⟨accepted, taken⟩ := exists_ofArguments_iff.2 ⟨enough, fits⟩
      exact ⟨accepted, decode_eq_ok_iff.2 ⟨kind, arguments, rfl, taken⟩⟩

/-- Any byte but zero keeps awake, and is written as 1. -/
theorem codec_awake :
    decode [0x6B, 0x07, 0x00] = .ok (setKeepAwake true) ∧
      (setKeepAwake true).encode <+: [0x6B, 0x01, 0x00] := by
  have read : decode [0x6B, 0x07, 0x00] = .ok (setKeepAwake true) := rfl
  exact ⟨read, (codec (setKeepAwake true) [0x6B, 0x07, 0x00] []).2.1 read⟩

end Command

end ControlLink.Wire
