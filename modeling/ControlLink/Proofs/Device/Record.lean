/-
# ControlLink.Proofs.Device.Record — the state record and the codes of faults

A state record is read exactly if it has its thirteen bytes (`exists_decode?_iff`), and what comes
behind them does not matter (`decode?_append`). A status that was read is written as the record
itself, but for the bytes that carry less than a byte (`prefix_settled`): flags become 0 or 1, and
without an address there is no prefix length. Reading it again changes nothing (`decode?_encode`).

A fault told by a code byte is written as that byte (`encode_ofCode`).
-/
import ControlLink.Device.Fault
import ControlLink.Device.Status

namespace ControlLink.Device

set_option autoImplicit false

namespace Status

theorem exists_decode?_iff {body : Bytes} :
    (∃ status, decode? body = some status) ↔ size ≤ body.length := by
  constructor
  · rintro ⟨status, read⟩
    unfold decode? at read
    split at read
    · simp only [List.length_cons, size]
      omega
    · cases read
  · intro enough
    match body, enough with
    | _ :: _ :: _ :: _ :: _ :: _ :: _ :: _ :: _ :: _ :: _ :: _ :: _ :: rest, _ => exact ⟨_, rfl⟩

theorem decode?_append {body : Bytes} {status : Status} (read : decode? body = some status)
    (more : Bytes) : decode? (body ++ more) = some status := by
  unfold decode? at read
  split at read
  · exact read
  · cases read

/-- A record with 0 or 1 in place of each flag, and with no prefix length where no address is
assigned. -/
def settled (body : Bytes) : Bytes :=
  body.mapIdx fun index byte =>
    if index = 9 ∨ index = 10 ∨ index = 11 then flag (byte != 0)
    else if index = 8 ∧ (body.drop 4).take 4 = [0, 0, 0, 0] then 0
    else byte

/-- **A status that was read is written as its record was**, flags and the prefix length apart. -/
theorem prefix_settled {body : Bytes} {status : Status} (read : decode? body = some status) :
    status.encode <+: settled body := by
  unfold decode? at read
  split at read
  case h_1 major minor patch bits a b c d length server active awake model rest =>
    cases read
    by_cases unassigned : a = 0 ∧ b = 0 ∧ c = 0 ∧ d = 0
    · obtain ⟨rfl, rfl, rfl, rfl⟩ := unassigned
      simp [settled, encode, Address.ofOctets?]
    · simp [settled, encode, Address.ofOctets?, unassigned, Address.octets]
  case h_2 => cases read

/-- A status that was read is read again from what is written of it. -/
theorem decode?_encode {body : Bytes} {status : Status} (read : decode? body = some status) :
    decode? status.encode = some status := by
  have again (set : Bool) : (flag set != 0) = set := by cases set <;> rfl
  unfold decode? at read
  split at read
  case h_1 major minor patch bits a b c d length server active awake model rest =>
    cases read
    by_cases unassigned : a = 0 ∧ b = 0 ∧ c = 0 ∧ d = 0
    · simp [encode, decode?, Address.ofOctets?, unassigned, again]
    · simp [encode, decode?, Address.ofOctets?, unassigned, Address.octets, again]
  case h_2 => cases read

end Status

namespace Fault

theorem encode_ofCode (code : UInt8) : (ofCode code).encode = [code] := by
  simp only [ofCode]
  cases found : named.find? (·.code == code) with
  | none => rfl
  | some fault =>
      have coded : fault.code = code := by simpa using List.find?_some found
      have member := List.mem_of_find?_eq_some found
      subst coded
      simp only [named, List.mem_cons, List.not_mem_nil, or_false] at member
      rcases member with rfl | rfl | rfl | rfl <;> rfl

end Fault

end ControlLink.Device
