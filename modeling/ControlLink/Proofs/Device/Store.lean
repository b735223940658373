/-
# ControlLink.Proofs.Device.Store — a device that keeps a configuration

A device has a current payload and perhaps a staged one. A write announces its blocks; once they
have come, the device stages what they carry up to the first byte that ends a payload. A commit
makes the staged payload the current one, and a read is answered with the current payload in blocks.
The device reads its frames by the rules written down here, not with the means of its host.

What it does with all the blocks of a write is `hearAll?_blocks`; what the blocks of its answer to a
read carry is `flatten_blocksOf`.
-/
import ControlLink.Proofs.Wire.Block
import ControlLink.Proofs.Wire.Command
import ControlLink.Wire.Response

namespace ControlLink.Device

set_option autoImplicit false

open Wire

/-- What a device keeps of its configuration, and how far it is in the talk with its host. -/
structure Store where
  /-- What a read is answered with. -/
  current : Bytes
  /-- What a commit makes the current payload, as far as that is known. -/
  staged : Option Bytes := none
  /-- How many blocks of a write are still to come, and what those before them carried. -/
  incoming : Option (Nat × Bytes) := none
  /-- The frames that the host has not received yet. -/
  outgoing : List Bytes := []

namespace Store

/-- What comes before the first byte that is zero or above 0xF4. -/
def cut (bytes : Bytes) : Bytes := bytes.takeWhile fun byte => byte != 0 && byte ≤ 0xF4

/-- A payload in blocks of 64 bytes, the last filled up with zeros. -/
def blocksOf (payload : Bytes) : List Bytes := (Bytes.pieces 64 payload).map (Bytes.padTo 64)

/-- The answer to a read. -/
def shown (payload : Bytes) : List Bytes :=
  (Response.config (UInt8.ofNat ((payload.length + 63) / 64))).encode :: blocksOf payload

def say (store : Store) (frames : List Bytes) : Store :=
  { store with outgoing := store.outgoing ++ frames }

def stage (store : Store) (bytes : Bytes) : Store :=
  { store with staged := some (cut bytes), incoming := none }.say [Response.ok.encode]

def commit (store : Store) (payload : Bytes) : Store :=
  { store with current := payload, staged := none }.say [Response.ok.encode]

/-- Waits for so many more blocks, or stages what there is. -/
def gather (store : Store) : Nat → Bytes → Store
  | 0, bytes => store.stage bytes
  | left + 1, bytes => { store with incoming := some (left + 1, bytes) }

/-- What the device does with a command that concerns its configuration. -/
def obey? (store : Store) : Command → Option Store
  | .writeConfig count => some (store.gather count.val [])
  | .commitConfig => store.staged.map store.commit
  | .readConfig => some (store.say (shown store.current))
  | _ => none

/-- What it does with a frame: a block if it waits for one, else a command. -/
def hear? (store : Store) (frame : Bytes) : Option Store :=
  match store.incoming with
  | some (left, bytes) => some (store.gather (left - 1) (bytes ++ frame))
  | none => (Command.decode frame).toOption.bind store.obey?

/-- What it does with one frame after another. -/
def hearAll? (store : Store) : List Bytes → Option Store
  | [] => some store
  | frame :: frames => (store.hear? frame).bind fun store => store.hearAll? frames

/-- No write is under way, and nothing is left for the host to receive. -/
def AtRest (store : Store) : Prop := store.incoming = none ∧ store.outgoing = []

variable {store : Store}

/-! ## Hearing a write -/

/-- What was gathered before is of no account. -/
theorem gather_incoming (store : Store) (incoming : Option (Nat × Bytes)) (left : Nat)
    (bytes : Bytes) : { store with incoming }.gather left bytes = store.gather left bytes := by
  cases left <;> rfl

/-- **The blocks of a write are staged together.** -/
theorem hearAll?_blocks (store : Store) (blocks : List Bytes) (bytes : Bytes) :
    (store.gather blocks.length bytes).hearAll? blocks =
      some (store.stage (bytes ++ blocks.flatten)) := by
  induction blocks generalizing bytes with
  | nil => simp [hearAll?, gather]
  | cons block blocks ih =>
      have next : (store.gather (blocks.length + 1) bytes).hear? block =
          some (store.gather blocks.length (bytes ++ block)) :=
        congrArg some (gather_incoming store _ blocks.length (bytes ++ block))
      rw [List.length_cons, hearAll?, next, Option.bind_some, ih, List.flatten_cons,
        List.append_assoc]

/-- Between writes the device obeys every command. -/
theorem hear?_encode (rest : store.incoming = none) (command : Command) :
    store.hear? command.encode = store.obey? command := by
  simp [hear?, rest, Except.toOption]

/-! ## What blocks carry -/

/-- A payload that fits one transfer and holds no byte that would end it. -/
def Storable (payload : Bytes) : Prop :=
  payload.length ≤ 4096 ∧ ∀ byte ∈ payload, byte ≠ 0 ∧ byte ≤ 0xF4

/-- What is asked of a payload here is what its writer checks. -/
theorem storable_iff {payload : Bytes} :
    Storable payload ↔
      payload.length ≤ payloadLimit ∧ ∀ byte ∈ payload, isSentinel byte = false := by
  simp only [Storable, isSentinel_eq_false_iff]
  rfl

/-- The device and its host look for the same end of a payload. -/
theorem cut_eq_payloadOf : cut = payloadOf :=
  funext fun bytes => (payloadOf_eq_takeWhile bytes).symm

/-- The blocks of a payload carry it and then zeros only. -/
theorem flatten_blocksOf (payload : Bytes) :
    ∃ size, (blocksOf payload).flatten = Bytes.padTo size payload :=
  ⟨_, Bytes.flatten_padded_takePieces _ _ _ (Bytes.length_le_pieceCount_mul _ _ (by decide))⟩

theorem length_of_mem_blocksOf {payload block : Bytes} (member : block ∈ blocksOf payload) :
    block.length = 64 := by
  obtain ⟨piece, inside, rfl⟩ := List.mem_map.1 member
  have short := Bytes.length_le_of_mem_pieces inside
  rw [Bytes.length_padTo]
  omega

/-- What the host finds in the blocks of a payload that can be stored. -/
theorem payloadOf_blocksOf {payload : Bytes} (storable : Storable payload) :
    payloadOf ((blocksOf payload).flatMap fun block => (Block.ofBytes block).bytes) = payload := by
  have whole : (blocksOf payload).map (fun block => (Block.ofBytes block).bytes) =
      blocksOf payload := by
    rw [List.map_congr_left fun block member => bytes_ofBytes (length_of_mem_blocksOf member)]
    exact List.map_id' _
  obtain ⟨size, carried⟩ := flatten_blocksOf payload
  rw [List.flatMap_def, whole, carried]
  exact payloadOf_padTo size (storable_iff.1 storable).2

/-- A payload that fits one transfer is announced with the number of its blocks. -/
theorem length_blocksOf {payload : Bytes} (fits : payload.length ≤ 4096) :
    (blocksOf payload).length ≤ blockLimit ∧
      (UInt8.ofNat ((payload.length + 63) / 64)).toNat = (blocksOf payload).length := by
  have counted : (blocksOf payload).length = (payload.length + 63) / 64 := by
    rw [blocksOf, List.length_map, Bytes.length_pieces]
    rfl
  rw [counted, UInt8.toNat_ofNat', blockLimit]
  omega

end Store

end ControlLink.Device
