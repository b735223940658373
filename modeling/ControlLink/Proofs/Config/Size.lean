/-
# ControlLink.Proofs.Config.Size — accepted settings can always be sent

The checks measure texts, but what is sent is their document, in which a byte may take six. So each
setting has a bound of its own for what it takes there (`Field.valueSize`, `size_le_of_toValue?`).
Together with the keys the bounds of all settings leave room in one transfer
(`size_toDocument_le`).
-/
import ControlLink.Proofs.Config.Limits
import ControlLink.Proofs.Config.Payload
import ControlLink.Proofs.Json.Size

namespace ControlLink.Config

set_option autoImplicit false

open Json

/-! ## Values -/

/-- How many bytes the value of a setting takes in a document at most. An address takes 15 and its
quotes, and a list of them a mark more for each. -/
def Field.valueSize (field : Field) : Nat :=
  match field with
  | ipAddr => textLimit + 2
  | dnsServer => dnsServerLimit * 18 + 2
  | gateway => 17
  | _ =>
    match field.shape with
    | .word => 5
    | .byte => 3
    | .flag => 5
    | .requiredText | .text | .texts => 6 * field.room + 2

theorem escape_of_plain {text : List Char} (plain : Plain text) {c : Char} (member : c ∈ text) :
    escape c = [c] := by
  obtain ⟨visible, -, no_quote, no_escape⟩ := plain.printable member
  rw [escape, if_neg no_quote, if_neg no_escape, if_pos visible]

/-- Addresses and networks are written as they are. -/
theorem size_string_of_plain {text : String} (plain : Plain text.toList) :
    (string text).size = text.utf8ByteSize + 2 :=
  size_string_of_unescaped fun _ member => escape_of_plain plain member

theorem size_string_of_isAddress {text : String} (address : isAddress text.toList = true) :
    (string text).size ≤ 17 := by
  obtain ⟨few, plain⟩ := of_isAddress address
  rw [size_string_of_plain plain, plain.utf8ByteSize_eq]
  omega

theorem size_ofWord_le (n : UInt16) : (Settings.ofWord n).size ≤ 5 :=
  size_natural_le _ (by decide) (Nat.lt_of_lt_of_le n.toNat_lt (by decide))

theorem size_ofByte_le (n : UInt8) : (Settings.ofByte n).size ≤ 3 :=
  size_natural_le _ (by decide) (Nat.lt_of_lt_of_le n.toNat_lt (by decide))

theorem size_of_servers {servers : List String} (few : servers.length ≤ dnsServerLimit)
    (addresses : ∀ server ∈ servers, isAddress server.toList = true) :
    (array (servers.map string)).size ≤ dnsServerLimit * 18 + 2 := by
  have each : ∀ item ∈ servers.map string, item.size ≤ 17 := by
    intro item member
    obtain ⟨server, listed, rfl⟩ := List.mem_map.1 member
    exact size_string_of_isAddress (addresses server listed)
  have whole := size_array_le each
  rw [List.length_map] at whole
  omega

section Accepted

variable {settings : Settings}

/-- Each value of accepted settings takes what there is for it. -/
theorem size_le_of_toValue? (accepted : settings.validate = .ok ())
    (short : ∀ text ∈ settings.ipAddr, text.utf8ByteSize ≤ textLimit) {field : Field} {value : Json}
    (set : settings.toValue? field = some value) : value.size ≤ field.valueSize := by
  obtain ⟨few, checked⟩ := Settings.validate_eq_ok_iff.1 accepted
  have measured {name : Field} {text : String} (other : name ≠ .ipAddr)
      (held : text ∈ settings.texts name) : (string text).size ≤ 6 * name.room + 2 := by
    have fits := (fits_of_check (checked name text held)).resolve_right fun padded => other padded.1
    have escaped := size_string_le text
    omega
  cases field with
  | ssid | password | server | screenName =>
      cases set
      exact measured nofun (List.mem_singleton_self _)
  | manufacturer | product | serialNumber | bleDeviceName | webusbUrl =>
      obtain ⟨text, held, rfl⟩ := Option.map_eq_some_iff.1 set
      exact measured nofun (Option.mem_toList.2 held)
  | screenWidth | screenHeight | pollingRate | jiggleInterval | vid | pid =>
      obtain ⟨n, -, rfl⟩ := Option.map_eq_some_iff.1 set
      exact size_ofWord_le n
  | brightness =>
      obtain ⟨n, -, rfl⟩ := Option.map_eq_some_iff.1 set
      exact size_ofByte_le n
  | flipWheel =>
      obtain ⟨flag, -, rfl⟩ := Option.map_eq_some_iff.1 set
      exact size_bool_le flag
  | ipAddr =>
      obtain ⟨text, held, rfl⟩ := Option.map_eq_some_iff.1 set
      have plain := (of_checkNetwork (checked .ipAddr text (Option.mem_toList.2 held))).1
      rw [size_string_of_plain plain]
      exact Nat.add_le_add_right (short text held) 2
  | gateway =>
      obtain ⟨text, held, rfl⟩ := Option.map_eq_some_iff.1 set
      exact size_string_of_isAddress
        (checkAddress_eq_ok_iff.1 (checked .gateway text (Option.mem_toList.2 held)))
  | dnsServer =>
      rw [Settings.toValue?] at set
      split at set
      · cases set
      · cases set
        exact size_of_servers few fun server listed =>
          checkAddress_eq_ok_iff.1 (checked .dnsServer server listed)

/-- What the settings of a document take is bounded setting by setting. -/
theorem sum_members_le (weight : String × Json → Nat) (bound : Field → Nat)
    (each : ∀ field value, settings.toValue? field = some value →
      weight (field.key, value) ≤ bound field) :
    (settings.members.map weight).sum ≤ (Field.all.map bound).sum := by
  rw [Settings.members]
  induction Field.all with
  | nil => exact Nat.le_refl _
  | cons field rest ih =>
      rw [List.map_cons, List.sum_cons]
      cases set : settings.toValue? field with
      | none =>
          rw [List.filterMap_cons_none (by rw [set, Option.map_none])]
          omega
      | some value =>
          have first := each field value set
          rw [List.filterMap_cons_some (by rw [set, Option.map_some]), List.map_cons, List.sum_cons]
          omega

/-- **The document of accepted settings leaves more than 500 bytes of a transfer free.** -/
theorem size_toDocument_le (accepted : settings.validate = .ok ()) (known : settings.extra = [])
    (short : ∀ text ∈ settings.ipAddr, text.utf8ByteSize ≤ textLimit) :
    settings.toDocument.size ≤ 3537 := by
  have total : (Field.all.map fun field =>
      (string field.key).size + field.valueSize + 2).sum = 3535 := by decide
  calc settings.toDocument.size
      ≤ ((membersOf (settings.members ++ settings.extra)).map memberSize).sum + 2 :=
        size_object_le _
    _ ≤ ((settings.members ++ settings.extra).map memberSize).sum + 2 :=
        Nat.add_le_add_right (sum_membersOf_le _ _) 2
    _ = (settings.members.map memberSize).sum + 2 := by rw [known, List.append_nil]
    _ ≤ 3535 + 2 := by
        rw [← total]
        refine Nat.add_le_add_right (sum_members_le _ _ fun field value set => ?_) 2
        have fits := size_le_of_toValue? accepted short set
        show (string field.key).size + value.size + 2 ≤ _
        omega

/-- **Accepted settings can be sent**, whatever characters their texts hold, if nothing is kept that
is no setting and the network, whose length is not checked, has room: the text of their document
fits one transfer and has no byte that would end it. -/
theorem accepted_sendable (accepted : settings.validate = .ok ()) (known : settings.extra = [])
    (short : ∀ text ∈ settings.ipAddr, text.utf8ByteSize ≤ 64) :
    ∃ payload, toPayload settings.toDocument = .ok payload ∧
      payload = Text.Utf8.encode settings.toDocument.compact ∧ payload.length ≤ 4096 ∧
      ∀ byte ∈ payload, Wire.isSentinel byte = false := by
  have size : (Text.Utf8.encode settings.toDocument.compact).length ≤ 3537 :=
    size_toDocument_le accepted known short
  obtain ⟨count, checked⟩ := checkPayload_compact (Nat.le_trans size (by decide))
  have clean := (Wire.checkPayload_eq_ok_iff.1 checked).2.1
  exact ⟨_, toPayload_eq_ok_iff.2 ⟨rfl, count, checked⟩, rfl, Nat.le_trans size (by decide), clean⟩

end Accepted

/-- Texts of control characters and of characters of four bytes that fill their room, and a network
of 64 bytes. -/
theorem accepted_sendable_escaped :
    let controls := String.ofList (List.replicate 64 '\x01')
    let settings : Settings :=
      { Settings.ofRequired (String.ofList (List.replicate 8 '😀')) controls controls controls with
        ipAddr := some "1.2.3.4/00000000000000000000000000000000000000000000000000000024"
        dnsServer := ["255.255.255.255", "255.255.255.255", "255.255.255.255"]
        manufacturer := some controls
        product := some controls
        serialNumber := some controls
        webusbUrl := some controls }
    settings.validate = .ok () ∧ settings.extra = [] ∧
      (∀ text ∈ settings.ipAddr, text.utf8ByteSize ≤ 64) ∧
      ∃ payload, toPayload settings.toDocument = .ok payload ∧ payload.length ≤ 4096 ∧
        ∀ byte ∈ payload, Wire.isSentinel byte = false := by
  intro controls settings
  have accepted : settings.validate = .ok () := rfl
  have short : ∀ text ∈ settings.ipAddr, text.utf8ByteSize ≤ 64 := by
    rintro _ ⟨⟩
    decide
  obtain ⟨payload, sent, -, fits, clean⟩ := accepted_sendable accepted rfl short
  exact ⟨accepted, rfl, short, payload, sent, fits, clean⟩

end ControlLink.Config
