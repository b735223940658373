/-
# ControlLink.Proofs.Config.Limits — what the checks of settings make sure of

Settings are accepted exactly if each of their texts passes the check of its setting and there are
not too many servers (`validate_eq_ok_iff`). A text that is measured has room in the firmware, and
an address has room because it is short. A network is short but for the zeros in front of its prefix
length, which nothing limits: it is the only text that may take more room than there is
(`fits_of_check`).
-/
import ControlLink.Proofs.Config.Address
import ControlLink.Proofs.Config.Shape

namespace ControlLink.Config

set_option autoImplicit false

/-! ## Single checks -/

theorem checkLength_eq_ok_iff {field : Field} {limit : Nat} {text : String} :
    checkLength field limit text = .ok () ↔ text.utf8ByteSize ≤ limit := by
  unfold checkLength
  split
  next long => exact iff_of_false nofun (Nat.not_le.2 long)
  next fits => exact iff_of_true rfl (Nat.not_lt.1 fits)

theorem checkRequired_eq_ok_iff {field : Field} {limit : Nat} {text : String} :
    checkRequired field limit text = .ok () ↔ text ≠ "" ∧ text.utf8ByteSize ≤ limit := by
  unfold checkRequired
  split
  next empty => exact iff_of_false nofun fun both => both.1 (String.isEmpty_iff.1 empty)
  next present =>
    rw [checkLength_eq_ok_iff]
    exact (and_iff_right fun empty => present (String.isEmpty_iff.2 empty)).symm

theorem ifSet_eq_ok_iff {check : String → Except RequestError Unit} {value : Option String} :
    ifSet check value = .ok () ↔ ∀ text ∈ value.toList, check text = .ok () := by
  cases value with
  | none => exact iff_of_true rfl nofun
  | some text => rw [ifSet, Option.toList_some, List.forall_mem_singleton]

theorem checkServers_eq_ok_iff {servers : List String} : checkServers servers = .ok () ↔
    servers.length ≤ dnsServerLimit ∧
      ∀ server ∈ servers, checkAddress .dnsServer server = .ok () := by
  unfold checkServers
  split
  next many => exact iff_of_false nofun fun both => Nat.not_le.2 many both.1
  next few => exact forM_eq_ok_iff.trans (and_iff_right (Nat.not_lt.1 few)).symm

/-! ## Settings -/

namespace Field

/-- How many bytes of a text the firmware has room for. -/
def room : Field → Nat
  | ssid => ssidLimit
  | bleDeviceName => bleNameLimit
  | _ => textLimit

/-- What is checked of each text of a setting. -/
def check (field : Field) (text : String) : Except RequestError Unit :=
  match field with
  | ssid | password | server | screenName => checkRequired field field.room text
  | ipAddr => checkNetwork field text
  | dnsServer | gateway => checkAddress field text
  | _ => checkLength field field.room text

end Field

namespace Settings

/-- The texts that are set for a setting. -/
def texts (settings : Settings) : Field → List String
  | .ssid => [settings.ssid]
  | .password => [settings.password.expose]
  | .server => [settings.server]
  | .screenName => [settings.screenName]
  | .ipAddr => settings.ipAddr.toList
  | .dnsServer => settings.dnsServer
  | .gateway => settings.gateway.toList
  | .manufacturer => settings.manufacturer.toList
  | .product => settings.product.toList
  | .serialNumber => settings.serialNumber.toList
  | .bleDeviceName => settings.bleDeviceName.toList
  | .webusbUrl => settings.webusbUrl.toList
  | .screenWidth | .screenHeight | .flipWheel | .pollingRate | .jiggleInterval | .brightness
  | .vid | .pid => []

/-- **Settings are accepted exactly if each of their texts is** and the servers are not too many. -/
theorem validate_eq_ok_iff {settings : Settings} : settings.validate = .ok () ↔
    settings.dnsServer.length ≤ dnsServerLimit ∧
      ∀ field, ∀ text ∈ settings.texts field, field.check text = .ok () := by
  have each (holds : Field → Prop) : (∀ field, holds field) ↔ ∀ field ∈ Field.all, holds field :=
    ⟨fun all field _ => all field, fun all field => all field field.mem_all⟩
  unfold validate
  rw [each]
  simp only [andThen_eq_ok_iff, ifSet_eq_ok_iff, checkServers_eq_ok_iff, Field.all,
    List.forall_mem_cons, List.not_mem_nil, texts, Field.check, Field.room, false_implies,
    implies_true, and_true, true_and]
  -- The two sides only differ in where the servers are counted.
  constructor
  · rintro ⟨ssid, password, server, screenName, network, ⟨few, servers⟩, others⟩
    exact ⟨few, ssid, password, server, screenName, network, servers, others⟩
  · rintro ⟨few, ssid, password, server, screenName, network, servers, others⟩
    exact ⟨ssid, password, server, screenName, network, ⟨few, servers⟩, others⟩

end Settings

/-! ## Room -/

/-- A network whose prefix length has more zeros in front than any text has room for. -/
def Padded (text : List Char) : Prop :=
  ∃ address sign zeros number,
    text = address ++ '/' :: (sign ++ (List.replicate zeros '0' ++ number)) ∧ 45 < zeros ∧
      isAddress address = true ∧ sign.length ≤ 1 ∧ number.length ≤ 2

/-- A text that is checked has room, or it is a network that is padded with zeros. -/
theorem fits_of_check {field : Field} {text : String} (checked : field.check text = .ok ()) :
    text.utf8ByteSize ≤ field.room ∨ field = .ipAddr ∧ Padded text.toList := by
  have short {name : Field} (valid : checkAddress name text = .ok ()) :
      text.utf8ByteSize ≤ textLimit := by
    obtain ⟨few, plain⟩ := of_isAddress (checkAddress_eq_ok_iff.1 valid)
    rw [plain.utf8ByteSize_eq]
    exact Nat.le_trans few (by decide)
  cases field with
  | ssid | password | server | screenName => exact .inl (checkRequired_eq_ok_iff.1 checked).2
  | dnsServer | gateway => exact .inl (short checked)
  | ipAddr =>
      obtain ⟨-, address, sign, zeros, number, whole, valid, signed, few, size⟩ :=
        of_checkNetwork checked
      by_cases padded : 45 < zeros
      · exact .inr ⟨rfl, address, sign, zeros, number, whole, padded, valid, signed, few⟩
      · exact .inl (Nat.le_trans size (by show 19 + zeros ≤ 64; omega))
  | _ => exact .inl (checkLength_eq_ok_iff.1 checked)

theorem ne_empty_of_check {field : Field} {text : String} (required : field.shape = .requiredText)
    (checked : field.check text = .ok ()) : text ≠ "" := by
  cases field with
  | ssid | password | server | screenName => exact (checkRequired_eq_ok_iff.1 checked).1
  | _ => cases required

/-- **Accepted settings are within the limits of the firmware**, but for a network whose prefix
length is padded with zeros: every other text has room, the required ones are there, and there are
at most three servers. -/
theorem accepted_fits {settings : Settings} (accepted : settings.validate = .ok ()) :
    (∀ field, ∀ text ∈ settings.texts field,
      text.utf8ByteSize ≤ field.room ∨ field = .ipAddr ∧ Padded text.toList) ∧
    (∀ field, field.shape = .requiredText → ∀ text ∈ settings.texts field, text ≠ "") ∧
    settings.dnsServer.length ≤ 3 := by
  obtain ⟨few, checked⟩ := Settings.validate_eq_ok_iff.1 accepted
  exact ⟨fun field text set => fits_of_check (checked field text set),
    fun field required text set => ne_empty_of_check required (checked field text set), few⟩

/-- Settings with the required texts only. -/
def Settings.ofRequired (ssid password server screenName : String) : Settings where
  ssid
  password := ⟨password⟩
  server
  screenName
  screenWidth := none
  screenHeight := none
  flipWheel := none
  pollingRate := none
  jiggleInterval := none
  brightness := none
  ipAddr := none
  dnsServer := []
  gateway := none
  vid := none
  pid := none
  manufacturer := none
  product := none
  serialNumber := none
  bleDeviceName := none
  webusbUrl := none
  extra := []

/-- Names that fill their room, a network with a sign and zeros, and three servers. -/
theorem accepted_fits_full :
    let settings : Settings :=
      { Settings.ofRequired "áéíóúáéíóúáéíóú" "p" "h:1" "s" with
        ipAddr := some "255.255.255.255/+0032"
        dnsServer := ["1.1.1.1", "8.8.8.8", "9.9.9.9"]
        bleDeviceName := some "01234567890123456789012345678901" }
    settings.validate = .ok () ∧
      (∀ text ∈ settings.texts .ssid, text.utf8ByteSize ≤ 32 ∧ text ≠ "") ∧
      (∀ text ∈ settings.texts .bleDeviceName, text.utf8ByteSize ≤ 32) ∧
      settings.dnsServer.length ≤ 3 := by
  intro settings
  have accepted : settings.validate = .ok () := rfl
  obtain ⟨fits, present, few⟩ := accepted_fits accepted
  have room {field : Field} (other : field ≠ .ipAddr) (text : String)
      (set : text ∈ settings.texts field) : text.utf8ByteSize ≤ field.room :=
    (fits field text set).resolve_right fun padded => other padded.1
  exact ⟨accepted, fun text set => ⟨room (by decide) text set, present .ssid rfl text set⟩,
    room (by decide), few⟩

/-- **A padded network is accepted that takes more than its room**, here with 55 zeros. -/
theorem padded_network_exceeds :
    let settings : Settings :=
      { Settings.ofRequired "n" "p" "h:1" "s" with
        ipAddr := some "1.2.3.4/000000000000000000000000000000000000000000000000000000024" }
    settings.validate = .ok () ∧
      ∃ text ∈ settings.texts .ipAddr, Field.room .ipAddr < text.utf8ByteSize := by
  intro settings
  exact ⟨rfl, _, List.mem_singleton_self _, by decide⟩

end ControlLink.Config
