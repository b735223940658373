/-
# ControlLink.Proofs.Config.Settings — settings and documents agree both ways

Settings are known by the values that a document holds for them and by the members that are kept
(`eq_of_toValue?_eq`). Settings that are read from members hold for each setting what the members
hold, unless that only says that nothing is set (`toValue?_of_ofMembers`), and the document that is
written for them holds for each setting what they hold (`find?_toDocument_key`). So both ways around
are decided key by key (`settings_documents_agree`).
-/
import ControlLink.Proofs.Config.Shape
import Mathlib.Data.Option.Basic

namespace ControlLink.Config

set_option autoImplicit false

open Json (find?)

/-! ## Values that set nothing -/

/-- The keys of the settings that may be null. -/
def optionalKeys : List String :=
  ["screen_width", "screen_height", "flip_wheel", "polling_rate", "jiggle_interval", "brightness",
    "ip_addr", "gateway", "vid", "pid", "manufacturer", "product", "serial_number",
    "ble_device_name", "webusb_url"]

/-- Whether a member only says that its setting is not set. -/
def isUnset : String × Json → Bool
  | (key, .null) => optionalKeys.contains key
  | (key, .array []) => key == "dns_server"
  | _ => false

/-- Whether a member is no setting. -/
def isUnknown (member : String × Json) : Bool := (Field.ofKey? member.1).isNone

theorem isUnknown_iff {member : String × Json} :
    isUnknown member = true ↔ ∀ field : Field, member.1 ≠ field.key := by
  rw [isUnknown, Option.isNone_iff_eq_none, Field.ofKey?_eq_none_iff]

theorem isUnknown_key (field : Field) (value : Json) : isUnknown (field.key, value) = false := by
  rw [isUnknown, Field.ofKey?_key, Option.isNone_some]

theorem isUnset_of_isUnknown {member : String × Json} (unknown : isUnknown member = true) :
    isUnset member = false := by
  obtain ⟨key, value⟩ := member
  have listed : ∀ known ∈ "dns_server" :: optionalKeys, (Field.ofKey? known).isSome = true := by
    decide
  have absent : key ∉ "dns_server" :: optionalKeys := by
    intro inside
    rw [isUnknown, Option.isNone_iff_eq_none] at unknown
    have known := listed key inside
    rw [unknown] at known
    cases known
  obtain ⟨no_server, no_option⟩ := not_or.1 (mt List.mem_cons.2 absent)
  cases value with
  | null => simpa [isUnset] using no_option
  | array items =>
      cases items with
      | nil => simpa [isUnset] using no_server
      | cons item rest => rfl
  | _ => rfl

namespace Settings

variable {settings : Settings} {members : List (String × Json)} {field : Field}

/-! ## What settings hold -/

/-- **Settings are known by what they hold** for each setting and by what is kept. -/
theorem eq_of_toValue?_eq {other : Settings}
    (same : ∀ field, settings.toValue? field = other.toValue? field)
    (kept : settings.extra = other.extra) : settings = other := by
  have required {a b : String} (h : some (Json.string a) = some (.string b)) : a = b :=
    inverts_readText.injective (Option.some.inj h)
  have text {a b : Option String} (h : a.map Json.string = b.map .string) : a = b :=
    Option.map_injective inverts_readText.injective h
  have word {a b : Option UInt16} (h : a.map ofWord = b.map ofWord) : a = b :=
    Option.map_injective inverts_readWord.injective h
  have byte {a b : Option UInt8} (h : a.map ofByte = b.map ofByte) : a = b :=
    Option.map_injective inverts_readByte.injective h
  have flag {a b : Option Bool} (h : a.map Json.bool = b.map .bool) : a = b :=
    Option.map_injective inverts_readFlag.injective h
  have texts {a b : List String}
      (h : (if a.isEmpty then none else some (Json.array (a.map .string))) =
        if b.isEmpty then none else some (.array (b.map .string))) : a = b := by
    cases a with
    | nil =>
        cases b with
        | nil => rfl
        | cons _ _ => cases h
    | cons _ _ =>
        cases b with
        | nil => cases h
        | cons _ _ => exact inverts_readTexts.injective (Option.some.inj h)
  have password : settings.password = other.password :=
    congrArg Secret.mk (required (same .password))
  cases settings
  cases other
  simp only [mk.injEq]
  exact ⟨required (same .ssid), password, required (same .server), required (same .screenName),
    word (same .screenWidth), word (same .screenHeight), flag (same .flipWheel),
    word (same .pollingRate), word (same .jiggleInterval), byte (same .brightness),
    text (same .ipAddr), texts (same .dnsServer), text (same .gateway), word (same .vid),
    word (same .pid), text (same .manufacturer), text (same .product), text (same .serialNumber),
    text (same .bleDeviceName), text (same .webusbUrl), kept⟩

/-! ## Settings that have been read -/

/-- What members hold for a setting, if that sets it. -/
def held? (members : List (String × Json)) (field : Field) : Option Json :=
  (find? field.key members).filter fun value => !isUnset (field.key, value)

theorem held?_of_required {text : String} (read : required members field = .ok text) :
    some (.string text) = held? members field := by
  rw [held?, required_eq_ok_iff.1 read]
  rfl

/-- What is read for a setting that may be null is what the members hold for it. -/
theorem held?_of_optional {α : Type} {read : Json → Except ShapeError α} {write : α → Json}
    (inverts : Inverts read write) (present : ∀ x, (write x).isNull = false)
    (plain : ∀ value, isUnset (field.key, value) = value.isNull)
    (shaped : ∀ value, find? field.key members = some value →
      value = .null ∨ ∃ x, value = write x) :
    (value? read members field).map write = held? members field := by
  rw [held?]
  cases found : find? field.key members with
  | none => rw [value?, found, Option.bind_none, Option.map_none, Option.filter_none]
  | some value =>
      simp only [plain, Option.filter_some]
      obtain rfl | ⟨x, rfl⟩ := shaped value found
      · -- Nothing is written as a null.
        have unread : value? read members field = none := by
          refine Option.eq_none_iff_forall_ne_some.2 fun x read => ?_
          rw [value?_eq_some_iff inverts, found] at read
          have null := present x
          rw [← Option.some.inj read] at null
          cases null
        rw [unread, Option.map_none]
        rfl
      · rw [(value?_eq_some_iff inverts).2 found, Option.map_some, present]
        rfl

theorem held?_of_texts {servers : List String}
    (read : servers = (value? readTexts members .dnsServer).getD [])
    (shaped : ∀ value, find? Field.dnsServer.key members = some value → IsTexts value) :
    (if servers.isEmpty then none else some (Json.array (servers.map .string))) =
      held? members .dnsServer := by
  rw [held?, read]
  cases found : find? Field.dnsServer.key members with
  | none =>
      rw [value?, found]
      rfl
  | some value =>
      obtain ⟨texts, rfl⟩ := exists_texts_iff.2 (shaped value found)
      rw [(value?_eq_some_iff inverts_readTexts).2 found]
      cases texts <;> rfl

theorem isUnset_optional (listed : field.key ∈ optionalKeys) (value : Json) :
    isUnset (field.key, value) = value.isNull := by
  have other : ∀ key ∈ optionalKeys, (key == "dns_server") = false := by decide
  cases value with
  | null => exact List.contains_iff_mem.2 listed
  | array items =>
      cases items with
      | nil => exact other _ listed
      | cons _ _ => rfl
  | _ => rfl

/-- **Settings that have been read hold what the members hold** for each setting. -/
theorem toValue?_of_ofMembers (accepted : ofMembers members = .ok settings) (field : Field) :
    settings.toValue? field = held? members field := by
  have shaped (field : Field) (value : Json) (found : find? field.key members = some value) :
      field.shape.Admits value :=
    (describes_iff.1 (exists_settings_iff.1 ⟨settings, accepted⟩)).1 field value
      (Json.mem_of_find?_eq_some found)
  have text (field : Field) (listed : field.key ∈ optionalKeys)
      (text : ∀ value, field.shape.Admits value → value = .null ∨ IsText value) :
      (value? readText members field).map .string = held? members field :=
    held?_of_optional inverts_readText (fun _ => rfl) (isUnset_optional listed)
      fun value found => text value (shaped field value found)
  have word (field : Field) (listed : field.key ∈ optionalKeys)
      (word : ∀ value, field.shape.Admits value → value = .null ∨ IsNatural 65535 value) :
      (value? readWord members field).map ofWord = held? members field :=
    held?_of_optional inverts_readWord (fun _ => rfl) (isUnset_optional listed)
      fun value found => (or_congr_right spans_word.exists_write_iff).2
        (word value (shaped field value found))
  unfold ofMembers at accepted
  simp only [andThen_eq_ok_iff] at accepted
  simp only [bind_eq_ok_iff] at accepted
  obtain ⟨-, ssid, first, password, second, server, third, screenName, fourth, same⟩ := accepted
  cases same
  cases field with
  | ssid => exact held?_of_required first
  | password => exact held?_of_required second
  | server => exact held?_of_required third
  | screenName => exact held?_of_required fourth
  | screenWidth | screenHeight | pollingRate | jiggleInterval | vid | pid =>
      exact word _ (by decide) fun _ => id
  | ipAddr | gateway | manufacturer | product | serialNumber | bleDeviceName | webusbUrl =>
      exact text _ (by decide) fun _ => id
  | flipWheel =>
      exact held?_of_optional inverts_readFlag (fun _ => rfl) (isUnset_optional (by decide))
        (shaped .flipWheel)
  | brightness =>
      exact held?_of_optional inverts_readByte (fun _ => rfl) (isUnset_optional (by decide))
        fun value found => (or_congr_right spans_byte.exists_write_iff).2
          (shaped .brightness value found)
  | dnsServer => exact held?_of_texts rfl (shaped .dnsServer)

theorem extra_of_ofMembers (accepted : ofMembers members = .ok settings) :
    settings.extra = members.filter isUnknown := by
  unfold ofMembers at accepted
  simp only [andThen_eq_ok_iff] at accepted
  simp only [bind_eq_ok_iff] at accepted
  obtain ⟨-, _, -, _, -, _, -, _, -, same⟩ := accepted
  cases same
  rfl

/-! ## Settings that are written -/

theorem mem_members_iff {key : String} {value : Json} : (key, value) ∈ settings.members ↔
    ∃ field : Field, field.key = key ∧ settings.toValue? field = some value := by
  simp only [members, List.mem_filterMap, Option.map_eq_some_iff, Prod.mk.injEq]
  constructor
  · rintro ⟨field, -, _, set, same, rfl⟩
    exact ⟨field, same, set⟩
  · rintro ⟨field, same, set⟩
    exact ⟨field, field.mem_all, value, set, same, rfl⟩

theorem pairwise_members : settings.members.Pairwise (·.1 ≠ ·.1) := by
  have distinct : Field.all.Nodup := by decide
  refine List.pairwise_filterMap.2 (List.Pairwise.imp ?_ distinct)
  intro field other differs _ written _ written'
  obtain ⟨_, -, rfl⟩ := Option.map_eq_some_iff.1 written
  obtain ⟨_, -, rfl⟩ := Option.map_eq_some_iff.1 written'
  exact fun same => differs (Field.key_injective same)

theorem find?_members (field : Field) :
    find? field.key settings.members = settings.toValue? field := by
  ext value
  rw [Json.find?_eq_some_iff pairwise_members, mem_members_iff]
  constructor
  · rintro ⟨other, same, set⟩
    rwa [← Field.key_injective same]
  · exact fun set => ⟨field, rfl, set⟩

theorem find?_extra_key (unknown : ∀ member ∈ settings.extra, isUnknown member = true)
    (field : Field) : find? field.key settings.extra = none :=
  Json.find?_eq_none_iff.2 fun member kept => isUnknown_iff.1 (unknown member kept) field

section Written

variable (ordered : settings.extra.Pairwise (·.1 < ·.1))
  (unknown : ∀ member ∈ settings.extra, isUnknown member = true)

include ordered unknown

theorem pairwise_members_extra : (settings.members ++ settings.extra).Pairwise (·.1 ≠ ·.1) := by
  refine List.pairwise_append.2 ⟨pairwise_members, Json.pairwise_ne_of_lt ordered, ?_⟩
  rintro ⟨key, value⟩ written other kept same
  obtain ⟨field, rfl, -⟩ := mem_members_iff.1 written
  exact isUnknown_iff.1 (unknown other kept) field same.symm

/-- What is found in the document of settings. -/
theorem find?_toDocument (key : String) :
    find? key (Json.membersOf (settings.members ++ settings.extra)) =
      (find? key settings.members).or (find? key settings.extra) := by
  rw [Json.find?_membersOf (pairwise_members_extra ordered unknown)]
  exact List.lookup_append

/-- **The document of settings holds for each setting what they hold.** -/
theorem find?_toDocument_key (field : Field) :
    find? field.key (Json.membersOf (settings.members ++ settings.extra)) =
      settings.toValue? field := by
  rw [find?_toDocument ordered unknown, find?_members, find?_extra_key unknown, Option.or_none]

theorem find?_toDocument_unknown {key : String} (other : ∀ field : Field, key ≠ field.key) :
    find? key (Json.membersOf (settings.members ++ settings.extra)) =
      find? key settings.extra := by
  have absent : find? key settings.members = none := by
    refine Json.find?_eq_none_iff.2 ?_
    rintro ⟨_, value⟩ written rfl
    obtain ⟨field, same, -⟩ := mem_members_iff.1 written
    exact other field same.symm
  rw [find?_toDocument ordered unknown, absent, Option.none_or]

end Written

/-- What is written for a setting has its shape and sets it. -/
theorem admits_of_toValue? {value : Json} (set : settings.toValue? field = some value) :
    field.shape.Admits value ∧ isUnset (field.key, value) = false := by
  cases field with
  | ssid | password | server | screenName =>
      cases set
      exact ⟨⟨_, rfl⟩, rfl⟩
  | screenWidth | screenHeight | pollingRate | jiggleInterval | vid | pid =>
      obtain ⟨n, -, rfl⟩ := Option.map_eq_some_iff.1 set
      exact ⟨.inr (spans_word.exists_write_iff.1 ⟨n, rfl⟩), rfl⟩
  | brightness =>
      obtain ⟨n, -, rfl⟩ := Option.map_eq_some_iff.1 set
      exact ⟨.inr (spans_byte.exists_write_iff.1 ⟨n, rfl⟩), rfl⟩
  | ipAddr | gateway | manufacturer | product | serialNumber | bleDeviceName | webusbUrl =>
      obtain ⟨text, -, rfl⟩ := Option.map_eq_some_iff.1 set
      exact ⟨.inr ⟨text, rfl⟩, rfl⟩
  | flipWheel =>
      obtain ⟨flag, -, rfl⟩ := Option.map_eq_some_iff.1 set
      exact ⟨.inr ⟨flag, rfl⟩, rfl⟩
  | dnsServer =>
      rw [toValue?] at set
      cases servers : settings.dnsServer with
      | nil =>
          rw [servers] at set
          cases set
      | cons server rest =>
          rw [servers] at set
          cases set
          exact ⟨exists_texts_iff.1 ⟨_, rfl⟩, rfl⟩

/-! ## Both ways around -/

/-- **Settings are read back from their document.** -/
theorem ofMembers_toDocument (ordered : settings.extra.Pairwise (·.1 < ·.1))
    (unknown : ∀ member ∈ settings.extra, isUnknown member = true) :
    ofMembers (Json.membersOf (settings.members ++ settings.extra)) = .ok settings := by
  have sorted := Json.pairwise_membersOf (settings.members ++ settings.extra)
  have distinct := Json.pairwise_ne_of_lt sorted
  have found := find?_toDocument_key ordered unknown
  have shaped (field : Field) (value : Json)
      (held : (field.key, value) ∈ Json.membersOf (settings.members ++ settings.extra)) :
      field.shape.Admits value := by
    rw [← Json.find?_eq_some_iff distinct, found] at held
    exact (admits_of_toValue? held).1
  have present (field : Field) (required : field.shape = .requiredText) :
      ∃ value, (field.key, value) ∈ Json.membersOf (settings.members ++ settings.extra) := by
    simp only [← Json.find?_eq_some_iff distinct, found]
    cases field with
    | ssid | password | server | screenName => exact ⟨_, rfl⟩
    | _ => cases required
  obtain ⟨other, accepted⟩ := exists_settings_iff.2 (describes_iff.2 ⟨shaped, present⟩)
  have same : other = settings := by
    -- What was read and what was written hold the same for each setting and keep the same members.
    refine eq_of_toValue?_eq (fun field => ?_) ?_
    · rw [toValue?_of_ofMembers accepted, held?, found]
      cases set : settings.toValue? field with
      | none => rfl
      | some value => simp [(admits_of_toValue? set).2]
    · rw [extra_of_ofMembers accepted]
      refine Json.eq_of_find?_eq (sorted.filter _) ordered fun key => ?_
      rw [Json.find?_filter distinct]
      obtain ⟨field, rfl⟩ | other := Field.key_cases key
      · simp [isUnknown_key, find?_extra_key unknown]
      · have kept (value : Json) : isUnknown (key, value) = true := isUnknown_iff.2 other
        rw [find?_toDocument_unknown ordered unknown other]
        simp only [kept]
        cases find? key settings.extra <;> rfl
  rw [accepted, same]

/-- **A document that is read is written back** but for the members that set nothing. -/
theorem toDocument_of_ofMembers (ordered : members.Pairwise (·.1 < ·.1))
    (accepted : ofMembers members = .ok settings) :
    settings.toDocument = .object (members.filter (!isUnset ·)) := by
  have distinct := Json.pairwise_ne_of_lt ordered
  have extra := extra_of_ofMembers accepted
  have kept : settings.extra.Pairwise (·.1 < ·.1) := extra ▸ ordered.filter isUnknown
  have unknown : ∀ member ∈ settings.extra, isUnknown member = true := by
    rw [extra]
    exact fun member inside => (List.mem_filter.1 inside).2
  refine congrArg Json.object (Json.eq_of_find?_eq (Json.pairwise_membersOf _)
    (ordered.filter _) fun key => ?_)
  rw [Json.find?_filter distinct]
  obtain ⟨field, rfl⟩ | other := Field.key_cases key
  · rw [find?_toDocument_key kept unknown, toValue?_of_ofMembers accepted, held?]
  · have known (value : Json) : isUnknown (key, value) = true := isUnknown_iff.2 other
    have set (value : Json) : isUnset (key, value) = false := isUnset_of_isUnknown (known value)
    rw [find?_toDocument_unknown kept unknown other, extra, Json.find?_filter distinct]
    simp only [known, set]
    rfl

end Settings

/-- **Settings and documents agree both ways.** Settings that keep no member under the key of a
setting are read back from their document. A document that is read is written back without the
members that only say that a setting is not set: nulls under the optional keys and an empty array of
servers. The members that are no setting are kept as they are, and no others. -/
theorem settings_documents_agree :
    (∀ settings : Settings, settings.extra.Pairwise (·.1 < ·.1) →
      (∀ member ∈ settings.extra, ∀ field : Field, member.1 ≠ field.key) →
      settingsOf settings.toDocument = .ok settings) ∧
    ∀ (document : Json) (settings : Settings), document.Ordered →
      settingsOf document = .ok settings →
      ∃ members, document = .object members ∧
        settings.toDocument = .object (members.filter (!isUnset ·)) ∧
        settings.extra.Pairwise (·.1 < ·.1) ∧
        ∀ member, member ∈ settings.extra ↔
          member ∈ members ∧ ∀ field : Field, member.1 ≠ field.key := by
  constructor
  · intro settings ordered other
    have unknown : ∀ member ∈ settings.extra, isUnknown member = true :=
      fun member kept => isUnknown_iff.2 (other member kept)
    exact settingsOf_eq_ok_iff.2 ⟨_, rfl, Settings.ofMembers_toDocument ordered unknown⟩
  · intro document settings ordered accepted
    obtain ⟨members, rfl, read⟩ := settingsOf_eq_ok_iff.1 accepted
    have sorted : members.Pairwise (·.1 < ·.1) := ordered.1
    refine ⟨members, rfl, Settings.toDocument_of_ofMembers sorted read, ?_, fun member => ?_⟩
    · exact Settings.extra_of_ofMembers read ▸ sorted.filter isUnknown
    · rw [Settings.extra_of_ofMembers read, List.mem_filter, isUnknown_iff]

/-- A document with an empty array of servers, a null that sets nothing, and nulls that are kept
because they are no setting. -/
theorem settings_documents_agree_sparse :
    let kept : List (String × Json) :=
      [("brightness", Settings.ofByte 40), ("password", .string "p"), ("screen_name", .string "s"),
        ("server", .string "h:1"), ("ssid", .string "n"), ("zone", .null)]
    let future : String × Json := ("a", .object [("gateway", .null), ("vid", .array [.null])])
    let document : Json := .object (future :: kept.take 1 ++ ("dns_server", .array []) ::
      ("gateway", .null) :: kept.drop 1)
    ∃ settings, settingsOf document = .ok settings ∧
      settings.toDocument = .object (future :: kept) ∧
      settings.extra = [future, ("zone", .null)] ∧
      settingsOf settings.toDocument = .ok settings := by
  intro kept future document
  have ordered : document.Ordered :=
    ⟨by decide, ⟨by decide, trivial, ⟨trivial, trivial⟩, trivial⟩, trivial, trivial, trivial,
      trivial, trivial, trivial, trivial, trivial, trivial⟩
  obtain ⟨settings, accepted, extra⟩ : ∃ settings, settingsOf document = .ok settings ∧
      settings.extra = [future, ("zone", .null)] := ⟨_, rfl, rfl⟩
  obtain ⟨members, same, written, sorted, inside⟩ :=
    settings_documents_agree.2 document settings ordered accepted
  obtain rfl := Json.object.inj same
  exact ⟨settings, accepted, written, extra, settings_documents_agree.1 settings sorted
    fun member held => ((inside member).1 held).2⟩

end ControlLink.Config
