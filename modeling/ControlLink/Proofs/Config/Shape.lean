/-
# ControlLink.Proofs.Config.Shape — which documents describe settings

Each reader accepts exactly what is written for some value (`Inverts`), so a value has a shape
exactly if it is of the kind that the shape is for (`Shape.check_eq_ok_iff`). Members are settings
exactly if the required texts are there and every member that is a setting has its shape
(`exists_ofMembers_iff`). `Describes` says this key by key, so a document is accepted exactly if it
is an object that describes settings (`accepted_iff_describes`).
-/
import ControlLink.Config.Payload
import ControlLink.Proofs.Json.Members

namespace ControlLink.Config

set_option autoImplicit false

/-! ## Steps that may fail -/

section Steps

variable {ε α β : Type}

theorem bind_eq_ok_iff {first : Except ε α} {next : α → Except ε β} {result : β} :
    (first >>= next) = .ok result ↔ ∃ value, first = .ok value ∧ next value = .ok result := by
  cases first with
  | ok value =>
      constructor
      · exact fun same => ⟨value, rfl, same⟩
      · rintro ⟨_, same, rest⟩
        cases same
        exact rest
  | error error => exact ⟨nofun, fun ⟨_, same, _⟩ => nomatch same⟩

theorem andThen_eq_ok_iff {first : Except ε Unit} {second : Except ε β} {result : β} :
    (first >>= fun _ => second) = .ok result ↔ first = .ok () ∧ second = .ok result := by
  rw [bind_eq_ok_iff]
  exact ⟨fun ⟨_, both⟩ => both, fun both => ⟨(), both⟩⟩

theorem map_eq_ok_iff {first : Except ε α} {f : α → β} {result : β} :
    first.map f = .ok result ↔ ∃ value, first = .ok value ∧ f value = result := by
  cases first with
  | ok value => simp [Except.map]
  | error error => simp [Except.map]

/-- All succeed exactly if each does. -/
theorem forM_eq_ok_iff {check : α → Except ε Unit} {items : List α} :
    items.forM check = .ok () ↔ ∀ item ∈ items, check item = .ok () := by
  induction items with
  | nil => exact iff_of_true rfl nofun
  | cons item rest ih =>
      have steps : (item :: rest).forM check = (check item >>= fun _ => rest.forM check) := rfl
      rw [steps, andThen_eq_ok_iff, ih, List.forall_mem_cons]

end Steps

/-! ## Readers -/

/-- A reader accepts exactly what a writer writes, and reads it back. -/
def Inverts {α : Type} (read : Json → Except ShapeError α) (write : α → Json) : Prop :=
  ∀ value x, read value = .ok x ↔ value = write x

theorem Inverts.injective {α : Type} {read : Json → Except ShapeError α} {write : α → Json}
    (inverts : Inverts read write) : Function.Injective write := by
  intro x y same
  have first := (inverts (write x) x).2 rfl
  rw [same, (inverts (write y) y).2 rfl] at first
  exact (Except.ok.inj first).symm

theorem inverts_readText : Inverts readText .string := by
  intro value text
  cases value with
  | string other => simp [readText]
  | _ => simp [readText]

theorem inverts_readFlag : Inverts readFlag .bool := by
  intro value flag
  cases value with
  | bool other => simp [readFlag]
  | _ => simp [readFlag]

theorem readNat_eq_ok_iff {limit n : Nat} {wanted : Wanted} {value : Json} :
    readNat limit wanted value = .ok n ↔
      n ≤ limit ∧ ∃ fits, value = .number (.integer n fits) := by
  unfold readNat
  split
  next m fits =>
    split
    next inside =>
      rw [Except.ok.injEq]
      constructor
      · rintro rfl
        have whole : (m.toNat : Int) = m := Int.toNat_of_nonneg inside.1
        refine ⟨by omega, whole ▸ fits, ?_⟩
        simp [whole]
      · rintro ⟨-, _, same⟩
        cases same
        exact Int.toNat_natCast n
    next outside =>
      refine iff_of_false nofun ?_
      rintro ⟨small, _, same⟩
      cases same
      omega
  next other =>
    refine iff_of_false nofun ?_
    rintro ⟨-, fits, rfl⟩
    exact other _ _ rfl

theorem mapM_readText_eq_ok_iff {items : List Json} {texts : List String} :
    items.mapM readText = .ok texts ↔ items = texts.map .string := by
  induction items generalizing texts with
  | nil =>
      cases texts with
      | nil => exact iff_of_true rfl rfl
      | cons text rest => exact iff_of_false nofun nofun
  | cons item rest ih =>
      rw [List.mapM_cons]
      simp only [bind_eq_ok_iff, ih, inverts_readText item]
      constructor
      · rintro ⟨text, rfl, others, rfl, same⟩
        cases same
        rfl
      · intro same
        cases texts with
        | nil => cases same
        | cons text others =>
            cases same
            exact ⟨text, rfl, others, rfl, rfl⟩

theorem inverts_readTexts : Inverts readTexts fun texts => .array (texts.map .string) := by
  intro value texts
  cases value with
  | array items => rw [readTexts, mapM_readText_eq_ok_iff, Json.array.injEq]
  | _ => exact iff_of_false nofun nofun

/-! ## Shapes -/

def IsText (value : Json) : Prop := ∃ text, value = .string text

def IsFlag (value : Json) : Prop := ∃ flag, value = .bool flag

/-- An integer from zero to `limit`. -/
def IsNatural (limit : Nat) (value : Json) : Prop :=
  ∃ n fits, value = .number (.integer n fits) ∧ 0 ≤ n ∧ n ≤ limit

def IsTexts (value : Json) : Prop := ∃ items, value = .array items ∧ ∀ item ∈ items, IsText item

section Numbers

variable {β : Type} {limit : Nat} {ofNat : Nat → β} {toNat : β → Nat} {write : β → Json}

/-- A type of the numbers up to a limit, which are written as they are. -/
structure Spans (limit : Nat) (ofNat : Nat → β) (toNat : β → Nat) (write : β → Json) : Prop where
  toNat_le : ∀ x, toNat x ≤ limit
  ofNat_toNat : ∀ x, ofNat (toNat x) = x
  toNat_ofNat : ∀ n ≤ limit, toNat (ofNat n) = n
  written : ∀ x, ∃ fits, write x = .number (.integer (toNat x) fits)

theorem spans_word : Spans 65535 UInt16.ofNat UInt16.toNat Settings.ofWord where
  toNat_le n := Nat.le_of_lt_succ n.toNat_lt
  ofNat_toNat _ := UInt16.ofNat_toNat
  toNat_ofNat _ small := UInt16.toNat_ofNat_of_lt' (Nat.lt_succ_of_le small)
  written _ := ⟨_, rfl⟩

theorem spans_byte : Spans 255 UInt8.ofNat UInt8.toNat Settings.ofByte where
  toNat_le n := Nat.le_of_lt_succ n.toNat_lt
  ofNat_toNat _ := UInt8.ofNat_toNat
  toNat_ofNat _ small := UInt8.toNat_ofNat_of_lt' (Nat.lt_succ_of_le small)
  written _ := ⟨_, rfl⟩

theorem Spans.inverts (spans : Spans limit ofNat toNat write) (wanted : Wanted) :
    Inverts (fun value => (readNat limit wanted value).map ofNat) write := by
  intro value x
  obtain ⟨fits, written⟩ := spans.written x
  rw [map_eq_ok_iff, written]
  constructor
  · rintro ⟨n, read, rfl⟩
    obtain ⟨small, _, rfl⟩ := readNat_eq_ok_iff.1 read
    simp only [spans.toNat_ofNat n small]
  · rintro rfl
    exact ⟨toNat x, readNat_eq_ok_iff.2 ⟨spans.toNat_le x, _, rfl⟩, spans.ofNat_toNat x⟩

theorem Spans.exists_write_iff (spans : Spans limit ofNat toNat write) {value : Json} :
    (∃ x, value = write x) ↔ IsNatural limit value := by
  constructor
  · rintro ⟨x, rfl⟩
    obtain ⟨fits, written⟩ := spans.written x
    exact ⟨toNat x, fits, written, Int.natCast_nonneg _, Int.ofNat_le.2 (spans.toNat_le x)⟩
  · rintro ⟨n, fits, rfl, nonneg, small⟩
    obtain ⟨m, rfl⟩ := Int.eq_ofNat_of_zero_le nonneg
    obtain ⟨_, written⟩ := spans.written (ofNat m)
    refine ⟨ofNat m, ?_⟩
    simp only [written, spans.toNat_ofNat m (Int.ofNat_le.1 small)]

end Numbers

theorem inverts_readWord : Inverts readWord Settings.ofWord := spans_word.inverts .word

theorem inverts_readByte : Inverts readByte Settings.ofByte := spans_byte.inverts .byte

/-- The values of a shape. -/
def Shape.Admits : Shape → Json → Prop
  | requiredText, value => IsText value
  | text, value => value = .null ∨ IsText value
  | word, value => value = .null ∨ IsNatural 65535 value
  | byte, value => value = .null ∨ IsNatural 255 value
  | flag, value => value = .null ∨ IsFlag value
  | texts, value => IsTexts value

section Readable

variable {α : Type} {read : Json → Except ShapeError α} {write : α → Json} {value : Json}

/-- A value can be read if it has been written. -/
theorem Inverts.map_eq_ok_iff (inverts : Inverts read write) :
    ((read value).map fun _ => ()) = .ok () ↔ ∃ x, value = write x := by
  rw [Config.map_eq_ok_iff]
  exact ⟨fun ⟨x, accepted, _⟩ => ⟨x, (inverts value x).1 accepted⟩,
    fun ⟨x, written⟩ => ⟨x, (inverts value x).2 written, rfl⟩⟩

theorem Inverts.optional_eq_ok_iff (inverts : Inverts read write) :
    ((optional read value).map fun _ => ()) = .ok () ↔ value = .null ∨ ∃ x, value = write x := by
  unfold optional
  split
  next => exact iff_of_true rfl (.inl rfl)
  next present =>
    have same : ((read value).map some).map (fun _ => ()) = (read value).map fun _ => () := by
      cases read value <;> rfl
    rw [same, inverts.map_eq_ok_iff]
    exact (or_iff_right present).symm

end Readable

theorem exists_texts_iff {value : Json} :
    (∃ texts : List String, value = .array (texts.map .string)) ↔ IsTexts value := by
  constructor
  · rintro ⟨texts, rfl⟩
    refine ⟨_, rfl, fun item listed => ?_⟩
    obtain ⟨text, -, rfl⟩ := List.mem_map.1 listed
    exact ⟨text, rfl⟩
  · rintro ⟨items, rfl, each⟩
    induction items with
    | nil => exact ⟨[], rfl⟩
    | cons item rest ih =>
        obtain ⟨⟨text, rfl⟩, others⟩ := List.forall_mem_cons.1 each
        obtain ⟨texts, same⟩ := ih others
        obtain rfl := Json.array.inj same
        exact ⟨text :: texts, rfl⟩

/-- **A value passes the check of a shape exactly if it is one of its values.** -/
theorem Shape.check_eq_ok_iff {shape : Shape} {value : Json} :
    shape.check value = .ok () ↔ shape.Admits value := by
  cases shape with
  | requiredText => exact inverts_readText.map_eq_ok_iff
  | text => exact inverts_readText.optional_eq_ok_iff
  | word =>
      exact inverts_readWord.optional_eq_ok_iff.trans (or_congr_right spans_word.exists_write_iff)
  | byte =>
      exact inverts_readByte.optional_eq_ok_iff.trans (or_congr_right spans_byte.exists_write_iff)
  | flag => exact inverts_readFlag.optional_eq_ok_iff
  | texts => exact inverts_readTexts.map_eq_ok_iff.trans exists_texts_iff

/-! ## Members -/

namespace Field

theorem ofKey?_key (field : Field) : ofKey? field.key = some field := by
  cases field <;> rfl

theorem key_injective {field other : Field} (same : field.key = other.key) : field = other := by
  have found := field.ofKey?_key
  rw [same, other.ofKey?_key] at found
  exact (Option.some.inj found).symm

theorem ofKey?_eq_none_iff {key : String} :
    ofKey? key = none ↔ ∀ field : Field, key ≠ field.key := by
  constructor
  · rintro unknown field rfl
    rw [ofKey?_key] at unknown
    cases unknown
  · intro unknown
    cases found : ofKey? key with
    | none => rfl
    | some field => exact absurd (key_of_ofKey? found).symm (unknown field)

/-- A key is that of one setting or of none. -/
theorem key_cases (key : String) :
    (∃ field : Field, key = field.key) ∨ ∀ field : Field, key ≠ field.key := by
  by_cases known : ∃ field : Field, key = field.key
  · exact .inl known
  · exact .inr fun field same => known ⟨field, same⟩

end Field

namespace Settings

variable {members : List (String × Json)} {field : Field}

/-- A setting can be read if something has been written for it. -/
theorem value?_eq_some_iff {α : Type} {read : Json → Except ShapeError α} {write : α → Json}
    (inverts : Inverts read write) {x : α} :
    value? read members field = some x ↔ Json.find? field.key members = some (write x) := by
  have accepts (value : Json) : (read value).toOption = some x ↔ value = write x := by
    rw [← inverts value x]
    cases read value <;> simp [Except.toOption]
  simp only [value?, Option.bind_eq_some_iff, accepts, exists_eq_right]

theorem required_eq_ok_iff {text : String} :
    required members field = .ok text ↔ Json.find? field.key members = some (.string text) := by
  rw [← value?_eq_some_iff inverts_readText, required]
  cases value? readText members field <;> simp

theorem checkMember_eq_ok_iff {key : String} {value : Json} :
    checkMember key value = .ok () ↔
      ∀ field : Field, field.key = key → field.shape.Admits value := by
  unfold checkMember
  split
  next found known =>
    rw [Shape.check_eq_ok_iff, ← Field.key_of_ofKey? known]
    constructor
    · rintro shaped field same
      rwa [Field.key_injective same]
    · exact fun shaped => shaped found rfl
  next unknown =>
    refine iff_of_true rfl fun field same => ?_
    exact absurd same.symm (Field.ofKey?_eq_none_iff.1 unknown field)

/-- **Members are settings exactly if** each that is a setting has its shape and the required texts
are there. -/
theorem exists_ofMembers_iff : (∃ settings, ofMembers members = .ok settings) ↔
    (∀ member ∈ members, checkMember member.1 member.2 = .ok ()) ∧
      ∀ field : Field, field.shape = .requiredText → ∃ text, required members field = .ok text := by
  unfold ofMembers
  simp only [andThen_eq_ok_iff, forM_eq_ok_iff]
  simp only [bind_eq_ok_iff]
  constructor
  · rintro ⟨_, checked, ssid, first, password, second, server, third, screenName, fourth, -⟩
    refine ⟨checked, fun field shaped => ?_⟩
    cases field with
    | ssid => exact ⟨ssid, first⟩
    | password => exact ⟨password, second⟩
    | server => exact ⟨server, third⟩
    | screenName => exact ⟨screenName, fourth⟩
    | _ => cases shaped
  · rintro ⟨checked, present⟩
    obtain ⟨ssid, first⟩ := present .ssid rfl
    obtain ⟨password, second⟩ := present .password rfl
    obtain ⟨server, third⟩ := present .server rfl
    obtain ⟨screenName, fourth⟩ := present .screenName rfl
    exact ⟨_, checked, ssid, first, password, second, server, third, screenName, fourth, rfl⟩

end Settings

/-! ## Documents -/

/-- The members of a document that describes settings, key by key. Under any other key there may be
anything. -/
structure Describes (members : List (String × Json)) : Prop where
  present : ∀ key ∈ ["ssid", "password", "server", "screen_name"],
    ∃ value, (key, value) ∈ members
  required : ∀ key ∈ ["ssid", "password", "server", "screen_name"],
    ∀ value, (key, value) ∈ members → IsText value
  words : ∀ key ∈ ["screen_width", "screen_height", "polling_rate", "jiggle_interval", "vid",
      "pid"],
    ∀ value, (key, value) ∈ members → value = .null ∨ IsNatural 65535 value
  brightness : ∀ value, ("brightness", value) ∈ members → value = .null ∨ IsNatural 255 value
  flipWheel : ∀ value, ("flip_wheel", value) ∈ members → value = .null ∨ IsFlag value
  texts : ∀ key ∈ ["ip_addr", "gateway", "manufacturer", "product", "serial_number",
      "ble_device_name", "webusb_url"],
    ∀ value, (key, value) ∈ members → value = .null ∨ IsText value
  servers : ∀ value, ("dns_server", value) ∈ members → IsTexts value

section Documents

variable {members : List (String × Json)}

/-- The keys that are listed are those of the settings of each shape. -/
theorem describes_iff : Describes members ↔
    (∀ (field : Field) (value : Json), (field.key, value) ∈ members → field.shape.Admits value) ∧
      ∀ field : Field, field.shape = .requiredText → ∃ value, (field.key, value) ∈ members := by
  constructor
  · intro describes
    refine ⟨fun field value held => ?_, fun field shaped => ?_⟩
    · cases field with
      | ssid | password | server | screenName =>
          exact describes.required _ (by decide) value held
      | screenWidth | screenHeight | pollingRate | jiggleInterval | vid | pid =>
          exact describes.words _ (by decide) value held
      | ipAddr | gateway | manufacturer | product | serialNumber | bleDeviceName | webusbUrl =>
          exact describes.texts _ (by decide) value held
      | brightness => exact describes.brightness value held
      | flipWheel => exact describes.flipWheel value held
      | dnsServer => exact describes.servers value held
    · cases field with
      | ssid | password | server | screenName => exact describes.present _ (by decide)
      | _ => cases shaped
  · rintro ⟨shaped, present⟩
    have admitted (shape : Shape) {keys : List String}
        (listed : ∀ key ∈ keys, ∃ field ∈ Field.all, field.key = key ∧ field.shape = shape) :
        ∀ key ∈ keys, ∀ value, (key, value) ∈ members → shape.Admits value := by
      intro key inside value held
      obtain ⟨field, -, rfl, rfl⟩ := listed key inside
      exact shaped field value held
    have required : ∀ key ∈ ["ssid", "password", "server", "screen_name"],
        ∃ field ∈ Field.all, field.key = key ∧ field.shape = .requiredText := by decide
    refine ⟨fun key inside => ?_, admitted .requiredText required, admitted .word (by decide),
      shaped .brightness, shaped .flipWheel, admitted .text (by decide), shaped .dnsServer⟩
    obtain ⟨field, -, rfl, needed⟩ := required key inside
    exact present field needed

/-- **Members are settings exactly if they describe some.** -/
theorem exists_settings_iff :
    (∃ settings, Settings.ofMembers members = .ok settings) ↔ Describes members := by
  rw [Settings.exists_ofMembers_iff, describes_iff]
  have checked_iff : (∀ member ∈ members, Settings.checkMember member.1 member.2 = .ok ()) ↔
      ∀ (field : Field) (value : Json), (field.key, value) ∈ members →
        field.shape.Admits value := by
    simp only [Settings.checkMember_eq_ok_iff]
    exact ⟨fun shaped field value held => shaped _ held field rfl,
      fun shaped member held field same => shaped field member.2 (by rwa [same])⟩
  rw [checked_iff]
  refine and_congr_right fun shaped => forall₂_congr fun field required => ?_
  simp only [Settings.required_eq_ok_iff]
  constructor
  · rintro ⟨text, found⟩
    exact ⟨_, Json.mem_of_find?_eq_some found⟩
  · rintro ⟨value, held⟩
    cases found : Json.find? field.key members with
    | none => exact absurd rfl (Json.find?_eq_none_iff.1 found _ held)
    | some value =>
        have admitted := shaped field value (Json.mem_of_find?_eq_some found)
        rw [required] at admitted
        obtain ⟨text, rfl⟩ := admitted
        exact ⟨text, rfl⟩

end Documents

theorem settingsOf_eq_ok_iff {document : Json} {settings : Settings} :
    settingsOf document = .ok settings ↔
      ∃ members, document = .object members ∧ Settings.ofMembers members = .ok settings := by
  cases document with
  | object members =>
      simp only [Json.object.injEq, exists_eq_left', settingsOf, Settings.ofDocument]
      cases Settings.ofMembers members <;> simp
  | _ => simp [settingsOf, Settings.ofDocument]

/-- **A document is accepted exactly if it is an object that describes settings.** Every other one
is refused as a document, whatever else it holds. -/
theorem accepted_iff_describes (document : Json) :
    ((∃ settings, settingsOf document = .ok settings) ↔
      ∃ members, document = .object members ∧ Describes members) ∧
    ((∃ error, settingsOf document = .error (.document (.notSettings error))) ↔
      ¬ ∃ members, document = .object members ∧ Describes members) := by
  have accepted : (∃ settings, settingsOf document = .ok settings) ↔
      ∃ members, document = .object members ∧ Describes members := by
    simp only [settingsOf_eq_ok_iff, ← exists_settings_iff]
    exact ⟨fun ⟨settings, members, same, read⟩ => ⟨members, same, settings, read⟩,
      fun ⟨members, same, settings, read⟩ => ⟨settings, members, same, read⟩⟩
  refine ⟨accepted, ?_⟩
  rw [← accepted, settingsOf]
  cases Settings.ofDocument document <;> simp

end ControlLink.Config
