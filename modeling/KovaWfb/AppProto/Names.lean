/-
# Registries of `app_proto`: message types, security domains, addresses, traffic

`python/src/wfb_rs_py/app_proto.py`, lines 8 to 105 (the constants and the four
registries) and 252 to 371 (the range checks and the conversions between names
and numbers).

The four registries are tables of names and byte values, and the four pairs of
conversions are one definition applied to them: `namedValue` accepts a registered
name or a numeral and checks the range, `valueName` prints the registered name or
the byte in hex.
-/

import KovaWfb.Python.Struct
import KovaWfb.Python.Text

namespace KovaWfb

/-! ### Constants -/

abbrev version : ℤ := 1
abbrev headerSize : ℕ := 10
abbrev maxU8 : ℤ := 0xff
abbrev maxU16 : ℤ := 0xffff
abbrev maxU32 : ℤ := 0xffffffff
abbrev maxU64 : ℤ := 0xffffffffffffffff
abbrev chacha20Poly1305KeySize : ℕ := 32
abbrev chacha20Poly1305NonceSize : ℕ := 12
abbrev chacha20Poly1305TagSize : ℕ := 16

abbrev msgHello : ℤ := 0x01
abbrev msgText : ℤ := 0x02
abbrev msgData : ℤ := 0x03
abbrev msgStatus : ℤ := 0x04
abbrev msgSync : ℤ := 0x05
abbrev msgRouteData : ℤ := 0x21
abbrev msgRouteV2 : ℤ := 0x22

abbrev routeDataPayloadSize : ℕ := 10
abbrev routeV2Version : ℤ := 1
abbrev routeV2PayloadSize : ℕ := 14
abbrev syncPayloadSize : ℕ := 18
abbrev statusVersion : ℤ := 1
abbrev statusPayloadSize : ℕ := 8
abbrev statusBatteryUnknown : ℤ := 0xff
abbrev secureVersion : ℤ := 1
abbrev securePayloadSize : ℕ := 20

abbrev secDomainMeshGroup : ℤ := 0x01
abbrev secDomainNodeToNodePairwise : ℤ := 0x02
abbrev secDomainNodeToC2 : ℤ := 0x03
abbrev secDomainC2ToNode : ℤ := 0x04
abbrev secDomainC2Broadcast : ℤ := 0x05
abbrev secDomainRekeyControl : ℤ := 0x06

abbrev addrBroadcast : ℤ := 0x00
abbrev addrNode : ℤ := 0x01
abbrev addrC2 : ℤ := 0x02

abbrev trafficMesh : ℤ := 0x01
abbrev trafficC2Uplink : ℤ := 0x02
abbrev trafficC2Downlink : ℤ := 0x03
abbrev trafficC2Broadcast : ℤ := 0x04
abbrev trafficRekeyControl : ℤ := 0x05

/-! ### Registries -/

/-- A registry: names and their byte values. -/
abbrev Registry := List (String × ℤ)

/-- The byte value is registered: `value in NAMES`. -/
def Registry.Has (table : Registry) (value : ℤ) : Prop := value ∈ table.map Prod.snd

instance (table : Registry) (value : ℤ) : Decidable (table.Has value) :=
  inferInstanceAs (Decidable (_ ∈ _))

def messageTypes : Registry :=
  [("hello", msgHello), ("text", msgText), ("data", msgData), ("status", msgStatus),
   ("sync", msgSync), ("route_data", msgRouteData), ("route_v2", msgRouteV2)]

def securityDomains : Registry :=
  [("mesh_group", secDomainMeshGroup), ("node_to_node_pairwise", secDomainNodeToNodePairwise),
   ("node_to_c2", secDomainNodeToC2), ("c2_to_node", secDomainC2ToNode),
   ("c2_broadcast", secDomainC2Broadcast), ("rekey_control", secDomainRekeyControl)]

def addressTypes : Registry :=
  [("broadcast", addrBroadcast), ("node", addrNode), ("c2", addrC2)]

def trafficClasses : Registry :=
  [("mesh", trafficMesh), ("c2_uplink", trafficC2Uplink), ("c2_downlink", trafficC2Downlink),
   ("c2_broadcast", trafficC2Broadcast), ("rekey_control", trafficRekeyControl)]

/-! ### Range checks -/

/-- `_require_u8` and its siblings: `0 <= value <= bound` or `AppFrameError`. -/
def requireFits (width : String) (bound : ℤ) (name : String) (value : ℤ) : Py Unit :=
  raiseIf (¬ (0 ≤ value ∧ value ≤ bound))
    (.appFrameError s!"{name} must fit in {width}: {value}")

def requireU8 : String → ℤ → Py Unit := requireFits "u8" maxU8
def requireU16 : String → ℤ → Py Unit := requireFits "u16" maxU16
def requireU32 : String → ℤ → Py Unit := requireFits "u32" maxU32
def requireU64 : String → ℤ → Py Unit := requireFits "u64" maxU64

theorem requireFits_eq_ok {width name : String} {bound v : ℤ} {u : Unit} :
    requireFits width bound name v = .ok u ↔ 0 ≤ v ∧ v ≤ bound := by
  rw [requireFits, raiseIf_eq_ok, not_not]

theorem fitsWidth_one_iff {v : ℤ} : FitsWidth 1 v ↔ 0 ≤ v ∧ v ≤ maxU8 := by
  rw [FitsWidth, maxU8]
  omega

theorem fitsWidth_two_iff {v : ℤ} : FitsWidth 2 v ↔ 0 ≤ v ∧ v ≤ maxU16 := by
  rw [FitsWidth, maxU16]
  omega

theorem fitsWidth_four_iff {v : ℤ} : FitsWidth 4 v ↔ 0 ≤ v ∧ v ≤ maxU32 := by
  rw [FitsWidth, maxU32]
  omega

@[simp] theorem requireU8_eq_ok {name : String} {v : ℤ} {u : Unit} :
    requireU8 name v = .ok u ↔ FitsWidth 1 v := by
  rw [requireU8, requireFits_eq_ok, fitsWidth_one_iff]

@[simp] theorem requireU16_eq_ok {name : String} {v : ℤ} {u : Unit} :
    requireU16 name v = .ok u ↔ FitsWidth 2 v := by
  rw [requireU16, requireFits_eq_ok, fitsWidth_two_iff]

@[simp] theorem requireU32_eq_ok {name : String} {v : ℤ} {u : Unit} :
    requireU32 name v = .ok u ↔ FitsWidth 4 v := by
  rw [requireU32, requireFits_eq_ok, fitsWidth_four_iff]

@[simp] theorem requireU64_eq_ok {name : String} {v : ℤ} {u : Unit} :
    requireU64 name v = .ok u ↔ FitsWidth 8 v := by
  rw [requireU64, requireFits_eq_ok, FitsWidth, maxU64]
  omega

theorem requireFits_onlyAppFrameError (width name : String) (bound v : ℤ) :
    Py.OnlyAppFrameError (requireFits width bound name v) :=
  Py.onlyAppFrameError_raiseIf _ _

/-! ### Names and values -/

/-- A `str | int` argument. -/
inductive NameOrInt
  | name (text : String)
  | int (value : ℤ)
  deriving DecidableEq, Repr

/-- `", ".join(sorted(table))`. -/
def Registry.validNames (table : Registry) : String :=
  ", ".intercalate ((table.map Prod.fst).mergeSort fun a b => !decide (b < a))

/-- `message_type_value` and its siblings: an integer is checked, a text is a
registered name or else a numeral. -/
def namedValue (table : Registry) (field label : String) : NameOrInt → Py ℤ
  | .int value => do
      requireU8 field value
      pure value
  | .name value =>
      let text := lower (strip value)
      match table.lookup text with
      | some v => pure v
      | none =>
          match intBase0 text with
          | none => .error (.appFrameError
              ("unknown " ++ label ++ " '" ++ value ++ "' (valid: " ++ table.validNames ++ ")"))
          | some parsed => do
              requireU8 field parsed
              pure parsed

/-- `message_type_name` and its siblings: the registered name with that value,
else the byte in hex. -/
def valueName (table : Registry) (value : ℤ) : String :=
  match table.find? fun entry => entry.2 == value with
  | some entry => entry.1
  | none => hexByteText value

def messageTypeValue : NameOrInt → Py ℤ := namedValue messageTypes "message_type" "message type"
def messageTypeName : ℤ → String := valueName messageTypes

def securityDomainValue : NameOrInt → Py ℤ :=
  namedValue securityDomains "security_domain" "security domain"
def securityDomainName : ℤ → String := valueName securityDomains

def addressTypeValue : NameOrInt → Py ℤ := namedValue addressTypes "address_type" "address type"
def addressTypeName : ℤ → String := valueName addressTypes

def trafficClassValue : NameOrInt → Py ℤ :=
  namedValue trafficClasses "traffic_class" "traffic class"
def trafficClassName : ℤ → String := valueName trafficClasses

/-- Every registered value is a byte. -/
def Registry.Bytewise (table : Registry) : Prop := ∀ entry ∈ table, FitsWidth 1 entry.2

instance (table : Registry) : Decidable table.Bytewise :=
  inferInstanceAs (Decidable (∀ _ ∈ _, _))

theorem messageTypes_bytewise : messageTypes.Bytewise := by decide
theorem securityDomains_bytewise : securityDomains.Bytewise := by decide
theorem trafficClasses_bytewise : trafficClasses.Bytewise := by decide

/-- A registered value is a byte. -/
theorem Registry.Has.fits {table : Registry} (htable : table.Bytewise) {v : ℤ} (h : table.Has v) :
    FitsWidth 1 v := by
  obtain ⟨entry, hentry, rfl⟩ := List.mem_map.mp h
  exact htable entry hentry

/-- An integer argument is its own value, when it is a byte. -/
theorem namedValue_int_eq_ok {table : Registry} {field label : String} {v t : ℤ} :
    namedValue table field label (.int v) = .ok t ↔ FitsWidth 1 v ∧ v = t := by
  simp only [namedValue, Py.bind_eq_ok, requireU8_eq_ok, Py.pure_eq_ok, exists_and_left,
    exists_const]

theorem namedValue_int {table : Registry} {field label : String} {v : ℤ} (h : FitsWidth 1 v) :
    namedValue table field label (.int v) = .ok v := namedValue_int_eq_ok.mpr ⟨h, rfl⟩

/-- Every value a conversion returns is a byte. -/
theorem namedValue_fits {table : Registry} (htable : table.Bytewise) {field label : String}
    {arg : NameOrInt} {t : ℤ} (h : namedValue table field label arg = .ok t) : FitsWidth 1 t := by
  cases arg with
  | int v =>
    obtain ⟨hv, rfl⟩ := namedValue_int_eq_ok.mp h
    exact hv
  | name text =>
    simp only [namedValue] at h
    split at h
    · rename_i v hlookup
      obtain rfl := Py.pure_eq_ok.mp h
      obtain ⟨l₁, l₂, rfl, -⟩ := List.lookup_eq_some_iff.mp hlookup
      exact htable _ (List.mem_append_right _ (List.mem_cons_self ..))
    · split at h
      · cases h
      · simp only [Py.bind_eq_ok, requireU8_eq_ok, Py.pure_eq_ok] at h
        obtain ⟨_, hv, rfl⟩ := h
        exact hv

/-- Conversions raise nothing but `AppFrameError`. -/
theorem namedValue_onlyAppFrameError (table : Registry) (field label : String) (arg : NameOrInt) :
    Py.OnlyAppFrameError (namedValue table field label arg) := by
  cases arg with
  | int v =>
    exact (requireFits_onlyAppFrameError _ _ _ _).bind fun _ _ => Py.onlyAppFrameError_ok _
  | name text =>
    simp only [namedValue]
    split
    · exact Py.onlyAppFrameError_ok _
    · split
      · exact fun e he => ⟨_, (Except.error.inj he).symm⟩
      · exact (requireFits_onlyAppFrameError _ _ _ _).bind fun _ _ => Py.onlyAppFrameError_ok _

/-- **A registered value survives its name:** the value of the name of `v` is
`v`, in each of the four registries. -/
theorem namedValue_valueName {v : ℤ} :
    (messageTypes.Has v → messageTypeValue (.name (messageTypeName v)) = .ok v) ∧
      (securityDomains.Has v → securityDomainValue (.name (securityDomainName v)) = .ok v) ∧
      (addressTypes.Has v → addressTypeValue (.name (addressTypeName v)) = .ok v) ∧
      (trafficClasses.Has v → trafficClassValue (.name (trafficClassName v)) = .ok v) := by
  have hm : ∀ t ∈ messageTypes.map Prod.snd, messageTypeValue (.name (messageTypeName t)) = .ok t := by
    decide
  have hs : ∀ t ∈ securityDomains.map Prod.snd,
      securityDomainValue (.name (securityDomainName t)) = .ok t := by decide
  have ha : ∀ t ∈ addressTypes.map Prod.snd,
      addressTypeValue (.name (addressTypeName t)) = .ok t := by decide
  have ht : ∀ t ∈ trafficClasses.map Prod.snd,
      trafficClassValue (.name (trafficClassName t)) = .ok t := by decide
  exact ⟨hm v, hs v, ha v, ht v⟩

end KovaWfb
