/-
# `struct.Struct` with network byte order

A format string such as `"!BBBBIH"` is the list of its field widths.  `pack`
writes the fields and raises `struct.error` for a value outside its width;
`unpack` reads the field of a given width at a given offset.  `packBytes_fieldsAt`
and `fieldsAt_packBytes` are the two directions of the round trip for every
format at once.
-/

import KovaWfb.Lib.BigEndian
import KovaWfb.Python.Basics

namespace KovaWfb

open BigEndian

/-- The value fits an unsigned field of `w` bytes. -/
def FitsWidth (w : ℕ) (v : ℤ) : Prop := 0 ≤ v ∧ v < 256 ^ w

instance (w : ℕ) (v : ℤ) : Decidable (FitsWidth w v) :=
  inferInstanceAs (Decidable (_ ∧ _))

/-- The bytes of a list of (width, value) fields. -/
def packBytes : List (ℕ × ℤ) → Bytes
  | [] => []
  | (w, v) :: fields => toBE w v.toNat ++ packBytes fields

/-- `Struct.pack`. -/
def pack (fields : List (ℕ × ℤ)) : Py Bytes :=
  if ∀ f ∈ fields, FitsWidth f.1 f.2 then .ok (packBytes fields)
  else .error (.structError "argument out of range")

/-- The field of width `w` at offset `off`, as `Struct.unpack_from` returns it. -/
def unpack (b : Bytes) (off w : ℕ) : ℤ := field b off w

theorem pack_eq_ok {fields : List (ℕ × ℤ)} {b : Bytes} :
    pack fields = .ok b ↔ (∀ f ∈ fields, FitsWidth f.1 f.2) ∧ packBytes fields = b := by
  unfold pack
  split <;> simp_all

theorem pack_of_fits {fields : List (ℕ × ℤ)} (h : ∀ f ∈ fields, FitsWidth f.1 f.2) :
    pack fields = .ok (packBytes fields) := pack_eq_ok.mpr ⟨h, rfl⟩

@[simp] theorem packBytes_nil : packBytes [] = [] := rfl

@[simp] theorem packBytes_cons (w : ℕ) (v : ℤ) (fields : List (ℕ × ℤ)) :
    packBytes ((w, v) :: fields) = toBE w v.toNat ++ packBytes fields := rfl

theorem length_packBytes (fields : List (ℕ × ℤ)) :
    (packBytes fields).length = (fields.map Prod.fst).sum := by
  induction fields with
  | nil => rfl
  | cons f fields ih => simp [packBytes, ih]

theorem unpack_fits (b : Bytes) (off w : ℕ) : FitsWidth w (unpack b off w) := by
  refine ⟨Int.natCast_nonneg _, ?_⟩
  unfold unpack
  exact_mod_cast field_lt b off w

theorem FitsWidth.toNat_lt {w : ℕ} {v : ℤ} (h : FitsWidth w v) : v.toNat < 256 ^ w := by
  rw [Int.toNat_lt h.1]
  exact_mod_cast h.2

/-- The field packed first is unpacked at offset zero. -/
@[simp] theorem unpack_toBE_append {w : ℕ} {v : ℤ} {r : Bytes} (h : FitsWidth w v) :
    unpack (toBE w v.toNat ++ r) 0 w = v := by
  rw [unpack, field_toBE_append, Nat.mod_eq_of_lt h.toNat_lt, Int.toNat_of_nonneg h.1]

/-- A later field is unpacked from the rest. -/
@[simp] theorem unpack_skip_append {k v : ℕ} {r : Bytes} {off w : ℕ} (h : k ≤ off) :
    unpack (toBE k v ++ r) off w = unpack r (off - k) w := by
  rw [unpack, unpack, field_skip_append k v r off w h]

/-- The fields of the widths `ws` from offset `off` on. -/
def fieldsAt (b : Bytes) : ℕ → List ℕ → List (ℕ × ℤ)
  | _, [] => []
  | off, w :: ws => (w, unpack b off w) :: fieldsAt b (off + w) ws

/-- Packing what was unpacked gives the bytes back. -/
theorem packBytes_fieldsAt (b : Bytes) (off : ℕ) (ws : List ℕ) (h : off + ws.sum ≤ b.length) :
    packBytes (fieldsAt b off ws) ++ b.drop (off + ws.sum) = b.drop off := by
  induction ws generalizing off with
  | nil => simp [fieldsAt]
  | cons w ws ih =>
    rw [List.sum_cons] at h ⊢
    have hrest := ih (off + w) (by omega)
    rw [fieldsAt, packBytes_cons, List.append_assoc, ← Nat.add_assoc, hrest, unpack, Int.toNat_natCast]
    exact toBE_field_append_drop (by omega)

theorem fieldsAt_skip (k v : ℕ) (r : Bytes) (off : ℕ) (ws : List ℕ) :
    fieldsAt (toBE k v ++ r) (k + off) ws = fieldsAt r off ws := by
  induction ws generalizing off with
  | nil => rfl
  | cons w ws ih =>
    rw [fieldsAt, fieldsAt, Nat.add_assoc, ih, unpack_skip_append (Nat.le_add_right k off),
      Nat.add_sub_cancel_left]

/-- Unpacking what was packed gives the fields back. -/
theorem fieldsAt_packBytes {fields : List (ℕ × ℤ)} (h : ∀ f ∈ fields, FitsWidth f.1 f.2)
    (r : Bytes) : fieldsAt (packBytes fields ++ r) 0 (fields.map Prod.fst) = fields := by
  induction fields with
  | nil => rfl
  | cons f fields ih =>
    obtain ⟨w, v⟩ := f
    have hv : FitsWidth w v := h (w, v) (List.mem_cons_self ..)
    have hrest := fieldsAt_skip w v.toNat (packBytes fields ++ r) 0 (fields.map Prod.fst)
    rw [Nat.add_zero, ih fun f hf => h f (List.mem_cons_of_mem _ hf)] at hrest
    rw [packBytes_cons, List.append_assoc, List.map_cons, fieldsAt, unpack_toBE_append hv,
      Nat.zero_add, hrest]

/-- A byte string is the image of its own fields followed by the rest. -/
theorem packBytes_fieldsAt_append_drop (b : Bytes) (ws : List ℕ) (h : ws.sum ≤ b.length) :
    packBytes (fieldsAt b 0 ws) ++ b.drop ws.sum = b := by
  have hwhole := packBytes_fieldsAt b 0 ws (by omega)
  rwa [Nat.zero_add, List.drop_zero] at hwhole

/-- **Header and payload.** A byte string that is the image of fields followed by
a payload has these fields and this rest. -/
theorem packBytes_append_eq {fields : List (ℕ × ℤ)} {payload b : Bytes}
    (hfit : ∀ f ∈ fields, FitsWidth f.1 f.2) (hb : packBytes fields ++ payload = b) :
    (fields.map Prod.fst).sum ≤ b.length ∧ fieldsAt b 0 (fields.map Prod.fst) = fields ∧
      b.drop (fields.map Prod.fst).sum = payload := by
  subst hb
  refine ⟨?_, fieldsAt_packBytes hfit payload, ?_⟩
  · rw [List.length_append, length_packBytes]
    exact Nat.le_add_right _ _
  · rw [← length_packBytes, List.drop_left]

/-- **Two images of one format agree** on every field and on what follows. -/
theorem packBytes_inj {fields fields' : List (ℕ × ℤ)} {r r' : Bytes}
    (hfit : ∀ f ∈ fields, FitsWidth f.1 f.2) (hfit' : ∀ f ∈ fields', FitsWidth f.1 f.2)
    (hw : fields.map Prod.fst = fields'.map Prod.fst)
    (he : packBytes fields ++ r = packBytes fields' ++ r') : fields = fields' ∧ r = r' := by
  obtain ⟨-, hfields, hrest⟩ := packBytes_append_eq hfit he
  obtain ⟨-, hfields', hrest'⟩ := packBytes_append_eq hfit' rfl
  rw [hw] at hfields hrest
  exact ⟨hfields.symm.trans hfields', hrest.symm.trans hrest'⟩

theorem packBytes_inj_nil {fields fields' : List (ℕ × ℤ)}
    (hfit : ∀ f ∈ fields, FitsWidth f.1 f.2) (hfit' : ∀ f ∈ fields', FitsWidth f.1 f.2)
    (hw : fields.map Prod.fst = fields'.map Prod.fst)
    (he : packBytes fields = packBytes fields') : fields = fields' := by
  have happ : packBytes fields ++ [] = packBytes fields' ++ [] := by rw [he]
  exact (packBytes_inj hfit hfit' hw happ).1

end KovaWfb
