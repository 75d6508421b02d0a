/-
# Authenticated encryption with associated data

The interface of an AEAD cipher as a program sees it: `encrypt` under a key, a
nonce and associated data, and `decrypt`, which fails (`none`) when the tag does
not verify.  Four levels of assumption are separate, so that each result takes only
what it needs:

* `LengthPreserving`: the ciphertext is the plaintext plus a tag of fixed size;
* `Correct`: moreover decryption inverts encryption;
* `Lawful`: moreover a ciphertext that verifies is the encryption of what it
  decrypts to (a stream cipher with a recomputed tag);
* `OpensOnly`: the ideal-cipher assumption for one ciphertext and one log of
  encryptions, that it opens only as what was sealed, under the same key and
  associated data.
-/

import KovaWfb.Lib.BigEndian

/-- An AEAD cipher: `encrypt key nonce plaintext aad` and
`decrypt key nonce ciphertext aad`. -/
structure Aead where
  encrypt : List UInt8 → List UInt8 → List UInt8 → List UInt8 → List UInt8
  decrypt : List UInt8 → List UInt8 → List UInt8 → List UInt8 → Option (List UInt8)

/-- One encryption that took place. -/
structure Sealed where
  key : List UInt8
  nonce : List UInt8
  aad : List UInt8
  plaintext : List UInt8
  ciphertext : List UInt8
  deriving DecidableEq

namespace Aead

/-- The record of `A.encrypt key nonce plaintext aad`. -/
def sealing (A : Aead) (key nonce plaintext aad : List UInt8) : Sealed :=
  ⟨key, nonce, aad, plaintext, A.encrypt key nonce plaintext aad⟩

/-- A ciphertext is longer than its plaintext by the tag. -/
structure LengthPreserving (A : Aead) (tag : ℕ) : Prop where
  length_encrypt : ∀ key nonce p aad, (A.encrypt key nonce p aad).length = p.length + tag
  length_of_decrypt : ∀ key nonce c aad p,
    A.decrypt key nonce c aad = some p → c.length = p.length + tag

/-- What was encrypted decrypts; nothing is said about other ciphertexts. -/
structure Correct (A : Aead) (tag : ℕ) : Prop extends A.LengthPreserving tag where
  decrypt_encrypt : ∀ key nonce p aad, A.decrypt key nonce (A.encrypt key nonce p aad) aad = some p

/-- The functional laws of the cipher. -/
structure Lawful (A : Aead) (tag : ℕ) : Prop extends A.Correct tag where
  encrypt_of_decrypt : ∀ key nonce c aad p,
    A.decrypt key nonce c aad = some p → A.encrypt key nonce p aad = c

/-- Under `key`, the ciphertext `c` with nonce `nonce` opens only as something
the log says was sealed. -/
def OpensOnly (A : Aead) (log : List Sealed) (key nonce c : List UInt8) : Prop :=
  ∀ aad p, A.decrypt key nonce c aad = some p → (⟨key, nonce, aad, p, c⟩ : Sealed) ∈ log

/-! ### Ciphers to run a model with -/

/-- Sixteen bytes that depend on every byte of the input. -/
def checksumTag (b : List UInt8) : List UInt8 :=
  BigEndian.toBE 16 (b.foldl (fun acc x => (acc * 257 + x.toNat + 1) % 256 ^ 16) 0)

/-- A lawful cipher that hides nothing: the plaintext followed by a checksum of
key, nonce, associated data and plaintext. -/
def checksum : Aead where
  encrypt key nonce p aad := p ++ checksumTag (key ++ nonce ++ aad ++ p)
  decrypt key nonce c aad :=
    if 16 ≤ c.length ∧
        c.drop (c.length - 16) = checksumTag (key ++ nonce ++ aad ++ c.take (c.length - 16)) then
      some (c.take (c.length - 16))
    else none

theorem length_checksumTag (b : List UInt8) : (checksumTag b).length = 16 :=
  BigEndian.length_toBE _ _

theorem checksum_length_encrypt (key nonce p aad : List UInt8) :
    (checksum.encrypt key nonce p aad).length = p.length + 16 := by
  simp only [checksum, List.length_append, length_checksumTag]

theorem checksum_encrypt_of_decrypt (key nonce c aad p : List UInt8)
    (h : checksum.decrypt key nonce c aad = some p) : checksum.encrypt key nonce p aad = c := by
  simp only [checksum] at h ⊢
  split at h
  · rename_i hc
    obtain rfl := Option.some.inj h
    rw [← hc.2, List.take_append_drop]
  · cases h

theorem checksum_lawful : checksum.Lawful 16 where
  length_encrypt := checksum_length_encrypt
  length_of_decrypt key nonce c aad p h := by
    rw [← checksum_encrypt_of_decrypt key nonce c aad p h, checksum_length_encrypt]
  decrypt_encrypt key nonce p aad := by
    simp only [checksum, List.length_append, length_checksumTag, Nat.add_sub_cancel,
      List.take_left, List.drop_left, Nat.le_add_left, and_self, if_true]
  encrypt_of_decrypt := checksum_encrypt_of_decrypt

/-- The cipher that opens exactly what one table says, whatever it encrypts. -/
def table (log : List Sealed) : Aead where
  encrypt key nonce p aad :=
    match log.find? fun s => s.key = key ∧ s.nonce = nonce ∧ s.aad = aad ∧ s.plaintext = p with
    | some s => s.ciphertext
    | none => p ++ List.replicate 16 0
  decrypt key nonce c aad :=
    (log.find? fun s => s.key = key ∧ s.nonce = nonce ∧ s.aad = aad ∧ s.ciphertext = c).map
      (·.plaintext)

theorem table_opensOnly (log : List Sealed) (key nonce c : List UInt8) :
    (table log).OpensOnly log key nonce c := by
  intro aad p h
  obtain ⟨s, hs, rfl⟩ := Option.map_eq_some_iff.mp h
  have hmem := List.mem_of_find?_eq_some hs
  have hp := List.find?_some hs
  simp only [decide_eq_true_eq] at hp
  obtain ⟨rfl, rfl, rfl, rfl⟩ := hp
  exact hmem

end Aead
