import Dpcp.Bits.Bytes
import Dpcp.GeneralObject

/-!
# The key in the object of an encryption key

`dek::create` copies the blob of the key to the 128 bytes that start at the field `key` of the
object.  How much is copied is told by the caller, and where by `get_key_params`, which each class
of keys decides on its own.  A blob that is accepted lies in the area; a TLS or IPsec key stands at
the end of the first 32 bytes, so that these are the key as a number, and an AES-XTS blob stands at
the start.
-/

namespace Dpcp

open Bits Dcmd Prm

namespace Dek

/-- Where the area of the key starts in the mailbox. -/
def keyArea : Nat :=
  CreateEncryptionKeyIn.encryptionKeyObject + EncryptionKeyObj.key

/-- The length of the area: the field `key`, and the reserved bytes up to `sw_wrapped_dek`. -/
def keyAreaBytes : Nat := 128

/-- The length of the field `key`. -/
def keyBytes : Nat := 32

/-- What is accepted comes to a mailbox. -/
theorem command_eq_ok {kind : DekKind} {attr : DekAttr} {c : Obj.Command}
    (h : command kind attr = .ok c) :
  ∃ keyBlob params, attr.keyBlob = some keyBlob
    ∧ getKeyParams kind attr.keyBlobSize attr.keySize = .ok params
    ∧ c = ⟨mailbox attr keyBlob params, CreateEncryptionKeyIn.bytes, GeneralObjOutCmdHdr.bytes⟩
  := by
  simp only [command] at h
  split at h
  · rename_i keyBlob _ hblob
    cases hparams : getKeyParams kind attr.keyBlobSize attr.keySize with
    | error ret =>
        rw [hparams] at h
        cases h
    | ok params =>
        rw [hparams] at h
        cases h
        exact ⟨keyBlob, params, hblob, rfl, rfl⟩
  · cases h

/-- A TLS or IPsec key ends with the field `key`. -/
theorem offset_add_of_not_aesXts {kind : DekKind} {keyBlobSize keySize : BitVec 32}
    {params : KeyParams} (h : getKeyParams kind keyBlobSize keySize = .ok params)
    (hkind : kind ≠ .aesXts) :
  params.offset.toNat + keyBlobSize.toNat = keyBytes
  := by
  have hsize : ∃ kind, getKeyParamsOfSize kind keyBlobSize keySize = .ok params := by
    cases kind with
    | tls => exact ⟨_, h⟩
    | ipsec => exact ⟨_, h⟩
    | aesXts => cases hkind rfl
  obtain ⟨kind', hsize⟩ := hsize
  simp only [getKeyParamsOfSize] at hsize
  split at hsize
  · cases hsize
  · rename_i hsame
    rw [not_not] at hsame
    subst hsame
    split at hsize
    · rename_i h128
      cases hsize
      rw [h128]
      rfl
    · split at hsize
      · rename_i h256
        cases hsize
        rw [h256]
        rfl
      · cases hsize

/-- An AES-XTS blob starts with the area and fits it. -/
theorem offset_of_aesXts {keyBlobSize keySize : BitVec 32} {params : KeyParams}
    (h : getKeyParams .aesXts keyBlobSize keySize = .ok params) :
  params.offset = 0 ∧ keyBlobSize.toNat ≤ 72
  := by
  obtain ⟨key, hkey, rfl, -, rfl⟩ := getKeyParamsOfBlob_eq_ok.mp h
  refine ⟨rfl, ?_⟩
  simp only [aesXtsKeys, List.mem_cons, List.not_mem_nil, or_false] at hkey
  rcases hkey with rfl | rfl | rfl | rfl <;> decide

/-- Every blob that is accepted fits the area. -/
theorem offset_add_le {kind : DekKind} {keyBlobSize keySize : BitVec 32} {params : KeyParams}
    (h : getKeyParams kind keyBlobSize keySize = .ok params) :
  params.offset.toNat + keyBlobSize.toNat ≤ keyAreaBytes
  := by
  by_cases hkind : kind = .aesXts
  · subst hkind
    obtain ⟨hoffset, hsize⟩ := offset_of_aesXts h
    have hzero : params.offset.toNat = 0 := congrArg BitVec.toNat hoffset
    simp only [keyAreaBytes]
    omega
  · rw [offset_add_of_not_aesXts h hkind]
    decide

/-- After the copy, `create` writes to fields that come before the area. -/
theorem mailbox_agreeOn_keyArea (attr : DekAttr) (keyBlob : Memory) (params : KeyParams) :
  AgreeOn keyArea (keyArea + keyAreaBytes) (mailbox attr keyBlob params)
    (copyBytes zeros (keyArea + params.offset.toNat) (bytes keyBlob 0 attr.keyBlobSize.toNat))
  := by
  simp only [mailbox, bytes, Nat.zero_add]
  apply (devxSet64_agreeOn_outside _ _ (by decide)).trans
  apply (devxSet_agreeOn_outside _ _ (by decide)).trans
  apply (devxSet_agreeOn_outside _ _ (by decide)).trans
  apply (devxSet_agreeOn_outside _ _ (by decide)).trans
  apply (devxSet_agreeOn_outside _ _ (by decide)).trans
  apply (devxSet_agreeOn_outside _ _ (by decide)).trans
  apply devxSet_agreeOn_outside _ _ (by decide)

/-- The bytes of the blob in the area. -/
theorem mailbox_blob {attr : DekAttr} {keyBlob : Memory} {params : KeyParams}
    (hfits : params.offset.toNat + attr.keyBlobSize.toNat ≤ keyAreaBytes) {i : Nat}
    (hi : i < attr.keyBlobSize.toNat) :
  mailbox attr keyBlob params (keyArea + params.offset.toNat + i) = keyBlob i
  := by
  have hlength : i < (bytes keyBlob 0 attr.keyBlobSize.toNat).length := by
    rwa [length_bytes]
  rw [mailbox_agreeOn_keyArea attr keyBlob params _ (by omega) (by omega),
    copyBytes_of_lt _ _ hlength]
  simp [bytes]

/-- The bytes of the area around the blob. -/
theorem mailbox_around {attr : DekAttr} {keyBlob : Memory} {params : KeyParams} {i : Nat}
    (hi : i < keyAreaBytes)
    (hout : i < params.offset.toNat ∨ params.offset.toNat + attr.keyBlobSize.toNat ≤ i) :
  mailbox attr keyBlob params (keyArea + i) = 0
  := by
  rw [mailbox_agreeOn_keyArea attr keyBlob params _ (by omega) (by omega), copyBytes_of_outside]
  · rfl
  · rw [length_bytes]
    omega

/-- For every key that is accepted, the blob lies in the area of the key, which lies in the mailbox,
and the other bytes of the area are zero.  The first 32 bytes of the area are a TLS or IPsec key as
a number, and an AES-XTS blob starts with the first byte. -/
theorem keyArea_of_accepted {kind : DekKind} {attr : DekAttr} {c : Obj.Command}
    (h : command kind attr = .ok c) :
  ∃ keyBlob params, attr.keyBlob = some keyBlob
    ∧ getKeyParams kind attr.keyBlobSize attr.keySize = .ok params
    ∧ params.offset.toNat + attr.keyBlobSize.toNat ≤ keyAreaBytes
    ∧ keyArea + keyAreaBytes ≤ c.inlen
    ∧ (∀ i < attr.keyBlobSize.toNat, c.mailbox (keyArea + params.offset.toNat + i) = keyBlob i)
    ∧ (∀ i < keyAreaBytes,
      i < params.offset.toNat ∨ params.offset.toNat + attr.keyBlobSize.toNat ≤ i →
      c.mailbox (keyArea + i) = 0)
    ∧ (kind ≠ .aesXts →
      bigEndian (bytes c.mailbox keyArea keyBytes)
        = bigEndian (bytes keyBlob 0 attr.keyBlobSize.toNat))
    ∧ (kind = .aesXts → params.offset = 0)
  := by
  obtain ⟨keyBlob, params, hblob, hparams, rfl⟩ := command_eq_ok h
  have hfits := offset_add_le hparams
  have hroom : keyArea + keyAreaBytes ≤ CreateEncryptionKeyIn.bytes := by decide
  have hcopied (i : Nat) (hi : i < attr.keyBlobSize.toNat) :
      mailbox attr keyBlob params (keyArea + params.offset.toNat + i) = keyBlob i :=
    mailbox_blob hfits hi
  have hzero (i : Nat) (hi : i < keyAreaBytes)
      (hout : i < params.offset.toNat ∨ params.offset.toNat + attr.keyBlobSize.toNat ≤ i) :
      mailbox attr keyBlob params (keyArea + i) = 0 :=
    mailbox_around hi hout
  refine ⟨keyBlob, params, hblob, hparams, hfits, hroom, hcopied, hzero, ?_, ?_⟩
  · -- the bytes before the key are zero, and the key fills the rest
    intro hkind
    have hkey : bytes (mailbox attr keyBlob params) (keyArea + params.offset.toNat)
        attr.keyBlobSize.toNat = bytes keyBlob 0 attr.keyBlobSize.toNat := by
      apply bytes_congr
      intro i hi
      rw [hcopied i hi, Nat.zero_add]
    have hfront : bytes (mailbox attr keyBlob params) keyArea params.offset.toNat
        = List.replicate params.offset.toNat 0 := by
      apply bytes_eq_replicate
      intro i hi
      apply hzero i (by omega) (.inl hi)
    rw [← offset_add_of_not_aesXts hparams hkind, bytes_add, hfront, hkey]
    apply bigEndian_replicate_append
  · rintro rfl
    apply (offset_of_aesXts hparams).1

/-- The blob with the bytes `1`, `2` and so on. -/
def countingBlob : Memory := fun i => BitVec.ofNat 8 (i + 1)

/-- A TLS key of 128 bits. -/
def tlsAttr : DekAttr :=
  ⟨some countingBlob, 16, 16, 1, 0⟩

theorem keyArea_tls128 :
  ∃ c, command .tls tlsAttr = .ok c
    ∧ bigEndian (bytes c.mailbox keyArea keyBytes) = 0x0102030405060708090a0b0c0d0e0f10
  := by
  obtain ⟨c, hc⟩ : ∃ c, command .tls tlsAttr = .ok c := ⟨_, rfl⟩
  obtain ⟨keyBlob, params, hblob, -, -, -, -, -, hnumber, -⟩ := keyArea_of_accepted hc
  cases hblob
  refine ⟨c, hc, ?_⟩
  rw [hnumber (by decide)]
  decide

end Dek

end Dpcp
