import Dpcp.Machine.Run
import Dpcp.Mkey.PatternMailbox
import Dpcp.Provider.Devices

/-!
# The keys of mkeys

The key of an mkey of the device is made of the index that the device gives it, in the upper 24
bits, and of a variant in the lower 8 that the library chooses, "to reduce a chance were a wrong key
is used due to mkey index reuse".  The variant is the number that `create` gets from `g_mkey_cnt`,
modulo 255, and `get_instance` sets this counter to zero whenever it succeeds.

The calls of `get_instance` and the creations of mkeys are the steps of a machine.  Two mkeys with
the same index, one of them destroyed before the other was made, have the same key if the numbers of
creations since the last `get_instance` before each of them are congruent.
-/

namespace Dpcp

open Bits Dcmd Prm Machine

/-- What concerns the keys: a call of `get_instance`, and the creation of an mkey. -/
inductive MkeyCall where
  | getInstance (c : Provider.InstanceCall)
  | crypto (k : CryptoMkey) (pd : BitVec 32) (device : Device)
  | pattern (k : PatternMkey) (pd : BitVec 32) (pageSize : BitVec 64) (alloc : Bool)
      (device : Device)

/-- An mkey that was made: its index, the key that the object has, and the key that the device knows
it by. -/
structure MadeKey where
  index : BitVec 32
  key : BitVec 32
  hwKey : BitVec 32

namespace MkeyCall

/-- A creation comes to the loop that takes a number from the counter. -/
def takes : MkeyCall → Bool
  | getInstance _ => false
  | crypto k pd _ => pd ≠ 0 ∧ k.mMaxSge.toNat % 4 = 0
  | pattern _ _ _ alloc _ => alloc

/-- The key of the device for an mkey that was made by the command `c`: the variant is the one of
the mailbox. -/
def hwKey (index : BitVec 32) (c : Obj.Command) : BitVec 32 :=
  (index <<< 8) ||| devxGet c.mailbox CreateMkeyIn.memoryKeyMkeyEntry Mkc.mkey70

/-- The mkey that a creation makes, if it succeeds; `mkeyCnt` is what the counter gives. -/
def made (c : MkeyCall) (mkeyCnt : Int) : Option MadeKey :=
  match c with
  | getInstance _ => none
  | crypto k pd device =>
      match k.createMkey pd mkeyCnt device with
      | (.ok, k') =>
          (k.command pd mkeyCnt).map fun c => ⟨k'.base.mId, k'.mIdx, hwKey k'.base.mId c⟩
      | _ => none
  | pattern k pd pageSize alloc device =>
      match k.create pd mkeyCnt pageSize alloc device with
      | (.ok, k') =>
          (k.command pd mkeyCnt pageSize alloc).map fun c =>
            ⟨k'.base.mId, k'.mIdx, hwKey k'.base.mId c⟩
      | _ => none

end MkeyCall

theorem Obj.out_of_create {o o' : Obj} {device : Device} {m out out' : Memory} {inlen outlen : Nat}
    (h : o.create device (some m) inlen out outlen = (.ok, o', out')) :
  o'.mId = devxGet out' 0 CreateMkeyOut.mkeyIndex
  := by
  simp only [create] at h
  split at h
  · cases h
  · split at h
    · cases h
    · split at h
      · cases h
      · cases h
        rfl

namespace MkeyCall

/-- The variant, as it is in a key. -/
def variant (mkeyCnt : Int) : BitVec 32 :=
  BitVec.ofInt 32 (mkeyCnt.tmod 0xFF)

/-- The key is made of the index and the variant, and so is the key of the device, with the variant
cut to eight bits. -/
structure Made (mkeyCnt : Int) (r : MadeKey) : Prop where
  index : r.index.toNat < 2 ^ 24
  key : r.key = (r.index <<< 8) ||| variant mkeyCnt
  hwKey : ∃ v, r.hwKey = (r.index <<< 8) ||| v ∧ v.toNat = (variant mkeyCnt).toNat % 2 ^ 8

/-- A command that succeeds makes an mkey with the index that the device replies, and with the
variant that is in the mailbox. -/
theorem made_of_create {o o' : Obj} {device : Device} {c : Obj.Command} {out out' : Memory}
    {mkeyCnt : Int}
    (hcreate : o.create device (some c.mailbox) c.inlen out c.outlen = (.ok, o', out'))
    (hmkey70 : (devxGet c.mailbox CreateMkeyIn.memoryKeyMkeyEntry Mkc.mkey70).toNat
      = (variant mkeyCnt).toNat % 2 ^ 8) :
  Made mkeyCnt ⟨o'.mId, (devxGet out' 0 CreateMkeyOut.mkeyIndex <<< 8) ||| variant mkeyCnt,
    hwKey o'.mId c⟩
  := by
  refine ⟨o'.idFits, ?_, _, rfl, hmkey70⟩
  rw [Obj.out_of_create hcreate]

theorem made_crypto {k : CryptoMkey} {pd : BitVec 32} {device : Device} {mkeyCnt : Int}
    {r : MadeKey} (h : (crypto k pd device).made mkeyCnt = some r) :
  Made mkeyCnt r
  := by
  have hmkey70 : (devxGet (CryptoMkey.mailbox pd k.mMaxSge mkeyCnt) CreateMkeyIn.memoryKeyMkeyEntry
      Mkc.mkey70).toNat = (variant mkeyCnt).toNat % 2 ^ 8 := by
    rw [CryptoMkey.mailbox, devxGet_devxSet_of_apart _ _ (by decide), toNat_devxGet_devxSet]
    rfl
  simp only [made, CryptoMkey.createMkey, CryptoMkey.create, CryptoMkey.command] at h
  by_cases hpd : pd = 0
  · simp [hpd] at h
  · by_cases hsge : k.mMaxSge.toNat % 4 = 0
    · simp only [hpd, hsge, ne_eq, not_true_eq_false, if_false] at h
      generalize hcreate : k.base.create device
        (some (CryptoMkey.mailbox pd k.mMaxSge mkeyCnt)) CreateMkeyIn.bytes zeros
        CreateMkeyOut.bytes = result at h
      obtain ⟨ret, o', out⟩ := result
      cases ret with
      | ok =>
          cases h
          apply made_of_create (c := ⟨_, CreateMkeyIn.bytes, CreateMkeyOut.bytes⟩) hcreate hmkey70
      | _ => cases h
    · simp [hsge] at h

theorem made_pattern {k : PatternMkey} {pd : BitVec 32} {pageSize : BitVec 64} {alloc : Bool}
    {device : Device} {mkeyCnt : Int} {r : MadeKey}
    (h : (pattern k pd pageSize alloc device).made mkeyCnt = some r) :
  Made mkeyCnt r
  := by
  simp only [made, PatternMkey.create, PatternMkey.command] at h
  by_cases halloc : alloc = true
  · by_cases hpd : pd = 0
    · simp [halloc, hpd] at h
    · simp only [halloc, hpd, Bool.not_true, Bool.false_eq_true, if_false] at h
      generalize hmailbox : k.mailbox pd mkeyCnt pageSize = mailbox at h
      obtain ⟨ret, m⟩ := mailbox
      cases ret with
      | ok =>
          obtain ⟨es, -, hbits⟩ := PatternMkey.mailbox_eq_ok hmailbox
          have hmkey70 : (devxGet m CreateMkeyIn.memoryKeyMkeyEntry Mkc.mkey70).toNat
              = (variant mkeyCnt).toNat % 2 ^ 8 := by
            apply PatternMkey.devxGet_header hbits
            simp [PatternMkey.headerWrites, variant]
          simp only at h
          generalize hcreate : k.base.create device (some m) k.inLen zeros CreateMkeyOut.bytes
            = result at h
          obtain ⟨ret, o', out⟩ := result
          cases ret with
          | ok =>
              cases h
              apply made_of_create (c := ⟨m, k.inLen, CreateMkeyOut.bytes⟩) hcreate hmkey70
          | _ => cases h
      | _ => cases h
  · simp [halloc] at h

theorem made_spec {c : MkeyCall} {mkeyCnt : Int} {r : MadeKey} (h : c.made mkeyCnt = some r) :
  Made mkeyCnt r
  := by
  cases c with
  | getInstance c => cases h
  | crypto k pd device => apply made_crypto h
  | pattern k pd pageSize alloc device => apply made_pattern h

end MkeyCall

/-- The provider and the counter, and how many numbers were taken from it since it was last set to
zero. -/
structure KeySpace where
  provider : Provider
  gMkeyCnt : BitVec 32
  sinceInit : Nat

namespace KeySpace

def new : KeySpace :=
  ⟨.new, 0, 0⟩

/-- The number that the next creation takes, if no other thread takes one at the same time. -/
def mkeyCnt (s : KeySpace) : Int :=
  s.gMkeyCnt.toInt

/-- A creation takes a number if it comes to that. -/
def create (s : KeySpace) (c : MkeyCall) : KeySpace :=
  if c.takes then { s with gMkeyCnt := s.gMkeyCnt + 1, sinceInit := s.sinceInit + 1 } else s

def step (s : KeySpace) : MkeyCall → KeySpace
  | .getInstance c =>
      match s.provider.getInstance c.version c.env with
      | (.ok, provider) => ⟨provider, 0, 0⟩
      | (_, provider) => { s with provider }
  | .crypto k pd device => s.create (.crypto k pd device)
  | .pattern k pd pageSize alloc device => s.create (.pattern k pd pageSize alloc device)

/-- The counter is the number of the creations since it was last set to zero, as an `int`. -/
def Counts (s : KeySpace) : Prop :=
  s.gMkeyCnt = BitVec.ofNat 32 s.sinceInit

theorem Counts.create {s : KeySpace} (h : s.Counts) (c : MkeyCall) :
  (s.create c).Counts
  := by
  rw [KeySpace.create]
  split
  · rw [Counts, BitVec.ofNat_add, ← h]
    rfl
  · apply h

theorem Counts.step {s : KeySpace} (h : s.Counts) (c : MkeyCall) :
  (s.step c).Counts
  := by
  cases c with
  | getInstance c =>
      rw [KeySpace.step]
      split
      · rfl
      · apply h
  | crypto k pd device => apply h.create
  | pattern k pd pageSize alloc device => apply h.create

/-- The counter has the number of the creations since it was last set to zero. -/
theorem mkeyCnt_run {l : List MkeyCall} (h : (run step new l).sinceInit < 2 ^ 31) :
  (run step new l).mkeyCnt = (run step new l).sinceInit
  := by
  have hnew : new.Counts := rfl
  have hcnt : (run step new l).Counts :=
    inv_run (I := Counts) (fun _ c hs => Counts.step hs c) hnew l
  rw [mkeyCnt, hcnt, BitVec.toInt_eq_toNat_of_lt]
  · rw [BitVec.toNat_ofNat, Nat.mod_eq_of_lt (by omega)]
  · rw [BitVec.toNat_ofNat, Nat.mod_eq_of_lt (by omega)]
    omega

theorem toNat_variant (n : Nat) :
  (MkeyCall.variant n).toNat = n % 255
  := by
  have htmod : (n : Int).tmod 0xFF = (n % 255 : Nat) := rfl
  rw [MkeyCall.variant, htmod, BitVec.ofInt_natCast, BitVec.toNat_ofNat,
    Nat.mod_eq_of_lt (by omega)]

/-- The key as a number. -/
theorem toNat_key {index v : BitVec 32} (hindex : index.toNat < 2 ^ 24) (hv : v.toNat < 2 ^ 8) :
  ((index <<< 8) ||| v).toNat = index.toNat * 256 + v.toNat
  := by
  have hshift : (index <<< 8).toNat = 2 ^ 8 * index.toNat := by
    rw [BitVec.toNat_shiftLeft, Nat.shiftLeft_eq]
    omega
  rw [BitVec.toNat_or, hshift, ← Nat.two_pow_add_eq_or_of_lt hv]
  omega

/-- The key for a number that is not negative. -/
theorem made_natCast {n : Nat} {r : MadeKey} (h : MkeyCall.Made n r) :
  r.hwKey = r.key ∧ r.key.toNat = r.index.toNat * 256 + n % 255
  := by
  obtain ⟨v, hhwKey, hv⟩ := h.hwKey
  have hvariant : (MkeyCall.variant n).toNat < 2 ^ 8 := by
    rw [toNat_variant]
    omega
  rw [Nat.mod_eq_of_lt hvariant] at hv
  constructor
  · rw [hhwKey, h.key, BitVec.toNat_inj.mp hv]
  · rw [h.key, toNat_key h.index hvariant, toNat_variant]

/-- Two mkeys that are made in any runs of creations and of calls of `get_instance`, with less than
`2 ^ 31` creations since the last call that succeeded: each has the key that the device knows it by,
and the keys are the same just if the device gave both the same index and the numbers of creations
are congruent modulo 255. -/
theorem mkey_keys_same_iff {l l' : List MkeyCall} {c c' : MkeyCall} {r r' : MadeKey}
    (hr : c.made (run step new l).mkeyCnt = some r)
    (hr' : c'.made (run step new l').mkeyCnt = some r')
    (hcnt : (run step new l).sinceInit < 2 ^ 31) (hcnt' : (run step new l').sinceInit < 2 ^ 31) :
  r.hwKey = r.key ∧ r'.hwKey = r'.key
    ∧ (r.key = r'.key ↔ r.index = r'.index
      ∧ (run step new l).sinceInit % 255 = (run step new l').sinceInit % 255)
  := by
  rw [mkeyCnt_run hcnt] at hr
  rw [mkeyCnt_run hcnt'] at hr'
  obtain ⟨hhwKey, hkey⟩ := made_natCast (MkeyCall.made_spec hr)
  obtain ⟨hhwKey', hkey'⟩ := made_natCast (MkeyCall.made_spec hr')
  refine ⟨hhwKey, hhwKey', ?_⟩
  rw [← BitVec.toNat_inj, ← BitVec.toNat_inj, hkey, hkey']
  omega

/-- A call of `get_instance` with the version of the library, on a system without devices. -/
def again : MkeyCall :=
  .getInstance ⟨some Provider.dpcpVersion, ⟨some [], true⟩⟩

/-- The creation of a crypto mkey, for which the device replies the index 5. -/
def five : MkeyCall :=
  .crypto (.new true 4) 1 fun _ _ => ⟨true, devxSet zeros 0 CreateMkeyOut.mkeyIndex 5⟩

/-- An mkey is made, and after another call of `get_instance` the next one has the same key. -/
theorem mkey_keys_again :
  ∃ r r', five.made (run step new []).mkeyCnt = some r
    ∧ five.made (run step new [five, again]).mkeyCnt = some r'
    ∧ r.hwKey = r.key ∧ r'.hwKey = r'.key ∧ r.key = r'.key
  := by
  obtain ⟨r, hr⟩ : ∃ r, five.made (run step new []).mkeyCnt = some r := ⟨_, rfl⟩
  have hcnt : (run step new [five, again]).mkeyCnt = (run step new []).mkeyCnt := by decide
  have hr' : five.made (run step new [five, again]).mkeyCnt = some r := by rw [hcnt, hr]
  obtain ⟨hhwKey, hhwKey', hsame⟩ := mkey_keys_same_iff hr hr' (by decide) (by decide)
  exact ⟨r, r, hr, hr', hhwKey, hhwKey', hsame.mpr ⟨rfl, by decide⟩⟩

end KeySpace

end Dpcp
