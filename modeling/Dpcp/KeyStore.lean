import Dpcp.KeyArea
import Dpcp.Machine.Keyed
import Dpcp.Machine.Run

/-!
# Encryption keys in the device

The device has a store of keys, each under its id.  `create` adds a key, `modify` replaces what the
mailbox says, and `query` reads the size, the protection domain and the opaque value back.  What a
MODIFY leaves of a key is a matter of the device: it is a parameter, and it is assumed that the
protection domain stays while the size and the opaque value are replaced.  A `dek` remembers the id
of the last key it made, and names it in each command; keys that it made before stay in the store.

What a query reports is compared with the attributes of the last call that the device accepted.
-/

namespace Dpcp

open Bits Dcmd Prm Machine

namespace Dek

/-- A key in the store: its id, and its object. -/
structure StoredKey where
  id : BitVec 32
  obj : Memory

/-- A MODIFY with the mailbox `m` makes the object `modified m old` of the object `old`: the
protection domain of the key stays, and its size and opaque value are those of the mailbox. -/
structure Modifies (modified : Memory → Memory → Memory) : Prop where
  pd : ∀ m old, devxGet (modified m old) 0 EncryptionKeyObj.pd = devxGet old 0 EncryptionKeyObj.pd
  keySize : ∀ m old, devxGet (modified m old) 0 EncryptionKeyObj.keySize
    = devxGet m CreateEncryptionKeyIn.encryptionKeyObject EncryptionKeyObj.keySize
  opaqueData : ∀ m old, devxGet64 (modified m old) 0 EncryptionKeyObj.opaqueData
    = devxGet64 m CreateEncryptionKeyIn.encryptionKeyObject EncryptionKeyObj.opaqueData

/-- A call, with what the device answers; the object in the answer to a QUERY is the one it has. -/
inductive Call where
  | create (attr : DekAttr) (reply : Reply)
  | modify (attr : DekAttr) (answer : Answer)
  | query (answer : Answer)
  | destroy (destroys : Bool)

/-- A key with the store of the device; `made` has the attributes with which the key was made, and
those of the last call that the device accepted, as long as there is a key. -/
structure World where
  dek : Dek
  keys : List StoredKey
  made : Option (DekAttr × DekAttr)

namespace World

def new (ctx : Bool) (kind : DekKind) : World :=
  ⟨.new ctx kind, [], none⟩

/-- The key that a command names in its mailbox. -/
def named (w : World) (m : Memory) : Option StoredKey :=
  Keyed.lookup StoredKey.id (devxGet m 0 GeneralObjInCmdHdr.objId) w.keys

/-- The answers to MODIFY: an error if there is no such key. -/
def modifyAnswers (w : World) (answer : Answer) : Answers :=
  fun m _ => (w.named m).elim ⟨true, zeros⟩ fun _ => answer

/-- The answers to QUERY. -/
def queryAnswers (w : World) (answer : Answer) : Answers :=
  fun m _ => (w.named m).elim ⟨true, zeros⟩ fun k =>
    ⟨answer.err, splice answer.out QueryEncryptionKeyOut.encryptionKeyObject k.obj⟩

/-- The command of `create`, if it comes to be sent. -/
def sends (w : World) (attr : DekAttr) : Option Obj.Command :=
  if w.dek.base.mCtx then (command w.dek.kind attr).toOption else none

/-- A call of `create`. -/
def create (w : World) (attr : DekAttr) (reply : Reply) : World :=
  let dek := (w.dek.create attr fun _ _ => reply).2
  match w.sends attr with
  | none => { w with dek := dek }
  | some c =>
      if reply.handle then
        let obj := slice c.mailbox CreateEncryptionKeyIn.encryptionKeyObject
        { dek := dek
          keys := w.keys ++ [⟨devxGet reply.out 0 GeneralObjOutCmdHdr.objId, obj⟩]
          made := some (attr, attr) }
      else
        { w with dek := dek, made := none }

/-- A call of `modify`; `modified` is what the device makes of an object. -/
def modify (w : World) (modified : Memory → Memory → Memory) (attr : DekAttr) (answer : Answer) :
    World :=
  match w.dek.modifyCommand attr with
  | .error _ => w
  | .ok c =>
      (w.dek.modify attr (w.modifyAnswers answer)).elim w fun r =>
        if r.1 = .ok then
          { dek := r.2
            keys := Keyed.update StoredKey.id (devxGet c.mailbox 0 GeneralObjInCmdHdr.objId)
              (fun k => { k with obj := modified c.mailbox k.obj }) w.keys
            made := w.made.map fun made => (made.1, attr) }
        else
          { w with dek := r.2 }

/-- A call of `query`. -/
def query (w : World) (answer : Answer) : World :=
  (w.dek.query (w.queryAnswers answer)).elim w fun r => { w with dek := r.2.1 }

/-- `obj::destroy`; the device takes the key of the handle out of the store. -/
def destroy (w : World) (destroys : Bool) : World :=
  { dek := { w.dek with base := w.dek.base.destroy.2 }
    keys :=
      if w.dek.base.live && destroys then Keyed.remove StoredKey.id w.dek.mKeyId w.keys
      else w.keys
    made := none }

/-- One call. -/
def step (modified : Memory → Memory → Memory) (w : World) : Call → World
  | .create attr reply => w.create attr reply
  | .modify attr answer => w.modify modified attr answer
  | .query answer => w.query answer
  | .destroy destroys => w.destroy destroys

/-- A device that makes a key says so, and gives it an id that no key in the store has. -/
def Numbered (w : World) : Call → Prop
  | .create _ reply => reply.handle = true →
      devxGet reply.out 0 StatusOut.status = 0
        ∧ ∀ k ∈ w.keys, k.id ≠ devxGet reply.out 0 GeneralObjOutCmdHdr.objId
  | .modify _ _ | .query _ | .destroy _ => True

end World

/-! ### What stands in the store -/

/-- The object of a key that was made with `first` and has `last` since. -/
structure Holds (kind : DekKind) (first last : DekAttr) (obj : Memory) : Prop where
  keySize : ∃ params, getKeyParams kind last.keyBlobSize last.keySize = .ok params
    ∧ devxGet obj 0 EncryptionKeyObj.keySize = params.size.setWidth 32 &&& lowMask 4
  pd : devxGet obj 0 EncryptionKeyObj.pd = first.pdId &&& lowMask 24
  opaqueData : devxGet64 obj 0 EncryptionKeyObj.opaqueData = last.opaqueData

/-- A key that was just made. -/
theorem holds_mailbox {kind : DekKind} {attr : DekAttr} {params : KeyParams}
    (hparams : getKeyParams kind attr.keyBlobSize attr.keySize = .ok params) (keyBlob : Memory) :
  Holds kind attr attr
    (slice (mailbox attr keyBlob params) CreateEncryptionKeyIn.encryptionKeyObject)
  := by
  refine ⟨⟨params, hparams, ?_⟩, ?_, ?_⟩
  · simp only [devxGet_slice, mailbox, Nat.add_zero]
    simp (disch := decide) only [devxGet_devxSet_of_apart, devxGet_devxSet64_of_apart,
      devxGet_devxSet_self]
    rfl
  · simp only [devxGet_slice, mailbox, Nat.add_zero]
    simp (disch := decide) only [devxGet_devxSet64_of_apart, devxGet_devxSet_self]
    rfl
  · simp only [devxGet64_slice, mailbox, Nat.add_zero, devxGet64_devxSet64_self]

/-- A key after a modification. -/
theorem Holds.modified {kind : DekKind} {first last : DekAttr} {obj : Memory}
    (h : Holds kind first last obj) {modified : Memory → Memory → Memory}
    (hmodified : Modifies modified) {attr : DekAttr} {params : KeyParams}
    (hparams : getKeyParams kind attr.keyBlobSize attr.keySize = .ok params) (keyBlob : Memory)
    (keyId : BitVec 32) :
  Holds kind first attr (modified (modifyMailbox attr keyBlob params keyId) obj)
  := by
  refine ⟨⟨params, hparams, ?_⟩, ?_, ?_⟩
  · rw [hmodified.keySize, modifyMailbox]
    simp (disch := decide) only [devxGet_devxSet_of_apart, devxGet_devxSet64_of_apart,
      devxGet_devxSet_self]
    rfl
  · rw [hmodified.pd, h.pd]
  · rw [hmodified.opaqueData, modifyMailbox, devxGet64_devxSet64_self]

/-- A command of `modify` names the key with the id that the object remembers. -/
theorem modifyCommand_eq_ok {d : Dek} {attr : DekAttr} {c : Obj.Command}
    (h : d.modifyCommand attr = .ok c) :
  ∃ keyBlob params, getKeyParams d.kind attr.keyBlobSize attr.keySize = .ok params
    ∧ c.mailbox = modifyMailbox attr keyBlob params d.mKeyId
    ∧ devxGet c.mailbox 0 GeneralObjInCmdHdr.objId = d.mKeyId
  := by
  simp only [modifyCommand] at h
  split at h
  · rename_i keyBlob _ _
    split at h
    · cases h
    · cases hparams : getKeyParams d.kind attr.keyBlobSize attr.keySize with
      | error ret =>
          rw [hparams] at h
          cases h
      | ok params =>
          rw [hparams] at h
          cases h
          refine ⟨keyBlob, params, rfl, rfl, ?_⟩
          simp only [modifyMailbox]
          simp (disch := decide) only [devxGet_devxSet_of_apart, devxGet_devxSet64_of_apart,
            devxGet_devxSet_self]
          apply (and_lowMask_eq_self_iff (by decide) _).mpr d.mKeyId.isLt
  · cases h

namespace World

/-! ### Runs -/

/-- What every call keeps: the ids in the store are different, and the key of the object is in the
store with its attributes. -/
structure Inv (w : World) : Prop where
  ids : (w.keys.map StoredKey.id).Nodup
  made : ∀ first last, w.made = some (first, last) →
    ∃ k ∈ w.keys, k.id = w.dek.mKeyId ∧ Holds w.dek.kind first last k.obj

theorem inv_new (ctx : Bool) (kind : DekKind) :
  (new ctx kind).Inv
  := by
  constructor
  · apply List.nodup_nil
  · intro first last hmade
    cases hmade

/-- A change of the base of the object is none of the store. -/
theorem Inv.of_dek {w : World} (h : w.Inv) {dek : Dek} (hkind : dek.kind = w.dek.kind)
    (hid : dek.mKeyId = w.dek.mKeyId) :
  ({ w with dek := dek } : World).Inv
  := by
  refine ⟨h.ids, ?_⟩
  intro first last hmade
  rw [hkind, hid]
  apply h.made first last hmade

theorem create_kind (d : Dek) (attr : DekAttr) (device : Device) :
  (d.create attr device).2.kind = d.kind
  := by
  simp only [Dek.create]
  split
  · rfl
  · split <;> rfl

/-- A `create` that sends nothing leaves the id. -/
theorem create_keyId_of_not_sent {w : World} {attr : DekAttr} (h : w.sends attr = none)
    (device : Device) :
  (w.dek.create attr device).2.mKeyId = w.dek.mKeyId
  := by
  simp only [Dek.create]
  rw [sends] at h
  split
  · rfl
  · rename_i c hcommand
    have hctx : w.dek.base.mCtx = false := by
      rw [hcommand] at h
      simpa [Except.toOption] using h
    have hfail : (w.dek.base.create device (some c.mailbox) c.inlen zeros c.outlen).1
        = .errNoContext := by
      simp [Obj.create, hctx]
    split
    · rename_i hok
      rw [hfail] at hok
      cases hok
    · rfl

theorem sends_eq_some {w : World} {attr : DekAttr} {c : Obj.Command} (h : w.sends attr = some c) :
  w.dek.base.mCtx = true ∧ command w.dek.kind attr = .ok c
  := by
  rw [sends] at h
  split at h
  · rename_i hctx
    cases hcommand : command w.dek.kind attr with
    | error ret =>
        rw [hcommand] at h
        cases h
    | ok c' =>
        rw [hcommand] at h
        cases h
        exact ⟨hctx, rfl⟩
  · cases h

/-- When the device makes a key, the object remembers its id. -/
theorem create_keyId_of_sent {w : World} {attr : DekAttr} {c : Obj.Command}
    (h : w.sends attr = some c) {reply : Reply} (hhandle : reply.handle = true)
    (hstatus : devxGet reply.out 0 StatusOut.status = 0) :
  (w.dek.create attr fun _ _ => reply).2.mKeyId = devxGet reply.out 0 GeneralObjOutCmdHdr.objId
  := by
  obtain ⟨hctx, hcommand⟩ := sends_eq_some h
  obtain ⟨keyBlob, params, -, -, rfl⟩ := command_eq_ok hcommand
  simp only [Dek.create, hcommand, Obj.create, hctx, hhandle, hstatus, Bool.not_true,
    Bool.false_eq_true, if_false, CreateEncryptionKeyIn.bytes, GeneralObjOutCmdHdr.bytes]
  rfl

theorem Inv.create {w : World} (h : w.Inv) {attr : DekAttr} {reply : Reply}
    (hnumbered : w.Numbered (.create attr reply)) :
  (w.create attr reply).Inv
  := by
  simp only [World.create]
  split
  · rename_i hsends
    apply h.of_dek (create_kind _ _ _) (create_keyId_of_not_sent hsends _)
  · rename_i c hsends
    split
    · rename_i hhandle
      obtain ⟨hstatus, hfresh⟩ := hnumbered hhandle
      constructor
      · rw [List.map_append, List.nodup_append']
        refine ⟨h.ids, List.nodup_singleton _, ?_⟩
        intro id hid hnew
        obtain ⟨k, hk, rfl⟩ := List.mem_map.mp hid
        apply hfresh k hk (List.mem_singleton.mp hnew)
      · intro first last hmade
        cases hmade
        refine ⟨_, List.mem_append_right _ List.mem_cons_self, ?_, ?_⟩
        · rw [create_keyId_of_sent hsends hhandle hstatus]
        · obtain ⟨keyBlob, params, -, hparams, rfl⟩ := command_eq_ok (sends_eq_some hsends).2
          rw [create_kind]
          apply holds_mailbox hparams
    · refine ⟨h.ids, ?_⟩
      intro first last hmade
      cases hmade

/-- What `modify` leaves of the object beside its base. -/
theorem modify_dek {d d' : Dek} {attr : DekAttr} {answers : Answers} {ret : Status}
    (h : d.modify attr answers = some (ret, d')) :
  d'.kind = d.kind ∧ d'.mKeyId = d.mKeyId
  := by
  rw [Dek.modify] at h
  split at h
  · cases h
    exact ⟨rfl, rfl⟩
  · obtain ⟨⟨ret', base, out⟩, -, h⟩ := Option.bind_eq_some_iff.mp h
    cases h
    exact ⟨rfl, rfl⟩

theorem Inv.modify {w : World} (h : w.Inv) {modified : Memory → Memory → Memory}
    (hmodified : Modifies modified) (attr : DekAttr) (answer : Answer) :
  (w.modify modified attr answer).Inv
  := by
  simp only [World.modify]
  split
  · apply h
  · rename_i c hcommand
    obtain ⟨keyBlob, params, hparams, hmailbox, hid⟩ := modifyCommand_eq_ok hcommand
    cases hmodify : w.dek.modify attr (w.modifyAnswers answer) with
    | none => apply h
    | some r =>
        obtain ⟨hkind, hkeyId⟩ := modify_dek hmodify
        rw [Option.elim_some]
        split
        · constructor
          · have hids : (Keyed.update StoredKey.id (devxGet c.mailbox 0 GeneralObjInCmdHdr.objId)
                (fun k => { k with obj := modified c.mailbox k.obj }) w.keys).map StoredKey.id
                = w.keys.map StoredKey.id := by
              apply Keyed.map_update
              intro _
              rfl
            rw [hids]
            apply h.ids
          · intro first last hmade
            obtain ⟨⟨first', last'⟩, hmade', hsame⟩ := Option.map_eq_some_iff.mp hmade
            cases hsame
            obtain ⟨k, hk, hkid, hholds⟩ := h.made _ _ hmade'
            refine ⟨{ k with obj := modified c.mailbox k.obj }, ?_, hkid.trans hkeyId.symm, ?_⟩
            · apply Keyed.mem_update.mpr ⟨k, hk, _⟩
              rw [if_pos (hkid.trans hid.symm)]
            · rw [hmailbox, hkind]
              apply hholds.modified hmodified hparams
        · apply h.of_dek hkind hkeyId

/-- What `query` leaves of the object beside its base. -/
theorem query_dek {d d' : Dek} {answers : Answers} {ret : Status} {attr : DekAttr}
    (h : d.query answers = some (ret, d', attr)) :
  d'.kind = d.kind ∧ d'.mKeyId = d.mKeyId
  := by
  simp only [Dek.query] at h
  split at h
  · cases h
    exact ⟨rfl, rfl⟩
  · obtain ⟨⟨ret', base, out⟩, -, h⟩ := Option.bind_eq_some_iff.mp h
    simp only at h
    split at h
    · cases h
      exact ⟨rfl, rfl⟩
    · cases h
      exact ⟨rfl, rfl⟩

theorem Inv.query {w : World} (h : w.Inv) (answer : Answer) :
  (w.query answer).Inv
  := by
  rw [World.query]
  cases hquery : w.dek.query (w.queryAnswers answer) with
  | none => apply h
  | some r =>
      obtain ⟨hkind, hkeyId⟩ := query_dek hquery
      apply h.of_dek hkind hkeyId

theorem Inv.destroy {w : World} (h : w.Inv) (destroys : Bool) :
  (w.destroy destroys).Inv
  := by
  constructor
  · simp only [World.destroy]
    split
    · apply Keyed.nodup_remove h.ids
    · apply h.ids
  · intro first last hmade
    cases hmade

theorem inv_step {modified : Memory → Memory → Memory} (hmodified : Modifies modified) (w : World)
    (c : Call) (hnumbered : w.Numbered c) (h : w.Inv) :
  (w.step modified c).Inv
  := by
  cases c with
  | create attr reply => apply h.create hnumbered
  | modify attr answer => apply h.modify hmodified
  | query answer => apply h.query
  | destroy destroys => apply h.destroy

end World

/-! ### What a query reports -/

/-- The flag that `dek::get_key_params` finds is the one of the size that was asked for. -/
theorem size_of_getKeyParamsOfSize {kind : DekKind} {keyBlobSize keySize : BitVec 32}
    {params : KeyParams} (h : getKeyParamsOfSize kind keyBlobSize keySize = .ok params) :
  (params.size = keySize128 ∨ params.size = keySize256)
    ∧ keySizeFlagToBytesSize params.size = keySize
  := by
  rw [getKeyParamsOfSize] at h
  split at h
  · cases h
  · split at h
    · rename_i hsize
      cases h
      rw [hsize]
      exact ⟨.inl rfl, rfl⟩
    · split at h
      · rename_i hsize
        cases h
        rw [hsize]
        exact ⟨.inr rfl, rfl⟩
      · cases h

theorem size_of_getKeyParams {kind : DekKind} {keyBlobSize keySize : BitVec 32} {params : KeyParams}
    (h : getKeyParams kind keyBlobSize keySize = .ok params) :
  params.size = keySize128 ∨ params.size = keySize256
  := by
  cases kind with
  | tls => apply (size_of_getKeyParamsOfSize h).1
  | ipsec => apply (size_of_getKeyParamsOfSize h).1
  | aesXts =>
      obtain ⟨key, hkey, -, -, rfl⟩ := aesXts_eq_ok.mp h
      simp only [aesXtsKeys, List.mem_cons, List.not_mem_nil, or_false] at hkey
      rcases hkey with rfl | rfl | rfl | rfl
      · exact .inl rfl
      · exact .inl rfl
      · exact .inr rfl
      · exact .inr rfl

/-- The size that goes with the flag of a key is the one that was asked for, unless that wraps
around. -/
theorem keySizeFlagToBytesSize_iff {kind : DekKind} {keyBlobSize keySize : BitVec 32}
    {params : KeyParams} (h : getKeyParams kind keyBlobSize keySize = .ok params) :
  keySizeFlagToBytesSize params.size = keySize ↔ ¬ (kind = .aesXts ∧ Wraps keyBlobSize keySize)
  := by
  cases kind with
  | tls => exact iff_of_true (size_of_getKeyParamsOfSize h).2 (by simp)
  | ipsec => exact iff_of_true (size_of_getKeyParamsOfSize h).2 (by simp)
  | aesXts =>
      obtain ⟨key, hkey, hblob, hkeySize, rfl⟩ := aesXts_eq_ok.mp h
      simp only [true_and]
      constructor
      · intro hsame hwraps
        rw [← hsame] at hwraps
        simp only [aesXtsKeys, List.mem_cons, List.not_mem_nil, or_false] at hkey
        rcases hwraps with ⟨hwraps, -⟩ | ⟨hwraps, -⟩ <;>
          rcases hkey with rfl | rfl | rfl | rfl <;> cases hwraps
      · intro hwraps
        rcases hkeySize with hkeySize | hkeySize
        · apply hkeySize.symm
        · cases hwraps (wraps_iff.mpr ⟨key, hkey, hblob, hkeySize⟩)

/-- A query that succeeds reports what stands in the store under the id of the object. -/
theorem World.query_eq_ok {w : World} (h : w.Inv) {first last : DekAttr}
    (hmade : w.made = some (first, last)) {answer : Answer} {d : Dek} {attr : DekAttr}
    (hquery : w.dek.query (w.queryAnswers answer) = some (.ok, d, attr)) :
  ∃ params, getKeyParams w.dek.kind last.keyBlobSize last.keySize = .ok params
    ∧ attr.keySize = keySizeFlagToBytesSize params.size
    ∧ attr.pdId = first.pdId &&& lowMask 24 ∧ attr.opaqueData = last.opaqueData
  := by
  obtain ⟨k, hk, hkid, hholds⟩ := h.made first last hmade
  obtain ⟨params, hparams, hkeySize⟩ := hholds.keySize
  have hname : devxGet (queryGeneralObject mlx5GeneralObjectTypesEncryptionKey w.dek.mKeyId) 0
      GeneralObjInCmdHdr.objId = k.id := by
    rw [hkid, queryGeneralObject, devxGet_devxSet_self]
    apply (and_lowMask_eq_self_iff (by decide) _).mpr w.dek.mKeyId.isLt
  simp only [Dek.query] at hquery
  split at hquery
  · cases hquery
  · obtain ⟨⟨ret, base, out⟩, hsent, hquery⟩ := Option.bind_eq_some_iff.mp hquery
    simp only at hquery
    split at hquery
    · cases hquery
      have hnamed : w.named (queryGeneralObject mlx5GeneralObjectTypesEncryptionKey w.dek.mKeyId)
          = some k := by
        rw [named, hname]
        apply Keyed.lookup_of_mem h.ids hk
      have hobj : slice out QueryEncryptionKeyOut.encryptionKeyObject = k.obj := by
        rw [(Obj.command_eq_ok (by decide) hsent).2, queryAnswers, hnamed, Option.elim_some,
          slice_splice]
      have hread (f : Field) :
          devxGet out QueryEncryptionKeyOut.encryptionKeyObject f = devxGet k.obj 0 f := by
        rw [← hobj, devxGet_slice, Nat.add_zero]
      refine ⟨params, hparams, ?_, (hread EncryptionKeyObj.pd).trans hholds.pd, ?_⟩
      · rw [hread EncryptionKeyObj.keySize, hkeySize]
        rcases size_of_getKeyParams hparams with hsize | hsize <;> rw [hsize] <;> rfl
      · rw [← hholds.opaqueData, ← hobj, devxGet64_slice, Nat.add_zero]
    · cases hquery

theorem World.kind_step (modified : Memory → Memory → Memory) (w : World) (c : Call) :
  (w.step modified c).dek.kind = w.dek.kind
  := by
  cases c with
  | create attr reply =>
      simp only [step, create]
      split
      · apply create_kind
      · split <;> apply create_kind
  | modify attr answer =>
      simp only [step, modify]
      split
      · rfl
      · cases hmodify : w.dek.modify attr (w.modifyAnswers answer) with
        | none => rfl
        | some r =>
            rw [Option.elim_some]
            split <;> apply (modify_dek hmodify).1
  | query answer =>
      rw [step, query]
      cases hquery : w.dek.query (w.queryAnswers answer) with
      | none => rfl
      | some r => apply (query_dek hquery).1
  | destroy destroys => rfl

/-- After any calls, a query that succeeds while there is a key reports the opaque value of the last
call that the device accepted; the size of that call, unless it is one that wraps around; and the
protection domain of that call just if it is the one with which the key was made, cut off to 24
bits. -/
theorem key_query_iff {modified : Memory → Memory → Memory} (hmodified : Modifies modified)
    {ctx : Bool} {kind : DekKind} {calls : List Call}
    (hcalls : Along (World.step modified) World.Numbered (.new ctx kind) calls) {w : World}
    (hw : w = run (World.step modified) (.new ctx kind) calls) {first last : DekAttr}
    (hmade : w.made = some (first, last)) {answer : Answer} {d : Dek} {attr : DekAttr}
    (hquery : w.dek.query (w.queryAnswers answer) = some (.ok, d, attr)) :
  attr.opaqueData = last.opaqueData
    ∧ (attr.keySize = last.keySize
      ↔ ¬ (kind = .aesXts ∧ Wraps last.keyBlobSize last.keySize))
    ∧ (attr.pdId = last.pdId ↔ last.pdId.toNat = first.pdId.toNat % 2 ^ 24)
  := by
  have hinv : w.Inv :=
    hw ▸ inv_run_of_along (World.inv_step hmodified) hcalls (World.inv_new ctx kind)
  have hkind : w.dek.kind = kind := by
    rw [hw]
    apply run_eq (f := fun w : World => w.dek.kind) (World.kind_step modified)
  obtain ⟨params, hparams, hkeySize, hpd, hvalue⟩ := World.query_eq_ok hinv hmade hquery
  rw [hkind] at hparams
  refine ⟨hvalue, ?_, ?_⟩
  · rw [hkeySize]
    apply keySizeFlagToBytesSize_iff hparams
  · rw [hpd, ← BitVec.toNat_inj, BitVec.toNat_and, toNat_lowMask (by decide),
      Nat.and_two_pow_sub_one_eq_mod]
    exact eq_comm

/-- The object of the mailbox with the old protection domain. -/
def keepingPd (m old : Memory) : Memory :=
  devxSet (slice m CreateEncryptionKeyIn.encryptionKeyObject) 0 EncryptionKeyObj.pd
    (devxGet old 0 EncryptionKeyObj.pd)

theorem modifies_keepingPd :
  Modifies keepingPd
  := by
  constructor <;> intro m old <;> rw [keepingPd]
  · apply devxGet_devxSet_devxGet
  · rw [devxGet_devxSet_of_apart _ _ rfl, devxGet_slice, Nat.add_zero]
  · rw [devxGet64_devxSet_of_apart _ _ rfl, devxGet64_slice, Nat.add_zero]

/-- A key for TLS that is made and then modified, with another protection domain. -/
def moved : List Call :=
  [.create tlsAttr ⟨true, devxSet zeros 0 GeneralObjOutCmdHdr.objId 7⟩,
    .modify { tlsAttr with pdId := 2, opaqueData := 9 } ⟨false, zeros⟩]

def movedKey : World :=
  run (World.step keepingPd) (.new true .tls) moved

/-- The query reports the new opaque value, and the old protection domain. -/
theorem key_query_moved :
  ∃ d attr, movedKey.dek.query (movedKey.queryAnswers ⟨false, zeros⟩) = some (.ok, d, attr)
    ∧ attr.opaqueData = 9 ∧ attr.keySize = 16 ∧ attr.pdId ≠ 2
  := by
  have hcalls : Along (World.step keepingPd) World.Numbered (.new true .tls) moved := by
    refine ⟨?_, trivial, trivial⟩
    intro _
    refine ⟨by rfl, ?_⟩
    intro k hk
    cases hk
  obtain ⟨⟨ret, d, attr⟩, hquery, hret⟩ :
      ∃ r, movedKey.dek.query (movedKey.queryAnswers ⟨false, zeros⟩) = some r ∧ r.1 = .ok :=
    ⟨_, rfl, by decide +kernel⟩
  cases hret
  have hmade : movedKey.made = some (tlsAttr, { tlsAttr with pdId := 2, opaqueData := 9 }) := by
    rfl
  obtain ⟨hvalue, hsize, hpd⟩ := key_query_iff modifies_keepingPd hcalls rfl hmade hquery
  refine ⟨d, attr, hquery, hvalue, hsize.mpr (by simp), ?_⟩
  intro h
  cases hpd.mp h

end Dek

end Dpcp
