import Dpcp.Transport.Cached

/-!
# Transport interface receive objects

`tir` with all that its attributes hold.  `modify` can change the LRO settings only, and writes them
to the cache by itself once the device has taken them.

The device keeps a context: `create` gives it, `modify` replaces the fields that its bitmask
selects, and `query` returns it.  Every command can fail, and then leaves the context as it was.
-/

namespace Dpcp

open Bits Dcmd Prm

/-- The member `lro` of `struct tir::attr`. -/
structure TirLro where
  timeoutPeriodUsecs : BitVec 16
  enableMask : BitVec 4
  maxMsgSz : BitVec 8
deriving DecidableEq

/-- The member `nvmeotcp` of `struct tir::attr`. -/
structure TirNvmeotcp where
  zerocopyEn : BitVec 1
  crcEn : BitVec 1
  tagBufferTableId : BitVec 32
deriving DecidableEq

/-- `struct tir::attr`. -/
structure TirAttr where
  flags : BitVec 32
  lro : TirLro
  inlineRqn : BitVec 24
  transportDomain : BitVec 24
  tlsEn : BitVec 1
  nvmeotcp : TirNvmeotcp
deriving DecidableEq

/-- The bits of the flags of `tir::attr`. -/
def tirAttrLro : Nat := 1
def tirAttrInlineRqn : Nat := 2
def tirAttrTransportDomain : Nat := 3
def tirAttrTls : Nat := 4
def tirAttrNvmeotcpZeroCopy : Nat := 5
def tirAttrNvmeotcpCrc : Nat := 6

namespace Tir

def mlx5CmdOpCreateTir : BitVec 32 := 0x900
def mlx5CmdOpModifyTir : BitVec 32 := 0x901
def mlx5CmdOpQueryTir : BitVec 32 := 0x903

/-- The LRO fields of a context, as `create` and `modify` set them. -/
def lroFields (lro : TirLro) : List (Field × BitVec 32) :=
  [(Tirc.lroTimeoutPeriodUsecs, lro.timeoutPeriodUsecs.setWidth 32),
    (Tirc.lroEnableMask, lro.enableMask.setWidth 32),
    (Tirc.lroMaxIpPayloadSize, lro.maxMsgSz.setWidth 32)]

/-- The mailbox of `tir::create`. -/
def createMailbox (attr : TirAttr) : Memory :=
  let m := zeros
  let m := devxSet m 0 CreateTirIn.opcode mlx5CmdOpCreateTir
  let p := CreateTirIn.tirContext
  let m := devxSetIf (attr.flags.getLsbD tirAttrLro) p (lroFields attr.lro) m
  let m := devxSetIf (attr.flags.getLsbD tirAttrTls) p
    [(Tirc.selfLbBlock, 3), (Tirc.tlsEn, attr.tlsEn.setWidth 32)] m
  let m := devxSetIf (attr.flags.getLsbD tirAttrInlineRqn) p
    [(Tirc.inlineRqn, attr.inlineRqn.setWidth 32)] m
  let m := devxSetIf (attr.flags.getLsbD tirAttrTransportDomain) p
    [(Tirc.transportDomain, attr.transportDomain.setWidth 32)] m
  let m := devxSetIf (attr.flags.getLsbD tirAttrNvmeotcpZeroCopy) p
    [(Tirc.selfLbBlock, 3), (Tirc.nvmeotcpZerocopyEn, attr.nvmeotcp.zerocopyEn.setWidth 32),
      (Tirc.nvmeotcpTagBufferTableId, attr.nvmeotcp.tagBufferTableId.setWidth 32)] m
  devxSetIf (attr.flags.getLsbD tirAttrNvmeotcpCrc) p
    [(Tirc.selfLbBlock, 3), (Tirc.nvmeotcpCrcEn, attr.nvmeotcp.crcEn.setWidth 32)] m

/-- The mailbox of `tir::query`. -/
def queryMailbox (tirn : BitVec 32) : Memory :=
  let m := zeros
  let m := devxSet m 0 QueryTirIn.opcode mlx5CmdOpQueryTir
  devxSet m 0 QueryTirIn.tirn tirn

/-- The flags of all attributes that `query` reads. -/
def readFlags : BitVec 32 :=
  BitVec.twoPow 32 tirAttrLro ||| BitVec.twoPow 32 tirAttrTls ||| BitVec.twoPow 32 tirAttrInlineRqn
    ||| BitVec.twoPow 32 tirAttrTransportDomain ||| BitVec.twoPow 32 tirAttrNvmeotcpZeroCopy
    ||| BitVec.twoPow 32 tirAttrNvmeotcpCrc

/-- The LRO settings that `query` reads from the context at `p`. -/
def readLro (m : Memory) (p : Nat) : TirLro where
  timeoutPeriodUsecs := (devxGet m p Tirc.lroTimeoutPeriodUsecs).setWidth 16
  enableMask := (devxGet m p Tirc.lroEnableMask).setWidth 4
  maxMsgSz := (devxGet m p Tirc.lroMaxIpPayloadSize).setWidth 8

/-- The attributes that `query` reads from the context at `p`, with the flags `flags` set before. -/
def readContext (flags : BitVec 32) (m : Memory) (p : Nat) : TirAttr where
  flags := flags ||| readFlags
  lro := readLro m p
  inlineRqn := (devxGet m p Tirc.inlineRqn).setWidth 24
  transportDomain := (devxGet m p Tirc.transportDomain).setWidth 24
  tlsEn := (devxGet m p Tirc.tlsEn).setWidth 1
  nvmeotcp :=
    { zerocopyEn := (devxGet m p Tirc.nvmeotcpZerocopyEn).setWidth 1
      crcEn := (devxGet m p Tirc.nvmeotcpCrcEn).setWidth 1
      tagBufferTableId := (devxGet m p Tirc.nvmeotcpTagBufferTableId).setWidth 32 }

/-- `class tir`. -/
def kind : CachedKind TirAttr where
  flags := TirAttr.flags
  blank := ⟨0, ⟨0, 0, 0⟩, 0, 0, 0, ⟨0, 0, 0⟩⟩
  createMailbox := createMailbox
  createIn := CreateTirIn.bytes
  createOut := CreateTirOut.bytes
  createContext := CreateTirIn.tirContext
  queryMailbox := queryMailbox
  queryIn := QueryTirIn.bytes
  queryOut := QueryTirOut.bytes
  queryContext := QueryTirOut.tirContext
  fill attr out := readContext attr.flags out QueryTirOut.tirContext
  view ctx := readContext 0 ctx 0
  flags_blank := rfl
  flags_view _ := by
    have hflags : (0 ||| readFlags : BitVec 32) ≠ 0 := by decide
    apply hflags
  fill_blank out := by
    simp only [readContext, readLro, devxGet_slice, Nat.add_zero]

/-- `tir::tir`. -/
def new : Bool → Cached TirAttr :=
  Cached.new kind

/-- `tir::create`. -/
def create : Cached TirAttr → TirAttr → Device → Answers → Option (Result (Cached TirAttr)) :=
  Cached.create kind

/-- `tir::query`. -/
def query : Cached TirAttr → TirAttr → Answers → Option (Status × Cached TirAttr × TirAttr) :=
  Cached.query kind

/-- The mailbox of `tir::modify`. -/
def modifyMailbox (tirn : BitVec 32) (attr : TirAttr) : Memory :=
  let m := zeros
  let m := devxSet m 0 ModifyTirIn.opcode mlx5CmdOpModifyTir
  let m := devxSet m 0 ModifyTirIn.tirn tirn
  let m := devxSetIf (attr.flags.getLsbD tirAttrLro) ModifyTirIn.bitmask
    [(ModifyTirBitmask.lro, 1)] m
  devxSetIf (attr.flags.getLsbD tirAttrLro) ModifyTirIn.tirContext (lroFields attr.lro) m

/-- `tir::modify`. -/
def modify (t : Cached TirAttr) (attr : TirAttr) (answers : Answers) :
    Option (Result (Cached TirAttr)) :=
  if t.base.getHandle ≠ .ok then
    some (.errInvalidParam, t)
  else do
    let (ret, base, _) ← t.base.modify answers (modifyMailbox t.mNumber attr) ModifyTirIn.bytes
      zeros ModifyTirOut.bytes
    let t := { t with base := base }
    if ret = .ok ∧ attr.flags.getLsbD tirAttrLro then
      some (ret, { t with mAttr := { t.mAttr with lro := attr.lro } })
    else
      some (ret, t)

/-! ### The device -/

/-- The fields of the context that a bit of the bitmask of a MODIFY selects. -/
def selections : List (Field × List Field) :=
  [(ModifyTirBitmask.lro,
      [Tirc.lroTimeoutPeriodUsecs, Tirc.lroEnableMask, Tirc.lroMaxIpPayloadSize]),
    (ModifyTirBitmask.selfLbEn, [Tirc.selfLbBlock]),
    (ModifyTirBitmask.hash,
      [Tirc.rxHashSymmetric, Tirc.rxHashFn, Tirc.rxHashFieldSelectorOuter,
        Tirc.rxHashFieldSelectorInner] ++ (List.range 10).map Tirc.rxHashToeplitzKey)]

/-- The context `ctx` after the device has carried out a MODIFY with the mailbox `m`. -/
def modified (m ctx : Memory) : Memory :=
  selections.foldl
    (fun ctx (selection : Field × List Field) =>
      if devxGet m ModifyTirIn.bitmask selection.1 = 0 then
        ctx
      else
        selection.2.foldl (fun ctx f => devxSet ctx 0 f (devxGet m ModifyTirIn.tirContext f)) ctx)
    ctx

/-- A call, with what the device answers; the context in the answer to a QUERY is the one it has. -/
inductive Call where
  | create (attr : TirAttr) (device : Device) (answer : Answer)
  | modify (attr : TirAttr) (answer : Answer)
  | query (out : TirAttr) (answer : Answer)

/-- A call of `modify`.  If it succeeds the device has the new context, and the LRO settings with
which the TIR was made are replaced if that was asked for. -/
def modifyWorld (w : Cached.World TirAttr) (attr : TirAttr) (answer : Answer) :
    Cached.World TirAttr :=
  (modify w.obj attr fun _ _ => answer).elim w fun (ret, obj) =>
    if ret = .ok then
      { obj := obj
        ctx := modified (modifyMailbox w.obj.mNumber attr) w.ctx
        made := if attr.flags.getLsbD tirAttrLro then { w.made with lro := attr.lro } else w.made }
    else
      { w with obj := obj }

/-- One call. -/
def step (w : Cached.World TirAttr) : Call → Cached.World TirAttr
  | .create attr device answer => w.create kind attr device answer
  | .modify attr answer => modifyWorld w attr answer
  | .query out answer => w.query kind out answer

/-- The attributes flagged in `made` have the same values in `attr`. -/
structure ReadsBack (made attr : TirAttr) : Prop where
  lro : made.flags.getLsbD tirAttrLro = true → attr.lro = made.lro
  inlineRqn : made.flags.getLsbD tirAttrInlineRqn = true → attr.inlineRqn = made.inlineRqn
  transportDomain : made.flags.getLsbD tirAttrTransportDomain = true →
    attr.transportDomain = made.transportDomain
  tlsEn : made.flags.getLsbD tirAttrTls = true → attr.tlsEn = made.tlsEn
  zeroCopy : made.flags.getLsbD tirAttrNvmeotcpZeroCopy = true →
    attr.nvmeotcp.zerocopyEn = made.nvmeotcp.zerocopyEn
      ∧ attr.nvmeotcp.tagBufferTableId = made.nvmeotcp.tagBufferTableId
  crc : made.flags.getLsbD tirAttrNvmeotcpCrc = true → attr.nvmeotcp.crcEn = made.nvmeotcp.crcEn

/-- The LRO settings that were set are read back. -/
theorem readLro_lroFields (m : Memory) (p : Nat) (lro : TirLro) :
  readLro (devxSetIf true p (lroFields lro) m) p = lro
  := by
  obtain ⟨timeout, mask, sz⟩ := lro
  simp only [readLro, TirLro.mk.injEq]
  refine ⟨?_, ?_, ?_⟩
  · apply setWidth_devxGet_devxSetIf p m Tirc.lroTimeoutPeriodUsecs timeout [] [_, _] rfl rfl
  · apply setWidth_devxGet_devxSetIf p m Tirc.lroEnableMask mask [_] [_] rfl rfl
  · apply setWidth_devxGet_devxSetIf p m Tirc.lroMaxIpPayloadSize sz [_, _] [] rfl rfl

/-- The LRO settings are not changed when other fields are set. -/
theorem readLro_devxSetIf (c : Bool) {p : Nat} {l : List (Field × BitVec 32)} (m : Memory)
    (h : ((lroFields ⟨0, 0, 0⟩).all fun gv => l.all fun fv => gv.1.apart p fv.1 p) = true) :
  readLro (devxSetIf c p l m) p = readLro m p
  := by
  simp only [lroFields, List.all_cons, List.all_nil, Bool.and_eq_true] at h
  obtain ⟨htimeout, hmask, hsz, -⟩ := h
  simp only [readLro, devxGet_devxSetIf_of_apart c m htimeout, devxGet_devxSetIf_of_apart c m hmask,
    devxGet_devxSetIf_of_apart c m hsz]

/-- The context of the mailbox, read in the mailbox. -/
theorem view_createdContext (attr : TirAttr) :
  kind.view (Cached.createdContext kind attr)
    = readContext 0 (createMailbox attr) CreateTirIn.tirContext
  := by
  simp only [kind, Cached.createdContext, readContext, readLro, devxGet_slice, Nat.add_zero]

/-- What `create` asks for stands in the context. -/
theorem readsBack_created (attr : TirAttr) :
  ReadsBack attr (kind.view (Cached.createdContext kind attr))
  := by
  rw [view_createdContext]
  constructor <;> intro hflag <;> simp only [readContext, createMailbox]
  · rw [readLro_devxSetIf _ _ rfl, readLro_devxSetIf _ _ rfl, readLro_devxSetIf _ _ rfl,
      readLro_devxSetIf _ _ rfl, readLro_devxSetIf _ _ rfl, hflag]
    apply readLro_lroFields
  · rw [devxGet_devxSetIf_of_apart _ _ rfl, devxGet_devxSetIf_of_apart _ _ rfl,
      devxGet_devxSetIf_of_apart _ _ rfl, hflag]
    apply setWidth_devxGet_devxSetIf _ _ Tirc.inlineRqn attr.inlineRqn [] [] rfl rfl
  · rw [devxGet_devxSetIf_of_apart _ _ rfl, devxGet_devxSetIf_of_apart _ _ rfl, hflag]
    apply setWidth_devxGet_devxSetIf _ _ Tirc.transportDomain attr.transportDomain [] [] rfl rfl
  · rw [devxGet_devxSetIf_of_apart _ _ rfl, devxGet_devxSetIf_of_apart _ _ rfl,
      devxGet_devxSetIf_of_apart _ _ rfl, devxGet_devxSetIf_of_apart _ _ rfl, hflag]
    apply setWidth_devxGet_devxSetIf _ _ Tirc.tlsEn attr.tlsEn [_] [] rfl rfl
  · constructor
    · rw [devxGet_devxSetIf_of_apart _ _ rfl, hflag]
      apply setWidth_devxGet_devxSetIf _ _ Tirc.nvmeotcpZerocopyEn attr.nvmeotcp.zerocopyEn [_] [_]
        rfl rfl
    · rw [devxGet_devxSetIf_of_apart _ _ rfl, hflag]
      apply setWidth_devxGet_devxSetIf _ _ Tirc.nvmeotcpTagBufferTableId
        attr.nvmeotcp.tagBufferTableId [_, _] [] rfl rfl
  · rw [hflag]
    apply setWidth_devxGet_devxSetIf _ _ Tirc.nvmeotcpCrcEn attr.nvmeotcp.crcEn [_] [] rfl rfl

/-! ### A modification in the context -/

/-- A MODIFY selects the LRO settings exactly if they are flagged. -/
theorem devxGet_bitmask_lro (tirn : BitVec 32) (attr : TirAttr) :
  devxGet (modifyMailbox tirn attr) ModifyTirIn.bitmask ModifyTirBitmask.lro
    = if attr.flags.getLsbD tirAttrLro then 1 else 0
  := by
  simp only [modifyMailbox]
  rw [devxGet_devxSetIf_of_apart _ _ rfl]
  cases attr.flags.getLsbD tirAttrLro with
  | true =>
      rw [devxSetIf_true, List.foldl_cons, List.foldl_nil, devxGet_devxSet_self]
      rfl
  | false =>
      rw [devxSetIf_false, devxGet_devxSet_of_apart _ _ rfl, devxGet_devxSet_of_apart _ _ rfl,
        devxGet_zeros]
      rfl

/-- A MODIFY never selects a field that `modify` does not set. -/
theorem devxGet_bitmask_other (tirn : BitVec 32) (attr : TirAttr) {f : Field}
    (hf : f = ModifyTirBitmask.selfLbEn ∨ f = ModifyTirBitmask.hash) :
  devxGet (modifyMailbox tirn attr) ModifyTirIn.bitmask f = 0
  := by
  simp only [modifyMailbox]
  rcases hf with rfl | rfl
  · rw [devxGet_devxSetIf_of_apart _ _ rfl, devxGet_devxSetIf_of_apart _ _ rfl,
      devxGet_devxSet_of_apart _ _ rfl, devxGet_devxSet_of_apart _ _ rfl, devxGet_zeros]
  · rw [devxGet_devxSetIf_of_apart _ _ rfl, devxGet_devxSetIf_of_apart _ _ rfl,
      devxGet_devxSet_of_apart _ _ rfl, devxGet_devxSet_of_apart _ _ rfl, devxGet_zeros]

/-- The device copies the LRO settings of the mailbox, if they are flagged, and nothing else. -/
theorem modified_modifyMailbox (tirn : BitVec 32) (attr : TirAttr) (ctx : Memory) :
  modified (modifyMailbox tirn attr) ctx
    = devxSetIf (attr.flags.getLsbD tirAttrLro) 0
        ([Tirc.lroTimeoutPeriodUsecs, Tirc.lroEnableMask, Tirc.lroMaxIpPayloadSize].map fun f =>
          (f, devxGet (modifyMailbox tirn attr) ModifyTirIn.tirContext f)) ctx
  := by
  simp only [modified, selections, List.foldl_cons, List.foldl_nil,
    devxGet_bitmask_other tirn attr (.inl rfl), devxGet_bitmask_other tirn attr (.inr rfl),
    devxGet_bitmask_lro, if_true]
  cases attr.flags.getLsbD tirAttrLro <;> rfl

/-- The LRO settings in the mailbox of a MODIFY. -/
theorem readLro_modifyMailbox (tirn : BitVec 32) {attr : TirAttr}
    (hflag : attr.flags.getLsbD tirAttrLro = true) :
  readLro (modifyMailbox tirn attr) ModifyTirIn.tirContext = attr.lro
  := by
  simp only [modifyMailbox, hflag]
  apply readLro_lroFields

/-- LRO settings that are copied read as they did. -/
theorem readLro_copied (m m' : Memory) (q : Nat) :
  readLro (devxSetIf true 0
      ([Tirc.lroTimeoutPeriodUsecs, Tirc.lroEnableMask, Tirc.lroMaxIpPayloadSize].map fun f =>
        (f, devxGet m' q f)) m) 0
    = readLro m' q
  := by
  simp only [devxSetIf_true, List.map_cons, List.map_nil, List.foldl_cons, List.foldl_nil, readLro,
    TirLro.mk.injEq]
  refine ⟨?_, ?_, ?_⟩
  · rw [devxGet_devxSet_of_apart _ _ rfl, devxGet_devxSet_of_apart _ _ rfl, devxGet_devxSet_devxGet]
  · rw [devxGet_devxSet_of_apart _ _ rfl, devxGet_devxSet_devxGet]
  · rw [devxGet_devxSet_devxGet]

/-- What the context says after a MODIFY. -/
theorem view_modified (tirn : BitVec 32) (attr : TirAttr) (ctx : Memory) :
  kind.view (modified (modifyMailbox tirn attr) ctx)
    = if attr.flags.getLsbD tirAttrLro then { kind.view ctx with lro := attr.lro }
      else kind.view ctx
  := by
  rw [modified_modifyMailbox]
  cases hflag : attr.flags.getLsbD tirAttrLro with
  | false => rfl
  | true =>
      simp only [kind, readContext, if_true]
      rw [readLro_copied, readLro_modifyMailbox tirn hflag, devxGet_devxSetIf_of_apart _ _ rfl,
        devxGet_devxSetIf_of_apart _ _ rfl, devxGet_devxSetIf_of_apart _ _ rfl,
        devxGet_devxSetIf_of_apart _ _ rfl, devxGet_devxSetIf_of_apart _ _ rfl,
        devxGet_devxSetIf_of_apart _ _ rfl]

/-! ### Runs -/

/-- What `modify` can do: refuse without an object, or send the command and keep what was modified
if the device took it. -/
theorem modify_cases {t t' : Cached TirAttr} {attr : TirAttr} {answers : Answers} {ret : Status}
    (h : modify t attr answers = some (ret, t')) :
  (t.base.mObjHandle = false ∧ ret = .errInvalidParam ∧ t' = t)
    ∨ (t.base.mObjHandle = true ∧ t'.base.Alike t.base ∧ t'.mNumber = t.mNumber
      ∧ t'.mAttr = if ret = .ok ∧ attr.flags.getLsbD tirAttrLro then
          { t.mAttr with lro := attr.lro } else t.mAttr)
  := by
  simp only [modify, Obj.getHandle] at h
  cases hhandle : t.base.mObjHandle with
  | false =>
      simp only [hhandle, Bool.false_eq_true, if_false, ne_eq, reduceCtorEq, not_false_eq_true,
        if_true, Option.some.injEq, Prod.mk.injEq] at h
      obtain ⟨rfl, rfl⟩ := h
      exact .inl ⟨rfl, rfl, rfl⟩
  | true =>
      simp only [hhandle, if_true, ne_eq, not_true_eq_false, if_false] at h
      obtain ⟨⟨ret', base, m⟩, hmodify, h⟩ := Option.bind_eq_some_iff.mp h
      right
      split at h
      · rename_i hok
        cases h
        exact ⟨rfl, Obj.alike_of_command hmodify, rfl, (if_pos hok).symm⟩
      · rename_i hok
        cases h
        exact ⟨rfl, Obj.alike_of_command hmodify, rfl, (if_neg hok).symm⟩

/-- `modify` has a result. -/
theorem modify_isSome (t : Cached TirAttr) (attr : TirAttr) (answers : Answers) :
  (modify t attr answers).isSome = true
  := by
  simp only [modify, Obj.getHandle]
  cases hhandle : t.base.mObjHandle with
  | false => rfl
  | true =>
      obtain ⟨⟨ret, base, m⟩, hmodify⟩ := Option.isSome_iff_exists.mp
        (Obj.command_isSome hhandle .errModify answers (modifyMailbox t.mNumber attr)
          ModifyTirIn.bytes zeros ModifyTirOut.bytes)
      simp only [if_true, ne_eq, not_true_eq_false, if_false]
      rw [Obj.modify, hmodify]
      simp only [Option.bind_eq_bind, Option.bind_some]
      split <;> rfl

/-- A modification that fails leaves object and device, apart from what the object remembers of the
command. -/
theorem alike_of_modify_failed {w : Cached.World TirAttr} {attr : TirAttr} {answer : Answer}
    {ret : Status} {obj : Cached TirAttr}
    (h : modify w.obj attr (fun _ _ => answer) = some (ret, obj)) (hret : ret ≠ .ok) :
  (modifyWorld w attr answer).Alike w
  := by
  simp only [modifyWorld, h, Option.elim_some, if_neg hret]
  rcases modify_cases h with ⟨-, -, rfl⟩ | ⟨-, hbase, hnumber, hattr⟩
  · exact ⟨⟨.refl _, rfl, rfl⟩, rfl, rfl⟩
  · rw [if_neg (fun hok => hret hok.1)] at hattr
    exact ⟨⟨hbase, hattr, hnumber⟩, rfl, rfl⟩

/-- A modification does not depend on what the object remembers of the last command. -/
theorem alike_modifyWorld {w w' : Cached.World TirAttr} (h : w.Alike w') (attr : TirAttr)
    (answer : Answer) :
  (modifyWorld w attr answer).Alike (modifyWorld w' attr answer)
  := by
  have hmodify : Option.Rel (fun r r' => r.1 = r'.1 ∧ r.2.Alike r'.2)
      (modify w.obj attr fun _ _ => answer) (modify w'.obj attr fun _ _ => answer) := by
    simp only [modify, h.obj.base.getHandle, h.obj.number]
    split
    · exact .some ⟨rfl, h.obj⟩
    · apply rel_bind (h.obj.base.command .errModify (fun _ _ => answer) _ _ _ _)
      rintro ⟨ret, base, m⟩ ⟨_, base', _⟩ ⟨rfl, hbase, rfl⟩
      split
      · exact .some ⟨rfl, ⟨hbase, by rw [h.obj.attr], rfl⟩⟩
      · exact .some ⟨rfl, ⟨hbase, h.obj.attr, rfl⟩⟩
  simp only [modifyWorld]
  apply rel_elim hmodify h
  rintro ⟨ret, obj⟩ ⟨_, obj'⟩ ⟨rfl, hobj⟩
  simp only [h.obj.number, h.ctx, h.made]
  split
  · exact ⟨hobj, rfl, rfl⟩
  · exact ⟨hobj, rfl, rfl⟩

/-- Steps from worlds that differ only in what the object remembers of the last command. -/
theorem alike_step {w w' : Cached.World TirAttr} (call : Call) (h : w.Alike w') :
  (step w call).Alike (step w' call)
  := by
  cases call with
  | create attr device answer => apply h.create
  | modify attr answer => apply alike_modifyWorld h
  | query out answer => apply h.query

/-- The cache goes with the context, and the context has what was asked for. -/
structure Inv (w : Cached.World TirAttr) : Prop where
  coherent : w.Coherent kind
  readsBack : w.obj.base.mObjHandle = true → ReadsBack w.made (kind.view w.ctx)

theorem inv_new (ctx : Bool) :
  Inv (.new kind ctx)
  := ⟨Cached.World.coherent_new ctx, nofun⟩

/-- New LRO settings on both sides. -/
theorem ReadsBack.lro_modified {made attr : TirAttr} (h : ReadsBack made attr) (lro : TirLro) :
  ReadsBack { made with lro := lro } { attr with lro := lro }
  := ⟨fun _ => rfl, h.inlineRqn, h.transportDomain, h.tlsEn, h.zeroCopy, h.crc⟩

/-- Nothing that the invariant is about is changed. -/
theorem Inv.of_same {w w' : Cached.World TirAttr} (h : Inv w)
    (hhandle : w'.obj.base.mObjHandle = w.obj.base.mObjHandle) (hattr : w'.obj.mAttr = w.obj.mAttr)
    (hview : kind.view w'.ctx = kind.view w.ctx) (hmade : w'.made = w.made) :
  Inv w'
  := by
  constructor
  · apply Cached.Coherent.of_same h.coherent hhandle hattr hview
  · rw [hhandle, hmade, hview]
    apply h.readsBack

/-- The LRO settings are changed in the cache, in the context and in what was asked for. -/
theorem Inv.lro_modified {w w' : Cached.World TirAttr} (h : Inv w) (lro : TirLro)
    (hhandle : w'.obj.base.mObjHandle = w.obj.base.mObjHandle)
    (hattr : w'.obj.mAttr = { w.obj.mAttr with lro := lro })
    (hview : kind.view w'.ctx = { kind.view w.ctx with lro := lro })
    (hmade : w'.made = { w.made with lro := lro }) :
  Inv w'
  := by
  constructor
  · constructor
    · intro hflags out
      rw [hattr] at hflags ⊢
      apply h.coherent.unread hflags
    · intro hflags
      rw [hattr] at hflags
      obtain ⟨hold, hread⟩ := h.coherent.read hflags
      refine ⟨hhandle.trans hold, ?_⟩
      rw [hattr, hview, hread]
  · intro hnew
    rw [hmade, hview]
    apply (h.readsBack (hhandle.symm.trans hnew)).lro_modified

theorem inv_modifyWorld {w : Cached.World TirAttr} (h : Inv w) (attr : TirAttr)
    (answer : Answer) :
  Inv (modifyWorld w attr answer)
  := by
  obtain ⟨⟨ret, obj⟩, hmodify⟩ := Option.isSome_iff_exists.mp
    (modify_isSome w.obj attr fun _ _ => answer)
  simp only [modifyWorld, hmodify, Option.elim_some]
  rcases modify_cases hmodify with ⟨-, rfl, rfl⟩ | ⟨-, hbase, -, hattr⟩
  · apply h
  · have hview := view_modified w.obj.mNumber attr w.ctx
    by_cases hok : ret = .ok
    · rw [if_pos hok]
      cases hflag : attr.flags.getLsbD tirAttrLro with
      | false =>
          simp only [hflag, Bool.false_eq_true, and_false, if_false] at hview hattr ⊢
          apply h.of_same
          · apply hbase.objHandle
          · apply hattr
          · apply hview
          · rfl
      | true =>
          simp only [hflag, hok, and_self, if_true] at hview hattr ⊢
          apply h.lro_modified attr.lro
          · apply hbase.objHandle
          · apply hattr
          · apply hview
          · rfl
    · rw [if_neg hok]
      rw [if_neg (fun h => hok h.1)] at hattr
      apply h.of_same
      · apply hbase.objHandle
      · apply hattr
      · rfl
      · rfl

theorem inv_step (w : Cached.World TirAttr) (call : Call) (h : Inv w) :
  Inv (step w call)
  := by
  cases call with
  | create attr device answer =>
      refine ⟨h.coherent.create attr device answer, ?_⟩
      apply Cached.World.create_made (R := fun made ctx => ReadsBack made (kind.view ctx))
        readsBack_created h.readsBack
  | modify attr answer => apply inv_modifyWorld h
  | query out answer =>
      refine ⟨h.coherent.query out answer, ?_⟩
      obtain ⟨hctx, hmade⟩ := w.query_made (k := kind) out answer
      rw [step, w.query_handle out answer, hctx, hmade]
      apply h.readsBack

/-- After any calls of `create`, `modify` and `query` with any failures, `query` has a result, and
if that is success it reports what the context of the device says now, which has the attributes
flagged at creation, with the LRO settings of the last modification of them.  A modification that
fails changes nothing that any later query reports. -/
theorem tir_query_current (ctx : Bool) (calls : List Call) (w : Cached.World TirAttr)
    (hw : w = Machine.run step (.new kind ctx) calls) :
  (∀ out answer, ∃ ret attr, w.report kind out answer = some (ret, attr)
      ∧ (ret = .ok → attr = readContext 0 w.ctx 0 ∧ ReadsBack w.made attr))
    ∧ ∀ attr answer, ∃ ret obj, modify w.obj attr (fun _ _ => answer) = some (ret, obj)
      ∧ (ret ≠ .ok → ∀ later out answer',
        (Machine.run step (step w (.modify attr answer)) later).report kind out answer'
          = (Machine.run step w later).report kind out answer')
  := by
  have hinv : Inv w := hw ▸ Machine.inv_run inv_step (inv_new ctx) calls
  constructor
  · intro out answer
    obtain ⟨⟨ret, attr⟩, hreport⟩ := Option.isSome_iff_exists.mp
      (w.report_isSome (k := kind) out answer)
    refine ⟨ret, attr, hreport, ?_⟩
    rintro rfl
    have hattr : attr = kind.view w.ctx := hinv.coherent.report hreport
    rw [hattr]
    exact ⟨rfl, hinv.readsBack (Cached.World.handle_of_report hreport)⟩
  · intro attr answer
    obtain ⟨⟨ret, obj⟩, hmodify⟩ := Option.isSome_iff_exists.mp
      (modify_isSome w.obj attr fun _ _ => answer)
    refine ⟨ret, obj, hmodify, ?_⟩
    intro hret later out answer'
    have halike := Machine.run_rel (fun _ _ call => alike_step call)
      (alike_of_modify_failed hmodify hret) later
    apply halike.report

/-- A TIR with LRO and TLS, whose LRO settings are then modified. -/
def lroCalls : List Call :=
  [.create ⟨0x12, ⟨32, 1, 8⟩, 0, 0, 1, ⟨0, 0, 0⟩⟩ (fun _ _ => ⟨true, zeros⟩) ⟨false, zeros⟩,
    .modify ⟨0x2, ⟨64, 3, 16⟩, 0, 0, 0, ⟨0, 0, 0⟩⟩ ⟨false, zeros⟩]

/-- A query after these calls, and a modification that the device refuses. -/
theorem tir_query_current_lro :
  (∃ attr, (Machine.run step (.new kind true) lroCalls).report kind kind.blank ⟨false, zeros⟩
      = some (.ok, attr) ∧ attr.lro = ⟨64, 3, 16⟩ ∧ attr.tlsEn = 1)
    ∧ ∀ later out answer,
      (Machine.run step (.new kind true)
          (lroCalls ++ .modify ⟨0x2, ⟨1, 1, 1⟩, 0, 0, 0, ⟨0, 0, 0⟩⟩ ⟨true, zeros⟩ :: later)).report
          kind out answer
        = (Machine.run step (.new kind true) (lroCalls ++ later)).report kind out answer
  := by
  obtain ⟨hreports, hfails⟩ := tir_query_current true lroCalls _ rfl
  constructor
  · obtain ⟨ret, attr, hreport, hcurrent⟩ := hreports kind.blank ⟨false, zeros⟩
    have hret : ((Machine.run step (.new kind true) lroCalls).report kind kind.blank
        ⟨false, zeros⟩).map Prod.fst = some .ok := by
      rfl
    rw [hreport] at hret
    cases hret
    obtain ⟨-, hreads⟩ := hcurrent rfl
    exact ⟨attr, hreport, hreads.lro rfl, hreads.tlsEn rfl⟩
  · intro later out answer
    obtain ⟨ret, obj, hmodify, hsame⟩ := hfails ⟨0x2, ⟨1, 1, 1⟩, 0, 0, 0, ⟨0, 0, 0⟩⟩ ⟨true, zeros⟩
    have hret : (modify (Machine.run step (.new kind true) lroCalls).obj
        ⟨0x2, ⟨1, 1, 1⟩, 0, 0, 0, ⟨0, 0, 0⟩⟩ fun _ _ => ⟨true, zeros⟩).map Prod.fst
          = some .errModify := by
      rfl
    rw [hmodify] at hret
    cases hret
    rw [Machine.run_append, Machine.run_append, Machine.run_cons]
    apply hsame nofun

end Tir

end Dpcp
