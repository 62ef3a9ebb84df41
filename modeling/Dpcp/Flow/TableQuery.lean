import Dpcp.Flow.Table
import Dpcp.Machine.Run

/-!
# Queries of a flow table

`flow_table_prm::query` asks the device for the context of the table and puts what it reads into the
attributes of its caller.

* The miss action, the level and the size are read back as they were set, and the operation mode and
  the type are those the table was made with.
* The flags that are set in the context are added to the flags that were there before.
* The pointer to the miss table is written only if the id in the context is that of the miss table;
  otherwise it stays what it was.

So the attributes depend on what they were before the query, unless that suits the table.
-/

namespace Dpcp

open Bits Dcmd Prm Machine

/-- The cast of a number to `enum flow_table_miss_action`. -/
def FlowTableMissAction.ofValue (v : BitVec 32) : FlowTableMissAction :=
  if v = DevxTable.ftMissActionDef then .dflt
  else if v = DevxTable.ftMissActionFwd then .fwd
  else .other v

/-- `struct flow_table_attr`, with the pointer to the miss table. -/
structure FullFlowTableAttr extends FlowTableAttr where
  tableMiss : Option Nat

/-- The constructor of `flow_table_attr`; the type is `FT_END`. -/
def FullFlowTableAttr.new : FullFlowTableAttr where
  flags := 0
  logSize := 0
  level := 0
  type := 0x2
  opMod := .normal
  defMissAction := .dflt
  tableMiss := none

namespace DevxTable

def mlx5CmdOpQueryFlowTable : BitVec 32 := 0x932

/-- The mailbox of `query`. -/
def queryMailbox (t : DevxTable) : Memory :=
  let m := devxSet zeros 0 QueryFlowTableIn.opcode mlx5CmdOpQueryFlowTable
  let m := devxSet m 0 QueryFlowTableIn.tableId t.mTableId
  devxSet m 0 QueryFlowTableIn.tableType t.mAttr.type

/-- The attributes that `query` reads from the out mailbox, but for the miss table. -/
def readContext (t : DevxTable) (out : Memory) (attr : FullFlowTableAttr) : FullFlowTableAttr :=
  let p := QueryFlowTableOut.flowTableContext
  let attr := { attr with
    defMissAction := .ofValue (devxGet out p FlowTableContext.tableMissAction) }
  let attr :=
    if devxGet out p FlowTableContext.decapEn ≠ 0 then
      { attr with flags := attr.flags ||| BitVec.twoPow 64 ftEnDecapBit }
    else attr
  let attr :=
    if devxGet out p FlowTableContext.reformatEn ≠ 0 then
      { attr with flags := attr.flags ||| BitVec.twoPow 64 ftEnReformatBit }
    else attr
  { attr with
    level := (devxGet out p FlowTableContext.level).setWidth 8
    logSize := (devxGet out p FlowTableContext.logSize).setWidth 8
    opMod := t.mAttr.opMod
    type := t.mAttr.type }

/-- `flow_table_prm::query`; `attr` is what the output parameter held.  The pointer `tableMiss` is
`m_attr.table_miss`, and `tables` has the PRM tables that pointers point to.  There is no result
without a `dcmd::obj`. -/
def query (t : DevxTable) (tableMiss : Option Nat) (tables : Nat → Option DevxTable)
    (answers : Answers) (attr : FullFlowTableAttr) :
    Option (Status × DevxTable × FullFlowTableAttr) :=
  if !t.mIsInitialized then
    some (.errNotApplied, t, attr)
  else do
    let (ret, base, out) ← t.base.query answers t.queryMailbox QueryFlowTableIn.bytes zeros
      QueryFlowTableOut.bytes
    let t := { t with base := base }
    match ret with
    | .ok =>
        let attr := t.readContext out attr
        match tableMiss.bind tables with
        | none => some (.ok, t, attr)
        | some table =>
            match table.getTableId 0 with
            | (.ok, missTableId) =>
                if devxGet out QueryFlowTableOut.flowTableContext FlowTableContext.tableMissId
                    = missTableId then
                  some (.ok, t, { attr with tableMiss := tableMiss })
                else
                  some (.ok, t, attr)
            | (ret, _) => some (ret, t, attr)
    | ret => some (ret, t, attr)

/-- The query succeeds and leaves the attributes `out`. -/
def Returns (t : DevxTable) (tableMiss : Option Nat) (tables : Nat → Option DevxTable)
    (answers : Answers) (attr out : FullFlowTableAttr) : Prop :=
  ∃ t', t.query tableMiss tables answers attr = some (.ok, t', out)

/-! ### Calls on a table -/

/-- A call of `create` or `query`. -/
inductive Call where
  | create (tableMiss : Option DevxTable) (device : Device)
  | query (tableMiss : Option Nat) (tables : Nat → Option DevxTable) (answers : Answers)
      (attr : FullFlowTableAttr)

/-- The table after a call; without a result it stays as it is. -/
def step (t : DevxTable) : Call → DevxTable
  | .create tableMiss device => (t.create tableMiss device).2
  | .query tableMiss tables answers attr =>
      ((t.query tableMiss tables answers attr).map fun r => r.2.1).getD t

/-- A query changes nothing but what the object remembers of the last command. -/
theorem query_alike {t t' : DevxTable} {tableMiss : Option Nat} {tables : Nat → Option DevxTable}
    {answers : Answers} {attr attr' : FullFlowTableAttr} {ret : Status}
    (h : t.query tableMiss tables answers attr = some (ret, t', attr')) :
  t'.toFlowTablePrm = t.toFlowTablePrm ∧ t'.mAttr = t.mAttr ∧ t'.base.Alike t.base
  := by
  simp only [query] at h
  split at h
  · cases h
    exact ⟨rfl, rfl, .refl t.base⟩
  · obtain ⟨⟨ret', base, out⟩, hcommand, h⟩ := Option.bind_eq_some_iff.mp h
    have halike := Obj.alike_of_command hcommand
    have ht' : t' = { t with base := base } := by
      simp only at h
      repeat' split at h
      all_goals
        cases h
        rfl
    rw [ht']
    exact ⟨rfl, rfl, halike⟩

/-- The attributes are never written again. -/
theorem mAttr_step (t : DevxTable) (call : Call) :
  (t.step call).mAttr = t.mAttr
  := by
  cases call with
  | create tableMiss device =>
      rcases t.create_cases tableMiss device with h | ⟨-, _, _, h | h⟩
      all_goals rw [step, h]
  | query tableMiss tables answers attr =>
      cases h : t.query tableMiss tables answers attr with
      | none => rw [step, h, Option.map_none, Option.getD_none]
      | some r =>
          rw [step, h, Option.map_some, Option.getD_some]
          apply (query_alike h).2.1

/-- The first table was created, and the second is what has become of it. -/
structure Since (t t' : DevxTable) : Prop where
  prm : t'.toFlowTablePrm = t.toFlowTablePrm
  attr : t'.mAttr = t.mAttr
  base : t'.base.Alike t.base

theorem Since.refl (t : DevxTable) :
  t.Since t
  := ⟨rfl, rfl, .refl t.base⟩

/-- A table that was created stays the same but for what its object remembers. -/
theorem since_step {t t' : DevxTable} (hinit : t.mIsInitialized = true) (h : t.Since t')
    (call : Call) :
  t.Since (t'.step call)
  := by
  have hinit' : t'.mIsInitialized = true := by
    rw [h.prm, hinit]
  cases call with
  | create tableMiss device =>
      rcases t'.create_cases tableMiss device with heq | ⟨hnot, -⟩
      · rw [step, heq]
        apply h
      · cases hinit'.symm.trans hnot
  | query tableMiss tables answers attr =>
      cases hquery : t'.query tableMiss tables answers attr with
      | none =>
          rw [step, hquery, Option.map_none, Option.getD_none]
          apply h
      | some r =>
          obtain ⟨hprm, hattr, hbase⟩ := query_alike hquery
          rw [step, hquery, Option.map_some, Option.getD_some]
          exact ⟨hprm.trans h.prm, hattr.trans h.attr, hbase.trans h.base⟩

theorem since_run {t : DevxTable} (hinit : t.mIsInitialized = true) (calls : List Call) :
  t.Since (run step t calls)
  := inv_run (I := t.Since) (fun _ call h => since_step hinit h call) (.refl t) calls

/-- The id of a table is one of the device, so it fits its field. -/
theorem mTableId_step {t : DevxTable} (h : t.mTableId.toNat < 2 ^ 24) (call : Call) :
  (t.step call).mTableId.toNat < 2 ^ 24
  := by
  cases call with
  | create tableMiss device =>
      rcases t.create_cases tableMiss device with heq | ⟨-, _, out, heq | heq⟩
      · rw [step, heq]
        apply h
      · rw [step, heq]
        apply h
      · rw [step, heq]
        apply devxGet_lt out 0 CreateFlowTableOut.tableId
  | query tableMiss tables answers attr =>
      cases hquery : t.query tableMiss tables answers attr with
      | none =>
          rw [step, hquery, Option.map_none, Option.getD_none]
          apply h
      | some r =>
          rw [step, hquery, Option.map_some, Option.getD_some, (query_alike hquery).1]
          apply h

theorem mTableId_run (ctx : Bool) (attr : FlowTableAttr) (calls : List Call) :
  (run step (new ctx attr) calls).mTableId.toNat < 2 ^ 24
  := by
  let Fits (t : DevxTable) : Prop := t.mTableId.toNat < 2 ^ 24
  have hnew : Fits (new ctx attr) := by
    simp only [Fits, new]
    decide
  apply inv_run (I := Fits) _ hnew
  intro t call h
  apply mTableId_step h

/-! ### A device that echoes the context -/

/-- The table `t'` is a table `t` after more calls, and both were made by calls. -/
def Becomes (t t' : DevxTable) : Prop :=
  ∃ ctx attr before after, t = run step (new ctx attr) before ∧ t' = run step t after

/-- The table `t` was made with the attributes `attr` and created with the command `c`, with any
calls before and after.  The PRM tables were `tables` when it was created and are `tables'` now. -/
structure Created (attr : FullFlowTableAttr) (tables tables' : Nat → Option DevxTable)
    (c : Obj.Command) (t : DevxTable) : Prop where
  table : ∃ ctx before device t₁ after,
    (run step (new ctx attr.toFlowTableAttr) before).command (attr.tableMiss.bind tables) = .ok c
      ∧ (run step (new ctx attr.toFlowTableAttr) before).create (attr.tableMiss.bind tables) device
        = (.ok, t₁)
      ∧ t = run step t₁ after
  miss : Option.Rel Becomes (attr.tableMiss.bind tables) (attr.tableMiss.bind tables')

/-- The device answers the query of a table with the context of the command that created it. -/
structure Echoes (c : Obj.Command) (t : DevxTable) (answers : Answers) : Prop where
  ok : (answers t.queryMailbox QueryFlowTableIn.bytes).Ok
  context : AgreeOn 0 FlowTableContext.bytes
    (slice (answers t.queryMailbox QueryFlowTableIn.bytes).out QueryFlowTableOut.flowTableContext)
    (slice c.mailbox CreateFlowTableIn.flowTableContext)

/-- What is read of a context for a table with the attributes `attr` whose miss table is
`tableMiss`. -/
structure ReadsAs (attr : FlowTableAttr) (tableMiss : Option DevxTable) (m : Memory) (p : Nat) :
    Prop where
  action : FlowTableMissAction.ofValue (devxGet m p FlowTableContext.tableMissAction)
    = attr.defMissAction
  level : (devxGet m p FlowTableContext.level).setWidth 8 = attr.level
  logSize : (devxGet m p FlowTableContext.logSize).setWidth 8 = attr.logSize
  decapEn : devxGet m p FlowTableContext.decapEn ≠ 0 ↔ attr.flags.getLsbD ftEnDecapBit = true
  reformatEn : devxGet m p FlowTableContext.reformatEn ≠ 0
    ↔ attr.flags.getLsbD ftEnReformatBit = true
  missOfDef : attr.defMissAction ≠ .fwd → devxGet m p FlowTableContext.tableMissId = 0
  missOfFwd : attr.defMissAction = .fwd → ∃ miss, tableMiss = some miss
    ∧ miss.mIsInitialized = true
    ∧ devxGet m p FlowTableContext.tableMissId = miss.mTableId &&& lowMask 24

/-- A flag of a field of one bit. -/
theorem devxGet_flag_ne_zero (m : Memory) (p : Nat) {f : Field} (hsize : f.size = 1) (b : Bool) :
  devxGet (devxSet m p f (if b then 1 else 0)) p f ≠ 0 ↔ b = true
  := by
  rw [devxGet_devxSet_self, hsize]
  cases b <;> decide

/-- The context of the command that creates a table. -/
theorem readsAs_of_command {t : DevxTable} {tableMiss : Option DevxTable} {c : Obj.Command}
    (h : t.command tableMiss = .ok c) :
  ReadsAs t.mAttr tableMiss c.mailbox CreateFlowTableIn.flowTableContext
  := by
  obtain ⟨m, haction, hmailbox⟩ := mailbox_of_command h
  rw [hmailbox]
  constructor
  case level =>
      simp (disch := decide) only [devxGet_devxSet_of_apart]
      apply setWidth_devxGet_devxSet (f := FlowTableContext.level) _ _ t.mAttr.level rfl
  case logSize =>
      simp (disch := decide) only [devxGet_devxSet_of_apart]
      apply setWidth_devxGet_devxSet (f := FlowTableContext.logSize) _ _ t.mAttr.logSize rfl
  case decapEn =>
      simp (disch := decide) only [devxGet_devxSet_of_apart]
      apply devxGet_flag_ne_zero _ _ rfl
  case reformatEn =>
      apply devxGet_flag_ne_zero _ _ rfl
  all_goals
    simp (disch := decide) only [devxGet_devxSet_of_apart]
    obtain ⟨hdef, rfl⟩ | ⟨hfwd, miss, hmiss, hinit, -, rfl⟩ := setMissAction_cases haction
  case action.inl =>
      rw [hdef, devxGet_devxSet_self]
      rfl
  case action.inr =>
      simp (disch := decide) only [devxGet_devxSet_of_apart]
      rw [hfwd, devxGet_devxSet_self]
      rfl
  case missOfDef.inl =>
      intro _
      simp (disch := decide) only [devxGet_devxSet_of_apart, devxGet_zeros]
  case missOfDef.inr =>
      intro hnot
      cases hnot hfwd
  case missOfFwd.inl =>
      intro hfwd
      cases hdef.symm.trans hfwd
  case missOfFwd.inr =>
      intro _
      use miss, hmiss, hinit
      apply devxGet_devxSet_self

/-- The flags that a context has. -/
def enFlags : BitVec 64 :=
  BitVec.twoPow 64 ftEnReformatBit ||| BitVec.twoPow 64 ftEnDecapBit

/-- The attributes of a table with its flags added to others, and with a pointer to a miss table. -/
def merged (attr : FullFlowTableAttr) (flags : BitVec 64) (tableMiss : Option Nat) :
    FullFlowTableAttr :=
  { attr with
    flags := flags ||| (attr.flags &&& enFlags)
    tableMiss := tableMiss }

theorem merged_eq_iff {attr : FullFlowTableAttr} {flags : BitVec 64} {tableMiss : Option Nat} :
  merged attr flags tableMiss = attr
    ↔ flags ||| (attr.flags &&& enFlags) = attr.flags ∧ tableMiss = attr.tableMiss
  := by
  constructor
  · intro h
    exact ⟨congrArg (fun attr => attr.flags) h, congrArg (fun attr => attr.tableMiss) h⟩
  · rintro ⟨hflags, rfl⟩
    rw [merged, hflags]

/-- What a creation that succeeds leaves. -/
theorem ready_of_create {t t' : DevxTable} {tableMiss : Option DevxTable} {device : Device}
    {c : Obj.Command} (hcommand : t.command tableMiss = .ok c)
    (h : t.create tableMiss device = (.ok, t')) :
  t'.mIsInitialized = true ∧ t'.mAttr = t.mAttr ∧ t'.base.mCtx = true
    ∧ t'.base.mObjHandle = true
  := by
  simp only [create, hcommand] at h
  rcases hbase : t.base.create device (some c.mailbox) c.inlen zeros c.outlen
    with ⟨ret, base, out⟩
  simp only [hbase] at h
  cases ret <;> cases h
  obtain ⟨hctx, -, -, hlive, -⟩ := Obj.sent_of_create hbase
  rw [Obj.live, Bool.and_eq_true] at hlive
  exact ⟨rfl, rfl, hctx, hlive.1⟩

section Created

variable {attr : FullFlowTableAttr} {tables tables' : Nat → Option DevxTable} {c : Obj.Command}
  {t : DevxTable} {answers : Answers}

/-- A table that was created can be queried. -/
theorem Created.ready (h : Created attr tables tables' c t) :
  t.mIsInitialized = true ∧ t.mAttr = attr.toFlowTableAttr ∧ t.base.mCtx = true
    ∧ t.base.mObjHandle = true
  := by
  obtain ⟨ctx, before, device, t₁, after, hcommand, hcreate, rfl⟩ := h.table
  obtain ⟨hinit, hattr, hctx, hhandle⟩ := ready_of_create hcommand hcreate
  have hsince := since_run hinit after
  rw [run_eq mAttr_step] at hattr
  refine ⟨?_, hsince.attr.trans hattr, hsince.base.ctx.trans hctx,
    hsince.base.objHandle.trans hhandle⟩
  rw [hsince.prm, hinit]

/-- What an answer with the created context reads as. -/
theorem Created.readsAs (h : Created attr tables tables' c t) (hecho : Echoes c t answers) :
  ReadsAs attr.toFlowTableAttr (attr.tableMiss.bind tables)
    (answers t.queryMailbox QueryFlowTableIn.bytes).out QueryFlowTableOut.flowTableContext
  := by
  obtain ⟨ctx, before, device, t₁, after, hcommand, -, -⟩ := h.table
  have hcreated := readsAs_of_command hcommand
  rw [run_eq mAttr_step] at hcreated
  have hsame {f : Field} (hf : 4 * (f.offset / 32) + 4 ≤ FlowTableContext.bytes) :
      devxGet (answers t.queryMailbox QueryFlowTableIn.bytes).out
          QueryFlowTableOut.flowTableContext f
        = devxGet c.mailbox CreateFlowTableIn.flowTableContext f := by
    have hslice := devxGet_agreeOn hecho.context (p := 0) (f := f) (Nat.zero_le _) (by omega)
    rwa [devxGet_slice, devxGet_slice] at hslice
  constructor
  all_goals rw [hsame (by decide)]
  · apply hcreated.action
  · apply hcreated.level
  · apply hcreated.logSize
  · apply hcreated.decapEn
  · apply hcreated.reformatEn
  · apply hcreated.missOfDef
  · apply hcreated.missOfFwd

/-- The id in the context is that of the miss table for a table that forwards to it, and otherwise
only if it is zero. -/
theorem Created.missId_iff (h : Created attr tables tables' c t) (hecho : Echoes c t answers)
    {miss : DevxTable} (hmiss : attr.tableMiss.bind tables' = some miss) :
  devxGet (answers t.queryMailbox QueryFlowTableIn.bytes).out QueryFlowTableOut.flowTableContext
      FlowTableContext.tableMissId = miss.mTableId
    ↔ attr.defMissAction = .fwd ∨ miss.mTableId = 0
  := by
  have hreads := h.readsAs hecho
  by_cases hfwd : attr.defMissAction = .fwd
  · obtain ⟨old, hold, hinit, hid⟩ := hreads.missOfFwd hfwd
    have hrel := h.miss
    rw [hold, hmiss] at hrel
    cases hrel with
    | some hbecomes =>
        obtain ⟨ctx, attr', before, after, hbefore, rfl⟩ := hbecomes
        have hfits : old.mTableId.toNat < 2 ^ 24 := by
          rw [hbefore]
          apply mTableId_run
        rw [hid, (since_run hinit after).prm,
          (and_lowMask_eq_self_iff (by decide) old.mTableId).mpr hfits]
        exact iff_of_true rfl (.inl hfwd)
  · rw [hreads.missOfDef hfwd]
    constructor
    · intro hzero
      exact .inr hzero.symm
    · rintro (hfwd' | hzero)
      · cases hfwd hfwd'
      · apply hzero.symm

/-- The two flags, added one after the other. -/
theorem or_and_enFlags (flags old : BitVec 64) :
  old ||| (flags &&& enFlags)
    = (let old := if flags.getLsbD ftEnDecapBit then old ||| BitVec.twoPow 64 ftEnDecapBit else old
      if flags.getLsbD ftEnReformatBit then old ||| BitVec.twoPow 64 ftEnReformatBit else old)
  := by
  have hor : flags &&& enFlags = (if flags.getLsbD ftEnReformatBit then
        BitVec.twoPow 64 ftEnReformatBit else 0#64)
      ||| (if flags.getLsbD ftEnDecapBit then BitVec.twoPow 64 ftEnDecapBit else 0#64) := by
    rw [enFlags, ← BitVec.and_twoPow, ← BitVec.and_twoPow, BitVec.and_or_distrib_left]
  rw [hor]
  cases flags.getLsbD ftEnDecapBit <;> cases flags.getLsbD ftEnReformatBit
  · simp
  · simp
  · simp
  · simp only [if_true]
    rw [BitVec.or_assoc, BitVec.or_comm (BitVec.twoPow 64 ftEnDecapBit)]

/-- A query with the created context reads the attributes, adds the flags to those that were there
before, and leaves the miss table as it was. -/
theorem readContext_eq {tableMiss : Option DevxTable} {out : Memory}
    (hattr : t.mAttr = attr.toFlowTableAttr)
    (h : ReadsAs attr.toFlowTableAttr tableMiss out QueryFlowTableOut.flowTableContext)
    (old : FullFlowTableAttr) :
  t.readContext out old = merged attr old.flags old.tableMiss
  := by
  rw [merged, or_and_enFlags]
  simp only [readContext, h.decapEn, h.reformatEn, h.action, h.level, h.logSize, hattr]
  split <;> split <;> rfl

/-- A query with the created context leaves the attributes of the table in place of `old`: the old
flags are flags of the table, and have all of them that are not in the context; the miss table is
written, or it was there before; and a miss table can tell its id. -/
structure Suits (attr : FullFlowTableAttr) (tables : Nat → Option DevxTable)
    (old : FullFlowTableAttr) : Prop where
  flags : old.flags ||| (attr.flags &&& enFlags) = attr.flags
  tableMiss : old.tableMiss = attr.tableMiss
    ∨ ∃ miss, attr.tableMiss.bind tables = some miss
      ∧ (attr.defMissAction = .fwd ∨ miss.mTableId = 0)
  created : ∀ miss, attr.tableMiss.bind tables = some miss → miss.mIsInitialized = true

/-- What a query leaves when the device answers with the created context.  It fails only if the miss
table was not created, and the miss table is written only if its id is in the context. -/
theorem Created.query_cases (h : Created attr tables tables' c t) (hecho : Echoes c t answers)
    (old : FullFlowTableAttr) :
  ∃ ret t' tableMiss, t.query attr.tableMiss tables' answers old
      = some (ret, t', merged attr old.flags tableMiss)
    ∧ (ret = .ok ↔ ∀ miss, attr.tableMiss.bind tables' = some miss → miss.mIsInitialized = true)
    ∧ (ret = .ok → (tableMiss = attr.tableMiss
      ↔ old.tableMiss = attr.tableMiss
        ∨ ∃ miss, attr.tableMiss.bind tables' = some miss
          ∧ (attr.defMissAction = .fwd ∨ miss.mTableId = 0)))
  := by
  obtain ⟨hinit, hattr, hctx, hhandle⟩ := h.ready
  have hlen : ¬ (QueryFlowTableIn.bytes < 16 ∨ QueryFlowTableOut.bytes < 16) := by decide
  have hcommand := Obj.command_eq hctx hhandle hlen .errQuery answers t.queryMailbox zeros
  rw [if_pos hecho.ok] at hcommand
  have hread (t' : DevxTable) (ht' : t'.mAttr = t.mAttr) :=
    readContext_eq (ht'.trans hattr) (h.readsAs hecho) old
  simp only [query, Obj.query, hinit, hcommand, Bool.not_true, Bool.false_eq_true, if_false,
    Option.bind_eq_bind, Option.bind_some, hread]
  generalize ({ t with
    base := t.base.remember (answers t.queryMailbox QueryFlowTableIn.bytes).out } : DevxTable) = t'
  cases hbind : attr.tableMiss.bind tables' with
  | none =>
      refine ⟨.ok, t', old.tableMiss, rfl, ?_, ?_⟩
      · simp
      · simp
  | some miss =>
      have hid := h.missId_iff hecho hbind
      cases hmiss : miss.mIsInitialized with
      | false =>
          refine ⟨.errNotApplied, t', old.tableMiss, ?_, ?_, ?_⟩
          · simp only [FlowTablePrm.getTableId, hmiss, Bool.not_false, if_true]
          · simp [hmiss]
          · intro hok
            cases hok
      | true =>
          by_cases hwritten : attr.defMissAction = .fwd ∨ miss.mTableId = 0
          · refine ⟨.ok, t', attr.tableMiss, ?_, ?_, ?_⟩
            · simp only [FlowTablePrm.getTableId, hmiss, Bool.not_true, Bool.false_eq_true,
                if_false, if_pos (hid.mpr hwritten)]
              rfl
            · simp [hmiss]
            · intro _
              exact iff_of_true rfl (.inr ⟨miss, rfl, hwritten⟩)
          · refine ⟨.ok, t', old.tableMiss, ?_, ?_, ?_⟩
            · simp only [FlowTablePrm.getTableId, hmiss, Bool.not_true, Bool.false_eq_true,
                if_false, if_neg (hid.not.mpr hwritten)]
            · simp [hmiss]
            · intro _
              constructor
              · exact .inl
              · rintro (hsame | ⟨_, heq, hwritten'⟩)
                · apply hsame
                · cases heq
                  cases hwritten hwritten'

/-- A query that is answered with the created context leaves the attributes of the table exactly if
the old ones suit it. -/
theorem Created.returns_iff (h : Created attr tables tables' c t) (hecho : Echoes c t answers)
    (old : FullFlowTableAttr) :
  t.Returns attr.tableMiss tables' answers old attr ↔ Suits attr tables' old
  := by
  obtain ⟨ret, t', tableMiss, hquery, hok, hmiss⟩ := h.query_cases hecho old
  rw [Returns, hquery]
  constructor
  · rintro ⟨_, hout⟩
    injection hout with hout
    injection hout with hret hout
    injection hout with _ hout
    obtain ⟨hflags, htableMiss⟩ := merged_eq_iff.mp hout
    exact ⟨hflags, (hmiss hret).mp htableMiss, hok.mp hret⟩
  · rintro ⟨hflags, htableMiss, hcreated⟩
    have hret := hok.mpr hcreated
    use t'
    rw [hret, merged_eq_iff.mpr ⟨hflags, (hmiss hret).mpr htableMiss⟩]

/-- Two queries of a table that are answered with the created context leave the same attributes, and
they are those of the table, exactly if what the two structures held before suits the table. -/
theorem query_same_iff (hcreated : Created attr tables tables' c t) (hecho : Echoes c t answers)
    (old old' : FullFlowTableAttr) :
  (∃ out, t.Returns attr.tableMiss tables' answers old out
      ∧ t.Returns attr.tableMiss tables' answers old' out ∧ out = attr)
    ↔ Suits attr tables' old ∧ Suits attr tables' old'
  := by
  rw [← hcreated.returns_iff hecho old, ← hcreated.returns_iff hecho old']
  constructor
  · rintro ⟨out, h, h', rfl⟩
    exact ⟨h, h'⟩
  · rintro ⟨h, h'⟩
    exact ⟨attr, h, h', rfl⟩

end Created

/-! ### Tables that are queried -/

/-- The answer to every query is the context of a command. -/
def echo (c : Obj.Command) : Answers :=
  fun _ _ => ⟨false, fun i => if i < QueryFlowTableOut.flowTableContext then 0 else c.mailbox i⟩

theorem echoes_echo (c : Obj.Command) (t : DevxTable) :
  Echoes c t (echo c)
  := by
  have hheader : AgreeOn 0 QueryFlowTableOut.flowTableContext
      (echo c t.queryMailbox QueryFlowTableIn.bytes).out zeros := by
    intro i _ hi
    simp only [echo, if_pos hi, zeros]
  constructor
  · refine ⟨rfl, ?_⟩
    rw [devxGet_agreeOn hheader (Nat.zero_le _) (by decide), devxGet_zeros]
  · intro i _ _
    have hcontext : ¬ QueryFlowTableOut.flowTableContext + i
        < QueryFlowTableOut.flowTableContext := by
      omega
    simp only [slice, echo, if_neg hcontext]
    rfl

/-- The device makes everything that it is asked for, under the number `id`. -/
def grants (id : BitVec 32) : Device :=
  fun _ _ => ⟨true, devxSet zeros 0 CreateFlowTableOut.tableId id⟩

/-- A table that was made and created. -/
theorem created_of_create (attr : FullFlowTableAttr) (tables : Nat → Option DevxTable)
    (device : Device) {c : Obj.Command}
    (hcommand : (new true attr.toFlowTableAttr).command (attr.tableMiss.bind tables) = .ok c)
    (hok : ((new true attr.toFlowTableAttr).create (attr.tableMiss.bind tables) device).1 = .ok)
    (hmiss : Option.Rel Becomes (attr.tableMiss.bind tables) (attr.tableMiss.bind tables)) :
  Created attr tables tables c
    ((new true attr.toFlowTableAttr).create (attr.tableMiss.bind tables) device).2
  := ⟨⟨true, [], device, _, [], hcommand, Prod.ext hok rfl, rfl⟩, hmiss⟩

/-- The attributes of a table of 1024 flows at a level, with the default miss action. -/
def plain (level : BitVec 8) : FlowTableAttr where
  flags := 0
  logSize := 10
  level := level
  type := 0
  opMod := .normal
  defMissAction := .dflt

/-- The table at the level 2 that the device made under the number 7. -/
def missTable : DevxTable :=
  ((new true (plain 2)).create none (grants 7)).2

/-- The miss table at the address 1. -/
def missTables (k : Nat) : Option DevxTable :=
  if k = 1 then some missTable else none

/-- A table at the level 1 that forwards to the miss table. -/
def forwarding : FullFlowTableAttr :=
  { plain 1 with defMissAction := .fwd, tableMiss := some 1 }

/-- The queries of a table that forwards leave the same in two structures without flags. -/
theorem query_same_forwarding :
  ∃ c t, Created forwarding missTables missTables c t ∧ Echoes c t (echo c)
    ∧ ∃ out, t.Returns (some 1) missTables (echo c) .new out
      ∧ t.Returns (some 1) missTables (echo c) ⟨plain 3, some 2⟩ out ∧ out = forwarding
  := by
  have hmiss : forwarding.tableMiss.bind missTables = some missTable := rfl
  have hinit : missTable.mIsInitialized = true := by decide +kernel
  have hbecomes : Becomes missTable missTable :=
    ⟨true, plain 2, [.create none (grants 7)], [], rfl, rfl⟩
  have hcreated := created_of_create forwarding missTables (grants 8) rfl (by decide +kernel)
    (by
      rw [hmiss]
      exact .some hbecomes)
  have hsuits {old : FullFlowTableAttr} (hflags : old.flags = 0) :
      Suits forwarding missTables old := by
    refine ⟨?_, .inr ⟨missTable, hmiss, .inl rfl⟩, ?_⟩
    · rw [hflags]
      decide
    · rw [hmiss]
      rintro _ ⟨⟩
      apply hinit
  refine ⟨_, _, hcreated, echoes_echo _ _, ?_⟩
  apply (query_same_iff hcreated (echoes_echo _ _) .new ⟨plain 3, some 2⟩).mpr
  exact ⟨hsuits rfl, hsuits rfl⟩

/-- A query adds the flags of the table to those of an earlier query of another table, and leaves
the miss table of that one. -/
theorem query_keeps_old :
  ∃ c t, Created ⟨plain 1, none⟩ (fun _ => none) (fun _ => none) c t ∧ Echoes c t (echo c)
    ∧ (¬ ∃ out, t.Returns none (fun _ => none) (echo c) .new out
      ∧ t.Returns none (fun _ => none) (echo c)
        { FullFlowTableAttr.new with flags := BitVec.twoPow 64 ftEnDecapBit } out
      ∧ out = ⟨plain 1, none⟩)
    ∧ ¬ ∃ out, t.Returns none (fun _ => none) (echo c) .new out
      ∧ t.Returns none (fun _ => none) (echo c)
        { FullFlowTableAttr.new with tableMiss := some 1 } out
      ∧ out = ⟨plain 1, none⟩
  := by
  have hcreated := created_of_create ⟨plain 1, none⟩ (fun _ => none) (grants 7) rfl
    (by decide +kernel) .none
  refine ⟨_, _, hcreated, echoes_echo _ _, ?_, ?_⟩
  · rintro ⟨_, -, hout, rfl⟩
    have hflags := ((hcreated.returns_iff (echoes_echo _ _) _).mp hout).flags
    revert hflags
    decide
  · rintro ⟨_, -, hout, rfl⟩
    rcases ((hcreated.returns_iff (echoes_echo _ _) _).mp hout).tableMiss with h | ⟨_, h, -⟩
    · cases h
    · cases h

end DevxTable

end Dpcp
