import Dpcp.Flow.RulePrm
import Dpcp.Ownership

/-!
# Creating tables, groups and rules

`flow_table_prm::create` sends a `CREATE_FLOW_TABLE` command.  A table that forwards what it does
not match names another table, its miss table, which has to be created and of a higher level.

A `create` of a table, a group or a rule, and of the context of a modify action, can end in four
ways, the outcomes; each of the functions is read here as an outcome.  The functions on tables,
groups and contexts do not send a command for an object that was created; the one on rules does.
-/

namespace Dpcp

open Bits Dcmd Prm

/-- `enum flow_table_op_mod`, and any other value of its representation. -/
inductive FlowTableOpMod where
  | normal
  | other (v : BitVec 32)

def FlowTableOpMod.value : FlowTableOpMod → BitVec 32
  | normal => 0x0
  | other v => v

/-- `enum flow_table_miss_action`, and any other value of its representation. -/
inductive FlowTableMissAction where
  | dflt
  | fwd
  | other (v : BitVec 32)

/-- `struct flow_table_attr` but for the miss table. -/
structure FlowTableAttr where
  flags : BitVec 64
  logSize : BitVec 8
  level : BitVec 8
  type : BitVec 32
  opMod : FlowTableOpMod
  defMissAction : FlowTableMissAction

/-- `class flow_table_prm` with its base class and attributes, a DEVX flow table. -/
structure DevxTable extends FlowTablePrm where
  base : Obj
  mAttr : FlowTableAttr

namespace DevxTable

def mlx5CmdOpCreateFlowTable : BitVec 32 := 0x930
def ftMissActionDef : BitVec 32 := 0x0
def ftMissActionFwd : BitVec 32 := 0x1

/-- `FT_EN_REFORMAT` and `FT_EN_DECAP`, as the numbers of their bits. -/
def ftEnReformatBit : Nat := 0
def ftEnDecapBit : Nat := 1

/-- The constructor of `flow_table_prm`. -/
def new (ctx : Bool) (attr : FlowTableAttr) : DevxTable where
  mIsInitialized := false
  mType := attr.type
  mTableId := 0
  base := .new ctx
  mAttr := attr

/-- `get_table_level`. -/
def getTableLevel (t : DevxTable) (tableLevel : BitVec 8) : Result (BitVec 8) :=
  if !t.mIsInitialized then (.errNotApplied, tableLevel) else (.ok, t.mAttr.level)

/-- `set_miss_action`; `tableMiss` is what `m_attr.table_miss` points to, if it is a PRM table. -/
def setMissAction (t : DevxTable) (tableMiss : Option DevxTable) (m : Memory) :
    Result Memory :=
  let p := CreateFlowTableIn.flowTableContext
  match t.mAttr.defMissAction with
  | .dflt => (.ok, devxSet m p FlowTableContext.tableMissAction ftMissActionDef)
  | .fwd =>
      match tableMiss with
      | none => (.errInvalidParam, m)
      | some primTableMiss =>
          match primTableMiss.getTableId 0, primTableMiss.getTableLevel 0 with
          | (.ok, missTableId), (.ok, missTableLevel) =>
              if missTableLevel ≤ t.mAttr.level then
                (.errInvalidParam, m)
              else
                let m := devxSet m p FlowTableContext.tableMissAction ftMissActionFwd
                (.ok, devxSet m p FlowTableContext.tableMissId missTableId)
          | _, _ => (.errInvalidParam, m)
  | .other _ => (.errNoSupport, m)

/-- The command of `create`, or the status with which it ends before. -/
def command (t : DevxTable) (tableMiss : Option DevxTable) : Except Status Obj.Command :=
  if t.mIsInitialized then
    .error .ok
  else
    let m := devxSet zeros 0 CreateFlowTableIn.opMod t.mAttr.opMod.value
    let r : Result Memory := match t.mAttr.opMod with
      | .normal => t.setMissAction tableMiss m
      | .other _ => (.errNoSupport, m)
    match r with
    | (.ok, m) =>
        let p := CreateFlowTableIn.flowTableContext
        let m := devxSet m 0 CreateFlowTableIn.opcode mlx5CmdOpCreateFlowTable
        let m := devxSet m 0 CreateFlowTableIn.tableType t.mAttr.type
        let m := devxSet m p FlowTableContext.level (t.mAttr.level.setWidth 32)
        let m := devxSet m p FlowTableContext.logSize (t.mAttr.logSize.setWidth 32)
        let m := devxSet m p FlowTableContext.decapEn
          (if t.mAttr.flags.getLsbD ftEnDecapBit then 1 else 0)
        let m := devxSet m p FlowTableContext.reformatEn
          (if t.mAttr.flags.getLsbD ftEnReformatBit then 1 else 0)
        .ok ⟨m, CreateFlowTableIn.bytes, CreateFlowTableOut.bytes⟩
    | (ret, _) => .error ret

/-- `flow_table_prm::create`. -/
def create (t : DevxTable) (tableMiss : Option DevxTable) (device : Device) : Result DevxTable :=
  match t.command tableMiss with
  | .error ret => (ret, t)
  | .ok c =>
      let (ret, base, out) := t.base.create device (some c.mailbox) c.inlen zeros c.outlen
      let t := { t with base := base }
      match ret with
      | .ok =>
          (.ok, { t with
            mTableId := devxGet out 0 CreateFlowTableOut.tableId
            mIsInitialized := true })
      | ret => (ret, t)

end DevxTable

/-! ### The command of a table -/

namespace DevxTable

/-- The miss action that could be set. -/
theorem setMissAction_cases {t : DevxTable} {tableMiss : Option DevxTable} {m m' : Memory}
    (h : t.setMissAction tableMiss m = (.ok, m')) :
  let p := CreateFlowTableIn.flowTableContext
  t.mAttr.defMissAction = .dflt
      ∧ m' = devxSet m p FlowTableContext.tableMissAction ftMissActionDef
    ∨ t.mAttr.defMissAction = .fwd ∧ ∃ miss, tableMiss = some miss ∧ miss.mIsInitialized = true
      ∧ t.mAttr.level < miss.mAttr.level
      ∧ m' = devxSet (devxSet m p FlowTableContext.tableMissAction ftMissActionFwd) p
        FlowTableContext.tableMissId miss.mTableId
  := by
  intro p
  cases haction : t.mAttr.defMissAction with
  | dflt =>
      simp only [setMissAction, haction] at h
      cases h
      exact .inl ⟨rfl, rfl⟩
  | other v =>
      simp only [setMissAction, haction] at h
      cases h
  | fwd =>
      right
      refine ⟨rfl, ?_⟩
      cases tableMiss with
      | none =>
          simp only [setMissAction, haction] at h
          cases h
      | some miss =>
          use miss, rfl
          cases hmiss : miss.mIsInitialized with
          | false =>
              simp [setMissAction, haction, FlowTablePrm.getTableId, hmiss] at h
          | true =>
              simp only [setMissAction, haction, FlowTablePrm.getTableId, getTableLevel, hmiss,
                Bool.not_true, Bool.false_eq_true, if_false] at h
              split at h
              · cases h
              · rename_i hlevel
                cases h
                exact ⟨rfl, BitVec.not_le.mp hlevel, rfl⟩

/-- The mailbox of the command that creates a table. -/
theorem mailbox_of_command {t : DevxTable} {tableMiss : Option DevxTable} {c : Obj.Command}
    (h : t.command tableMiss = .ok c) :
  let p := CreateFlowTableIn.flowTableContext
  ∃ m, t.setMissAction tableMiss (devxSet zeros 0 CreateFlowTableIn.opMod t.mAttr.opMod.value)
      = (.ok, m)
    ∧ c.mailbox = devxSet (devxSet (devxSet (devxSet (devxSet (devxSet m
      0 CreateFlowTableIn.opcode mlx5CmdOpCreateFlowTable)
      0 CreateFlowTableIn.tableType t.mAttr.type)
      p FlowTableContext.level (t.mAttr.level.setWidth 32))
      p FlowTableContext.logSize (t.mAttr.logSize.setWidth 32))
      p FlowTableContext.decapEn (if t.mAttr.flags.getLsbD ftEnDecapBit then 1 else 0))
      p FlowTableContext.reformatEn (if t.mAttr.flags.getLsbD ftEnReformatBit then 1 else 0)
  := by
  intro p
  simp only [command] at h
  split at h
  · cases h
  · split at h
    · rename_i m hret
      split at hret
      · cases h
        exact ⟨m, hret, rfl⟩
      · cases hret
    · cases h

/-- A table that sends the command of `create` was not created before. -/
theorem not_initialized_of_command {t : DevxTable} {tableMiss : Option DevxTable} {c : Obj.Command}
    (h : t.command tableMiss = .ok c) :
  t.mIsInitialized = false
  := by
  cases hinit : t.mIsInitialized with
  | false => rfl
  | true =>
      simp only [command, hinit, if_true] at h
      cases h

/-- What becomes of a table by `create`: it stays as it is, or it was not created before and gets
another object, and an id of the device if it is created now. -/
theorem create_cases (t : DevxTable) (tableMiss : Option DevxTable) (device : Device) :
  (t.create tableMiss device).2 = t
    ∨ t.mIsInitialized = false
      ∧ ∃ base out, (t.create tableMiss device).2 = { t with base := base }
        ∨ (t.create tableMiss device).2 = { t with
          base := base
          mTableId := devxGet out 0 CreateFlowTableOut.tableId
          mIsInitialized := true }
  := by
  simp only [create]
  split
  · left
    rfl
  · rename_i c hcommand
    right
    refine ⟨not_initialized_of_command hcommand, ?_⟩
    obtain ⟨ret, base, out⟩ := t.base.create device (some c.mailbox) c.inlen zeros c.outlen
    use base, out
    cases ret with
    | ok =>
        right
        rfl
    | _ =>
        left
        rfl

end DevxTable

/-! ### Outcomes -/

/-- A table that was created sends no command; otherwise the outcome tells what becomes of it. -/
theorem DevxTable.create_outcome (t : DevxTable) (tableMiss : Option DevxTable)
    (device : Device) :
  let outcome := t.base.outcome device (t.command tableMiss)
  (t.create tableMiss device).1 = outcome.status
    ∧ (t.create tableMiss device).2.base.live = outcome.handle t.base.live
    ∧ (t.create tableMiss device).2.mIsInitialized = outcome.marks t.mIsInitialized
    ∧ (t.mIsInitialized = true → outcome = .refused .ok)
  := by
  intro outcome
  have hinitialized (h : t.mIsInitialized = true) : t.command tableMiss = .error .ok := by
    simp only [command, h, if_true]
  cases hcommand : t.command tableMiss with
  | error ret =>
      simp only [outcome, create, hcommand]
      refine ⟨rfl, rfl, rfl, ?_⟩
      intro h
      cases hcommand.symm.trans (hinitialized h)
      rfl
  | ok c =>
      obtain ⟨hstatus, hlive, hmarks⟩ := t.base.create_outcome device c zeros
      simp only [outcome, create, hcommand]
      rw [← hstatus, ← hlive, hmarks]
      generalize t.base.create device (some c.mailbox) c.inlen zeros c.outlen = r
      obtain ⟨ret, base, out⟩ := r
      refine ⟨?_, ?_, ?_, ?_⟩
      · cases ret <;> rfl
      · cases ret <;> rfl
      · cases ret <;> rfl
      · intro h
        cases hcommand.symm.trans (hinitialized h)

namespace FlowGroupPrm

/-- The command of `create`, or the status with which it ends before. -/
def command (g : FlowGroupPrm) (table : Option FlowTablePrm) : Except Status Obj.Command :=
  match g.group.create table.isSome with
  | (.ok, group) =>
      match table, group.mMatcher with
      | some t, some matcher =>
          match t.getTableId 0 with
          | (.ok, flowTableId) =>
              .ok ⟨mailbox group flowTableId matcher, CreateFlowGroupIn.bytes,
                CreateFlowGroupOut.bytes⟩
          | _ => .error .errInvalidParam
      | _, _ => .error .errInvalidParam
  | _ => .error .errNoMemory

/-- `flow_group::create` makes the matcher, and nothing else changes. -/
theorem group_create (g : FlowGroup) (table : Bool) :
  (g.create table).2.base = g.base ∧ (g.create table).2.mIsInitialized = g.mIsInitialized
    ∧ ((g.create table).1 = .ok → g.mIsInitialized = false)
  := by
  simp only [FlowGroup.create]
  split
  · exact ⟨rfl, rfl, by simp⟩
  · split
    · exact ⟨rfl, rfl, by simp⟩
    · rename_i hinitialized
      exact ⟨rfl, rfl, fun _ => by simpa using hinitialized⟩

/-- A group that was created sends no command; otherwise the outcome tells what becomes of it. -/
theorem create_outcome (g : FlowGroupPrm) (table : Option FlowTablePrm) (device : Device) :
  let outcome := g.group.base.outcome device (g.command table)
  (g.create table device).1 = outcome.status
    ∧ (g.create table device).2.1.group.base.live = outcome.handle g.group.base.live
    ∧ (g.create table device).2.1.group.mIsInitialized
      = outcome.marks g.group.mIsInitialized
    ∧ (g.group.mIsInitialized = true → outcome = .refused .errNoMemory)
  := by
  intro outcome
  obtain ⟨hbase, hinit, hnew⟩ := group_create g.group table.isSome
  simp only [outcome, command, create]
  generalize g.group.create table.isSome = r at hbase hinit hnew
  obtain ⟨ret, base, attr, initialized, matcher⟩ := r
  dsimp only at hbase hinit hnew ⊢
  rw [← hbase, ← hinit]
  cases ret with
  | ok =>
      have hnew : initialized ≠ true := by
        rw [hinit, hnew rfl]
        apply Bool.false_ne_true
      cases table with
      | none => exact ⟨rfl, rfl, rfl, fun h => absurd h hnew⟩
      | some t =>
          cases matcher with
          | none => exact ⟨rfl, rfl, rfl, fun h => absurd h hnew⟩
          | some matcher =>
              dsimp only
              generalize t.getTableId 0 = id
              obtain ⟨ret, flowTableId⟩ := id
              cases ret with
              | ok =>
                  obtain ⟨hstatus, hlive, hmarks⟩ := base.create_outcome device
                    ⟨mailbox ⟨base, attr, initialized, some matcher⟩ flowTableId matcher,
                      CreateFlowGroupIn.bytes, CreateFlowGroupOut.bytes⟩ zeros
                  dsimp only at hstatus hlive hmarks ⊢
                  rw [← hstatus, ← hlive, hmarks]
                  generalize base.create device _ _ _ _ = r
                  obtain ⟨ret, base', out⟩ := r
                  refine ⟨?_, ?_, ?_, fun h => absurd h hnew⟩
                  · cases ret <;> rfl
                  · cases ret <;> rfl
                  · cases ret <;> rfl
              | _ => exact ⟨rfl, rfl, rfl, fun h => absurd h hnew⟩
  | _ => exact ⟨rfl, rfl, rfl, fun _ => rfl⟩

end FlowGroupPrm

namespace FlowRuleExPrm

/-- The command of `create`, or the status with which it ends before. -/
def commandOrStatus (r : FlowRuleExPrm) (env : Env) (alloc : Bool) (order : List FlowAction) :
    Except Status Obj.Command :=
  match r.command env alloc order with
  | some c => .ok c
  | none => .error (r.create env alloc order).1

/-- No command is sent and the rule stays as it is, or the status is that of `obj::create`. -/
theorem create_cases (r : FlowRuleExPrm) (env : Env) (alloc : Bool) (order : List FlowAction) :
  (r.command env alloc order = none ∧ (r.create env alloc order).2.1 = r)
    ∨ ∃ c, r.command env alloc order = some c ∧ (r.create env alloc order).1
      = (r.base.create env.device (some c.mailbox) c.inlen zeros c.outlen).1
  := by
  simp only [command, create]
  split
  · exact .inl ⟨rfl, rfl⟩
  · split
    · exact .inl ⟨rfl, rfl⟩
    · split
      · split
        · rename_i hret
          exact .inr ⟨_, rfl, hret.symm⟩
        · exact .inr ⟨_, rfl, rfl⟩
      · exact .inl ⟨rfl, rfl⟩

/-- The outcome tells what becomes of a rule, whether or not it was created before. -/
theorem create_outcome (r : FlowRuleExPrm) (env : Env) (alloc : Bool) (order : List FlowAction) :
  let outcome := r.base.outcome env.device (r.commandOrStatus env alloc order)
  (r.create env alloc order).1 = outcome.status
    ∧ (r.create env alloc order).2.1.base.live = outcome.handle r.base.live
  := by
  intro outcome
  have hbase := r.create_base env alloc order
  rcases r.create_cases env alloc order with ⟨hnone, hsame⟩ | ⟨c, hc, hret⟩
  · simp only [outcome, commandOrStatus, hnone, hsame]
    exact ⟨rfl, rfl⟩
  · obtain ⟨hstatus, hlive, -⟩ := r.base.create_outcome env.device c zeros
    simp only [outcome, commandOrStatus, hc]
    rw [hret, hbase, hc]
    exact ⟨hstatus, hlive⟩

end FlowRuleExPrm

namespace FlowActionModify

/-- The command of `apply`, or the status with which it ends before; a valid action needs none. -/
def command (a : FlowActionModify) (alloc : Bool) : Except Status Obj.Command :=
  if a.mIsValid then
    .error .ok
  else
    match a.preparePrmModifyBuff alloc with
    | (.ok, a) =>
        match a.mIn with
        | some m => .ok ⟨m, a.mInlen, AllocModifyHeaderContextOut.bytes⟩
        | none => .error .errInvalidParam
    | (ret, _) => .error ret

/-- The buffer is made or not; the rest of the action stays as it is. -/
theorem preparePrmModifyBuff_base (a : FlowActionModify) (alloc : Bool) :
  (a.preparePrmModifyBuff alloc).2.base = a.base
    ∧ (a.preparePrmModifyBuff alloc).2.mIsValid = a.mIsValid
    ∧ ((a.preparePrmModifyBuff alloc).1 = .ok → (a.preparePrmModifyBuff alloc).2.mIn.isSome)
  := by
  cases alloc with
  | false => exact ⟨rfl, rfl, by simp [preparePrmModifyBuff]⟩
  | true => exact ⟨rfl, rfl, fun _ => rfl⟩

/-- A valid action sends no command; otherwise the outcome tells what becomes of it. -/
theorem prepare_outcome (a : FlowActionModify) (env : Env) :
  let outcome := a.base.outcome env.device (a.command env.alloc)
  (a.prepare env).1 = outcome.status
    ∧ (a.prepare env).2.base.live = outcome.handle a.base.live
    ∧ (a.prepare env).2.mIsValid = outcome.marks a.mIsValid
    ∧ (a.mIsValid = true → outcome = .refused .ok)
  := by
  intro outcome
  cases hvalid : a.mIsValid with
  | true =>
      simp only [outcome, command, prepare, hvalid, if_true, Bool.not_true, Bool.false_eq_true,
        if_false]
      exact ⟨rfl, rfl, rfl, fun _ => rfl⟩
  | false =>
      obtain ⟨hbase, hsame, hin⟩ := a.preparePrmModifyBuff_base env.alloc
      simp only [outcome, command, prepare, hvalid, Bool.not_false, if_true, Bool.false_eq_true,
        if_false, createPrmModify]
      rw [hvalid] at hsame
      generalize a.preparePrmModifyBuff env.alloc = r at hbase hsame hin
      obtain ⟨ret, b⟩ := r
      dsimp only at hbase hsame hin ⊢
      rw [← hbase, ← hsame]
      cases ret with
      | ok =>
          obtain ⟨m, hm⟩ := Option.isSome_iff_exists.mp (hin rfl)
          obtain ⟨hstatus, hlive, hmarks⟩ := b.base.create_outcome env.device
            ⟨m, b.mInlen, AllocModifyHeaderContextOut.bytes⟩ b.mOut
          simp only [Result.andThen, hm]
          rw [← hstatus, ← hlive, hmarks]
          generalize b.base.create env.device _ _ _ _ = r
          obtain ⟨ret, base, out⟩ := r
          refine ⟨?_, ?_, ?_, by simp⟩
          · cases ret <;> rfl
          · cases ret <;> rfl
          · cases ret <;> rfl
      | _ => exact ⟨rfl, rfl, rfl, by simp⟩

end FlowActionModify

end Dpcp
