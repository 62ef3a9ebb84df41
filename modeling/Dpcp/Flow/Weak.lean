import Dpcp.Flow.Miss
import Dpcp.Flow.RuleKernel
import Dpcp.Machine.Custody

/-!
# Groups and rules whose parents are gone

A table holds its groups and a group holds its rules, but a group has only a weak pointer to its
table, and a rule has weak pointers to its group and its table.  The application can make a pointer
of its own to a group or a rule, and then use the group or the rule after the parent was removed or
released.

`flow_group::create` looks whether the table is still there.  `flow_group_prm::get_table_id`,
`flow_rule_ex_prm::config_flow_rule` and `flow_rule_ex_kernel::set_match_params` use what the weak
pointer gives without looking; where that is nothing, the call has no result here.
-/

namespace Dpcp

open Machine Keyed Custody Bits Dcmd Prm

/-! ### Groups -/

/-- `flow_group_prm::get_table_id`; `table` is the table of the group if it is still there.  There
is no result if the table is used and is gone. -/
def FlowGroupPrm.getTableId (g : FlowGroupPrm) (table : Option FlowTablePrm) (tableId : BitVec 32) :
    Option (Result (BitVec 32)) :=
  if !g.group.mIsInitialized then
    some (.errNotApplied, tableId)
  else
    table.map fun t =>
      match t.getTableId 0 with
      | (.ok, tId) => (.ok, tId)
      | _ => (.errQuery, tableId)

/-- A flow group, of one of the two classes. -/
inductive FlowGroupObj where
  | prm (group : FlowGroupPrm)
  | kernel (group : FlowGroup)

namespace FlowGroupObj

/-- The base class. -/
def base : FlowGroupObj → FlowGroup
  | prm g => g.group
  | kernel g => g

/-- The pointer cast to `flow_group_prm`. -/
def toPrm : FlowGroupObj → Option FlowGroupPrm
  | prm g => some g
  | kernel _ => none

/-- The virtual `create`; `table` is the table of the group if it is still there. -/
def create (table : Option FlowTableObj) (device : Device) : FlowGroupObj → Result FlowGroupObj
  | prm g =>
      let prmTable := (table.bind FlowTableObj.toPrm).map DevxTable.toFlowTablePrm
      let (ret, g, _) := g.create prmTable device
      (ret, prm g)
  | kernel g =>
      let (ret, g) := FlowGroupKernel.create g table.isSome
      (ret, kernel g)

end FlowGroupObj

/-- The group that `create_flow_group` makes, with the context of the table.  A root table has
one. -/
def FlowTableObj.newGroup (attr : FlowGroupAttr) : FlowTableObj → FlowGroupObj
  | prm t => .prm ⟨.new t.base.mCtx attr, 0⟩
  | kernel _ => .kernel (.new true attr)

/-! ### Rules -/

/-- `class flow_rule_ex`, with the number of the table in `m_table`. -/
structure FlowRuleEx where
  base : Obj
  mMatchValue : MatchParamsEx
  mIsInitialized : Bool
  mTable : Nat
  mIsValidActions : Bool
  mActions : ActionMap
  mMatcher : FlowMatcher

/-- The constructor of `flow_rule_ex`. -/
def FlowRuleEx.new (ctx : Bool) (attr : FlowRuleAttrEx) (table : Nat) (matcher : FlowMatcher) :
    FlowRuleEx :=
  let (isValidActions, actions) := verifyFlowActions attr.actions
  { base := .new ctx
    mMatchValue := attr.matchValue
    mIsInitialized := false
    mTable := table
    mIsValidActions := isValidActions
    mActions := actions
    mMatcher := matcher }

/-- A rule of a PRM table with the parents that its weak pointers give. -/
def FlowRuleEx.lockPrm (r : FlowRuleEx) (flowIndex : BitVec 32) (table : FlowTablePrm)
    (group : FlowGroupPrm) : FlowRuleExPrm where
  base := r.base
  mMatchValue := r.mMatchValue
  mIsInitialized := r.mIsInitialized
  mTable := table
  mGroup := group
  mIsValidActions := r.mIsValidActions
  mActions := r.mActions
  mMatcher := r.mMatcher
  mFlowIndex := flowIndex

/-- A rule of the root table with the group that its weak pointer gives. -/
def FlowRuleEx.lockKernel (r : FlowRuleEx) (priority : BitVec 16) (flow : Option Flow)
    (group : FlowGroup) : RootRule where
  mMatchValue := r.mMatchValue
  mGroup := group
  mIsValidActions := r.mIsValidActions
  mActions := r.mActions
  mMatcher := r.mMatcher
  mPriority := priority
  base := r.base
  mFlow := flow

/-- What the world outside gives to the `create` of a rule, and the order of the actions. -/
structure RuleEnv where
  env : Env
  root : RootEnv
  alloc : Bool
  order : List FlowAction

/-- A flow rule, of one of the two classes. -/
inductive FlowRuleObj where
  | prm (rule : FlowRuleEx) (flowIndex : BitVec 32)
  | kernel (rule : FlowRuleEx) (priority : BitVec 16) (flow : Option Flow)

namespace FlowRuleObj

/-- The base class. -/
def base : FlowRuleObj → FlowRuleEx
  | prm r _ => r
  | kernel r _ _ => r

/-- The virtual `create`; `table` and `group` are the parents of the rule if they are still there.
There is no result if a parent is used and is gone. -/
def create (table : Option FlowTableObj) (group : Option FlowGroupObj) (e : RuleEnv) :
    FlowRuleObj → Option (Result FlowRuleObj)
  | prm r flowIndex =>
      if !r.mIsValidActions then
        some (.errInvalidParam, prm r flowIndex)
      else if !e.alloc then
        some (.errNoMemory, prm r flowIndex)
      else
        -- `config_flow_rule` asks the table before it asks the group
        (table.bind FlowTableObj.toPrm).bind fun t =>
          match t.getTableType 2, t.getTableId 0 with
          | (.ok, _), (.ok, _) =>
              (group.bind FlowGroupObj.toPrm).map fun g =>
                let (ret, rule, _) := (r.lockPrm flowIndex t.toFlowTablePrm g).create e.env e.alloc
                  e.order
                let r := { r with base := rule.base, mIsInitialized := rule.mIsInitialized }
                (ret, prm r flowIndex)
          | (.ok, _), (ret, _) => some (ret, prm r flowIndex)
          | (ret, _), _ => some (ret, prm r flowIndex)
  | kernel r priority flow =>
      if !r.mIsValidActions then
        some (.errInvalidParam, kernel r priority flow)
      else
        group.map fun g =>
          let (ret, rule) := (r.lockKernel priority flow g.base).createFlow e.root e.order
          (ret, kernel r priority rule.mFlow)

end FlowRuleObj

/-- The rule that `create_flow_rule_ex` makes, with the context and the matcher of the group.  A
group that was created has a matcher. -/
def FlowGroupObj.newRule (attr : FlowRuleAttrEx) (table : Nat) (g : FlowGroupObj) : FlowRuleObj :=
  let matcher := g.base.mMatcher.getD g.base.mAttr.matcher
  let rule := FlowRuleEx.new g.base.base.mCtx attr table matcher
  match g with
  | prm _ => .prm rule attr.flowIndex
  | kernel _ => .kernel rule attr.priority none

/-! ### Tables, groups and rules -/

/-- The tables, the groups in the `m_groups` of the tables, and the rules in the `m_rules` of the
groups; `held` of a group or a rule counts the pointers of the application. -/
structure WeakSpace extends TableSpace where
  groups : Store FlowGroupObj
  rules : Store FlowRuleObj

namespace WeakSpace

/-- Nothing. -/
def empty : WeakSpace :=
  ⟨.empty, .empty, .empty⟩

/-- What `lock` gives for a weak pointer to a table; likewise for a group. -/
def lockTable (s : WeakSpace) (k : Nat) : Option FlowTableObj :=
  (s.table k).map HeldTable.obj

def lockGroup (s : WeakSpace) (k : Nat) : Option FlowGroupObj :=
  (s.groups.find k).map Thing.obj

/-- The groups and rules that go are those that are in no set and to which the application has no
pointer. -/
def collect (s : WeakSpace) : WeakSpace :=
  let groups := s.groups.sweep fun k => (s.table k).isSome
  { s with groups := groups, rules := s.rules.sweep fun k => (groups.find k).isSome }

/-- `add_flow_group`, with `create_flow_group`. -/
def addFlowGroup (s : WeakSpace) (table : Nat) (attr : FlowGroupAttr) (alloc : Bool) :
    Result WeakSpace :=
  match s.lockTable table with
  | none => (.errInvalidParam, s)
  | some t =>
      if !t.isInitialized then
        (.errNotApplied, s)
      else if !alloc then
        (.errNoMemory, s)
      else
        (.ok, { s with groups := s.groups.add (t.newGroup attr) table })

/-- `flow_table::remove_flow_group`. -/
def removeFlowGroup (s : WeakSpace) (table group : Nat) : Result WeakSpace :=
  match s.lockTable table with
  | none => (.errInvalidParam, s)
  | some t =>
      if !t.isInitialized then
        (.errNotApplied, s)
      else if (s.groups.find group).any fun g => g.placed && g.owner = table then
        (.ok, { s with groups := s.groups.change group id (fun _ => false) id })
      else
        (.errInvalidParam, s)

/-- `create` of a group. -/
def createGroup (s : WeakSpace) (group : Nat) (device : Device) : Result WeakSpace :=
  match s.groups.find group with
  | none => (.errInvalidParam, s)
  | some g =>
      let (ret, obj) := g.obj.create (s.lockTable g.owner) device
      (ret, { s with groups := s.groups.change group (fun _ => obj) id id })

/-- `flow_group_prm::get_table_id`.  The other class does not have the function. -/
def getTableId (s : WeakSpace) (group : Nat) : Option (Result WeakSpace) :=
  match (s.groups.find group).bind fun g => g.obj.toPrm.map (g.owner, ·) with
  | none => some (.errInvalidParam, s)
  | some (table, g) =>
      let prmTable := ((s.lockTable table).bind FlowTableObj.toPrm).map DevxTable.toFlowTablePrm
      (g.getTableId prmTable 0).map fun (ret, _) => (ret, s)

/-- `add_flow_rule`, with `create_flow_rule_ex`. -/
def addFlowRule (s : WeakSpace) (group : Nat) (attr : FlowRuleAttrEx) (alloc : Bool) :
    Result WeakSpace :=
  match s.groups.find group with
  | none => (.errInvalidParam, s)
  | some g =>
      if !g.obj.base.mIsInitialized then
        (.errNotApplied, s)
      else if !alloc then
        (.errNoMemory, s)
      else
        (.ok, { s with rules := s.rules.add (g.obj.newRule attr g.owner) group })

/-- `flow_group::remove_flow_rule`. -/
def removeFlowRule (s : WeakSpace) (group rule : Nat) : Result WeakSpace :=
  match s.lockGroup group with
  | none => (.errInvalidParam, s)
  | some g =>
      if !g.base.mIsInitialized then
        (.errNotApplied, s)
      else if (s.rules.find rule).any fun r => r.placed && r.owner = group then
        (.ok, { s with rules := s.rules.change rule id (fun _ => false) id })
      else
        (.errInvalidParam, s)

/-- `create` of a rule. -/
def createRule (s : WeakSpace) (rule : Nat) (e : RuleEnv) : Option (Result WeakSpace) :=
  match s.rules.find rule with
  | none => some (.errInvalidParam, s)
  | some r =>
      (r.obj.create (s.lockTable r.obj.base.mTable) (s.lockGroup r.owner) e).map fun (ret, obj) =>
        (ret, { s with rules := s.rules.change rule (fun _ => obj) id id })

end WeakSpace

/-- A call on tables, groups and rules; `holdGroup` makes a pointer of the weak pointer that
`add_flow_group` gives, `dropGroup` gives it up, and likewise for rules. -/
inductive WeakCall where
  | table (c : TableCall)
  | addFlowGroup (table : Nat) (attr : FlowGroupAttr) (alloc : Bool)
  | removeFlowGroup (table group : Nat)
  | createGroup (group : Nat) (device : Device)
  | getTableId (group : Nat)
  | holdGroup (group : Nat)
  | dropGroup (group : Nat)
  | addFlowRule (group : Nat) (attr : FlowRuleAttrEx) (alloc : Bool)
  | removeFlowRule (group rule : Nat)
  | createRule (rule : Nat) (e : RuleEnv)
  | holdRule (rule : Nat)
  | dropRule (rule : Nat)

namespace WeakSpace

/-- A call, before anything goes. -/
def call (s : WeakSpace) : WeakCall → Option (Result WeakSpace)
  | .table c =>
      let (ret, tables) := s.toTableSpace.call c
      some (ret, { s with toTableSpace := tables })
  | .addFlowGroup table attr alloc => some (s.addFlowGroup table attr alloc)
  | .removeFlowGroup table group => some (s.removeFlowGroup table group)
  | .createGroup group device => some (s.createGroup group device)
  | .getTableId group => s.getTableId group
  | .holdGroup group => some (.ok, { s with groups := s.groups.change group id id (· + 1) })
  | .dropGroup group => some (.ok, { s with groups := s.groups.change group id id (· - 1) })
  | .addFlowRule group attr alloc => some (s.addFlowRule group attr alloc)
  | .removeFlowRule group rule => some (s.removeFlowRule group rule)
  | .createRule rule e => s.createRule rule e
  | .holdRule rule => some (.ok, { s with rules := s.rules.change rule id id (· + 1) })
  | .dropRule rule => some (.ok, { s with rules := s.rules.change rule id id (· - 1) })

/-- What there is after a call. -/
def step (s : WeakSpace) (c : WeakCall) : WeakSpace :=
  (s.call c).elim s fun (_, s') => s'.collect

/-- Every call returns a status. -/
def Returns (calls : List WeakCall) : Prop :=
  ∀ before c, before ++ [c] <+: calls → ((run step empty before).call c).isSome = true

end WeakSpace

/-! ### When a parent is used -/

/-- The class is the one of PRM tables; likewise for groups and rules. -/
def FlowTableObj.isPrm : FlowTableObj → Bool
  | prm _ => true
  | kernel _ => false

def FlowGroupObj.isPrm : FlowGroupObj → Bool
  | prm _ => true
  | kernel _ => false

def FlowRuleObj.isPrm : FlowRuleObj → Bool
  | prm _ _ => true
  | kernel _ _ _ => false

theorem FlowTableObj.Later.isPrm {obj obj' : FlowTableObj} (h : obj.Later obj') :
  obj'.isPrm = obj.isPrm
  := by
  cases obj <;> cases obj' <;> first | rfl | contradiction

theorem FlowTableObj.toPrm_of_isPrm {obj : FlowTableObj} (h : obj.isPrm = true) :
  ∃ t, obj.toPrm = some t ∧ t.mIsInitialized = obj.isInitialized
  := by
  cases obj with
  | prm t => exact ⟨t, rfl, rfl⟩
  | kernel type => cases h

theorem FlowGroupObj.toPrm_of_isPrm {obj : FlowGroupObj} (h : obj.isPrm = true) :
  ∃ g, obj.toPrm = some g
  := by
  cases obj with
  | prm g => exact ⟨g, rfl⟩
  | kernel g => cases h

/-- `create` of a rule gets as far as using the parents. -/
def FlowRuleObj.Asks (e : RuleEnv) : FlowRuleObj → Prop
  | prm r _ => r.mIsValidActions = true ∧ e.alloc = true
  | kernel r _ _ => r.mIsValidActions = true

/-- `create` of a rule has a result exactly if the parents that it uses are there. -/
theorem FlowRuleObj.isSome_create {r : FlowRuleObj} {table : Option FlowTableObj}
    {group : Option FlowGroupObj} {e : RuleEnv}
    (htable : ∀ t ∈ table, t.isInitialized = true ∧ t.isPrm = r.isPrm)
    (hgroup : ∀ g ∈ group, g.isPrm = r.isPrm) :
  (r.create table group e).isSome = true
    ↔ (r.Asks e → group.isSome = true ∧ (r.isPrm = true → table.isSome = true))
  := by
  cases r with
  | kernel r priority flow =>
      cases hvalid : r.mIsValidActions <;> simp [create, Asks, isPrm, hvalid]
  | prm r flowIndex =>
      cases hvalid : r.mIsValidActions with
      | false => simp [create, Asks, hvalid]
      | true =>
          cases halloc : e.alloc with
          | false => simp [create, Asks, hvalid, halloc]
          | true =>
              simp only [create, Asks, hvalid, halloc, isPrm]
              cases table with
              | none => simp
              | some t =>
                  obtain ⟨hinit, hprm⟩ := htable t rfl
                  obtain ⟨p, hp, hpinit⟩ := FlowTableObj.toPrm_of_isPrm hprm
                  rw [hinit] at hpinit
                  cases group with
                  | none =>
                      simp [hp, FlowTablePrm.getTableType, FlowTablePrm.getTableId, hpinit]
                  | some g =>
                      obtain ⟨q, hq⟩ := FlowGroupObj.toPrm_of_isPrm (hgroup g rfl)
                      simp [hp, hq, FlowTablePrm.getTableType, FlowTablePrm.getTableId, hpinit]

/-- `get_table_id` of a group has a result exactly if the table is there when it is used. -/
theorem FlowGroupPrm.isSome_getTableId {g : FlowGroupPrm} {table : Option FlowTablePrm}
    {tableId : BitVec 32} :
  (g.getTableId table tableId).isSome = true
    ↔ (g.group.mIsInitialized = true → table.isSome = true)
  := by
  cases hinit : g.group.mIsInitialized <;> simp [getTableId, hinit]

namespace WeakSpace

/-- If a call uses a parent, then the parent is there. -/
def Keeps (s : WeakSpace) : WeakCall → Prop
  | .getTableId group => ∀ g ∈ s.groups.find group, g.obj.isPrm = true →
      g.obj.base.mIsInitialized = true → (s.lockTable g.owner).isSome = true
  | .createRule rule e => ∀ r ∈ s.rules.find rule, r.obj.Asks e →
      (s.lockGroup r.owner).isSome = true
        ∧ (r.obj.isPrm = true → (s.lockTable r.obj.base.mTable).isSome = true)
  | _ => True

/-! ### Invariant -/

/-- The table under the number, if it is there, is created and of the class. -/
def TableFits (s : TableSpace) (k : Nat) (isPrm : Bool) : Prop :=
  k < s.made ∧ ∀ t ∈ s.tables, t.num = k → t.obj.isInitialized = true ∧ t.obj.isPrm = isPrm

/-- The table that a weak pointer gives. -/
theorem TableFits.lock {s : WeakSpace} {k : Nat} {isPrm : Bool}
    (h : TableFits s.toTableSpace k isPrm) :
  ∀ t ∈ s.lockTable k, t.isInitialized = true ∧ t.isPrm = isPrm
  := by
  intro obj hobj
  obtain ⟨t, ht, rfl⟩ := Option.map_eq_some_iff.mp hobj
  obtain ⟨hmem, hnum⟩ := lookup_eq_some ht
  apply h.2 t hmem hnum

theorem TableFits.later {s s' : TableSpace} {k : Nat} {isPrm : Bool} (h : TableFits s k isPrm)
    (hlater : s.Later s') :
  TableFits s' k isPrm
  := by
  refine ⟨Nat.lt_of_lt_of_le h.1 hlater.made, ?_⟩
  rintro t' ht' rfl
  obtain ⟨t, ht, ht'⟩ := hlater.old t' ht' h.1
  obtain ⟨hinit, hprm⟩ := h.2 t ht ht'.num.symm
  exact ⟨ht'.obj.isInitialized hinit, ht'.obj.isPrm.trans hprm⟩

/-- What the invariant is about in a rule. -/
def ruleView (r : FlowRuleObj) : Bool × Nat :=
  (r.isPrm, r.base.mTable)

/-- `create` does not change what the invariant is about. -/
theorem ruleView_create {r r' : FlowRuleObj} {table : Option FlowTableObj}
    {group : Option FlowGroupObj} {e : RuleEnv} {ret : Status}
    (h : r.create table group e = some (ret, r')) :
  ruleView r' = ruleView r
  := by
  cases r with
  | prm r flowIndex =>
      simp only [FlowRuleObj.create] at h
      split at h
      · cases h
        rfl
      · split at h
        · cases h
          rfl
        · obtain ⟨t, -, h⟩ := Option.bind_eq_some_iff.mp h
          split at h
          · obtain ⟨g, -, h⟩ := Option.map_eq_some_iff.mp h
            cases h
            rfl
          · cases h
            rfl
          · cases h
            rfl
  | kernel r priority flow =>
      simp only [FlowRuleObj.create] at h
      split at h
      · cases h
        rfl
      · obtain ⟨g, -, h⟩ := Option.map_eq_some_iff.mp h
        cases h
        rfl

/-- The parents of groups and rules, if they are there, are created and of the class, and a rule has
the table of its group. -/
structure Fit (s : WeakSpace) : Prop where
  tables : s.toTableSpace.Linked
  groups : ∀ g ∈ s.groups.things, TableFits s.toTableSpace g.owner g.obj.isPrm
  rules : ∀ r ∈ s.rules.things, TableFits s.toTableSpace r.obj.base.mTable r.obj.isPrm
  owners : ∀ r ∈ s.rules.things, r.owner < s.groups.made ∧ ∀ g ∈ s.groups.things,
    g.num = r.owner → ruleView r.obj = (g.obj.isPrm, g.owner)

namespace Fit

theorem empty : WeakSpace.empty.Fit where
  tables := .empty
  groups := List.forall_mem_nil _
  rules := List.forall_mem_nil _
  owners := List.forall_mem_nil _

variable {s : WeakSpace} (hs : s.Fit)

include hs

/-- Nothing new comes but tables. -/
theorem of_from {s' : WeakSpace} (hlinked : s'.toTableSpace.Linked)
    (htables : s.toTableSpace.Later s'.toTableSpace)
    (hgroups : Store.From FlowGroupObj.isPrm s.groups s'.groups)
    (hrules : Store.From ruleView s.rules s'.rules) :
  s'.Fit
  := by
  refine ⟨hlinked, ?_, ?_, ?_⟩
  · intro g' hg'
    obtain ⟨g, hg, -, howner, hprm⟩ := hgroups.same g' hg'
    rw [howner, hprm]
    apply (hs.groups g hg).later htables
  · intro r' hr'
    obtain ⟨r, hr, -, -, hview⟩ := hrules.same r' hr'
    obtain ⟨hprm, htable⟩ := Prod.mk.inj hview
    rw [htable, hprm]
    apply (hs.rules r hr).later htables
  · intro r' hr'
    obtain ⟨r, hr, -, howner, hview⟩ := hrules.same r' hr'
    obtain ⟨hlt, hsame⟩ := hs.owners r hr
    rw [howner, hview, hgroups.made]
    refine ⟨hlt, ?_⟩
    intro g' hg' hnum
    obtain ⟨g, hg, hnum', howner', hprm'⟩ := hgroups.same g' hg'
    rw [hprm', howner']
    apply hsame g hg
    rw [← hnum', hnum]

theorem collect :
  s.collect.Fit
  := by
  have hgroups := Store.From.sweep FlowGroupObj.isPrm s.groups fun k => (s.table k).isSome
  have hrules := Store.From.sweep ruleView s.rules fun k => (s.collect.groups.find k).isSome
  exact hs.of_from hs.tables (.refl _) hgroups hrules

/-- A new group in a table that is there. -/
theorem addGroup {k : Nat} {obj : FlowGroupObj} (hfits : TableFits s.toTableSpace k obj.isPrm) :
  ({ s with groups := s.groups.add obj k } : WeakSpace).Fit
  := by
  refine ⟨hs.tables, ?_, hs.rules, ?_⟩
  · intro g hg
    rcases List.mem_cons.mp hg with rfl | hg
    · apply hfits
    · apply hs.groups g hg
  · intro r hr
    obtain ⟨hlt, hsame⟩ := hs.owners r hr
    refine ⟨Nat.lt_succ_of_lt hlt, ?_⟩
    intro g hg hnum
    rcases List.mem_cons.mp hg with rfl | hg
    · cases Nat.ne_of_gt hlt hnum
    · apply hsame g hg hnum

/-- A new rule in a group that is there. -/
theorem addRule {g : Thing FlowGroupObj} (hg : g ∈ s.groups.things) {obj : FlowRuleObj}
    (hview : ruleView obj = (g.obj.isPrm, g.owner)) :
  ({ s with rules := s.rules.add obj g.num } : WeakSpace).Fit
  := by
  refine ⟨hs.tables, hs.groups, ?_, ?_⟩
  · intro r hr
    rcases List.mem_cons.mp hr with rfl | hr
    · obtain ⟨hprm, htable⟩ := Prod.mk.inj hview
      rw [hprm, htable]
      apply hs.groups g hg
    · apply hs.rules r hr
  · intro r hr
    rcases List.mem_cons.mp hr with rfl | hr
    · refine ⟨s.groups.fresh g hg, ?_⟩
      intro g' hg' hnum
      obtain rfl : g' = g := eq_of_key s.groups.nodup hg' hg hnum
      apply hview
    · apply hs.owners r hr

/-- A change of the groups. -/
theorem changeGroups {groups : Store FlowGroupObj}
    (h : Store.From FlowGroupObj.isPrm s.groups groups) :
  ({ s with groups := groups } : WeakSpace).Fit
  := hs.of_from hs.tables (.refl _) h (.refl _ _)

/-- A change of the rules. -/
theorem changeRules {rules : Store FlowRuleObj} (h : Store.From ruleView s.rules rules) :
  ({ s with rules := rules } : WeakSpace).Fit
  := hs.of_from hs.tables (.refl _) (.refl _ _) h

theorem table (c : TableCall) :
  ({ s with toTableSpace := s.toTableSpace.step c } : WeakSpace).Fit
  := by
  obtain ⟨hlinked, hlater⟩ := hs.tables.step c
  exact hs.of_from hlinked hlater (.refl _ _) (.refl _ _)

theorem addFlowGroup (table : Nat) (attr : FlowGroupAttr) (alloc : Bool) :
  (s.addFlowGroup table attr alloc).2.Fit
  := by
  rw [WeakSpace.addFlowGroup]
  split
  · apply hs
  · rename_i t ht
    split
    · apply hs
    · rename_i hinit
      split
      · apply hs
      · obtain ⟨u, hu, rfl⟩ := Option.map_eq_some_iff.mp ht
        obtain ⟨hmem, rfl⟩ := lookup_eq_some hu
        apply hs.addGroup
        refine ⟨hs.tables.fresh u hmem, ?_⟩
        intro t ht hnum
        obtain rfl : t = u := eq_of_key hs.tables.nodup ht hmem hnum
        refine ⟨by simpa using hinit, ?_⟩
        cases t.obj <;> rfl

theorem removeFlowGroup (table group : Nat) :
  (s.removeFlowGroup table group).2.Fit
  := by
  rw [WeakSpace.removeFlowGroup]
  split
  · apply hs
  · split
    · apply hs
    · split
      · apply hs.changeGroups
        apply Store.From.change
        intro g _ _
        rfl
      · apply hs

theorem createGroup (group : Nat) (device : Device) :
  (s.createGroup group device).2.Fit
  := by
  rw [WeakSpace.createGroup]
  split
  · apply hs
  · rename_i g hg
    apply hs.changeGroups
    apply Store.From.change
    intro g' hg' hnum
    obtain ⟨hmem, hnum'⟩ := Store.find_eq_some hg
    obtain rfl : g' = g := eq_of_key s.groups.nodup hg' hmem (hnum.trans hnum'.symm)
    cases g'.obj <;> rfl

theorem addFlowRule (group : Nat) (attr : FlowRuleAttrEx) (alloc : Bool) :
  (s.addFlowRule group attr alloc).2.Fit
  := by
  rw [WeakSpace.addFlowRule]
  split
  · apply hs
  · rename_i g hg
    split
    · apply hs
    · split
      · apply hs
      · obtain ⟨hmem, rfl⟩ := Store.find_eq_some hg
        apply hs.addRule hmem
        cases g.obj <;> rfl

theorem removeFlowRule (group rule : Nat) :
  (s.removeFlowRule group rule).2.Fit
  := by
  rw [WeakSpace.removeFlowRule]
  split
  · apply hs
  · split
    · apply hs
    · split
      · apply hs.changeRules
        apply Store.From.change
        intro r _ _
        rfl
      · apply hs

theorem createRule (rule : Nat) (e : RuleEnv) :
  ∀ result ∈ s.createRule rule e, result.2.Fit
  := by
  rw [WeakSpace.createRule]
  split
  · rintro _ ⟨⟩
    apply hs
  · rename_i r hr
    intro result hresult
    obtain ⟨⟨ret, obj⟩, hcreate, rfl⟩ := Option.map_eq_some_iff.mp hresult
    apply hs.changeRules
    apply Store.From.change
    intro r' hr' hnum
    obtain ⟨hmem, hnum'⟩ := Store.find_eq_some hr
    obtain rfl : r' = r := eq_of_key s.rules.nodup hr' hmem (hnum.trans hnum'.symm)
    apply ruleView_create hcreate

/-- What there is before anything goes. -/
theorem call (c : WeakCall) :
  ∀ result ∈ s.call c, result.2.Fit
  := by
  have hself {result : Result WeakSpace} {s' : WeakSpace} {ret : Status} (hs' : s'.Fit)
      (h : result ∈ some (ret, s')) : result.2.Fit := by
    cases h
    apply hs'
  intro result h
  cases c with
  | table c => apply hself (hs.table c) h
  | addFlowGroup table attr alloc => apply hself (hs.addFlowGroup table attr alloc) h
  | removeFlowGroup table group => apply hself (hs.removeFlowGroup table group) h
  | createGroup group device => apply hself (hs.createGroup group device) h
  | getTableId group =>
      simp only [WeakSpace.call, getTableId] at h
      split at h
      · apply hself hs h
      · obtain ⟨answer, -, rfl⟩ := Option.map_eq_some_iff.mp h
        apply hs
  | holdGroup group =>
      apply hself (hs.changeGroups (.change _ _ _)) h
      intro g _ _
      rfl
  | dropGroup group =>
      apply hself (hs.changeGroups (.change _ _ _)) h
      intro g _ _
      rfl
  | addFlowRule group attr alloc => apply hself (hs.addFlowRule group attr alloc) h
  | removeFlowRule group rule => apply hself (hs.removeFlowRule group rule) h
  | createRule rule e => apply hs.createRule rule e result h
  | holdRule rule =>
      apply hself (hs.changeRules (.change _ _ _)) h
      intro r _ _
      rfl
  | dropRule rule =>
      apply hself (hs.changeRules (.change _ _ _)) h
      intro r _ _
      rfl

theorem step (c : WeakCall) :
  (s.step c).Fit
  := by
  rw [WeakSpace.step]
  cases hcall : s.call c with
  | none => apply hs
  | some result => apply (hs.call c result hcall).collect

/-- `get_table_id` returns exactly if the table is there when it is used. -/
theorem isSome_getTableId (group : Nat) :
  (s.getTableId group).isSome = true ↔ s.Keeps (.getTableId group)
  := by
  simp only [getTableId, Keeps]
  cases hg : s.groups.find group with
  | none => simp
  | some g =>
      have hfits := (hs.groups g (Store.find_eq_some hg).1).lock
      cases hobj : g.obj with
      | kernel obj => simp [hobj, FlowGroupObj.toPrm, FlowGroupObj.isPrm]
      | prm obj =>
          simp only [hobj, FlowGroupObj.toPrm, FlowGroupObj.isPrm, FlowGroupObj.base,
            Option.bind_some, Option.map_some, Option.isSome_map, Option.mem_def,
            Option.some.injEq, forall_eq', forall_const]
          have hprm : ((s.lockTable g.owner).bind FlowTableObj.toPrm).isSome
              = (s.lockTable g.owner).isSome := by
            cases htable : s.lockTable g.owner with
            | none => rfl
            | some t =>
                obtain ⟨-, hprm⟩ := hfits t htable
                rw [hobj] at hprm
                obtain ⟨p, hp, -⟩ := FlowTableObj.toPrm_of_isPrm hprm
                rw [Option.bind_some, hp]
                rfl
          rw [FlowGroupPrm.isSome_getTableId, Option.isSome_map, hprm]

theorem isSome_createRule (rule : Nat) (e : RuleEnv) :
  (s.createRule rule e).isSome = true ↔ s.Keeps (.createRule rule e)
  := by
  simp only [WeakSpace.createRule, Keeps]
  cases hr : s.rules.find rule with
  | none => simp
  | some r =>
      obtain ⟨hmem, -⟩ := Store.find_eq_some hr
      have hgroup : ∀ g ∈ s.lockGroup r.owner, g.isPrm = r.obj.isPrm := by
        intro obj hobj
        obtain ⟨g, hg, rfl⟩ := Option.map_eq_some_iff.mp hobj
        obtain ⟨hgmem, hnum⟩ := Store.find_eq_some hg
        apply (congrArg Prod.fst ((hs.owners r hmem).2 g hgmem hnum)).symm
      simp only [Option.isSome_map, Option.mem_def, Option.some.injEq, forall_eq']
      apply FlowRuleObj.isSome_create (hs.rules r hmem).lock hgroup

/-- A call returns exactly if the parents that it uses are there. -/
theorem isSome_call (c : WeakCall) :
  (s.call c).isSome = true ↔ s.Keeps c
  := by
  cases c with
  | getTableId group => apply hs.isSome_getTableId
  | createRule rule e => apply hs.isSome_createRule
  | _ => exact ⟨fun _ => trivial, fun _ => rfl⟩

end Fit

theorem returns_iff_along {calls : List WeakCall} :
  Returns calls ↔ Along step (fun s c => (s.call c).isSome = true) empty calls
  := by
  rw [along_iff_prefixes]
  rfl

/-- Every call of a run returns exactly if every call that uses a parent is made while the parent is
there. -/
theorem weak_calls_return_iff (calls : List WeakCall) :
  Returns calls ↔ Along step Keeps empty calls
  := by
  rw [returns_iff_along]
  apply along_iff_along (I := Fit) _ _ Fit.empty
  · intro s c _ hs
    apply hs.isSome_call
  · intro s c _ hs _
    apply hs.step

theorem not_returns {before : List WeakCall} {c : WeakCall}
    (h : (run step empty before).call c = none) :
  ¬ Returns (before ++ [c])
  := by
  intro hreturns
  have hsome := hreturns before c List.prefix_rfl
  rw [h] at hsome
  cases hsome

/-- The application keeps a pointer to a rule whose group it removes, on the root table and on a PRM
table, or to a group whose table it releases.  Then it creates the rule, or asks the group for the
number of its table. -/
theorem parents_gone :
  let device : Device := fun _ _ => ⟨true, zeros⟩
  let e : RuleEnv := ⟨⟨true, device⟩,
    ⟨true, true, none, ⟨fun _ => true, fun _ _ => true, fun _ _ => true⟩⟩, true, []⟩
  let prmTable : List WeakCall := [.table (.createFlowTable true ⟨true, 8, 64⟩
    ⟨0, 4, 1, ftRx, .normal, .dflt⟩ none none true), .table (.create 0 device)]
  let group : List WeakCall := [.addFlowGroup 0 ⟨0, 0, 0, .empty⟩ true, .createGroup 0 device]
  let removed : List WeakCall := [.addFlowRule 0 ⟨0, .empty, 0, [.fwd ⟨[], false⟩]⟩ true,
    .holdRule 0, .removeFlowGroup 0 0]
  ¬ Returns ([.table (.newRootTable ftRx)] ++ group ++ removed ++ [.createRule 0 e])
    ∧ ¬ Returns (prmTable ++ group ++ removed ++ [.createRule 0 e])
    ∧ ¬ Returns (prmTable ++ group ++ [.holdGroup 0, .table (.release 0)] ++ [.getTableId 0])
  := by
  refine ⟨not_returns ?_, not_returns ?_, not_returns ?_⟩ <;> rfl

/-! ### Objects that are where they were added -/

/-- What is in a set has its owner. -/
structure Settled (s : WeakSpace) : Prop where
  groups : ∀ g ∈ s.groups.things, g.placed = true → (s.lockTable g.owner).isSome = true
  rules : ∀ r ∈ s.rules.things, r.placed = true → (s.lockGroup r.owner).isSome = true

theorem Settled.empty : WeakSpace.empty.Settled where
  groups := List.forall_mem_nil _
  rules := List.forall_mem_nil _

theorem settled_collect (s : WeakSpace) :
  s.collect.Settled
  := by
  constructor
  · intro g hg hplaced
    rw [lockTable, Option.isSome_map]
    apply Store.alive_of_placed hg hplaced
  · intro r hr hplaced
    rw [lockGroup, Option.isSome_map]
    apply Store.alive_of_placed hr hplaced

theorem Settled.step {s : WeakSpace} (hs : s.Settled) (c : WeakCall) :
  (s.step c).Settled
  := by
  rw [WeakSpace.step]
  cases s.call c with
  | none => apply hs
  | some result => apply settled_collect

/-- A group that is asked is in its table, and a rule that is created is in its group, which is in
its table. -/
def Placed (s : WeakSpace) : WeakCall → Prop
  | .getTableId group => ∀ g ∈ s.groups.find group, g.placed = true
  | .createRule rule _ => ∀ r ∈ s.rules.find rule, r.placed = true
      ∧ ∀ g ∈ s.groups.find r.owner, g.placed = true
  | _ => True

theorem Fit.keeps_of_placed {s : WeakSpace} (hs : s.Fit) (hsettled : s.Settled) {c : WeakCall}
    (h : s.Placed c) :
  s.Keeps c
  := by
  cases c with
  | getTableId group =>
      intro g hg _ _
      apply hsettled.groups g (Store.find_eq_some hg).1 (h g hg)
  | createRule rule e =>
      intro r hr _
      obtain ⟨hplaced, hgroup⟩ := h r hr
      obtain ⟨hmem, -⟩ := Store.find_eq_some hr
      have hsome := hsettled.rules r hmem hplaced
      refine ⟨hsome, fun _ => ?_⟩
      rw [lockGroup, Option.isSome_map] at hsome
      obtain ⟨g, hg⟩ := Option.isSome_iff_exists.mp hsome
      obtain ⟨hgmem, hnum⟩ := Store.find_eq_some hg
      have htable : r.obj.base.mTable = g.owner :=
        congrArg Prod.snd ((hs.owners r hmem).2 g hgmem hnum)
      rw [htable]
      apply hsettled.groups g hgmem (hgroup g hg)
  | _ => trivial

/-- As long as groups and rules are used where they were added, every call returns. -/
theorem returns_of_placed {calls : List WeakCall} (h : Along step Placed empty calls) :
  Returns calls
  := by
  rw [returns_iff_along]
  apply h.imp (I := fun s => s.Fit ∧ s.Settled) _ _ ⟨.empty, .empty⟩
  · rintro s c ⟨hs, hsettled⟩ hplaced
    apply (hs.isSome_call c).mpr
    apply hs.keeps_of_placed hsettled hplaced
  · rintro s c ⟨hs, hsettled⟩
    exact ⟨hs.step c, hsettled.step c⟩

end WeakSpace

end Dpcp
