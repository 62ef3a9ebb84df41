import Dpcp.Flow.RuleKernel
import Dpcp.Flow.Space

/-!
# The root tables of an adapter

An adapter keeps the root tables it hands out in `m_root_table_arr`.  A root table and its groups
are not objects of the device; a rule is a verbs flow and a verbs matcher, which the destructor of
the rule destroys.

The destructor of the adapter deletes the context, which closes the device, and the array goes when
the body of the destructor is over.  The rules that go with it destroy their flows and matchers in a
device that is closed.
-/

namespace Dpcp

open Machine Keyed

/-- `FT_END`, the number of types of tables. -/
def ftEnd : Nat := 2

/-- A call of the verbs library, for a flow and a matcher with the rule that has them. -/
inductive VerbsCall where
  | destroyFlow (rule : Nat)
  | destroyMatcher (rule : Nat)
  | closeDevice
deriving DecidableEq

/-- A flow or a matcher is destroyed. -/
def VerbsCall.destroys : VerbsCall → Bool
  | destroyFlow _ => true
  | destroyMatcher _ => true
  | closeDevice => false

/-- A `flow_rule_ex_kernel` at its address. -/
structure RootRuleNode where
  addr : Nat
  rule : RootRule

/-- A `flow_group_kernel` at its address, with its `m_rules`. -/
structure RootGroup where
  addr : Nat
  group : FlowGroup
  rules : List RootRuleNode

/-- A `flow_table_kernel` with its `m_groups`; `app` counts the pointers of the application. -/
structure RootTable where
  mIsInitialized : Bool
  groups : List RootGroup
  app : Nat

/-! ### Destructors -/

/-- `~flow_rule_ex_kernel` deletes the flow, and `~flow` destroys it and then its matcher. -/
def RootRuleNode.destruct (r : RootRuleNode) : List VerbsCall :=
  if r.rule.mFlow.isSome then [.destroyFlow r.addr, .destroyMatcher r.addr] else []

/-- The destructor of a group: `m_rules`. -/
def RootGroup.destruct (g : RootGroup) : List VerbsCall :=
  g.rules.flatMap RootRuleNode.destruct

/-- The destructor of a table: `m_groups`. -/
def RootTable.destruct (t : RootTable) : List VerbsCall :=
  t.groups.flatMap RootGroup.destruct

theorem RootRuleNode.destroys_of_mem (r : RootRuleNode) :
  ∀ c ∈ r.destruct, c.destroys = true
  := by
  rw [destruct]
  split
  · simp [VerbsCall.destroys]
  · apply List.forall_mem_nil

theorem RootGroup.destroys_of_mem (g : RootGroup) :
  ∀ c ∈ g.destruct, c.destroys = true
  := by
  intro c hc
  obtain ⟨r, -, hc⟩ := List.mem_flatMap.mp hc
  apply r.destroys_of_mem c hc

/-! ### Functions of groups and tables -/

namespace RootGroup

/-- `flow_group_kernel::create`; the table of the group is there. -/
def create (g : RootGroup) : Result RootGroup :=
  let (ret, group) := FlowGroupKernel.create g.group true
  (ret, { g with group := group })

/-- `flow_group_kernel::add_flow_rule`, with `create_flow_rule_ex`.  An address that is in use
stands for a failed allocation. -/
def addFlowRule (g : RootGroup) (addr pos : Nat) (attr : FlowRuleAttrEx) : Result RootGroup :=
  match g.group.mIsInitialized, g.group.mMatcher with
  | true, some matcher =>
      if (lookup RootRuleNode.addr addr g.rules).isSome then
        (.errNoMemory, g)
      else
        (.ok, { g with
          rules := FlowSpace.insert pos ⟨addr, .new attr g.group matcher⟩ g.rules })
  -- a group that was created has a matcher
  | _, _ => (.errNotApplied, g)

/-- `flow_rule_ex_kernel::create` for a rule of the group. -/
def createRule (g : RootGroup) (rule : Nat) (env : RootEnv) (order : List FlowAction) :
    Result RootGroup :=
  match lookup RootRuleNode.addr rule g.rules with
  | none => (.errInvalidParam, g)
  | some r =>
      let (ret, created) := r.rule.createFlow env order
      (ret, { g with
        rules := update RootRuleNode.addr rule (fun r => { r with rule := created }) g.rules })

/-- `flow_group::remove_flow_rule`, with the calls of the destructor. -/
def removeFlowRule (g : RootGroup) (rule : Nat) : Status × RootGroup × List VerbsCall :=
  if !g.group.mIsInitialized then
    (.errNotApplied, g, [])
  else
    match lookup RootRuleNode.addr rule g.rules with
    | none => (.errInvalidParam, g, [])
    | some r => (.ok, { g with rules := remove RootRuleNode.addr rule g.rules }, r.destruct)

end RootGroup

namespace RootTable

/-- The constructor of `flow_table_kernel`. -/
def new : RootTable :=
  ⟨false, [], 0⟩

/-- `flow_table_kernel::create`. -/
def create (t : RootTable) : Result RootTable :=
  (.ok, { t with mIsInitialized := true })

/-- `flow_table_kernel::add_flow_group`, with `create_flow_group`. -/
def addFlowGroup (t : RootTable) (addr pos : Nat) (attr : FlowGroupAttr) : Result RootTable :=
  if !t.mIsInitialized then
    (.errNotApplied, t)
  else if (lookup RootGroup.addr addr t.groups).isSome then
    (.errNoMemory, t)
  else
    (.ok, { t with groups := FlowSpace.insert pos ⟨addr, .new true attr, []⟩ t.groups })

/-- `flow_table::remove_flow_group`, with the calls of the destructor. -/
def removeFlowGroup (t : RootTable) (group : Nat) : Status × RootTable × List VerbsCall :=
  if !t.mIsInitialized then
    (.errNotApplied, t, [])
  else
    match lookup RootGroup.addr group t.groups with
    | none => (.errInvalidParam, t, [])
    | some g => (.ok, { t with groups := remove RootGroup.addr group t.groups }, g.destruct)

end RootTable

/-! ### The adapter -/

/-- `m_root_table_arr`, and the calls of the verbs library so far. -/
structure RootTables where
  arr : Nat → Option RootTable
  log : List VerbsCall

/-- A call that an application makes on the adapter or on a root table, a group or a rule.  A group
is told by the type of its table and its address, a rule by its group and its address. -/
inductive RootCall where
  | getRootTable (type : Nat)
  | releaseTable (type : Nat)
  | addFlowGroup (type addr pos : Nat) (attr : FlowGroupAttr)
  | createGroup (type group : Nat)
  | addFlowRule (type group addr pos : Nat) (attr : FlowRuleAttrEx)
  | createRule (type group rule : Nat) (env : RootEnv) (order : List FlowAction)
  | removeFlowRule (type group rule : Nat)
  | removeFlowGroup (type group : Nat)

namespace RootTables

/-- The constructor of the adapter. -/
def new : RootTables :=
  ⟨fun _ => none, []⟩

/-- A function of the table of a type, with the calls it makes. -/
def onTable (s : RootTables) (type : Nat) (f : RootTable → RootTable × List VerbsCall) :
    RootTables :=
  match s.arr type with
  | none => s
  | some t =>
      { arr := fun i => if i = type then some (f t).1 else s.arr i
        log := s.log ++ (f t).2 }

/-- A function of a group of the table of a type. -/
def onGroup (s : RootTables) (type group : Nat) (f : RootGroup → RootGroup × List VerbsCall) :
    RootTables :=
  s.onTable type fun t =>
    match lookup RootGroup.addr group t.groups with
    | none => (t, [])
    | some g =>
        ({ t with groups := update RootGroup.addr group (fun g => (f g).1) t.groups }, (f g).2)

/-- `adapter::get_root_table`; the application has one more pointer to the table. -/
def getRootTable (s : RootTables) (type : Nat) : RootTables :=
  if ftEnd ≤ type then
    s
  else
    let t := (s.arr type).getD RootTable.new.create.2
    { s with arr := fun i => if i = type then some { t with app := t.app + 1 } else s.arr i }

/-- The adapter after a call. -/
def step (s : RootTables) : RootCall → RootTables
  | .getRootTable type => s.getRootTable type
  -- the adapter has a pointer to the table too, so the table stays
  | .releaseTable type => s.onTable type fun t => ({ t with app := t.app - 1 }, [])
  | .addFlowGroup type addr pos attr =>
      s.onTable type fun t => ((t.addFlowGroup addr pos attr).2, [])
  | .createGroup type group => s.onGroup type group fun g => (g.create.2, [])
  | .addFlowRule type group addr pos attr =>
      s.onGroup type group fun g => ((g.addFlowRule addr pos attr).2, [])
  | .createRule type group rule env order =>
      s.onGroup type group fun g => ((g.createRule rule env order).2, [])
  | .removeFlowRule type group rule => s.onGroup type group fun g => (g.removeFlowRule rule).2
  | .removeFlowGroup type group => s.onTable type fun t => (t.removeFlowGroup group).2

/-- The array goes, from the last table to the first; a table goes if the application has no pointer
to it. -/
def arrDestruct (s : RootTables) : List VerbsCall :=
  (List.range ftEnd).reverse.flatMap fun type =>
    match s.arr type with
    | none => []
    | some t => if t.app = 0 then t.destruct else []

/-- `~adapter`: its body deletes the context, and the array goes after it. -/
def destruct (s : RootTables) : List VerbsCall :=
  s.log ++ [.closeDevice] ++ s.arrDestruct

/-! ### When the device is closed -/

/-- The calls that a function makes destroy flows and matchers. -/
theorem destroys_of_mem_removeFlowRule (g : RootGroup) (rule : Nat) :
  ∀ c ∈ (g.removeFlowRule rule).2.2, c.destroys = true
  := by
  rw [RootGroup.removeFlowRule]
  split
  · apply List.forall_mem_nil
  · split
    · apply List.forall_mem_nil
    · rename_i r _
      apply r.destroys_of_mem

theorem destroys_of_mem_removeFlowGroup (t : RootTable) (group : Nat) :
  ∀ c ∈ (t.removeFlowGroup group).2.2, c.destroys = true
  := by
  rw [RootTable.removeFlowGroup]
  split
  · apply List.forall_mem_nil
  · split
    · apply List.forall_mem_nil
    · rename_i g _
      apply g.destroys_of_mem

/-- The device is not closed yet: the calls so far destroy flows and matchers. -/
def Open (s : RootTables) : Prop :=
  ∀ c ∈ s.log, c.destroys = true

namespace Open

variable {s : RootTables} (hs : s.Open)

include hs

theorem onTable {type : Nat} {f : RootTable → RootTable × List VerbsCall}
    (hf : ∀ t, ∀ c ∈ (f t).2, c.destroys = true) :
  (s.onTable type f).Open
  := by
  rw [RootTables.onTable]
  split
  · apply hs
  · intro c hc
    rcases List.mem_append.mp hc with hc | hc
    · apply hs c hc
    · apply hf _ c hc

theorem onGroup {type group : Nat} {f : RootGroup → RootGroup × List VerbsCall}
    (hf : ∀ g, ∀ c ∈ (f g).2, c.destroys = true) :
  (s.onGroup type group f).Open
  := by
  apply hs.onTable
  intro t
  split
  · apply List.forall_mem_nil
  · apply hf

theorem step (c : RootCall) :
  (s.step c).Open
  := by
  cases c with
  | getRootTable type =>
      rw [RootTables.step, getRootTable]
      split
      · apply hs
      · apply hs
  | releaseTable type => exact hs.onTable fun t => List.forall_mem_nil _
  | addFlowGroup type addr pos attr => exact hs.onTable fun t => List.forall_mem_nil _
  | createGroup type group => exact hs.onGroup fun g => List.forall_mem_nil _
  | addFlowRule type group addr pos attr => exact hs.onGroup fun g => List.forall_mem_nil _
  | createRule type group rule env order => exact hs.onGroup fun g => List.forall_mem_nil _
  | removeFlowRule type group rule =>
      exact hs.onGroup fun g => destroys_of_mem_removeFlowRule g rule
  | removeFlowGroup type group =>
      exact hs.onTable fun t => destroys_of_mem_removeFlowGroup t group

end Open

/-- The calls that destroy flows and matchers all come before the device is closed. -/
def DestroysFirst (log : List VerbsCall) : Prop :=
  ∀ c ∈ log.dropWhile (· ≠ .closeDevice), c.destroys = false

instance (log : List VerbsCall) : Decidable (DestroysFirst log) :=
  inferInstanceAs (Decidable (∀ _ ∈ _, _))

/-- No rule of a root table that the adapter alone points to has a flow. -/
def Unapplied (s : RootTables) : Prop :=
  ∀ type < ftEnd, ∀ t ∈ s.arr type, t.app = 0 → ∀ g ∈ t.groups, ∀ r ∈ g.rules, r.rule.mFlow = none

theorem mem_arrDestruct {s : RootTables} {c : VerbsCall} :
  c ∈ s.arrDestruct ↔ ∃ type < ftEnd, ∃ t ∈ s.arr type, t.app = 0
    ∧ ∃ g ∈ t.groups, ∃ r ∈ g.rules, c ∈ r.destruct
  := by
  constructor
  · intro hc
    obtain ⟨type, htype, hc⟩ := List.mem_flatMap.mp hc
    rw [List.mem_reverse, List.mem_range] at htype
    split at hc
    · cases hc
    · rename_i t ht
      split at hc
      · rename_i happ
        obtain ⟨g, hg, hc⟩ := List.mem_flatMap.mp hc
        obtain ⟨r, hr, hc⟩ := List.mem_flatMap.mp hc
        exact ⟨type, htype, t, ht, happ, g, hg, r, hr, hc⟩
      · cases hc
  · rintro ⟨type, htype, t, ht, happ, g, hg, r, hr, hc⟩
    apply List.mem_flatMap.mpr
    use type, List.mem_reverse.mpr (List.mem_range.mpr htype)
    rw [Option.mem_def.mp ht]
    dsimp only
    rw [if_pos happ]
    apply List.mem_flatMap.mpr ⟨g, hg, List.mem_flatMap.mpr ⟨r, hr, hc⟩⟩

theorem destroysFirst_destruct {s : RootTables} (hs : s.Open) :
  DestroysFirst s.destruct ↔ ∀ c ∈ s.arrDestruct, c.destroys = false
  := by
  have hlog : ∀ c ∈ s.log, decide (c ≠ .closeDevice) = true := by
    intro c hc
    rw [decide_eq_true_iff]
    rintro rfl
    cases hs _ hc
  rw [DestroysFirst, destruct, List.append_assoc, List.dropWhile_append_of_pos hlog]
  apply List.forall_mem_cons.trans
  apply and_iff_right rfl

/-- When an adapter is deleted, whatever was called before, the flows and matchers of the root
tables are destroyed before the device is closed exactly when no rule of a table that the adapter
alone points to has a flow. -/
theorem destroysFirst_iff_unapplied (calls : List RootCall) :
  DestroysFirst (run step new calls).destruct ↔ (run step new calls).Unapplied
  := by
  have hnew : Open new := List.forall_mem_nil _
  have hopen := inv_run (fun s c (hs : Open s) => hs.step c) hnew calls
  rw [destroysFirst_destruct hopen]
  constructor
  · intro h type htype t ht happ g hg r hr
    by_contra hflow
    have hmem : .destroyFlow r.addr ∈ r.destruct := by
      rw [RootRuleNode.destruct, if_pos (Option.isSome_iff_ne_none.mpr hflow)]
      apply List.mem_cons_self
    cases h _ (mem_arrDestruct.mpr ⟨type, htype, t, ht, happ, g, hg, r, hr, hmem⟩)
  · intro h c hc
    obtain ⟨type, htype, t, ht, happ, g, hg, r, hr, hc⟩ := mem_arrDestruct.mp hc
    rw [RootRuleNode.destruct, h type htype t ht happ g hg r hr] at hc
    cases hc

/-- A root table with a group and a rule, which is applied.  The application gives up its pointer to
the table, and the adapter is deleted. -/
theorem not_destroysFirst_applied :
  ¬ DestroysFirst (run step new [.getRootTable 0, .addFlowGroup 0 1 0 (groupAttr 0x1),
    .createGroup 0 1, .addFlowRule 0 1 2 0 forwarding,
    .createRule 0 1 2 acceptingRoot forwarding.actions, .releaseTable 0]).destruct
  := by
  decide +kernel

end RootTables

end Dpcp
