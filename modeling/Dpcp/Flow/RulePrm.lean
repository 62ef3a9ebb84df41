import Mathlib.Data.List.Perm.Basic
import Dpcp.Flow.Action
import Dpcp.Flow.Group

/-!
# The rules of a PRM table

`flow_rule_ex_prm::create` fills a `SET_FLOW_TABLE_ENTRY` mailbox: the place of the rule and its
match value first, and then the actions of the rule.  The actions are kept in an unordered
map from the type of an action to the action, so the order they are applied in is any order of
the entries of the map.

The mailbox does not depend on that order, and `Decodes` says what it holds.
-/

namespace Dpcp

open Bits Dcmd Prm

/-- The map `m_actions`: its entries, with no two actions of one type. -/
structure ActionMap where
  entries : List FlowAction
  nodup : (entries.map FlowAction.type).Nodup

namespace ActionMap

def empty : ActionMap := ⟨[], List.nodup_nil⟩

/-- `insert`, which keeps an entry that is there. -/
def insert (actions : ActionMap) (a : FlowAction) : ActionMap :=
  if h : a.type ∈ actions.entries.map FlowAction.type then
    actions
  else
    ⟨a :: actions.entries, List.nodup_cons.mpr ⟨h, actions.nodup⟩⟩

end ActionMap

/-- `struct flow_rule_attr_ex`. -/
structure FlowRuleAttrEx where
  priority : BitVec 16
  matchValue : MatchParamsEx
  flowIndex : BitVec 32
  actions : List FlowAction

/-- `flow_rule_ex::verify_flow_actions`, with the map it fills. -/
def verifyFlowActions (actions : List FlowAction) : Bool × ActionMap :=
  if actions.isEmpty then
    (false, .empty)
  else
    let mActions := actions.foldl ActionMap.insert .empty
    if mActions.entries.length ≠ actions.length then
      (false, mActions)
    else
      (mActions.entries.any (fun a => a.type == .fwd), mActions)

/-- `class flow_rule_ex_prm`. -/
structure FlowRuleExPrm where
  base : Obj
  mMatchValue : MatchParamsEx
  mIsInitialized : Bool
  mTable : FlowTablePrm
  mGroup : FlowGroupPrm
  mIsValidActions : Bool
  mActions : ActionMap
  mMatcher : FlowMatcher
  mFlowIndex : BitVec 32

namespace FlowRuleExPrm

def mlx5CmdOpSetFlowTableEntry : BitVec 32 := 0x936

/-- The constructor of `flow_rule_ex_prm`. -/
def new (ctx : Bool) (attr : FlowRuleAttrEx) (table : FlowTablePrm) (group : FlowGroupPrm)
    (matcher : FlowMatcher) : FlowRuleExPrm :=
  let (isValidActions, actions) := verifyFlowActions attr.actions
  { base := .new ctx
    mMatchValue := attr.matchValue
    mIsInitialized := false
    mTable := table
    mGroup := group
    mIsValidActions := isValidActions
    mActions := actions
    mMatcher := matcher
    mFlowIndex := attr.flowIndex }

/-- The number of destinations `alloc_in_buff` makes room for. -/
def destListSize (r : FlowRuleExPrm) : Nat :=
  match r.mActions.entries.find? (fun a => a.type == .fwd) with
  | some a => a.dests.length
  | none => 0

/-- The length of the mailbox, by `alloc_in_buff`. -/
def inLen (r : FlowRuleExPrm) : Nat :=
  SetFteIn.bytes + DestFormatStruct.bytes * r.destListSize

/-- `config_flow_rule`. -/
def configFlowRule (r : FlowRuleExPrm) (m : Memory) : Result Memory :=
  let m := devxSet m 0 SetFteIn.opcode mlx5CmdOpSetFlowTableEntry
  let m := devxSet m 0 SetFteIn.flowIndex r.mFlowIndex
  match r.mTable.getTableType 2 with
  | (.ok, ftType) =>
      let m := devxSet m 0 SetFteIn.tableType ftType
      match r.mTable.getTableId 0 with
      | (.ok, ftId) =>
          let m := devxSet m 0 SetFteIn.tableId ftId
          match r.mGroup.getGroupId 0 with
          | (.ok, fgId) => (.ok, devxSet m SetFteIn.flowContext FlowContext.groupId fgId)
          | (ret, _) => (ret, m)
      | (ret, _) => (ret, m)
  | (ret, _) => (ret, m)

/-- The first half of `create`: the mailbox up to the actions. -/
def beforeActions (r : FlowRuleExPrm) : Result Memory :=
  (r.configFlowRule zeros).andThen fun m =>
    r.mMatcher.apply m (SetFteIn.flowContext + FlowContext.matchValue) r.mMatchValue

/-- The loop of `create` over the actions, in the order the map gives them. -/
def applyActions (env : Env) (m : Memory) : List FlowAction → Status × List FlowAction × Memory
  | [] => (.ok, [], m)
  | a :: rest =>
      match a.apply env m with
      | (.ok, a, m) =>
          let (ret, rest, m) := applyActions env m rest
          (ret, a :: rest, m)
      | (ret, a, m) => (ret, a :: rest, m)

/-- The mailbox `create` sends when the map gives its actions in the order `order`, with the
actions as they are then. -/
def mailbox (r : FlowRuleExPrm) (env : Env) (order : List FlowAction) :
    Status × List FlowAction × Memory :=
  match r.beforeActions with
  | (.ok, m) => applyActions env m order
  | (ret, m) => (ret, order, m)

/-- `flow_rule_ex_prm::create`; `alloc` tells whether the mailbox could be allocated.  The result
has the mailbox handed to `obj::create`, with its length, if it came to that.  The actions
are shared objects; what applying them does to them is part of `mailbox`. -/
def create (r : FlowRuleExPrm) (env : Env) (alloc : Bool) (order : List FlowAction) :
    Status × FlowRuleExPrm × Option (Memory × Nat) :=
  if !r.mIsValidActions then
    (.errInvalidParam, r, none)
  else if !alloc then
    (.errNoMemory, r, none)
  else
    match r.mailbox env order with
    | (.ok, _, m) =>
        let (ret, base, _) := r.base.create env.device (some m) r.inLen zeros SetFteOut.bytes
        let r' := { r with base := base }
        match ret with
        | .ok => (.ok, { r' with mIsInitialized := true }, some (m, r.inLen))
        | ret => (ret, r', some (m, r.inLen))
    | (ret, _, _) => (ret, r, none)

/-- The command that `create` sends, if it comes to that. -/
def command (r : FlowRuleExPrm) (env : Env) (alloc : Bool) (order : List FlowAction) :
    Option Obj.Command :=
  (r.create env alloc order).2.2.map fun (m, inLen) => ⟨m, inLen, SetFteOut.bytes⟩

/-- What `create` leaves of the object. -/
theorem create_base (r : FlowRuleExPrm) (env : Env) (alloc : Bool) (order : List FlowAction) :
  (r.create env alloc order).2.1.base = r.base.send env.device (r.command env alloc order)
  := by
  simp only [command, create]
  split
  · rfl
  · split
    · rfl
    · split
      · split <;> rfl
      · rfl

/-! ### The mailbox as a list of writes -/

/-- The writes of `config_flow_rule`. -/
def configWrites (r : FlowRuleExPrm) : List Write :=
  [SetFteIn.opcode.write 0 mlx5CmdOpSetFlowTableEntry, SetFteIn.flowIndex.write 0 r.mFlowIndex,
    SetFteIn.tableType.write 0 r.mTable.mType, SetFteIn.tableId.write 0 r.mTable.mTableId,
    FlowContext.groupId.write SetFteIn.flowContext r.mGroup.mGroupId]

theorem configFlowRule_eq_ok {r : FlowRuleExPrm} {m m' : Memory}
    (h : r.configFlowRule m = (.ok, m')) :
  bit m' = puts (bit m) r.configWrites
  := by
  cases htable : r.mTable.mIsInitialized with
  | false => simp [configFlowRule, FlowTablePrm.getTableType, htable] at h
  | true =>
      cases hgroup : r.mGroup.group.mIsInitialized with
      | false =>
          simp [configFlowRule, FlowTablePrm.getTableType, FlowTablePrm.getTableId,
            FlowGroupPrm.getGroupId, htable, hgroup] at h
      | true =>
          simp only [configFlowRule, FlowTablePrm.getTableType, FlowTablePrm.getTableId,
            FlowGroupPrm.getGroupId, htable, hgroup, Bool.not_true, Bool.false_eq_true, if_false,
            Prod.mk.injEq, true_and] at h
          subst h
          simp only [configWrites, bit_devxSet, puts_cons, puts_nil]

theorem configWrites_spans (r : FlowRuleExPrm) :
  r.configWrites.map Write.span
    = [(0x0, 0x10), (0x100, 0x20), (0x80, 0x8), (0xa8, 0x18), (0x220, 0x20)].map
      (fun t => (0 + t.1, t.2))
  := rfl

theorem configWrites_disjoint (r : FlowRuleExPrm) :
  r.configWrites.Pairwise Write.Disjoint
  := by
  apply disjoint_of_spans _ _ (configWrites_spans r)
  decide

theorem configWrites_within {r : FlowRuleExPrm} {w : Write} (hw : w ∈ r.configWrites) :
  w.Within 0 0x240
  := by
  have h := within_of_spans (n := 0x240) 0 _ (configWrites_spans r) (by decide) hw
  rwa [Nat.zero_add] at h

/-- The writes made before the actions. -/
def beforeWrites (r : FlowRuleExPrm) : List Write :=
  r.configWrites ++ selected
    (r.mMatcher.writes (SetFteIn.flowContext + FlowContext.matchValue) r.mMatchValue)

/-- The parser samples of the criteria, if enabled, fit the slots of the match value. -/
def MatchFits (r : FlowRuleExPrm) : Prop :=
  r.mMatcher.enables fgMatchParserFields = true → r.mMatcher.samples ≤ 8

theorem beforeActions_eq_ok {r : FlowRuleExPrm} {m : Memory} (h : r.beforeActions = (.ok, m)) :
  r.MatchFits ∧ bit m = puts (bit zeros) r.beforeWrites
  := by
  obtain ⟨m₁, hconfig, hmatch⟩ := Result.andThen_eq_ok.mp h
  obtain ⟨hbits, hlength⟩ := FlowMatcher.apply_eq_ok hmatch
  constructor
  · intro henabled
    apply (hlength henabled).2
  · rw [beforeWrites, puts_append, ← configFlowRule_eq_ok hconfig]
    apply hbits

/-- What is written before the actions lies before the places of the actions, or in the match
value. -/
theorem beforeWrites_within {r : FlowRuleExPrm} (hfits : r.MatchFits) {w : Write}
    (hw : w ∈ r.beforeWrites) :
  w.Within 0 0x240 ∨ w.Within 0x400 0x1400
  := by
  rcases List.mem_append.mp hw with hw | hw
  · left
    apply configWrites_within hw
  · right
    apply FlowMatcher.writes_within hfits hw

theorem beforeWrites_disjoint {r : FlowRuleExPrm} (hfits : r.MatchFits) :
  r.beforeWrites.Pairwise Write.Disjoint
  := by
  rw [beforeWrites, List.pairwise_append]
  refine ⟨configWrites_disjoint r, selected_disjoint (FlowMatcher.writes_disjoint _ _ _), ?_⟩
  intro w hw w' hw'
  apply (configWrites_within hw).disjoint (FlowMatcher.writes_within hfits hw')
  simp only [SetFteIn.flowContext, FlowContext.matchValue]
  omega

/-- The actions were applied: they could be prepared, and have made their writes. -/
theorem applyActions_eq_ok {env : Env} {m m' : Memory} {l l' : List FlowAction}
    (h : applyActions env m l = (.ok, l', m')) :
  List.Forall₂ (FlowAction.Prepares env) l l' ∧ bit m' = puts (bit m) (l'.flatMap FlowAction.writes)
  := by
  induction l generalizing m l' with
  | nil =>
      simp only [applyActions, Prod.mk.injEq, true_and] at h
      obtain ⟨rfl, rfl⟩ := h
      exact ⟨.nil, rfl⟩
  | cons a rest ih =>
      rcases happly : a.apply env m with ⟨ret, a', m₁⟩
      cases ret <;> simp only [applyActions, happly, Prod.mk.injEq, reduceCtorEq, false_and] at h
      obtain ⟨hret, rfl, rfl⟩ := h
      have hprepares := FlowAction.prepares_of_apply happly
      obtain ⟨m₂, happly', hbits⟩ := FlowAction.apply_of_prepares hprepares m
      obtain rfl : m₁ = m₂ := by
        rw [happly] at happly'
        simpa using happly'
      have hrest : applyActions env m₁ rest
          = (.ok, (applyActions env m₁ rest).2.1, (applyActions env m₁ rest).2.2) :=
        Prod.ext hret rfl
      obtain ⟨hforall, hbits'⟩ := ih hrest
      constructor
      · apply List.Forall₂.cons hprepares hforall
      · rw [hbits', hbits, List.flatMap_cons, puts_append]

/-- Actions that can be prepared are applied successfully, on every mailbox. -/
theorem applyActions_of_prepares {env : Env} {l l' : List FlowAction}
    (h : List.Forall₂ (FlowAction.Prepares env) l l') (m : Memory) :
  ∃ m', applyActions env m l = (.ok, l', m')
  := by
  induction h generalizing m with
  | nil => exact ⟨m, rfl⟩
  | cons hprepares _ ih =>
      obtain ⟨m₁, happly, -⟩ := FlowAction.apply_of_prepares hprepares m
      obtain ⟨m₂, hrest⟩ := ih m₁
      use m₂
      simp only [applyActions, happly, hrest]

/-- Prepared actions of pairwise different types make pairwise disjoint writes. -/
theorem actionWrites_disjoint {l : List FlowAction} (h : (l.map FlowAction.type).Nodup) :
  (l.flatMap FlowAction.writes).Pairwise Write.Disjoint
  := by
  rw [List.pairwise_flatMap]
  constructor
  · intro a _
    apply FlowAction.writes_disjoint
  · rw [List.Nodup, List.pairwise_map] at h
    apply h.imp
    intro a b hab
    apply FlowAction.writes_disjoint_of_type hab

/-- The writes of an action do not meet what is written before the actions. -/
theorem before_disjoint_action {w w' : Write} (hw : w.Within 0 0x240 ∨ w.Within 0x400 0x1400)
    {a : FlowAction} (hw' : w' ∈ a.writes) :
  w.Disjoint w'
  := by
  rcases List.mem_append.mp hw' with hw' | hw'
  · have hdest := FlowAction.dests_within hw'
    have hpos : FlowAction.destPos = 0x1a00 := rfl
    rcases hw with hw | hw
    · apply hw.disjoint hdest
      omega
    · apply hw.disjoint hdest
      omega
  · have hfield := FlowAction.fieldWrites_within hw'
    rcases hw with hw | hw
    · apply hw.disjoint hfield
      omega
    · apply hw.disjoint hfield
      omega

theorem prepares_types {env : Env} {l l' : List FlowAction}
    (h : List.Forall₂ (FlowAction.Prepares env) l l') :
  l'.map FlowAction.type = l.map FlowAction.type
  := by
  induction h with
  | nil => rfl
  | cons hprepares _ ih =>
      rw [List.map_cons, List.map_cons, ih, FlowAction.prepares_type hprepares]

/-- All writes of a mailbox with the prepared actions `l`. -/
def allWrites (r : FlowRuleExPrm) (l : List FlowAction) : List Write :=
  r.beforeWrites ++ l.flatMap FlowAction.writes

theorem allWrites_disjoint {r : FlowRuleExPrm} (hfits : r.MatchFits) {l : List FlowAction}
    (h : (l.map FlowAction.type).Nodup) :
  (r.allWrites l).Pairwise Write.Disjoint
  := by
  rw [allWrites, List.pairwise_append]
  refine ⟨beforeWrites_disjoint hfits, actionWrites_disjoint h, ?_⟩
  intro w hw w' hw'
  obtain ⟨a, -, ha⟩ := List.mem_flatMap.mp hw'
  apply before_disjoint_action (beforeWrites_within hfits hw) ha

/-- A mailbox that came to be sent: what was prepared, and all its writes. -/
theorem mailbox_eq_ok {r : FlowRuleExPrm} {env : Env} {order l : List FlowAction} {m : Memory}
    (h : r.mailbox env order = (.ok, l, m)) :
  ∃ m₀, r.beforeActions = (.ok, m₀) ∧ r.MatchFits
    ∧ List.Forall₂ (FlowAction.Prepares env) order l
    ∧ bit m = puts (bit m₀) (l.flatMap FlowAction.writes)
    ∧ bit m = puts (bit zeros) (r.allWrites l)
  := by
  rcases hbefore : r.beforeActions with ⟨ret, m₀⟩
  cases ret <;> simp only [mailbox, hbefore, Prod.mk.injEq, reduceCtorEq, false_and] at h
  obtain ⟨hfits, hbits₀⟩ := beforeActions_eq_ok hbefore
  obtain ⟨hforall, hbits⟩ := applyActions_eq_ok h
  refine ⟨m₀, rfl, hfits, hforall, hbits, ?_⟩
  rw [allWrites, puts_append, ← hbits₀]
  apply hbits

/-! ### The order of the actions -/

/-- Every order of the actions gives the same mailbox, and it comes to be sent in every order or
in none. -/
theorem mailbox_perm {r : FlowRuleExPrm} {env : Env} {order order' l : List FlowAction} {m : Memory}
    (hperm : order'.Perm order) (hnodup : (order.map FlowAction.type).Nodup)
    (h : r.mailbox env order = (.ok, l, m)) :
  ∃ l', r.mailbox env order' = (.ok, l', m)
  := by
  obtain ⟨m₀, hbefore, hfits, hforall, hbits, -⟩ := mailbox_eq_ok h
  obtain ⟨l', hforall', hperm'⟩ := List.perm_comp_forall₂ hperm hforall
  obtain ⟨m', happly⟩ := applyActions_of_prepares hforall' m₀
  have hm : m' = m := by
    apply ext_bit
    intro i
    obtain ⟨-, hbits'⟩ := applyActions_eq_ok happly
    have hdisjoint : (l'.flatMap FlowAction.writes).Pairwise Write.Disjoint := by
      apply actionWrites_disjoint
      rw [prepares_types hforall', (hperm.map FlowAction.type).nodup_iff]
      apply hnodup
    rw [hbits, hbits', puts_perm _ (hperm'.flatMap_right _) hdisjoint]
  use l'
  rw [← hm]
  simp only [mailbox, hbefore, happly]

/-! ### What the mailbox says -/

/-- The mailbox `m` says what the rule says: the mask is the OR of the flags of the actions
present, each action's own fields hold its values, and what was written before the actions
is as it was. -/
structure Decodes (r : FlowRuleExPrm) (env : Env) (m : Memory) : Prop where
  action : devxGet m SetFteIn.flowContext FlowContext.action
    = FlowAction.mask (r.mActions.entries.map FlowAction.type)
  modify : ∀ a, .modify a ∈ r.mActions.entries → ∃ a', a.prepare env = (.ok, a')
    ∧ devxGet m SetFteIn.flowContext FlowContext.modifyHeaderId = a'.mModifyId
  reformat : ∀ a, .reformat a ∈ r.mActions.entries →
    devxGet m SetFteIn.flowContext FlowContext.packetReformatId = a.mReformatId
  tag : ∀ a, .tag a ∈ r.mActions.entries →
    (devxGet m SetFteIn.flowContext FlowContext.flowTag).toNat = a.mTagId.toNat % 2 ^ 24
  dest : ∀ a, .fwd a ∈ r.mActions.entries → ∀ i dest, a.mDests[i]? = some dest →
    devxGet m (SetFteIn.flowContext + FlowContext.destination + DestFormatStruct.bytes * i)
        DestFormatStruct.destinationType = dest.fwdType.value
      ∧ devxGet m (SetFteIn.flowContext + FlowContext.destination + DestFormatStruct.bytes * i)
        DestFormatStruct.destinationId = dest.base.mId
  destListSize : ∀ a, .fwd a ∈ r.mActions.entries →
    (devxGet m SetFteIn.flowContext FlowContext.destinationListSize).toNat
      = a.mDests.length % 2 ^ 24
  tableId : (devxGet m 0 SetFteIn.tableId).toNat = r.mTable.mTableId.toNat % 2 ^ 24
  groupId : devxGet m SetFteIn.flowContext FlowContext.groupId = r.mGroup.mGroupId
  flowIndex : devxGet m 0 SetFteIn.flowIndex = r.mFlowIndex
  before : ∃ m₀, r.beforeActions = (.ok, m₀)
    ∧ ∀ j, j < 0x240 ∨ 0x400 ≤ j ∧ j < 0x1400 → bit m j = bit m₀ j

/-- Each action has its prepared form among the prepared actions. -/
theorem exists_prepared {env : Env} {l l' : List FlowAction}
    (h : List.Forall₂ (FlowAction.Prepares env) l l') {a : FlowAction} (ha : a ∈ l) :
  ∃ a' ∈ l', a.Prepares env a'
  := by
  induction h with
  | nil => cases ha
  | cons hprepares _ ih =>
      rcases List.mem_cons.mp ha with rfl | ha
      · exact ⟨_, List.mem_cons_self, hprepares⟩
      · obtain ⟨a', ha', hprepares'⟩ := ih ha
        exact ⟨a', List.mem_cons_of_mem _ ha', hprepares'⟩

theorem mem_allWrites_of_action {r : FlowRuleExPrm} {l : List FlowAction} {a : FlowAction}
    (ha : a ∈ l) {w : Write} (hw : w ∈ a.writes) :
  w ∈ r.allWrites l
  := by
  apply List.mem_append_right
  apply List.mem_flatMap.mpr
  exact ⟨a, ha, hw⟩

theorem mem_allWrites_of_config {r : FlowRuleExPrm} {l : List FlowAction} {w : Write}
    (hw : w ∈ r.configWrites) :
  w ∈ r.allWrites l
  := by
  apply List.mem_append_left
  apply List.mem_append_left
  apply hw

/-- The mask of actions is the OR of the flags of the prepared actions. -/
theorem devxGet_action {r : FlowRuleExPrm} (hfits : r.MatchFits) {l : List FlowAction}
    (hnodup : (l.map FlowAction.type).Nodup) {m : Memory}
    (hm : bit m = puts (bit zeros) (r.allWrites l)) :
  devxGet m SetFteIn.flowContext FlowContext.action = FlowAction.mask (l.map FlowAction.type)
  := by
  have hws := allWrites_disjoint hfits hnodup
  have hbit : ∀ k < 16, bit m (0x27f - k) = true
      ↔ ∃ t ∈ l.map FlowAction.type, FlowAction.maskBit t = some k := by
    intro k hk
    constructor
    · intro hset
      by_contra hnone
      have hzero : bit m (0x27f - k) = false := by
        rw [hm, puts_of_not_covers, bit_zeros]
        intro w hw hcovers
        rcases List.mem_append.mp hw with hw | hw
        · have hwithin := beforeWrites_within hfits hw
          simp only [Write.Within, Write.Covers] at hwithin hcovers
          omega
        · obtain ⟨a, ha, hwa⟩ := List.mem_flatMap.mp hw
          apply hnone
          exact ⟨a.type, List.mem_map_of_mem ha, FlowAction.maskBit_of_covers hk hwa hcovers⟩
      rw [hzero] at hset
      cases hset
    · rintro ⟨t, ht, hk'⟩
      obtain ⟨a, ha, rfl⟩ := List.mem_map.mp ht
      have hcovers : (FlowAction.actionBit k).Covers (0x27f - k) := by
        simp only [Write.Covers, FlowAction.actionBit, SetFteIn.flowContext, FlowContext.action]
        omega
      rw [hm, puts_of_mem _ hws (mem_allWrites_of_action ha (FlowAction.actionBit_mem hk')) hcovers]
      rfl
  apply BitVec.eq_of_getLsbD_eq
  intro k hk
  rw [getLsbD_devxGet, Bool.eq_iff_iff, FlowAction.getLsbD_mask _ hk, Bool.and_eq_true,
    decide_eq_true_iff]
  constructor
  · rintro ⟨hk16, hset⟩
    apply (hbit k hk16).mp hset
  · rintro ⟨t, ht, hmask⟩
    have hk16 : k < 16 := by
      cases t <;> simp only [FlowAction.maskBit, Option.some.injEq, reduceCtorEq] at hmask <;>
        subst hmask <;> decide
    apply And.intro hk16
    apply (hbit k hk16).mpr
    exact ⟨t, ht, hmask⟩

/-- The destinations of a forward action are read back. -/
theorem devxGet_dest {r : FlowRuleExPrm} {l : List FlowAction} {m : Memory}
    (hws : (r.allWrites l).Pairwise Write.Disjoint) (hm : bit m = puts (bit zeros) (r.allWrites l))
    {a : FlowActionFwd} (ha : .fwd a ∈ l) {i : Nat} {dest : ForwardableObj}
    (hdest : a.mDests[i]? = some dest) :
  devxGet m (SetFteIn.flowContext + FlowContext.destination + DestFormatStruct.bytes * i)
      DestFormatStruct.destinationType = dest.fwdType.value
    ∧ devxGet m (SetFteIn.flowContext + FlowContext.destination + DestFormatStruct.bytes * i)
      DestFormatStruct.destinationId = dest.base.mId
  := by
  obtain ⟨hid, htype⟩ := FlowAction.mem_destWrites
    (SetFteIn.flowContext + FlowContext.destination) hdest
  constructor
  · apply devxGet_eq_of_puts hm hws
    · cases dest.fwdType <;> decide
    · apply mem_allWrites_of_action ha
      apply List.mem_append_left
      apply htype
  · apply devxGet_eq_of_puts hm hws dest.base.idFits
    apply mem_allWrites_of_action ha
    apply List.mem_append_left
    apply hid

/-- The actions leave what was written before them. -/
theorem bit_before_actions {l : List FlowAction} {m m₀ : Memory}
    (hbits : bit m = puts (bit m₀) (l.flatMap FlowAction.writes)) {j : Nat}
    (hj : j < 0x240 ∨ 0x400 ≤ j ∧ j < 0x1400) :
  bit m j = bit m₀ j
  := by
  rw [hbits]
  apply puts_of_not_covers
  intro w hw hcovers
  obtain ⟨a, -, hwa⟩ := List.mem_flatMap.mp hw
  have hdisjoint : (Write.mk j 1 (fun _ => true)).Disjoint w := by
    apply before_disjoint_action _ hwa
    simp only [Write.Within]
    omega
  apply hdisjoint.not_covers _ hcovers
  simp only [Write.Covers]
  omega

/-- A mailbox that came to be sent says what the rule says. -/
theorem decodes_of_mailbox {r : FlowRuleExPrm} {env : Env} {order l : List FlowAction} {m : Memory}
    (hperm : order.Perm r.mActions.entries) (h : r.mailbox env order = (.ok, l, m)) :
  r.Decodes env m
  := by
  obtain ⟨m₀, hbefore, hfits, hforall, hbits, hm⟩ := mailbox_eq_ok h
  have htypes : (l.map FlowAction.type).Perm (r.mActions.entries.map FlowAction.type) := by
    rw [prepares_types hforall]
    apply hperm.map
  have hnodup : (l.map FlowAction.type).Nodup := htypes.nodup_iff.mpr r.mActions.nodup
  have hws := allWrites_disjoint hfits hnodup
  have hprepared : ∀ a ∈ r.mActions.entries, ∃ a' ∈ l, a.Prepares env a' := by
    intro a ha
    apply exists_prepared hforall (hperm.mem_iff.mpr ha)
  constructor
  case action =>
    rw [devxGet_action hfits hnodup hm]
    apply FlowAction.mask_perm htypes
  case modify =>
    intro a ha
    obtain ⟨_, ha', a', hprepare, rfl⟩ := hprepared _ ha
    use a', hprepare
    apply devxGet_eq_of_puts hm hws (BitVec.isLt _)
    apply mem_allWrites_of_action ha'
    simp [FlowAction.writes, FlowAction.fieldWrites]
  case reformat =>
    intro a ha
    obtain ⟨_, ha', -, rfl⟩ := hprepared _ ha
    apply devxGet_eq_of_puts hm hws (BitVec.isLt _)
    apply mem_allWrites_of_action ha'
    simp [FlowAction.writes, FlowAction.fieldWrites]
  case tag =>
    intro a ha
    obtain ⟨_, ha', rfl⟩ := hprepared _ ha
    apply devxGet_of_puts hm hws
    apply mem_allWrites_of_action ha'
    simp [FlowAction.writes, FlowAction.fieldWrites]
  case dest =>
    intro a ha i dest hdest
    obtain ⟨_, ha', -, rfl⟩ := hprepared _ ha
    apply devxGet_dest hws hm ha' hdest
  case destListSize =>
    intro a ha
    obtain ⟨_, ha', -, rfl⟩ := hprepared _ ha
    rw [devxGet_of_puts hm hws (v := BitVec.ofNat 32 a.mDests.length)]
    · rw [BitVec.toNat_ofNat]
      apply Nat.mod_mod_of_dvd
      decide
    · apply mem_allWrites_of_action ha'
      simp [FlowAction.writes, FlowAction.fieldWrites]
  case tableId =>
    apply devxGet_of_puts hm hws
    apply mem_allWrites_of_config
    simp [configWrites]
  case groupId =>
    apply devxGet_eq_of_puts hm hws (BitVec.isLt _)
    apply mem_allWrites_of_config
    simp [configWrites]
  case flowIndex =>
    apply devxGet_eq_of_puts hm hws (BitVec.isLt _)
    apply mem_allWrites_of_config
    simp [configWrites]
  case before =>
    use m₀, hbefore
    intro j hj
    apply bit_before_actions hbits hj

/-- What `create` does when the mailbox could be filled. -/
theorem create_of_mailbox {r : FlowRuleExPrm} {env : Env} {order l : List FlowAction} {m : Memory}
    (hvalid : r.mIsValidActions = true) (h : r.mailbox env order = (.ok, l, m)) :
  r.create env true order =
    match r.base.create env.device (some m) r.inLen zeros SetFteOut.bytes with
    | (.ok, base, _) => (.ok, { r with base := base, mIsInitialized := true }, some (m, r.inLen))
    | (ret, base, _) => (ret, { r with base := base }, some (m, r.inLen))
  := by
  simp only [create, hvalid, h, Bool.not_true, Bool.false_eq_true, if_false]
  rcases r.base.create env.device (some m) r.inLen zeros SetFteOut.bytes with ⟨ret, base, out⟩
  cases ret <;> rfl

/-- A mailbox that could be filled is handed on. -/
theorem sent_of_mailbox {r : FlowRuleExPrm} {env : Env} {order l : List FlowAction} {m : Memory}
    (hvalid : r.mIsValidActions = true) (h : r.mailbox env order = (.ok, l, m)) :
  (r.create env true order).2.2 = some (m, r.inLen)
  := by
  rw [create_of_mailbox hvalid h]
  rcases r.base.create env.device (some m) r.inLen zeros SetFteOut.bytes with ⟨ret, base, out⟩
  cases ret <;> rfl

/-- A mailbox is handed on only after all actions were applied. -/
theorem mailbox_of_create {r : FlowRuleExPrm} {env : Env} {alloc : Bool} {order : List FlowAction}
    {m : Memory} {len : Nat} (h : (r.create env alloc order).2.2 = some (m, len)) :
  r.mIsValidActions = true ∧ alloc = true ∧ len = r.inLen ∧ ∃ l, r.mailbox env order = (.ok, l, m)
  := by
  cases hvalid : r.mIsValidActions with
  | false => simp [create, hvalid] at h
  | true =>
      cases alloc with
      | false => simp [create, hvalid] at h
      | true =>
          rcases hmailbox : r.mailbox env order with ⟨ret, l, m'⟩
          cases ret with
          | ok =>
              rw [sent_of_mailbox hvalid hmailbox, Option.some.injEq, Prod.mk.injEq] at h
              obtain ⟨rfl, rfl⟩ := h
              exact ⟨rfl, rfl, rfl, l, rfl⟩
          | _ => simp [create, hvalid, hmailbox] at h

/-- Whatever order the map gives its actions in: if all of them are applied, the mailbox says
what the rule says, and `create` does the same in every other order. -/
theorem create_sends {r : FlowRuleExPrm} {env : Env} {alloc : Bool} {order : List FlowAction}
    (hperm : order.Perm r.mActions.entries) {m : Memory} {len : Nat}
    (h : (r.create env alloc order).2.2 = some (m, len)) :
  r.Decodes env m ∧ ∀ order' : List FlowAction, order'.Perm r.mActions.entries →
    r.create env alloc order' = r.create env alloc order
  := by
  obtain ⟨hvalid, rfl, -, l, hmailbox⟩ := mailbox_of_create h
  constructor
  · apply decodes_of_mailbox hperm hmailbox
  · intro order' hperm'
    have hnodup : (order.map FlowAction.type).Nodup :=
      (hperm.map FlowAction.type).nodup_iff.mpr r.mActions.nodup
    obtain ⟨l', hmailbox'⟩ := mailbox_perm (hperm'.trans hperm.symm) hnodup hmailbox
    rw [create_of_mailbox hvalid hmailbox, create_of_mailbox hvalid hmailbox']

/-- A TIR the device has given the id `5`. -/
def tirFive : ForwardableObj where
  base := ⟨5, true, true, true, 0, 0, by decide⟩
  fwdType := .tir

/-- A rule with the actions `actions`, in a table and a group that are created. -/
def ruleWith (actions : ActionMap) : FlowRuleExPrm where
  base := .new true
  mMatchValue := .empty
  mIsInitialized := false
  mTable := ⟨true, 0, 3⟩
  mGroup := ⟨⟨.new true, ⟨0, 7, 0, .empty⟩, true, none⟩, 4⟩
  mIsValidActions := true
  mActions := actions
  mMatcher := ⟨⟨.empty, 0⟩⟩
  mFlowIndex := 1

/-- An environment where allocation succeeds and the device refuses everything. -/
def refusing : Env where
  alloc := true
  device _ _ := ⟨false, zeros⟩

/-- Forward to one TIR, and a tag. -/
def fwdAndTag : ActionMap where
  entries := [.fwd ⟨[tirFive], false⟩, .tag ⟨0xabcdef⟩]
  nodup := by decide

theorem create_sends_fwdAndTag :
  ∃ m len, ((ruleWith fwdAndTag).create refusing true fwdAndTag.entries).2.2 = some (m, len)
    ∧ (ruleWith fwdAndTag).Decodes refusing m
    ∧ ∀ order' : List FlowAction, order'.Perm fwdAndTag.entries →
      (ruleWith fwdAndTag).create refusing true order'
        = (ruleWith fwdAndTag).create refusing true fwdAndTag.entries
  := by
  refine ⟨_, _, rfl, ?_⟩
  exact create_sends (List.Perm.refl _) rfl

/-- Forward to `2 ^ 24` TIRs. -/
def manyDests : ActionMap where
  entries := [.fwd ⟨List.replicate (2 ^ 24) tirFive, false⟩]
  nodup := List.nodup_singleton _

/-- The size of a list of `2 ^ 24` destinations reads as zero. -/
theorem manyDests_size :
  ∃ m len, ((ruleWith manyDests).create refusing true manyDests.entries).2.2 = some (m, len)
    ∧ (List.replicate (2 ^ 24) tirFive).length = 2 ^ 24
    ∧ (devxGet m SetFteIn.flowContext FlowContext.destinationListSize).toNat = 0
  := by
  have hprepares : List.Forall₂ (FlowAction.Prepares refusing) manyDests.entries
      manyDests.entries := by
    apply List.Forall₂.cons _ .nil
    constructor
    · intro dest hdest
      rw [List.eq_of_mem_replicate hdest]
      rfl
    · rfl
  obtain ⟨m₀, hbefore⟩ : ∃ m₀, (ruleWith manyDests).beforeActions = (.ok, m₀) := ⟨_, rfl⟩
  obtain ⟨m, happly⟩ := applyActions_of_prepares hprepares m₀
  have hmailbox : (ruleWith manyDests).mailbox refusing manyDests.entries
      = (.ok, manyDests.entries, m) := by
    simp only [mailbox, hbefore, happly]
  have hsize := (decodes_of_mailbox (List.Perm.refl _) hmailbox).destListSize _
    List.mem_cons_self
  refine ⟨m, (ruleWith manyDests).inLen, ?_, List.length_replicate, ?_⟩
  · apply sent_of_mailbox rfl hmailbox
  · rw [hsize]
    simp only [List.length_replicate]
    decide

end FlowRuleExPrm

end Dpcp
