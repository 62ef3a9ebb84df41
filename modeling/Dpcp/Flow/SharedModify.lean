import Dpcp.Flow.RuleKernel
import Dpcp.Flow.Table

/-!
# Modify actions that rules share

A `flow_action_modify` can be an action of any number of rules.  The first rule of a PRM table that
applies it has the device allocate a modify-header context, and later ones use the id that the
action keeps.  A rule of the root table hands on entries instead, which the action keeps as well.

The contexts that were allocated and the mailboxes of the rules that were created are kept beside
the action.  Every rule applies its actions in the order its map gives them in, and stops where one
of them fails.
-/

namespace Dpcp

open Bits Dcmd Prm

/-- The device gives an object only with the status 0. -/
def Device.Clean (device : Device) : Prop :=
  ∀ m len, (device m len).handle = true → devxGet (device m len).out 0 StatusOut.status = 0

/-- An object is made exactly if there is a context and the device gives a handle. -/
theorem Obj.create_clean {o : Obj} {device : Device} (hclean : device.Clean) {inlen outlen : Nat}
    (hin : 16 ≤ inlen) (hout : 16 ≤ outlen) (m out : Memory) :
  if o.mCtx && (device m inlen).handle then
    ∃ o', o.create device (some m) inlen out outlen = (.ok, o', (device m inlen).out)
  else (o.create device (some m) inlen out outlen).1 ≠ .ok
  := by
  have hlen : ¬ (inlen < 16 ∨ outlen < 16) := by omega
  cases hctx : o.mCtx with
  | false => simp [create, hctx]
  | true =>
      cases hhandle : (device m inlen).handle with
      | false => simp [create, hctx, hlen, hhandle]
      | true =>
          have hstatus := hclean m inlen hhandle
          simp [create, hctx, hlen, hhandle, hstatus]

namespace FlowActionModify

/-! ### The action -/

/-- The constructor of `flow_action_modify`. -/
def new (ctx : Bool) (attr : FlowActionModifyAttr) : FlowActionModify where
  base := .new ctx
  mAttr := attr
  mIsValid := false
  mModifyId := 0
  mActionsRoot := none
  mOut := zeros
  mIn := none
  mInlen := 0

/-- `flow_action_modify::get_id`; `id` is what the output parameter held. -/
def getId (a : FlowActionModify) (id : BitVec 32) : Result (BitVec 32) :=
  if !a.mIsValid then (.errNotApplied, id) else (.ok, a.mModifyId)

/-- The id of the context that the device allocates when the action is prepared, if it allocates
one. -/
def allocates (a : FlowActionModify) (env : Env) : Option (BitVec 32) :=
  match a.command env.alloc with
  | .ok c =>
      if a.base.mCtx && (env.device c.mailbox c.inlen).handle then
        some (devxGet (env.device c.mailbox c.inlen).out 0
          AllocModifyHeaderContextOut.modifyHeaderId)
      else
        none
  | .error _ => none

/-- An action that is valid allocates nothing. -/
theorem prepare_of_valid {a : FlowActionModify} (h : a.mIsValid = true) (env : Env) :
  a.prepare env = (.ok, a) ∧ a.allocates env = none
  := by
  simp [prepare, allocates, command, h]

/-- A mailbox that was made is long enough for a command. -/
theorem inlen_of_preparePrmModifyBuff {a b : FlowActionModify} {alloc : Bool}
    (h : a.preparePrmModifyBuff alloc = (.ok, b)) :
  16 ≤ b.mInlen
  := by
  have hb : b = (a.preparePrmModifyBuff alloc).2 := by rw [h]
  rw [hb]
  cases alloc <;>
    simp only [preparePrmModifyBuff, Bool.false_eq_true, if_false, if_true,
      AllocModifyHeaderContextIn.bytes] <;>
    omega

/-- An action that is not valid becomes valid exactly if a context is allocated, and has the id of
the context then. -/
theorem prepare_cases {a : FlowActionModify} (h : a.mIsValid = false) {env : Env}
    (hclean : env.device.Clean) :
  (∃ id, a.allocates env = some id ∧ (a.prepare env).1 = .ok
      ∧ (a.prepare env).2.mIsValid = true ∧ (a.prepare env).2.mModifyId = id)
    ∨ a.allocates env = none ∧ (a.prepare env).1 ≠ .ok ∧ (a.prepare env).2.mIsValid = false
  := by
  obtain ⟨hbase, hvalid, hin⟩ := a.preparePrmModifyBuff_base env.alloc
  rcases hbuff : a.preparePrmModifyBuff env.alloc with ⟨ret, b⟩
  rw [hbuff] at hbase hvalid hin
  rw [h] at hvalid
  dsimp only at hbase hvalid hin
  cases ret with
  | ok =>
      obtain ⟨m, hm⟩ := Option.isSome_iff_exists.mp (hin rfl)
      have hcreate := Obj.create_clean (o := b.base) hclean (inlen_of_preparePrmModifyBuff hbuff)
        (by decide : 16 ≤ AllocModifyHeaderContextOut.bytes) m b.mOut
      have hcommand : a.command env.alloc
          = .ok ⟨m, b.mInlen, AllocModifyHeaderContextOut.bytes⟩ := by
        simp [command, h, hbuff, hm]
      by_cases hmade : (b.base.mCtx && (env.device m b.mInlen).handle) = true
      · rw [if_pos hmade] at hcreate
        obtain ⟨o', ho'⟩ := hcreate
        left
        refine ⟨devxGet (env.device m b.mInlen).out 0 AllocModifyHeaderContextOut.modifyHeaderId,
          ?_, ?_, ?_, ?_⟩
        · simp only [allocates, hcommand, ← hbase]
          apply if_pos hmade
        all_goals simp [prepare, createPrmModify, h, hbuff, Result.andThen, hm, ho']
      · rw [if_neg hmade] at hcreate
        right
        refine ⟨?_, ?_, ?_⟩
        · simp only [allocates, hcommand, ← hbase]
          apply if_neg hmade
        all_goals
          simp only [prepare, createPrmModify, h, hbuff, Result.andThen, hm, Bool.not_false,
            if_true]
          rcases hobj : b.base.create env.device (some m) b.mInlen b.mOut
            AllocModifyHeaderContextOut.bytes with ⟨ret, o', out⟩
          rw [hobj] at hcreate
          cases ret with
          | ok => cases hcreate rfl
          | _ => simp [hvalid]
  | _ =>
      right
      refine ⟨?_, ?_, ?_⟩
      · simp [allocates, command, h, hbuff]
      · simp [prepare, createPrmModify, h, hbuff, Result.andThen]
      · simpa [prepare, createPrmModify, h, hbuff, Result.andThen] using hvalid

/-- A rule of the root table changes the buffers of the action only. -/
theorem applyRoot_frame (a : FlowActionModify) (env : RootEnv) (desc : FlowDesc) :
  (a.applyRoot env desc).2.1.mIsValid = a.mIsValid
    ∧ (a.applyRoot env desc).2.1.mModifyId = a.mModifyId
  := by
  have hbuff := a.preparePrmModifyBuff_eq env.allocMailbox
  have hprepared : ∀ r : Result FlowActionModify,
      r = (if a.mActionsRoot.isNone then
        (a.preparePrmModifyBuff env.allocMailbox).andThen fun a => a.prepareFlowDescBuffs env.heap
        else (.ok, a)) →
      r.2.mIsValid = a.mIsValid ∧ r.2.mModifyId = a.mModifyId := by
    rintro r rfl
    split
    · apply Result.andThen_inv (P := fun b : FlowActionModify =>
        b.mIsValid = a.mIsValid ∧ b.mModifyId = a.mModifyId)
      · intro _
        rw [hbuff]
        exact ⟨rfl, rfl⟩
      · intro _
        rcases (a.preparePrmModifyBuff env.allocMailbox).2.prepareFlowDescBuffs_cases env.heap with
          ⟨m, hm⟩ | ⟨ret, -, hfail⟩
        · rw [hm, hbuff]
          exact ⟨rfl, rfl⟩
        · rw [hfail, hbuff]
          exact ⟨rfl, rfl⟩
    · exact ⟨rfl, rfl⟩
  have hframe := hprepared _ rfl
  simp only [applyRoot]
  split
  · rename_i b hb
    rw [hb] at hframe
    apply hframe
  · rename_i hb
    rw [hb] at hframe
    apply hframe

end FlowActionModify

/-! ### The rules -/

/-- The other actions of a rule that has a modify action: the ones that the map gives before it, and
the ones after it. -/
structure OtherActions where
  before : List FlowAction
  after : List FlowAction
  nodup : (before.map FlowAction.type ++ .modify :: after.map FlowAction.type).Nodup

/-- All actions of the rule. -/
def OtherActions.withModify (others : OtherActions) (a : FlowActionModify) : ActionMap where
  entries := others.before ++ .modify a :: others.after
  nodup := by
    rw [List.map_append, List.map_cons]
    apply others.nodup

/-- A rule that has the action is created, with what the world outside decides meanwhile. -/
inductive ModifyUse where
  | prm (r : FlowRuleExPrm) (others : OtherActions) (env : Env) (alloc : Bool)
  | root (r : FlowRuleExKernel) (others : OtherActions) (env : RootEnv)

/-- The modify action among all actions of the rule, as they are after they were applied. -/
def OtherActions.shared (others : OtherActions) (l : List FlowAction) (a : FlowActionModify) :
    FlowActionModify :=
  match l[others.before.length]? with
  | some (.modify a) => a
  | _ => a

namespace FlowRuleExPrm

/-- `create` comes to the action that stands behind `before`. -/
def reaches (r : FlowRuleExPrm) (env : Env) (alloc : Bool) (before : List FlowAction) : Bool :=
  r.mIsValidActions && alloc && decide ((r.mailbox env before).1 = .ok)

/-- Applying a modify action prepares it. -/
theorem apply_modify (a : FlowActionModify) (env : Env) (m : Memory) :
  ((FlowAction.modify a).apply env m).1 = (a.prepare env).1
    ∧ ((FlowAction.modify a).apply env m).2.1 = .modify (a.prepare env).2
  := by
  rcases hprepare : a.prepare env with ⟨ret, b⟩
  cases ret <;> simp [FlowAction.apply, FlowActionModify.apply, hprepare]

/-- The loop prepares an action if it comes to it, and leaves it as it is if not. -/
theorem applyActions_modify (env : Env) (m : Memory) (before after : List FlowAction)
    (a : FlowActionModify) :
  (applyActions env m (before ++ .modify a :: after)).2.1[before.length]?
    = some (.modify (if (applyActions env m before).1 = .ok then (a.prepare env).2 else a))
  := by
  induction before generalizing m with
  | nil =>
      obtain ⟨-, haction⟩ := apply_modify a env m
      rcases happly : (FlowAction.modify a).apply env m with ⟨ret, b, m₁⟩
      rw [happly] at haction
      cases haction
      cases ret <;> simp [applyActions, happly]
  | cons b before ih =>
      rcases happly : b.apply env m with ⟨ret, b', m₁⟩
      cases ret with
      | ok => simpa [applyActions, happly] using ih m₁
      | _ => simp [applyActions, happly]

/-- The loop came to every action if it did not fail. -/
theorem applyActions_left {env : Env} {m : Memory} {before : List FlowAction}
    (after : List FlowAction) (h : (applyActions env m (before ++ after)).1 = .ok) :
  (applyActions env m before).1 = .ok
  := by
  induction before generalizing m with
  | nil => rfl
  | cons b before ih =>
      rcases happly : b.apply env m with ⟨ret, b', m₁⟩
      cases ret with
      | ok =>
          simp only [List.cons_append, applyActions, happly] at h ⊢
          apply ih h
      | _ => simp [applyActions, happly] at h

/-- What `create` does to the action behind `before`. -/
theorem shared_mailbox (r : FlowRuleExPrm) (env : Env) (others : OtherActions)
    (a : FlowActionModify) :
  others.shared (r.mailbox env (others.withModify a).entries).2.1 a
    = if (r.mailbox env others.before).1 = .ok then (a.prepare env).2 else a
  := by
  rcases hbefore : r.beforeActions with ⟨ret, m⟩
  cases ret with
  | ok =>
      simp only [mailbox, hbefore, OtherActions.shared, OtherActions.withModify,
        applyActions_modify]
  | _ => simp [mailbox, hbefore, OtherActions.shared, OtherActions.withModify]

end FlowRuleExPrm

namespace FlowRuleExKernel

/-- The same for a rule of the root table. -/
theorem applyActions_modify (env : RootEnv) (desc : FlowDesc) (before after : List FlowAction)
    (a : FlowActionModify) :
  ∃ b, (applyActions env desc (before ++ .modify a :: after)).2.1[before.length]?
      = some (.modify b)
    ∧ b.mIsValid = a.mIsValid ∧ b.mModifyId = a.mModifyId
  := by
  induction before generalizing desc with
  | nil =>
      have hframe := a.applyRoot_frame env desc
      rcases happly : a.applyRoot env desc with ⟨ret, b, desc₁⟩
      rw [happly] at hframe
      refine ⟨b, ?_, hframe⟩
      cases ret <;> simp [applyActions, FlowAction.applyRoot, happly]
  | cons b before ih =>
      rcases happly : b.applyRoot env desc with ⟨ret, b', desc₁⟩
      cases ret with
      | ok => simpa [applyActions, happly] using ih desc₁
      | _ => simp [applyActions, happly]

/-- The actions of a rule, as they are after `create`. -/
def actionsAfter (r : FlowRuleExKernel) (env : RootEnv) (order : List FlowAction) :
    List FlowAction :=
  if !r.mIsValidActions then
    order
  else
    match r.setMatchParams { FlowDesc.new with priority := r.mPriority } with
    | (.ok, desc) => (applyActions env desc order).2.1
    | _ => order

/-- `create` of a rule of the root table leaves the action valid or not, with the id it had. -/
theorem shared_actionsAfter (r : FlowRuleExKernel) (env : RootEnv) (others : OtherActions)
    (a : FlowActionModify) :
  (others.shared (r.actionsAfter env (others.withModify a).entries) a).mIsValid = a.mIsValid
    ∧ (others.shared (r.actionsAfter env (others.withModify a).entries) a).mModifyId = a.mModifyId
  := by
  have hsame : others.shared (others.withModify a).entries a = a := by
    simp [OtherActions.shared, OtherActions.withModify]
  rw [actionsAfter]
  split
  · rw [hsame]
    exact ⟨rfl, rfl⟩
  · split
    · rename_i desc _
      obtain ⟨b, hb, hframe⟩ := applyActions_modify env desc others.before others.after a
      simp only [OtherActions.shared, OtherActions.withModify, hb]
      apply hframe
    · rw [hsame]
      exact ⟨rfl, rfl⟩

end FlowRuleExKernel

/-! ### The action and its rules -/

/-- An action, the contexts that were allocated for it, and the mailboxes of the PRM rules that were
created with it. -/
structure SharedModify where
  action : FlowActionModify
  contexts : List (BitVec 32)
  rules : List Memory

namespace SharedModify

/-- An action that was just constructed. -/
def new (ctx : Bool) (attr : FlowActionModifyAttr) : SharedModify :=
  ⟨.new ctx attr, [], []⟩

/-- A rule with the action is created. -/
def step (s : SharedModify) : ModifyUse → SharedModify
  | .prm r others env alloc =>
      let actions := others.withModify s.action
      { action :=
          if r.mIsValidActions && alloc then
            others.shared (r.mailbox env actions.entries).2.1 s.action
          else s.action
        contexts :=
          if r.reaches env alloc others.before then
            (s.action.allocates env).toList ++ s.contexts
          else s.contexts
        rules :=
          match { r with mActions := actions }.create env alloc actions.entries with
          | (.ok, _, some (m, _)) => m :: s.rules
          | _ => s.rules }
  | .root r others env =>
      { s with
        action := others.shared (r.actionsAfter env (others.withModify s.action).entries) s.action }

/-- At most one context was allocated; the action is valid if there is one, and has its id, and so
do the rules. -/
structure Inv (s : SharedModify) : Prop where
  one : s.contexts.length ≤ 1
  valid : s.action.mIsValid = true ↔ s.contexts ≠ []
  id : ∀ id ∈ s.contexts, s.action.mModifyId = id
  rules : ∀ m ∈ s.rules, s.contexts = [devxGet m SetFteIn.flowContext FlowContext.modifyHeaderId]

theorem inv_new (ctx : Bool) (attr : FlowActionModifyAttr) :
  (new ctx attr).Inv
  := by
  constructor <;> simp [new, FlowActionModify.new]

/-- An action that is valid has one context. -/
theorem Inv.contexts_eq {s : SharedModify} (hs : s.Inv) (h : s.action.mIsValid = true) :
  s.contexts = [s.action.mModifyId]
  := by
  have hne := hs.valid.mp h
  have hone := hs.one
  have hid := hs.id
  match hcontexts : s.contexts with
  | [] => cases hne hcontexts
  | [id] =>
      rw [hcontexts] at hid
      rw [hid id List.mem_cons_self]
  | id :: id' :: rest =>
      rw [hcontexts] at hone
      simp at hone

/-- A PRM rule that was created had its actions applied, and has the id of the action. -/
theorem created_eq_some {r : FlowRuleExPrm} {others : OtherActions} {a : FlowActionModify}
    {env : Env} {alloc : Bool} {r' : FlowRuleExPrm} {m : Memory} {len : Nat}
    (hactions : r.mActions = others.withModify a)
    (h : r.create env alloc (others.withModify a).entries = (.ok, r', some (m, len))) :
  r.reaches env alloc others.before = true
    ∧ ∃ b, a.prepare env = (.ok, b)
      ∧ devxGet m SetFteIn.flowContext FlowContext.modifyHeaderId = b.mModifyId
  := by
  have hsent : (r.create env alloc (others.withModify a).entries).2.2 = some (m, len) := by rw [h]
  obtain ⟨hvalid, halloc, -, l, hmailbox⟩ := FlowRuleExPrm.mailbox_of_create hsent
  have hperm : (others.withModify a).entries.Perm r.mActions.entries := by rw [hactions]
  have hdecodes := FlowRuleExPrm.decodes_of_mailbox hperm hmailbox
  constructor
  · have hbefore : (r.mailbox env others.before).1 = .ok := by
      obtain ⟨m₀, hm₀, -⟩ := FlowRuleExPrm.mailbox_eq_ok hmailbox
      simp only [FlowRuleExPrm.mailbox, hm₀] at hmailbox ⊢
      apply FlowRuleExPrm.applyActions_left (.modify a :: others.after)
      apply congrArg Prod.fst hmailbox
    simp [FlowRuleExPrm.reaches, hvalid, halloc, hbefore]
  · apply hdecodes.modify
    rw [hactions]
    simp [OtherActions.withModify]

/-- The device of a PRM rule gives an object only with the status 0. -/
def Clean : ModifyUse → Prop
  | .prm _ _ env _ => env.device.Clean
  | .root _ _ _ => True

section Prm

variable (s : SharedModify) (r : FlowRuleExPrm) (others : OtherActions) (env : Env) (alloc : Bool)

/-- The action is prepared if the rule comes to it. -/
theorem action_step_prm :
  (s.step (.prm r others env alloc)).action
    = if r.reaches env alloc others.before then (s.action.prepare env).2 else s.action
  := by
  simp only [step, FlowRuleExPrm.reaches, r.shared_mailbox]
  by_cases hbefore : (r.mailbox env others.before).1 = .ok <;> simp [hbefore]

variable {s r others env alloc}

/-- A rule that was created with the action has its id. -/
theorem mem_rules_step_prm {m : Memory} (h : m ∈ (s.step (.prm r others env alloc)).rules) :
  m ∈ s.rules ∨ r.reaches env alloc others.before = true ∧ ∃ b, s.action.prepare env = (.ok, b)
    ∧ devxGet m SetFteIn.flowContext FlowContext.modifyHeaderId = b.mModifyId
  := by
  simp only [step] at h
  split at h
  · rename_i r' m' len hcreate
    rcases List.mem_cons.mp h with rfl | h
    · right
      apply created_eq_some rfl hcreate
    · exact Or.inl h
  · exact Or.inl h

/-- A rule that does not come to the action changes nothing. -/
theorem inv_step_of_not_reaches (hreach : r.reaches env alloc others.before = false)
    (hs : s.Inv) :
  (s.step (.prm r others env alloc)).Inv
  := by
  have haction : (s.step (.prm r others env alloc)).action = s.action := by
    rw [action_step_prm, hreach]
    rfl
  have hcontexts : (s.step (.prm r others env alloc)).contexts = s.contexts := by
    simp [step, hreach]
  constructor <;> simp only [haction, hcontexts]
  · apply hs.one
  · apply hs.valid
  · apply hs.id
  · intro m hm
    rcases mem_rules_step_prm hm with hm | ⟨hreach', -⟩
    · apply hs.rules m hm
    · rw [hreach] at hreach'
      cases hreach'

/-- A rule that comes to a valid action takes its id. -/
theorem inv_step_of_valid (hreach : r.reaches env alloc others.before = true)
    (hvalid : s.action.mIsValid = true) (hs : s.Inv) :
  (s.step (.prm r others env alloc)).Inv
  := by
  obtain ⟨hprepare, hallocates⟩ := FlowActionModify.prepare_of_valid hvalid env
  have haction : (s.step (.prm r others env alloc)).action = s.action := by
    rw [action_step_prm, hreach, hprepare]
    rfl
  have hcontexts : (s.step (.prm r others env alloc)).contexts = s.contexts := by
    simp [step, hallocates]
  constructor <;> simp only [haction, hcontexts]
  · apply hs.one
  · apply hs.valid
  · apply hs.id
  · intro m hm
    rcases mem_rules_step_prm hm with hm | ⟨-, b, hb, hid⟩
    · apply hs.rules m hm
    · cases hprepare.symm.trans hb
      rw [hid]
      apply hs.contexts_eq hvalid

/-- A rule that comes to an action that is not valid has a context allocated, or it fails. -/
theorem inv_step_of_not_valid (hclean : env.device.Clean)
    (hreach : r.reaches env alloc others.before = true) (hvalid : s.action.mIsValid = false)
    (hs : s.Inv) :
  (s.step (.prm r others env alloc)).Inv
  := by
  -- so far there is no context, and therefore no rule
  have hnone : s.contexts = [] := by
    by_contra hne
    rw [hs.valid.mpr hne] at hvalid
    cases hvalid
  have hrules : ∀ m, m ∉ s.rules := by
    intro m hm
    cases hnone.symm.trans (hs.rules m hm)
  have haction : (s.step (.prm r others env alloc)).action = (s.action.prepare env).2 := by
    rw [action_step_prm, hreach]
    rfl
  have hcontexts : (s.step (.prm r others env alloc)).contexts
      = (s.action.allocates env).toList := by
    simp [step, hreach, hnone]
  rcases FlowActionModify.prepare_cases hvalid hclean with
    ⟨id, hallocates, -, hvalid', hid⟩ | ⟨hallocates, hret, hvalid'⟩
  · constructor <;> simp only [haction, hcontexts, hallocates, Option.toList_some]
    · simp
    · simp [hvalid']
    · simp [hid]
    · intro m hm
      rcases mem_rules_step_prm hm with hm | ⟨-, b, hb, hrule⟩
      · cases hrules m hm
      · rw [hrule, ← hid, hb]
  · constructor <;> simp only [haction, hcontexts, hallocates, Option.toList_none]
    · simp
    · simp [hvalid']
    · simp
    · intro m hm
      rcases mem_rules_step_prm hm with hm | ⟨-, b, hb, -⟩
      · cases hrules m hm
      · rw [hb] at hret
        cases hret rfl

end Prm

theorem inv_step {s : SharedModify} {c : ModifyUse} (hc : Clean c) (hs : s.Inv) :
  (s.step c).Inv
  := by
  cases c with
  | root r others env =>
      obtain ⟨hvalid, hid⟩ := r.shared_actionsAfter env others s.action
      refine ⟨hs.one, ?_, ?_, hs.rules⟩
      · apply Iff.trans _ hs.valid
        rw [← hvalid]
        rfl
      · intro id hmem
        rw [← hs.id id hmem, ← hid]
        rfl
  | prm r others env alloc =>
      cases hreach : r.reaches env alloc others.before with
      | false => apply inv_step_of_not_reaches hreach hs
      | true =>
          cases hvalid : s.action.mIsValid with
          | false => apply inv_step_of_not_valid hc hreach hvalid hs
          | true => apply inv_step_of_valid hreach hvalid hs

/-- Whatever rules are created with an action, in whatever order and whatever fails: the device
allocates at most one context for it, every PRM rule that was created has the id of that context,
and `get_id` succeeds exactly if there is one. -/
theorem run_shares (ctx : Bool) (attr : FlowActionModifyAttr) {uses : List ModifyUse}
    (h : ∀ c ∈ uses, Clean c) :
  let s := Machine.run step (new ctx attr) uses
  s.contexts.length ≤ 1
    ∧ (∀ m ∈ s.rules,
      s.contexts = [devxGet m SetFteIn.flowContext FlowContext.modifyHeaderId])
    ∧ ∀ id, (s.action.getId id).1 = .ok ↔ s.contexts ≠ []
  := by
  intro s
  have hs : s.Inv := Machine.inv_run_of_along (fun _ _ hc hs => inv_step hc hs)
    (Machine.along_of_forall h _) (inv_new ctx attr)
  refine ⟨hs.one, hs.rules, ?_⟩
  intro id
  rw [← hs.valid, FlowActionModify.getId]
  cases s.action.mIsValid <;> simp

/-- A device that makes every object, with the id `9`. -/
def nines : Env where
  alloc := true
  device _ _ := ⟨true, devxSet zeros 0 AllocModifyHeaderContextOut.modifyHeaderId 9⟩

/-- The action comes after a forward action. -/
def fwdFirst : OtherActions :=
  ⟨[.fwd ⟨[FlowRuleExPrm.tirFive], false⟩], [], by decide⟩

/-- A PRM rule that the device refuses, a root rule, and two PRM rules. -/
def fourRules : List ModifyUse :=
  [.prm (FlowRuleExPrm.ruleWith .empty) fwdFirst FlowRuleExPrm.refusing true,
    .root (FlowRuleExKernel.new forwarding
      (FlowGroupKernel.create (.new true (groupAttr 0x1)) true).2 (groupAttr 0x1).matcher)
      fwdFirst acceptingRoot,
    .prm (FlowRuleExPrm.ruleWith .empty) fwdFirst nines true,
    .prm (FlowRuleExPrm.ruleWith .empty) fwdFirst nines true]

theorem run_shares_fourRules :
  let s := Machine.run step (new true ⟨0, [.set 0x51 0 0 0xabcd]⟩) fourRules
  s.rules.length = 2 ∧ s.contexts = [9] ∧ s.contexts.length ≤ 1
    ∧ (∀ m ∈ s.rules,
      s.contexts = [devxGet m SetFteIn.flowContext FlowContext.modifyHeaderId])
    ∧ ∀ id, (s.action.getId id).1 = .ok ↔ s.contexts ≠ []
  := by
  refine ⟨?_, ?_, run_shares true ⟨0, [.set 0x51 0 0 0xabcd]⟩ ?_⟩
  · rfl
  · rfl
  · have hrefusing : FlowRuleExPrm.refusing.device.Clean := by
      intro m len h
      cases h
    have hstatus : devxGet (devxSet zeros 0 AllocModifyHeaderContextOut.modifyHeaderId 9) 0
        StatusOut.status = 0 := by decide +kernel
    have hnines : nines.device.Clean := by
      intro m len _
      apply hstatus
    intro c hc
    simp only [fourRules, List.mem_cons, List.not_mem_nil, or_false] at hc
    rcases hc with rfl | rfl | rfl | rfl
    · apply hrefusing
    · trivial
    · apply hnines
    · apply hnines

end SharedModify

end Dpcp
