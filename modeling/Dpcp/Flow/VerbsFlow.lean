import Dpcp.Flow.Rule
import Dpcp.Machine.Ledger

/-!
# The verbs flow of a flow description

On Linux the constructor of `dcmd::flow` makes a verbs matcher, a verbs modify-header action if the
description has modify actions, and the verbs flow.  The flow gets an array of actions that is as
long as the description says before it is filled.

The description comes from a rule of the root table, whose actions fill it in whatever order their
map gives them in, or from a legacy rule, which takes the handles of its TIRs.
-/

namespace Dcmd

open Bits Ledger

/-! ### The array of actions -/

/-- `struct mlx5dv_flow_action_attr`.  A modify-header action is given by what it is made of. -/
inductive FlowActionAttr where
  | tag (tagValue : BitVec 32)
  | ibvFlowAction (modifyActions : Memory) (numOfActions : Nat)
  | destDevx (obj : Dpcp.ForwardableObj)

/-- `actions_attr` and the index `i`; an entry that was not written yet is `none`. -/
structure ActionsAttr where
  entries : List (Option FlowActionAttr)
  i : Nat

/-- Write the entry at `i`, which is an `int`, and move on.  A negative index is not in the
array. -/
def ActionsAttr.put (attr : ActionsAttr) (a : FlowActionAttr) : ActionsAttr where
  entries := if attr.i < 2 ^ 31 then attr.entries.set attr.i (some a) else attr.entries
  i := attr.i + 1

namespace FlowDesc

/-- `num_actions`. -/
def numActions (desc : FlowDesc) : Nat :=
  (if desc.flowId ≠ 0 then desc.dstObj.length + 1 else desc.dstObj.length)
    + if desc.modifyActions.isSome then 1 else 0

/-- How often the loop over the destinations runs: its bound is an `int`. -/
def dstObjCount (desc : FlowDesc) : Nat :=
  (BitVec.ofNat 32 desc.dstObj.length).toInt.toNat

/-- `actions_attr`, as the constructor of `dcmd::flow` fills it. -/
def actionsAttr (desc : FlowDesc) : ActionsAttr :=
  let attr : ActionsAttr := ⟨List.replicate desc.numActions none, 0⟩
  let attr := if desc.flowId ≠ 0 then attr.put (.tag desc.flowId) else attr
  let attr := match desc.modifyActions with
    | some m => attr.put (.ibvFlowAction m desc.numOfActions)
    | none => attr
  (desc.dstObj.take desc.dstObjCount).foldl (fun attr obj => attr.put (.destDevx obj)) attr

/-- What the array is to have: the tag, the modify-header action and the destinations. -/
def actions (desc : FlowDesc) : List FlowActionAttr :=
  (if desc.flowId ≠ 0 then [.tag desc.flowId] else [])
    ++ (desc.modifyActions.map (fun m => .ibvFlowAction m desc.numOfActions)).toList
    ++ desc.dstObj.map .destDevx

/-- There is one entry for each action. -/
theorem length_actions (desc : FlowDesc) :
  desc.actions.length = desc.numActions
  := by
  simp only [actions, numActions, List.length_append, List.length_map]
  cases desc.modifyActions <;> split <;> simp <;> omega

end FlowDesc

namespace ActionsAttr

/-- An array of `n` entries of which the first ones are the actions `l`. -/
def filled (n : Nat) (l : List FlowActionAttr) : ActionsAttr :=
  ⟨l.map some ++ List.replicate (n - l.length) none, l.length⟩

/-- Writing an entry appends an action. -/
theorem put_filled {n : Nat} {l : List FlowActionAttr} (hroom : l.length < n) (hn : n < 2 ^ 31)
    (a : FlowActionAttr) :
  (filled n l).put a = filled n (l ++ [a])
  := by
  have hindex : l.length < 2 ^ 31 := lt_trans hroom hn
  obtain ⟨k, hk⟩ : ∃ k, n - l.length = k + 1 := ⟨n - l.length - 1, by omega⟩
  have hleft : n - (l.length + 1) = k := by omega
  have hset : (l.map some ++ List.replicate (k + 1) none).set l.length (some a)
      = l.map some ++ some a :: List.replicate k none := by
    rw [List.replicate_succ, List.set_append_right _ _ (by simp)]
    simp
  simp only [put, filled, if_pos hindex, hk, hset, List.map_append, List.length_append,
    List.map_cons, List.map_nil, List.length_cons, List.length_nil, Nat.zero_add, hleft,
    List.append_assoc, List.cons_append, List.nil_append]

/-- Writing entries one after the other appends the actions. -/
theorem foldl_put_filled {n : Nat} {l : List FlowActionAttr} {objs : List Dpcp.ForwardableObj}
    (hroom : l.length + objs.length ≤ n) (hn : n < 2 ^ 31) :
  objs.foldl (fun attr obj => attr.put (.destDevx obj)) (filled n l)
    = filled n (l ++ objs.map .destDevx)
  := by
  induction objs generalizing l with
  | nil => simp
  | cons obj objs ih =>
      rw [List.length_cons] at hroom
      rw [List.foldl_cons, put_filled (by omega) hn, ih]
      · simp
      · rw [List.length_append, List.length_singleton]
        omega

end ActionsAttr

namespace FlowDesc

open ActionsAttr

/-- The loop runs over all destinations if their number is an `int`. -/
theorem take_dstObjCount {desc : FlowDesc} (hn : desc.dstObj.length < 2 ^ 31) :
  desc.dstObj.take desc.dstObjCount = desc.dstObj
  := by
  have hcount : desc.dstObjCount = desc.dstObj.length := by
    rw [dstObjCount, BitVec.toInt_eq_toNat_of_lt] <;> rw [BitVec.toNat_ofNat]
    · omega
    · omega
  rw [hcount, List.take_length]

/-- If the number of actions is an `int`, then all entries are written, in the order of the
actions. -/
theorem entries_actionsAttr {desc : FlowDesc} (hn : desc.numActions < 2 ^ 31) :
  desc.actionsAttr.entries = desc.actions.map some
  := by
  have hlength := length_actions desc
  have hdests : desc.dstObj.length ≤ desc.numActions := by
    rw [← hlength, actions, List.length_append, List.length_map]
    omega
  have hstart : (⟨List.replicate desc.numActions none, 0⟩ : ActionsAttr)
      = filled desc.numActions [] := rfl
  -- each step finds the array filled with the actions before it
  have htag : (if desc.flowId ≠ 0 then (filled desc.numActions []).put (.tag desc.flowId)
      else filled desc.numActions [])
      = filled desc.numActions (if desc.flowId ≠ 0 then [.tag desc.flowId] else []) := by
    split
    · rename_i hid
      apply put_filled _ hn
      rw [numActions, if_pos hid, List.length_nil]
      omega
    · rfl
  have hmodify : (match desc.modifyActions with
      | some m => (filled desc.numActions
          (if desc.flowId ≠ 0 then [.tag desc.flowId] else [])).put
            (.ibvFlowAction m desc.numOfActions)
      | none => filled desc.numActions (if desc.flowId ≠ 0 then [.tag desc.flowId] else []))
      = filled desc.numActions ((if desc.flowId ≠ 0 then [.tag desc.flowId] else [])
        ++ (desc.modifyActions.map (fun m => .ibvFlowAction m desc.numOfActions)).toList) := by
    cases hmodify : desc.modifyActions with
    | none => simp
    | some m =>
        apply put_filled _ hn
        simp only [numActions, hmodify]
        split <;> simp
  have hfull : (filled desc.numActions desc.actions).entries = desc.actions.map some := by
    simp [filled, hlength]
  simp only [actionsAttr]
  rw [hstart, htag, hmodify, take_dstObjCount (by omega), foldl_put_filled _ hn]
  · apply hfull
  · rw [← hlength, actions, List.length_append, List.length_append, List.length_map,
      List.length_append]

end FlowDesc

/-! ### The objects of the verbs library -/

/-- What the constructor of `dcmd::flow` makes. -/
inductive VerbsObj where
  | matcher
  | modifyHeader
  | flow
deriving DecidableEq

namespace Flow

/-- `matcher_attr`. -/
def matcherAttr (desc : FlowDesc) : MatcherAttr where
  priority := desc.priority
  matchCriteriaEnable := 1 <<< mlx5CreateFlowGroupInMatchCriteriaEnableOuterHeaders
  matchMask := desc.matchCriteria

/-- The modify-header action, if there are modify actions: whether it could be made, and what was
made. -/
def modifyHeader (verbs : Verbs) (desc : FlowDesc) : Bool × List (Event VerbsObj) :=
  match desc.modifyActions with
  | some m =>
      if verbs.createFlowActionModifyHeader m desc.numOfActions then
        (true, [.acquire .modifyHeader])
      else
        (false, [])
  | none => (true, [])

/-- The constructor of `dcmd::flow`, with what it makes and destroys, and the array of actions with
its length if the flow is asked for. -/
def construct (verbs : Verbs) (desc : FlowDesc) :
    Option Flow × List (Event VerbsObj) × Option (List (Option FlowActionAttr) × Nat) :=
  if !verbs.createFlowMatcher (matcherAttr desc) then
    (none, [], none)
  else
    match modifyHeader verbs desc with
    -- the matcher is left
    | (false, made) => (none, .acquire .matcher :: made, none)
    | (true, made) =>
        let passed := some (desc.actionsAttr.entries, desc.numActions)
        if !verbs.createFlow (matcherAttr desc) desc.matchValue then
          (none, .acquire .matcher :: (made ++ [.release .matcher]), passed)
        else
          (some ⟨matcherAttr desc, desc.matchValue⟩,
            .acquire .matcher :: (made ++ [.acquire .flow]), passed)

/-- The destructor of `dcmd::flow`. -/
def destruct : List (Event VerbsObj) :=
  [.release .flow, .release .matcher]

/-- All that is made and destroyed for a flow: by its constructor, and by its destructor if the
constructor did not throw. -/
def lifetime (verbs : Verbs) (desc : FlowDesc) : List (Event VerbsObj) :=
  (construct verbs desc).2.1 ++ if (construct verbs desc).1.isSome then destruct else []

/-- The array of actions and its length, as `mlx5dv_create_flow` gets them. -/
def passed (verbs : Verbs) (desc : FlowDesc) : Option (List (Option FlowActionAttr) × Nat) :=
  (construct verbs desc).2.2

/-- There is a flow if the matcher, the modify-header action and the flow could be made. -/
theorem construct_fst (verbs : Verbs) (desc : FlowDesc) :
  (construct verbs desc).1 = new verbs desc
  := by
  have hmodify : (match desc.modifyActions with
      | some m => verbs.createFlowActionModifyHeader m desc.numOfActions
      | none => true) = (modifyHeader verbs desc).1 := by
    rw [modifyHeader]
    cases desc.modifyActions with
    | none => rfl
    | some m =>
        dsimp only
        cases verbs.createFlowActionModifyHeader m desc.numOfActions <;> rfl
  have hnew : new verbs desc =
      if !verbs.createFlowMatcher (matcherAttr desc) then none
      else if !(modifyHeader verbs desc).1 then none
      else if !verbs.createFlow (matcherAttr desc) desc.matchValue then none
      else some ⟨matcherAttr desc, desc.matchValue⟩ := by
    rw [← hmodify]
    rfl
  rw [hnew, construct]
  rcases modifyHeader verbs desc with ⟨_ | _, made⟩ <;>
    cases verbs.createFlowMatcher (matcherAttr desc) <;>
    cases verbs.createFlow (matcherAttr desc) desc.matchValue <;> rfl

/-- The flow gets the array the description gives. -/
theorem passed_eq {verbs : Verbs} {desc : FlowDesc} {array : List (Option FlowActionAttr)} {n : Nat}
    (h : passed verbs desc = some (array, n)) :
  array = desc.actionsAttr.entries ∧ n = desc.numActions
  := by
  simp only [passed, construct] at h
  split at h
  · cases h
  · split at h
    · cases h
    · split at h <;> cases h <;> exact ⟨rfl, rfl⟩

/-- What is made and destroyed for a description without modify actions. -/
theorem lifetime_of_none {verbs : Verbs} {desc : FlowDesc} (h : desc.modifyActions = none) :
  lifetime verbs desc = []
    ∨ lifetime verbs desc = [.acquire .matcher, .release .matcher]
    ∨ lifetime verbs desc
      = [.acquire .matcher, .acquire .flow, .release .flow, .release .matcher]
  := by
  have hmodify : modifyHeader verbs desc = (true, []) := by simp only [modifyHeader, h]
  rw [lifetime, construct, hmodify]
  cases verbs.createFlowMatcher (matcherAttr desc) <;>
    cases verbs.createFlow (matcherAttr desc) desc.matchValue <;> simp [destruct]

/-- What is made and destroyed for a description with modify actions, once there is a matcher. -/
theorem lifetime_of_some {verbs : Verbs} {desc : FlowDesc} {m : Memory}
    (hmatcher : verbs.createFlowMatcher (matcherAttr desc) = true)
    (h : desc.modifyActions = some m) :
  lifetime verbs desc = [.acquire .matcher]
    ∨ lifetime verbs desc = [.acquire .matcher, .acquire .modifyHeader, .release .matcher]
    ∨ lifetime verbs desc = [.acquire .matcher, .acquire .modifyHeader, .acquire .flow,
      .release .flow, .release .matcher]
  := by
  rw [lifetime, construct, hmatcher]
  cases hmodify : verbs.createFlowActionModifyHeader m desc.numOfActions with
  | false =>
      have hmade : modifyHeader verbs desc = (false, []) := by simp [modifyHeader, h, hmodify]
      rw [hmade]
      simp
  | true =>
      have hmade : modifyHeader verbs desc = (true, [.acquire .modifyHeader]) := by
        simp [modifyHeader, h, hmodify]
      rw [hmade]
      cases verbs.createFlow (matcherAttr desc) desc.matchValue <;> simp [destruct]

/-- Wherever the constructor fails, or if it does not: the matcher, the modify-header action and the
flow that were made have each been destroyed once exactly if there are no modify actions or no
matcher could be made.  The matcher is left if there is no modify-header action, and the
modify-header action is left always. -/
theorem lifetime_releasedOnce_iff (verbs : Verbs) (desc : FlowDesc) :
  (∀ obj, ReleasedOnce (lifetime verbs desc) obj)
    ↔ desc.modifyActions = none ∨ verbs.createFlowMatcher (matcherAttr desc) = false
  := by
  constructor
  · intro h
    cases hactions : desc.modifyActions with
    | none => exact Or.inl rfl
    | some m =>
        right
        apply Bool.eq_false_iff.mpr
        intro hmatcher
        have hmade := h .modifyHeader
        have hleft := h .matcher
        rcases lifetime_of_some hmatcher hactions with hlog | hlog | hlog <;>
          rw [hlog] at hmade hleft
        · revert hleft
          decide
        · revert hmade
          decide
        · revert hmade
          decide
  · rintro (hactions | hmatcher) obj
    · rcases lifetime_of_none hactions with hlog | hlog | hlog <;>
        rw [hlog] <;> cases obj <;> decide
    · have hlog : lifetime verbs desc = [] := by simp [lifetime, construct, hmatcher]
      rw [hlog]
      intro hmem
      cases hmem

/-- A description with one modify action. -/
def modifying : FlowDesc :=
  { FlowDesc.new with modifyActions := some zeros, numOfActions := 1 }

/-- The modify-header action is left by a flow that is destroyed and by a flow that could not be
made, and without a modify-header action the matcher is left. -/
theorem lifetime_modifying :
  lifetime ⟨fun _ => true, fun _ _ => true, fun _ _ => true⟩ modifying
      = [.acquire .matcher, .acquire .modifyHeader, .acquire .flow, .release .flow,
        .release .matcher]
    ∧ lifetime ⟨fun _ => true, fun _ _ => true, fun _ _ => false⟩ modifying
      = [.acquire .matcher, .acquire .modifyHeader, .release .matcher]
    ∧ lifetime ⟨fun _ => true, fun _ _ => false, fun _ _ => true⟩ modifying
      = [.acquire .matcher]
    ∧ ¬ ReleasedOnce [.acquire .matcher, .acquire .modifyHeader, .acquire .flow, .release .flow,
      .release .matcher] VerbsObj.modifyHeader
  := by
  refine ⟨by decide, by decide, by decide, by decide⟩

end Flow

end Dcmd

namespace Dpcp

open Bits Dcmd Prm

/-! ### The actions of a rule -/

namespace ActionMap

theorem length_insert_le (actions : ActionMap) (a : FlowAction) :
  (actions.insert a).entries.length ≤ actions.entries.length + 1
  := by
  rw [insert]
  split <;> simp

theorem length_foldl_insert_le (actions : ActionMap) (l : List FlowAction) :
  (l.foldl insert actions).entries.length ≤ actions.entries.length + l.length
  := by
  induction l generalizing actions with
  | nil => apply le_refl
  | cons a l ih =>
      have hinsert := length_insert_le actions a
      have hrest := ih (actions.insert a)
      rw [List.foldl_cons, List.length_cons]
      omega

/-- If as many actions were inserted as there are, then all of them were. -/
theorem entries_foldl_insert {actions : ActionMap} {l : List FlowAction}
    (h : (l.foldl insert actions).entries.length = actions.entries.length + l.length) :
  (l.foldl insert actions).entries = l.reverse ++ actions.entries
  := by
  induction l generalizing actions with
  | nil => rfl
  | cons a l ih =>
      rw [List.foldl_cons, List.length_cons] at h
      have hinsert := length_insert_le actions a
      have hrest := length_foldl_insert_le (actions.insert a) l
      have hentries : (actions.insert a).entries = a :: actions.entries := by
        rw [insert] at h hrest hinsert ⊢
        split
        · rename_i hmem
          rw [dif_pos hmem] at h hrest
          omega
        · rfl
      rw [List.foldl_cons, ih (by rw [hentries, List.length_cons]; omega), hentries]
      simp

end ActionMap

/-- A valid set of actions is the map that was made of it, and it forwards. -/
theorem verifyFlowActions_valid {actions : List FlowAction}
    (h : (verifyFlowActions actions).1 = true) :
  (verifyFlowActions actions).2.entries.Perm actions ∧ ∃ a, .fwd a ∈ actions
  := by
  simp only [verifyFlowActions] at h ⊢
  split at h
  · cases h
  · split at h
    · cases h
    · rename_i hempty hlength
      rw [if_neg hempty, if_neg hlength]
      have hall : (actions.foldl ActionMap.insert .empty).entries.length
          = ActionMap.empty.entries.length + actions.length := by
        simpa [ActionMap.empty] using not_not.mp hlength
      have hentries := ActionMap.entries_foldl_insert hall
      have hperm : (actions.foldl ActionMap.insert .empty).entries.Perm actions := by
        rw [hentries]
        simp [ActionMap.empty, List.reverse_perm]
      use hperm
      obtain ⟨a, ha, htype⟩ := List.any_eq_true.mp h
      cases a with
      | fwd a => exact ⟨a, hperm.mem_iff.mp ha⟩
      | _ => cases htype

/-- What an action does to a flow description when it is applied. -/
def FlowAction.Sets (desc desc' : FlowDesc) : FlowAction → Prop
  | fwd a => desc' = { desc with dstObj := a.mDests }
  | tag a => desc' = { desc with flowId := a.mTagId }
  | modify a => ∃ m, desc' =
      { desc with modifyActions := some m, numOfActions := a.mAttr.actions.length }
  | reformat _ | reparse => False

/-- A modify action that was applied has the entries of its attributes. -/
theorem FlowActionModify.sets_of_applyRoot {a a' : FlowActionModify} {env : RootEnv}
    {desc desc' : FlowDesc} (h : a.applyRoot env desc = (.ok, a', desc')) :
  (FlowAction.modify a).Sets desc desc'
  := by
  simp only [applyRoot] at h
  split at h
  · rename_i a₁ hprepared
    cases h
    have hmade : ∃ m, a'.mActionsRoot = some m ∧ a'.mAttr = a.mAttr := by
      split at hprepared
      · obtain ⟨b, hb, hroot⟩ := Result.andThen_eq_ok.mp hprepared
        have hattr : b.mAttr = a.mAttr := by
          have hsame := a.preparePrmModifyBuff_eq env.allocMailbox
          rw [hb] at hsame
          apply congrArg mAttr hsame
        rcases b.prepareFlowDescBuffs_cases env.heap with ⟨m, hm⟩ | ⟨ret, hret, hfail⟩
        · cases hroot.symm.trans hm
          exact ⟨m, rfl, hattr⟩
        · cases hret (congrArg Prod.fst (hfail.symm.trans hroot))
      · rename_i hroot
        cases hprepared
        cases hm : a.mActionsRoot with
        | none => simp [hm] at hroot
        | some m => exact ⟨m, rfl, rfl⟩
    obtain ⟨m, hm, hattr⟩ := hmade
    use m
    rw [hm, hattr]
  · rename_i hret _
    cases hret (congrArg Prod.fst h)

/-- An action that was applied set its own fields. -/
theorem FlowAction.sets_of_applyRoot {a a' : FlowAction} {env : RootEnv} {desc desc' : FlowDesc}
    (h : a.applyRoot env desc = (.ok, a', desc')) :
  a.Sets desc desc'
  := by
  cases a with
  | fwd a =>
      simp only [applyRoot, FlowActionFwd.applyRoot] at h
      split at h
      · cases h
        rfl
      · repeat' split at h
        all_goals cases h
        rfl
  | tag a =>
      cases h
      rfl
  | modify a =>
      rcases ha : a.applyRoot env desc with ⟨ret, a₁, desc₁⟩
      rw [applyRoot, ha] at h
      cases h
      apply FlowActionModify.sets_of_applyRoot ha
  | reformat a => cases h
  | reparse => cases h

namespace FlowAction

variable {a : FlowAction} {desc desc' : FlowDesc}

/-- Only a tag action sets the tag. -/
theorem Sets.flowId (h : a.Sets desc desc') (htype : a.type ≠ .tag) :
  desc'.flowId = desc.flowId
  := by
  cases a with
  | tag a => cases htype rfl
  | fwd a =>
      cases h
      rfl
  | modify a =>
      obtain ⟨m, rfl⟩ := h
      rfl
  | _ => cases h

/-- Only a modify action sets the entries. -/
theorem Sets.modifyActions (h : a.Sets desc desc') (htype : a.type ≠ .modify) :
  desc'.modifyActions = desc.modifyActions ∧ desc'.numOfActions = desc.numOfActions
  := by
  cases a with
  | modify a => cases htype rfl
  | fwd a =>
      cases h
      exact ⟨rfl, rfl⟩
  | tag a =>
      cases h
      exact ⟨rfl, rfl⟩
  | _ => cases h

/-- Only a forward action sets the destinations. -/
theorem Sets.dstObj (h : a.Sets desc desc') (htype : a.type ≠ .fwd) :
  desc'.dstObj = desc.dstObj
  := by
  cases a with
  | fwd a => cases htype rfl
  | tag a =>
      cases h
      rfl
  | modify a =>
      obtain ⟨m, rfl⟩ := h
      rfl
  | _ => cases h

end FlowAction

namespace FlowRuleExKernel

/-- Let a field of the description be set by actions of one type, and by them only.  After all
actions were applied it is what the action of that type made it, or what it was if there is
none. -/
theorem field_of_applyActions {β : Type} (field : FlowDesc → β) (t : FlowActionType)
    (Value : FlowAction → β → Prop)
    (hset : ∀ {a : FlowAction} {desc desc' : FlowDesc}, a.Sets desc desc' → a.type = t →
      Value a (field desc'))
    (hkeep : ∀ {a : FlowAction} {desc desc' : FlowDesc}, a.Sets desc desc' → a.type ≠ t →
      field desc' = field desc)
    {env : RootEnv} {order l : List FlowAction} {desc desc' : FlowDesc}
    (hnodup : (order.map FlowAction.type).Nodup)
    (h : applyActions env desc order = (.ok, l, desc')) :
  (∀ a ∈ order, a.type = t → Value a (field desc'))
    ∧ ((∀ a ∈ order, a.type ≠ t) → field desc' = field desc)
  := by
  induction order generalizing desc l with
  | nil =>
      cases h
      simp
  | cons a rest ih =>
      rcases ha : a.applyRoot env desc with ⟨ret, a', desc₁⟩
      cases ret with
      | ok =>
          rcases hrest : applyActions env desc₁ rest with ⟨ret, l', desc₂⟩
          simp only [applyActions, ha, hrest] at h
          cases h
          obtain ⟨hfresh, hnodup⟩ := List.nodup_cons.mp hnodup
          obtain ⟨hvalue, hsame⟩ := ih hnodup hrest
          have hsets := FlowAction.sets_of_applyRoot ha
          constructor
          · intro b hb htype
            rcases List.mem_cons.mp hb with rfl | hb
            · -- no action after this one has its type
              rw [hsame]
              · apply hset hsets htype
              · intro c hc hct
                apply hfresh
                rw [htype, ← hct]
                apply List.mem_map_of_mem hc
            · apply hvalue b hb htype
          · intro hnone
            rw [hsame (fun b hb => hnone b (List.mem_cons_of_mem _ hb))]
            apply hkeep hsets (hnone a List.mem_cons_self)
      | _ => simp [applyActions, ha] at h

/-- The array has an entry for the tag if there is a tag that is not zero, an entry for the modify
action if there is one, and then an entry for each destination, in their order.  All entries are
written. -/
def Lists (actions : List FlowAction) (array : List (Option FlowActionAttr)) : Prop :=
  ∃ (tag modify : Option FlowActionAttr) (dests : List ForwardableObj),
    array = (tag.toList ++ modify.toList ++ dests.map FlowActionAttr.destDevx).map some
      ∧ (∀ x, tag = some x ↔ ∃ a, .tag a ∈ actions ∧ a.mTagId ≠ 0 ∧ x = .tag a.mTagId)
      ∧ (modify = none ↔ ∀ a, .modify a ∉ actions)
      ∧ (∀ x, modify = some x →
        ∃ a m, .modify a ∈ actions ∧ x = .ibvFlowAction m a.mAttr.actions.length)
      ∧ ∃ a, .fwd a ∈ actions ∧ dests = a.mDests

/-- The description has the tag of the tag action, the entries of the modify action and the
destinations of the forward action. -/
structure Describes (order : List FlowAction) (desc desc' : FlowDesc) : Prop where
  tag : ∀ a, .tag a ∈ order → desc'.flowId = a.mTagId
  noTag : (∀ a, .tag a ∉ order) → desc'.flowId = desc.flowId
  modify : ∀ a, .modify a ∈ order →
    ∃ m, desc'.modifyActions = some m ∧ desc'.numOfActions = a.mAttr.actions.length
  noModify : (∀ a, .modify a ∉ order) → desc'.modifyActions = desc.modifyActions
  fwd : ∀ a, .fwd a ∈ order → desc'.dstObj = a.mDests

/-- Whatever the order, the description has what the actions say. -/
theorem describes_of_applyActions {env : RootEnv} {order l : List FlowAction}
    {desc desc' : FlowDesc} (hnodup : (order.map FlowAction.type).Nodup)
    (h : applyActions env desc order = (.ok, l, desc')) :
  Describes order desc desc'
  := by
  have htag := field_of_applyActions FlowDesc.flowId .tag
    (fun a id => ∀ b, a = .tag b → id = b.mTagId)
    (fun hsets _ b hb => by subst hb; rw [hsets]) FlowAction.Sets.flowId hnodup h
  have hmodify := field_of_applyActions
    (fun desc => (desc.modifyActions, desc.numOfActions)) .modify
    (fun a v => ∀ b, a = .modify b → ∃ m, v = (some m, b.mAttr.actions.length))
    (fun hsets _ b hb => by subst hb; obtain ⟨m, rfl⟩ := hsets; exact ⟨m, rfl⟩)
    (fun hsets htype => Prod.ext (hsets.modifyActions htype).1 (hsets.modifyActions htype).2)
    hnodup h
  have hfwd := field_of_applyActions FlowDesc.dstObj .fwd
    (fun a dests => ∀ b, a = .fwd b → dests = b.mDests)
    (fun hsets _ b hb => by subst hb; rw [hsets]) FlowAction.Sets.dstObj hnodup h
  constructor
  case tag =>
    intro a ha
    apply htag.1 _ ha rfl _ rfl
  case noTag =>
    intro hnone
    apply htag.2
    intro a ha htype
    cases a with
    | tag a => apply hnone a ha
    | _ => cases htype
  case modify =>
    intro a ha
    obtain ⟨m, hm⟩ := hmodify.1 _ ha rfl _ rfl
    exact ⟨m, congrArg Prod.fst hm, congrArg Prod.snd hm⟩
  case noModify =>
    intro hnone
    apply congrArg Prod.fst (hmodify.2 _)
    intro a ha htype
    cases a with
    | modify a => apply hnone a ha
    | _ => cases htype
  case fwd =>
    intro a ha
    apply hfwd.1 _ ha rfl _ rfl

/-- The parameters of the match are set apart from what the actions set. -/
theorem setMatchParams_frame (r : FlowRuleExKernel) (desc : FlowDesc) :
  (r.setMatchParams desc).2.flowId = desc.flowId
    ∧ (r.setMatchParams desc).2.modifyActions = desc.modifyActions
  := by
  rw [setMatchParams]
  repeat' split
  all_goals exact ⟨rfl, rfl⟩

/-- What a rule went through when its flow was described. -/
theorem describes_of_describe {r : FlowRuleExKernel} {env : RootEnv} {order : List FlowAction}
    {desc : FlowDesc} (hnodup : (order.map FlowAction.type).Nodup)
    (h : r.describe env order = .ok desc) :
  r.mIsValidActions = true ∧ Describes order .new desc
  := by
  simp only [describe] at h
  split at h
  · cases h
  · rename_i hvalid
    constructor
    · simpa using hvalid
    · split at h
      · rename_i desc₁ hmatch
        have hsame := r.setMatchParams_frame { FlowDesc.new with priority := r.mPriority }
        rw [hmatch] at hsame
        split at h
        · rename_i l desc₂ happly
          cases h
          have hdescribes := describes_of_applyActions hnodup happly
          refine ⟨hdescribes.tag, ?_, hdescribes.modify, ?_, hdescribes.fwd⟩
          · intro hnone
            rw [hdescribes.noTag hnone]
            apply hsame.1
          · intro hnone
            rw [hdescribes.noModify hnone]
            apply hsame.2
        · cases h
      · cases h

/-- The array of actions and its length, as `mlx5dv_create_flow` gets them when the rule is
created. -/
def passed (r : FlowRuleExKernel) (env : RootEnv) (order : List FlowAction) :
    Option (List (Option FlowActionAttr) × Nat) :=
  match r.describe env order with
  | .ok desc => Flow.passed env.verbs desc
  | .error _ => none

/-- A description that has what the actions say gives an array that has it. -/
theorem lists_actions {actions : List FlowAction} {desc : FlowDesc}
    (h : Describes actions .new desc) (hfwd : ∃ a, .fwd a ∈ actions) :
  Lists actions (desc.actions.map some)
  := by
  refine ⟨if desc.flowId ≠ 0 then some (.tag desc.flowId) else none,
    desc.modifyActions.map (fun m => .ibvFlowAction m desc.numOfActions), desc.dstObj,
    ?_, ?_, ?_, ?_, ?_⟩
  · rw [FlowDesc.actions]
    split <;> rfl
  · intro x
    constructor
    · intro hx
      split at hx
      · rename_i hid
        cases hx
        have hsome : ∃ a, .tag a ∈ actions := by
          by_contra hnone
          apply hid
          rw [h.noTag (not_exists.mp hnone)]
          rfl
        obtain ⟨a, ha⟩ := hsome
        rw [h.tag a ha] at hid ⊢
        exact ⟨a, ha, hid, rfl⟩
      · cases hx
    · rintro ⟨a, ha, hid, rfl⟩
      rw [h.tag a ha, if_pos hid]
  · rw [Option.map_eq_none_iff]
    constructor
    · intro hnone a ha
      obtain ⟨m, hm, -⟩ := h.modify a ha
      cases hnone.symm.trans hm
    · intro hnone
      rw [h.noModify hnone]
      rfl
  · intro x hx
    obtain ⟨m, hm, rfl⟩ := Option.map_eq_some_iff.mp hx
    have hsome : ∃ a, .modify a ∈ actions := by
      by_contra hnone
      rw [h.noModify (not_exists.mp hnone)] at hm
      cases hm
    obtain ⟨a, ha⟩ := hsome
    obtain ⟨m', -, hlength⟩ := h.modify a ha
    exact ⟨a, m, ha, by rw [hlength]⟩
  · obtain ⟨a, ha⟩ := hfwd
    exact ⟨a, ha, h.fwd a ha⟩

/-- Whatever order the map gives the actions in: if the number of actions that
`mlx5dv_create_flow` gets is an `int`, then the array has that many entries, all of them written:
the tag if it is not zero, the modify-header action if there is a modify action, and the
destinations in their order. -/
theorem passed_lists {attr : FlowRuleAttrEx} {group : FlowGroup} {matcher : FlowMatcher}
    {env : RootEnv} {order : List FlowAction} {array : List (Option FlowActionAttr)} {n : Nat}
    (hperm : order.Perm (new attr group matcher).mActions.entries)
    (h : (new attr group matcher).passed env order = some (array, n)) (hn : n < 2 ^ 31) :
  array.length = n ∧ Lists attr.actions array
  := by
  have hnodup : (order.map FlowAction.type).Nodup :=
    (hperm.map FlowAction.type).nodup_iff.mpr (new attr group matcher).mActions.nodup
  cases hdescribe : (new attr group matcher).describe env order with
  | error ret => simp [passed, hdescribe] at h
  | ok desc =>
      simp only [passed, hdescribe] at h
      obtain ⟨rfl, rfl⟩ := Flow.passed_eq h
      obtain ⟨hvalid, hdescribes⟩ := describes_of_describe hnodup hdescribe
      obtain ⟨hentries, hfwd⟩ := verifyFlowActions_valid hvalid
      have hmem : ∀ a, a ∈ order ↔ a ∈ attr.actions := fun a => (hperm.trans hentries).mem_iff
      rw [FlowDesc.entries_actionsAttr hn, List.length_map, FlowDesc.length_actions]
      use rfl
      apply lists_actions _ hfwd
      refine ⟨?_, ?_, ?_, ?_, ?_⟩ <;> simp only [← hmem]
      · apply hdescribes.tag
      · apply hdescribes.noTag
      · apply hdescribes.modify
      · apply hdescribes.noModify
      · apply hdescribes.fwd

/-- A rule with the actions `actions` in a group that matches on the outer headers. -/
def outerRule (actions : List FlowAction) : FlowRuleExKernel :=
  new ⟨0, .empty, 0, actions⟩ (FlowGroupKernel.create (.new true (groupAttr 0x1)) true).2
    (groupAttr 0x1).matcher

/-- Forward to two TIRs, and the tag `7`. -/
def tagAndFwd : List FlowAction :=
  [.tag ⟨7⟩, .fwd ⟨[FlowRuleExPrm.tirFive, FlowRuleExPrm.tirFive], false⟩]

theorem passed_lists_tagAndFwd :
  ∃ array, (outerRule tagAndFwd).passed acceptingRoot tagAndFwd = some (array, 3)
    ∧ array.length = 3 ∧ Lists tagAndFwd array
  := by
  obtain ⟨array, harray⟩ :
      ∃ array, (outerRule tagAndFwd).passed acceptingRoot tagAndFwd = some (array, 3) := ⟨_, rfl⟩
  use array, harray
  apply passed_lists (List.Perm.swap _ _ _) harray (by decide)

/-- Without a tag, and if the number of destinations reads as zero or less in an `int`, no entry is
written. -/
theorem passed_unwritten {dests : List ForwardableObj}
    (hcreated : ∀ dest ∈ dests, dest.base.mObjHandle = true)
    (hcount : (BitVec.ofNat 32 dests.length).toInt ≤ 0) :
  (outerRule [.fwd ⟨dests, false⟩]).passed acceptingRoot [.fwd ⟨dests, false⟩]
    = some (List.replicate dests.length none, dests.length)
  := by
  obtain ⟨m, hm⟩ : ∃ m, (groupAttr 0x1).matcher.apply zeros 0 .empty = (.ok, m) := ⟨_, rfl⟩
  have hgroup : (outerRule [.fwd ⟨dests, false⟩]).mGroup.getMatchCriteria .empty
      = (.ok, .empty) := rfl
  have hvalue : (outerRule [.fwd ⟨dests, false⟩]).mMatchValue = .empty := rfl
  have hmatcher : (outerRule [.fwd ⟨dests, false⟩]).mMatcher.apply zeros 0 .empty
      = (.ok, m) := hm
  have hvalid : (outerRule [.fwd ⟨dests, false⟩]).mIsValidActions = true := rfl
  have hall : dests.all (fun dest => dest.base.mObjHandle) = true := List.all_eq_true.mpr hcreated
  have htake : dests.take (BitVec.ofNat 32 dests.length).toInt.toNat = [] := by
    rw [Int.toNat_of_nonpos hcount, List.take_zero]
  simp [passed, describe, setMatchParams, hvalid, hgroup, hvalue, hmatcher, applyActions,
    FlowAction.applyRoot, FlowActionFwd.applyRoot, hall, acceptingRoot, Flow.passed, Flow.construct,
    Flow.modifyHeader, FlowDesc.new, FlowDesc.actionsAttr, FlowDesc.numActions,
    FlowDesc.dstObjCount, htake]

/-- Forward to `2 ^ 31` TIRs: the array has as many entries, and the first one is not written. -/
theorem passed_manyDests :
  ∃ (dests : List ForwardableObj) (array : List (Option FlowActionAttr)),
    dests.length = 2 ^ 31 ∧ (∀ dest ∈ dests, dest.base.live = true)
      ∧ (outerRule [.fwd ⟨dests, false⟩]).passed acceptingRoot [.fwd ⟨dests, false⟩]
        = some (array, 2 ^ 31)
      ∧ array[0]? = some none
  := by
  obtain ⟨n, hn⟩ : ∃ n, n = 2 ^ 31 := ⟨_, rfl⟩
  have hlive : ∀ dest ∈ List.replicate n FlowRuleExPrm.tirFive, dest = FlowRuleExPrm.tirFive :=
    fun dest hdest => List.eq_of_mem_replicate hdest
  have hcount : (BitVec.ofNat 32 (List.replicate n FlowRuleExPrm.tirFive).length).toInt ≤ 0 := by
    rw [List.length_replicate, hn]
    decide
  have hpassed := passed_unwritten (fun dest hdest => by rw [hlive dest hdest]; rfl) hcount
  rw [List.length_replicate] at hpassed
  refine ⟨_, _, List.length_replicate.trans hn, ?_, by rw [hpassed, hn], ?_⟩
  · intro dest hdest
    rw [hlive dest hdest]
    rfl
  · rw [List.getElem?_replicate, if_pos]
    decide

end FlowRuleExKernel

/-! ### The destinations of a legacy rule -/

namespace FlowRule

/-- The description has the handle and the id of each TIR of the rule, in their order, and all of
them are there. -/
def HasTirs (r : FlowRule) (env : FlowRuleEnv) : Prop :=
  (∀ tr ∈ r.mDstTir, (env.tir tr).live = true)
    ∧ (r.desc env).dstObj = r.mDstTir.map (fun tr => ⟨env.tir tr, .tir⟩)
    ∧ ∀ i tr, r.mDstTir[i]? = some tr →
      devxGet (r.desc env).dstFormats (destFormatStructBits * i) DestFormatStruct.destinationType
          = FwdType.tir.value
        ∧ devxGet (r.desc env).dstFormats (destFormatStructBits * i) DestFormatStruct.destinationId
          = (env.tir tr).mId

section Live

variable {env : FlowRuleEnv} {tr : Nat} (h : (env.tir tr).live = true)

include h

theorem dstTirObj_of_live (i : Nat) :
  dstTirObj env i tr = ⟨env.tir tr, .tir⟩
  := by
  have hhandle : (env.tir tr).mObjHandle = true := (Bool.and_eq_true_iff.mp h).1
  rw [dstTirObj, if_pos hhandle]

theorem dstFormat_of_live :
  dstFormat env tr = some ⟨.tir, (env.tir tr).mId⟩
  := by
  have hhandle : (env.tir tr).mObjHandle = true := (Bool.and_eq_true_iff.mp h).1
  rw [dstFormat, if_pos hhandle, Obj.getId_of_live h]

end Live

/-- If all TIRs are there, then the description has their handles and ids. -/
theorem hasTirs_of_live {r : FlowRule} {env : FlowRuleEnv}
    (h : ∀ tr ∈ r.mDstTir, (env.tir tr).live = true) :
  r.HasTirs env
  := by
  refine ⟨h, ?_, ?_⟩
  · apply List.ext_getElem?
    intro i
    simp only [desc, List.getElem?_map, List.getElem?_mapIdx]
    cases htr : r.mDstTir[i]? with
    | none => rfl
    | some tr =>
        have hlive := h tr (List.mem_of_getElem? htr)
        simp only [Option.map_some, dstTirObj_of_live hlive]
  · intro i tr htr
    have hformat : (r.mDstTir.map (dstFormat env))[i]? = some (some ⟨.tir, (env.tir tr).mId⟩) := by
      rw [List.getElem?_map, htr, Option.map_some,
        dstFormat_of_live (h tr (List.mem_of_getElem? htr))]
    obtain ⟨htype, hid⟩ := devxGet_dstFormats env.formatHeap hformat
    refine ⟨htype, hid.trans ?_⟩
    apply (and_lowMask_eq_self_iff (by decide) _).mpr (env.tir tr).idFits

/-- Whatever the verbs library makes: `apply_settings` makes a flow only if all TIRs of the rule are
there, with the handle and the id of each in the description, exactly if it is refused before or
all of them are there. -/
theorem applySettings_hasTirs_iff (r : FlowRule) (env : FlowRuleEnv) :
  (∀ verbs, (r.applySettings { env with verbs := verbs }).1 = .ok → r.HasTirs env)
    ↔ (r.refuses env).isSome ∨ ∀ tr ∈ r.mDstTir, (env.tir tr).live = true
  := by
  constructor
  · intro h
    cases hrefuses : r.refuses env with
    | some ret => exact Or.inl rfl
    | none =>
        right
        refine (h AppliedRule.accepting.verbs ?_).1
        have hrefuses : r.refuses { env with verbs := AppliedRule.accepting.verbs } = none :=
          hrefuses
        rw [applySettings, hrefuses]
        rfl
  · rintro (hrefuses | hlive) verbs hok
    · obtain ⟨ret, hret⟩ := Option.isSome_iff_exists.mp hrefuses
      have hret' : r.refuses { env with verbs := verbs } = some ret := hret
      rw [applySettings, hret'] at hok
      cases refuses_ne_ok hret hok
    · apply hasTirs_of_live hlive

/-- A TIR that was never created at `1`, and one that was destroyed at `2`. -/
def missingTirs (heap : Nat → ForwardableObj) : FlowRuleEnv :=
  { AppliedRule.accepting with
    tir := fun tr => if tr = 1 then .new true else FlowRuleExPrm.tirFive.base.destroy.2
    heap := heap }

/-- A rule with both of them as destinations is applied: the first handle is whatever the new array
had, and the second one is the handle of an object that is no more. -/
theorem applySettings_missingTirs :
  let r := { FlowRule.new true 0 .empty with mDstTir := [1, 2] }
  ∃ tir : Obj, tir.live = false
    ∧ ∀ heap, (r.applySettings (missingTirs heap)).1 = .ok
      ∧ (r.desc (missingTirs heap)).dstObj = [heap 0, ⟨tir, .tir⟩]
  := by
  refine ⟨FlowRuleExPrm.tirFive.base.destroy.2, rfl, ?_⟩
  intro heap
  exact ⟨rfl, rfl⟩

end FlowRule

end Dpcp
