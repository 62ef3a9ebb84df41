import Dpcp.Flow.Table
import Dpcp.Flow.VerbsFlow

/-!
# The check of the actions of a rule

`flow_rule_ex::verify_flow_actions` inserts the actions into a map by their types and compares the
size of the map with that of the list, so that two actions of one type are noticed.  A rule
remembers the outcome, and `create` looks at it before anything else.

`commands` are the commands that `create` of a PRM rule sends: those of the modify actions it comes
to, and then its own.  What `create` does depends on the device through its replies to these alone.
-/

namespace Dpcp

open Bits Dcmd Prm

/-! ### The map -/

/-- Actions of types that are not there yet, no two of one type, are all inserted. -/
theorem ActionMap.entries_foldl_insert_of_nodup {actions : ActionMap} {l : List FlowAction}
    (h : (l.map FlowAction.type ++ actions.entries.map FlowAction.type).Nodup) :
  (l.foldl insert actions).entries = l.reverse ++ actions.entries
  := by
  induction l generalizing actions with
  | nil => rfl
  | cons a l ih =>
      rw [List.map_cons, List.cons_append, List.nodup_cons, List.mem_append] at h
      obtain ⟨hnew, hrest⟩ := h
      have hentries : (actions.insert a).entries = a :: actions.entries := by
        rw [insert, dif_neg (fun hmem => hnew (.inr hmem))]
      have hnodup : (l.map FlowAction.type ++ (actions.insert a).entries.map FlowAction.type).Nodup
          := by
        rw [hentries, List.map_cons]
        apply List.nodup_middle.mpr
        rw [List.nodup_cons, List.mem_append]
        exact ⟨hnew, hrest⟩
      rw [List.foldl_cons, ih hnodup, hentries]
      simp

/-- The map has as many entries as there are actions exactly if no two are of one type. -/
theorem ActionMap.length_foldl_insert_iff (l : List FlowAction) :
  (l.foldl insert empty).entries.length = l.length ↔ (l.map FlowAction.type).Nodup
  := by
  constructor
  · intro h
    have hall : (l.foldl insert empty).entries.length = empty.entries.length + l.length := by
      simpa [empty] using h
    have hnodup := (l.foldl insert empty).nodup
    rw [entries_foldl_insert hall] at hnodup
    simpa [empty] using hnodup
  · intro h
    rw [entries_foldl_insert_of_nodup (by simpa [empty] using h)]
    simp [empty]

/-- A list of actions passes the check exactly if it is not empty, has no two actions of one type,
and forwards. -/
theorem verifyFlowActions_eq_true_iff (actions : List FlowAction) :
  (verifyFlowActions actions).1 = true
    ↔ actions ≠ [] ∧ (actions.map FlowAction.type).Nodup ∧ ∃ a, .fwd a ∈ actions
  := by
  constructor
  · intro h
    obtain ⟨hperm, a, ha⟩ := verifyFlowActions_valid h
    refine ⟨List.ne_nil_of_mem ha, ?_, a, ha⟩
    apply (hperm.map FlowAction.type).nodup_iff.mp
    apply (verifyFlowActions actions).2.nodup
  · rintro ⟨hne, hnodup, a, ha⟩
    have hlength := (ActionMap.length_foldl_insert_iff actions).mpr hnodup
    have hmem : FlowAction.fwd a ∈ (actions.foldl ActionMap.insert .empty).entries := by
      rw [ActionMap.entries_foldl_insert_of_nodup (by simpa [ActionMap.empty] using hnodup)]
      simpa [ActionMap.empty] using ha
    have hempty : ¬ actions.isEmpty = true := by simpa using hne
    rw [verifyFlowActions, if_neg hempty]
    simp only [hlength, ne_eq, not_true_eq_false, if_false]
    apply List.any_eq_true.mpr
    exact ⟨_, hmem, rfl⟩

/-! ### The commands of a rule -/

/-- A creation depends on the reply to its mailbox alone. -/
theorem Obj.create_congr (o : Obj) {device device' : Device} {m : Memory} {inlen : Nat}
    (h : device m inlen = device' m inlen) (out : Memory) (outlen : Nat) :
  o.create device (some m) inlen out outlen = o.create device' (some m) inlen out outlen
  := by
  simp only [create, h]

/-- The commands that applying an action sends. -/
def FlowAction.commands (alloc : Bool) : FlowAction → List Obj.Command
  | modify a => (a.command alloc).toOption.toList
  | _ => []

/-- The environments differ at most in what the devices reply to other mailboxes than those of
`commands`. -/
structure Env.AgreeOn (env env' : Env) (commands : List Obj.Command) : Prop where
  alloc : env.alloc = env'.alloc
  device : ∀ c ∈ commands, env.device c.mailbox c.inlen = env'.device c.mailbox c.inlen

theorem Env.AgreeOn.mono {env env' : Env} {l l' : List Obj.Command} (h : env.AgreeOn env' l)
    (hl : l' ⊆ l) :
  env.AgreeOn env' l'
  := ⟨h.alloc, fun c hc => h.device c (hl hc)⟩

theorem FlowActionModify.createPrmModify_congr {a : FlowActionModify} {alloc : Bool}
    {device device' : Device}
    (h : ∀ b m, a.preparePrmModifyBuff alloc = (.ok, b) → b.mIn = some m →
      device m b.mInlen = device' m b.mInlen) :
  a.createPrmModify alloc device = a.createPrmModify alloc device'
  := by
  have hin := (a.preparePrmModifyBuff_base alloc).2.2
  rw [createPrmModify, createPrmModify]
  rcases hbuff : a.preparePrmModifyBuff alloc with ⟨ret, b⟩
  rw [hbuff] at hin
  dsimp only at hin
  cases ret with
  | ok =>
      obtain ⟨m, hm⟩ := Option.isSome_iff_exists.mp (hin rfl)
      have hcreate := b.base.create_congr (h b m hbuff hm) b.mOut AllocModifyHeaderContextOut.bytes
      simp only [Result.andThen, hm, hcreate]
  | _ => simp only [Result.andThen]

theorem FlowActionModify.prepare_congr {a : FlowActionModify} {env env' : Env}
    (h : env.AgreeOn env' ((FlowAction.modify a).commands env.alloc)) :
  a.prepare env = a.prepare env'
  := by
  obtain ⟨halloc, hdevice⟩ := h
  rw [prepare, prepare, ← halloc]
  cases hvalid : a.mIsValid with
  | true => simp only [Bool.not_true, Bool.false_eq_true, if_false]
  | false =>
      simp only [Bool.not_false, if_true]
      apply createPrmModify_congr
      intro b m hbuff hm
      apply hdevice ⟨m, b.mInlen, AllocModifyHeaderContextOut.bytes⟩
      simp [FlowAction.commands, command, hvalid, hbuff, hm, Except.toOption]

theorem FlowAction.apply_congr {a : FlowAction} {env env' : Env}
    (h : env.AgreeOn env' (a.commands env.alloc)) (m : Memory) :
  a.apply env m = a.apply env' m
  := by
  cases a with
  | modify a => simp only [apply, FlowActionModify.apply, a.prepare_congr h]
  | _ => rfl

namespace FlowRuleExPrm

/-- The commands of the actions that the loop of `create` comes to. -/
def actionCommands (env : Env) (m : Memory) : List FlowAction → List Obj.Command
  | [] => []
  | a :: rest =>
      match a.apply env m with
      | (.ok, _, m) => a.commands env.alloc ++ actionCommands env m rest
      | _ => a.commands env.alloc

/-- The commands that `create` sends. -/
def commands (r : FlowRuleExPrm) (env : Env) (alloc : Bool) (order : List FlowAction) :
    List Obj.Command :=
  if !r.mIsValidActions || !alloc then
    []
  else
    match r.beforeActions with
    | (.ok, m) => actionCommands env m order ++ (r.command env alloc order).toList
    | _ => []

theorem applyActions_congr {env env' : Env} {m : Memory} {order : List FlowAction}
    (h : env.AgreeOn env' (actionCommands env m order)) :
  applyActions env m order = applyActions env' m order
  := by
  induction order generalizing m with
  | nil => rfl
  | cons a rest ih =>
      have hfirst : a.commands env.alloc ⊆ actionCommands env m (a :: rest) := by
        rw [actionCommands]
        split
        · apply List.subset_append_left
        · apply List.Subset.refl
      have happly := a.apply_congr (h.mono hfirst) m
      rw [applyActions, applyActions, ← happly]
      split
      · rename_i b m' hok
        have hrest : actionCommands env m' rest ⊆ actionCommands env m (a :: rest) := by
          rw [actionCommands, hok]
          apply List.subset_append_right
        rw [ih (h.mono hrest)]
      · rfl

/-- A mailbox that was made is sent. -/
theorem command_eq_some {r : FlowRuleExPrm} (hvalid : r.mIsValidActions = true) {env : Env}
    {order actions : List FlowAction} {m : Memory}
    (h : r.mailbox env order = (.ok, actions, m)) :
  r.command env true order = some ⟨m, r.inLen, SetFteOut.bytes⟩
  := by
  simp only [command, create, hvalid, h, Bool.not_true, Bool.false_eq_true, if_false]
  generalize r.base.create env.device (some m) r.inLen zeros SetFteOut.bytes = made
  obtain ⟨ret, base, out⟩ := made
  cases ret <;> rfl

/-- `create` does the same if the devices give the same replies to the commands that are sent. -/
theorem create_congr (r : FlowRuleExPrm) {env env' : Env} {alloc : Bool} {order : List FlowAction}
    (h : env.AgreeOn env' (r.commands env alloc order)) :
  r.create env alloc order = r.create env' alloc order
  := by
  rw [commands] at h
  cases hvalid : r.mIsValidActions with
  | false => simp [create, hvalid]
  | true =>
      cases alloc with
      | false => simp [create, hvalid]
      | true =>
          rcases hbefore : r.beforeActions with ⟨ret, m⟩
          cases ret with
          | ok =>
              simp only [hvalid, hbefore, Bool.not_true, Bool.or_self, Bool.false_eq_true,
                if_false] at h
              have hloop := applyActions_congr (h.mono (List.subset_append_left _ _))
              have hmailbox : r.mailbox env order = r.mailbox env' order := by
                simp only [mailbox, hbefore, hloop]
              rcases happly : r.mailbox env order with ⟨ret, actions, m'⟩
              rw [happly] at hmailbox
              cases ret with
              | ok =>
                  have hsent : r.command env true order = some ⟨m', r.inLen, SetFteOut.bytes⟩ := by
                    apply command_eq_some hvalid happly
                  have hreply := h.device ⟨m', r.inLen, SetFteOut.bytes⟩ (by simp [hsent])
                  simp only [create, hvalid, happly, ← hmailbox, r.base.create_congr hreply]
              | _ => simp only [create, hvalid, happly, ← hmailbox]
          | _ => simp only [create, mailbox, hbefore]

/-- A rule with invalid actions sends no command and stays as it is. -/
theorem create_of_not_valid {r : FlowRuleExPrm} (h : r.mIsValidActions = false) (env : Env)
    (alloc : Bool) (order : List FlowAction) :
  r.create env alloc order = (.errInvalidParam, r, none) ∧ r.commands env alloc order = []
  := by
  simp [create, commands, h]

end FlowRuleExPrm

/-- A rule of the root table with invalid actions describes no flow and stays as it is. -/
theorem RootRule.createFlow_of_not_valid {r : RootRule} (h : r.mIsValidActions = false)
    (env : RootEnv) (order : List FlowAction) :
  r.createFlow env order = (.errInvalidParam, r) ∧ r.describe env order = .error .errInvalidParam
  := by
  have hdescribe : r.describe env order = .error .errInvalidParam := by
    simp [FlowRuleExKernel.describe, h]
  rw [createFlow, hdescribe]
  exact ⟨rfl, rfl⟩

/-- The actions of a rule pass the check exactly if there are some, no two of them are of one type,
and one forwards; then the map has just these actions.  A rule whose actions do not pass sends no
command when it is created, and makes no flow. -/
theorem flow_actions_checked (attr : FlowRuleAttrEx) :
  ((verifyFlowActions attr.actions).1 = true
      ↔ attr.actions ≠ [] ∧ (attr.actions.map FlowAction.type).Nodup ∧ ∃ a, .fwd a ∈ attr.actions)
    ∧ ((verifyFlowActions attr.actions).1 = true →
      (verifyFlowActions attr.actions).2.entries.Perm attr.actions)
    ∧ ((verifyFlowActions attr.actions).1 = false →
      (∀ ctx table group matcher env alloc order,
        let r := FlowRuleExPrm.new ctx attr table group matcher
        r.create env alloc order = (.errInvalidParam, r, none) ∧ r.commands env alloc order = [])
      ∧ ∀ group matcher env order,
        let r := RootRule.new attr group matcher
        r.createFlow env order = (.errInvalidParam, r)
          ∧ r.describe env order = .error .errInvalidParam)
  := by
  refine ⟨verifyFlowActions_eq_true_iff attr.actions, fun h => (verifyFlowActions_valid h).1, ?_⟩
  intro h
  constructor
  · intro ctx table group matcher env alloc order
    apply FlowRuleExPrm.create_of_not_valid h
  · intro group matcher env order
    apply RootRule.createFlow_of_not_valid h

/-- Forwarding twice. -/
def fwdTwice : FlowRuleAttrEx :=
  ⟨0, .empty, 0, [.fwd ⟨[FlowRuleExPrm.tirFive], false⟩, .fwd ⟨[], false⟩]⟩

theorem flow_actions_checked_fwdTwice :
  let r := FlowRuleExPrm.new true fwdTwice ⟨true, 0, 3⟩
    ⟨⟨.new true, ⟨0, 7, 0, .empty⟩, true, none⟩, 4⟩ ⟨⟨.empty, 0⟩⟩
  (verifyFlowActions fwdTwice.actions).1 = false
    ∧ r.commands FlowRuleExPrm.refusing true r.mActions.entries = []
  := by
  intro r
  have hfails : (verifyFlowActions fwdTwice.actions).1 = false := by decide
  obtain ⟨-, -, hnone⟩ := flow_actions_checked fwdTwice
  exact ⟨hfails, ((hnone hfails).1 _ _ _ _ _ _ _).2⟩

end Dpcp
