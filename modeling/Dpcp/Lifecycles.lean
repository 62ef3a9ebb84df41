import Dpcp.Flow.Rule
import Dpcp.GeneralObject
import Dpcp.Mkey.Pattern
import Dpcp.Ownership
import Dpcp.Parser.GraphNode

/-!
# Objects over their lives

A flow rule, a key, a tag buffer table or a parser graph node has a public `create` or
`apply_settings` that can be called again, and what it makes is stored over what there was.  An
object lives from its constructor through any calls to its destructor, which destroys what the
object then has.

The classes differ in what has to be in order for the command or the flow; each is a `Lifecycle`,
and the theorem on lifecycles answers for all of them.
-/

namespace Dpcp

open Machine Bits Dcmd Prm Owner

/-! ### The classes -/

namespace FlowRule

/-- The calls on the rule leave its base class alone. -/
theorem call_base (r : FlowRule) (c : FlowRuleCall) :
  (r.call c).2.base = r.base
  := by
  cases c with
  | setMatchValue val => rfl
  | setFlowId flowId =>
      simp only [call, setFlowId]
      split <;> rfl
  | addDestTir tr =>
      simp only [call, addDestTir]
      split <;> rfl
  | removeDestTir tr =>
      simp only [call, removeDestTir]
      split <;> rfl
  | applySettings env =>
      simp only [call, applySettings]
      split <;> rfl
  | revokeSettings destroys => rfl

def lifecycle : Lifecycle Slot :=
  Obj.lifecycle base (fun r o => { r with base := o }) (fun r => r.mFlow.isSome)
    (fun r c => (r.call c).2) op (fun _ _ => rfl) (fun _ _ => rfl)
    fun r c => by rw [call_base, holding_call]

end FlowRule

/-- The arguments of `flow_rule_ex_prm::create`. -/
structure FlowRuleExPrm.CreateArgs where
  env : Env
  alloc : Bool
  order : List FlowAction

def FlowRuleExPrm.lifecycle : Lifecycle Slot :=
  Obj.createLifecycle base (fun r o => { r with base := o })
    (fun r (a : CreateArgs) => (r.create a.env a.alloc a.order).2.1) (fun a => a.env.device)
    (fun r a => r.command a.env a.alloc a.order) (fun _ _ => rfl)
    fun r a => r.create_base a.env a.alloc a.order

namespace RootRule

/-- What `create` does with the flow. -/
def op (r : RootRule) (env : RootEnv) (order : List FlowAction) : Op Slot :=
  match r.describe env order with
  | .error _ => .keep
  | .ok desc => if (Flow.new env.verbs desc).isSome then .acquire .flow else .clear .flow

theorem holding_createFlow (r : RootRule) (env : RootEnv) (order : List FlowAction) :
  Slot.holding (r.createFlow env order).2.base.live (r.createFlow env order).2.mFlow.isSome
    = (r.op env order).after (Slot.holding r.base.live r.mFlow.isSome)
  := by
  rw [createFlow, op]
  cases r.describe env order with
  | error ret => rfl
  | ok desc =>
      cases hflow : Flow.new env.verbs desc <;> simp only [hflow] <;> funext k <;> cases k <;> rfl

def lifecycle : Lifecycle Slot :=
  Obj.lifecycle base (fun r o => { r with base := o }) (fun r => r.mFlow.isSome)
    (fun r (a : RootEnv × List FlowAction) => (r.createFlow a.1 a.2).2) (fun r a => r.op a.1 a.2)
    (fun _ _ => rfl) (fun _ _ => rfl) fun r a => r.holding_createFlow a.1 a.2

end RootRule

def Dek.lifecycle : Lifecycle Slot :=
  Obj.createLifecycle base (fun d o => { d with base := o })
    (fun d (a : DekAttr × Device) => (d.create a.1 a.2).2) Prod.snd
    (fun d a => (command d.kind a.1).toOption) (fun _ _ => rfl) fun d a => d.create_base a.1 a.2

def TagBufferTableObj.lifecycle : Lifecycle Slot :=
  Obj.createLifecycle base (fun t o => { t with base := o })
    (fun t (a : BitVec 32 × Device) => (t.create a.1 a.2).2) Prod.snd
    (fun _ a => some (command a.1)) (fun _ _ => rfl) fun t a => t.create_base a.1 a.2

namespace ParserGraphNode

/-- The node after `create`; without a result it stays as it is. -/
def created (node : ParserGraphNode) (device : Device) : ParserGraphNode :=
  ((node.create device).map Prod.snd).getD node

theorem created_base (node : ParserGraphNode) (device : Device) :
  (node.created device).base = node.base.send device node.command
  := by
  rw [created]
  cases hcreate : node.create device with
  | none =>
      have hcommand : node.command = none := by
        by_contra hsome
        obtain ⟨c, hc⟩ := Option.ne_none_iff_exists'.mp hsome
        simp only [create, hc, Option.bind_eq_bind, Option.bind_some] at hcreate
        split at hcreate <;> cases hcreate
      rw [hcommand]
      rfl
  | some result => apply create_base hcreate

def lifecycle : Lifecycle Slot :=
  Obj.createLifecycle base (fun node o => { node with base := o }) created id
    (fun node _ => node.command) (fun _ _ => rfl) created_base

end ParserGraphNode

/-- The arguments of `pattern_mkey::create` and `crypto_mkey::create`: what the adapter, the counter
and the world outside give. -/
structure MkeyCreateArgs where
  pd : BitVec 32
  mkeyCnt : Int
  pageSize : BitVec 64
  alloc : Bool
  device : Device

def PatternMkey.lifecycle : Lifecycle Slot :=
  Obj.createLifecycle base (fun k o => { k with base := o })
    (fun k (a : MkeyCreateArgs) => (k.create a.pd a.mkeyCnt a.pageSize a.alloc a.device).2)
    MkeyCreateArgs.device (fun k a => k.command a.pd a.mkeyCnt a.pageSize a.alloc)
    (fun _ _ => rfl) fun k a => k.create_base a.pd a.mkeyCnt a.pageSize a.alloc a.device

def CryptoMkey.lifecycle : Lifecycle Slot :=
  Obj.createLifecycle base (fun k o => { k with base := o })
    (fun k (a : MkeyCreateArgs) => (k.createMkey a.pd a.mkeyCnt a.device).2)
    MkeyCreateArgs.device (fun k a => k.command a.pd a.mkeyCnt)
    (fun _ _ => rfl) fun k a => k.createMkey_base a.pd a.mkeyCnt a.device

/-! ### All of them -/

/-- The classes whose objects can be created or applied more than once. -/
inductive OwningClass where
  | flowRule
  | flowRuleExPrm
  | flowRuleExKernel
  | dek
  | tagBufferTable
  | parserGraphNode
  | patternMkey
  | cryptoMkey

namespace OwningClass

def lifecycle : OwningClass → Lifecycle Slot
  | flowRule => FlowRule.lifecycle
  | flowRuleExPrm => FlowRuleExPrm.lifecycle
  | flowRuleExKernel => RootRule.lifecycle
  | dek => Dek.lifecycle
  | tagBufferTable => TagBufferTableObj.lifecycle
  | parserGraphNode => ParserGraphNode.lifecycle
  | patternMkey => PatternMkey.lifecycle
  | cryptoMkey => CryptoMkey.lifecycle

/-- The object was made by a constructor of its class. -/
inductive Constructed : (c : OwningClass) → c.lifecycle.State → Prop where
  | flowRule (ctx : Bool) (priority : BitVec 16) (matchCriteria : MatchParams) :
      Constructed flowRule (FlowRule.new ctx priority matchCriteria)
  | flowRuleExPrm (ctx : Bool) (attr : FlowRuleAttrEx) (table : FlowTablePrm)
      (group : FlowGroupPrm) (matcher : FlowMatcher) :
      Constructed flowRuleExPrm (FlowRuleExPrm.new ctx attr table group matcher)
  | flowRuleExKernel (attr : FlowRuleAttrEx) (group : FlowGroup) (matcher : FlowMatcher) :
      Constructed flowRuleExKernel (RootRule.new attr group matcher)
  | dek (ctx : Bool) (kind : DekKind) : Constructed dek (Dek.new ctx kind)
  | tagBufferTable (ctx : Bool) : Constructed tagBufferTable (TagBufferTableObj.new ctx)
  | parserGraphNode (ctx : Bool) (attrs : ParserGraphNodeAttr) :
      Constructed parserGraphNode (ParserGraphNode.new ctx attrs)
  | patternMkey (ctx : Bool) (address : BitVec 64) (flags : BitVec 32) (strideNum : BitVec 64)
      (bbs : List PatternMkeyBb) :
      Constructed patternMkey (PatternMkey.new ctx address flags strideNum bbs)
  | cryptoMkey (ctx : Bool) (maxSge : BitVec 32) :
      Constructed cryptoMkey (CryptoMkey.new ctx maxSge)

/-- A new object owns nothing. -/
theorem Constructed.holds {c : OwningClass} {s : c.lifecycle.State} (hs : c.Constructed s)
    (k : Slot) :
  c.lifecycle.holds s k = false
  := by
  cases hs <;> cases k <;> rfl

/-- An object of one of the classes, from its constructor through any calls to its destructor, owns
at most one object of the device or flow at a time, and has each destroyed once, exactly if no call
sends a command or asks for a flow while the object owns something, and whatever the object gives up
is destroyed. -/
theorem ownsOne_iff_allows {c : OwningClass} {s : c.lifecycle.State} (hs : c.Constructed s)
    (calls : List c.lifecycle.Call) (destroys : Slot → Bool) :
  c.lifecycle.OwnsOne s calls Slot.all destroys
    ↔ Along c.lifecycle.step c.lifecycle.Allows s calls
      ∧ ∀ k, c.lifecycle.holds (run c.lifecycle.step s calls) k = true → destroys k = true
  := Lifecycle.ownsOne_iff hs.holds Slot.mem_all calls destroys

/-- The attributes of a TLS key of 16 bytes. -/
def tlsKey : DekAttr :=
  ⟨some zeros, 16, 16, 7, 0⟩

/-- A device that makes every object. -/
def making : Device :=
  fun _ _ => ⟨true, zeros⟩

/-- A key that is created, destroyed and created again. -/
def createdAgain : List OwningClass.dek.lifecycle.Call :=
  [.own (tlsKey, making), .destroy true, .own (tlsKey, making)]

theorem ownsOne_createdAgain :
  OwningClass.dek.lifecycle.ops (Dek.new true .tls) createdAgain
      = [.acquire .hw, .release .hw, .acquire .hw]
    ∧ OwningClass.dek.lifecycle.OwnsOne (Dek.new true .tls) createdAgain Slot.all (fun _ => true)
  := by
  have hallows : Along OwningClass.dek.lifecycle.step OwningClass.dek.lifecycle.Allows
      (Dek.new true .tls) createdAgain := by
    refine ⟨?_, trivial, ?_, trivial⟩
    · intro k
      cases k <;> rfl
    · intro k
      cases k <;> rfl
  exact ⟨rfl, (ownsOne_iff_allows (.dek true .tls) createdAgain fun _ => true).mpr
    ⟨hallows, fun _ _ => rfl⟩⟩

/-- A key that is created twice: there are two keys of the device then, and the first is never
destroyed. -/
theorem not_ownsOne_createdTwice :
  ¬ OwningClass.dek.lifecycle.OwnsOne (Dek.new true .tls)
    [.own (tlsKey, making), .own (tlsKey, making)] Slot.all (fun _ => true)
  := by
  rintro ⟨hone, -⟩
  have htwo := hone [.acquire .hw, .acquire .hw] ⟨destruct Slot.all fun _ => true, rfl⟩ 0 1
    ⟨by decide, List.not_mem_nil⟩ ⟨by decide, List.not_mem_nil⟩
  cases htwo

end OwningClass

end Dpcp
