import Dpcp.Machine.Owner
import Dpcp.Obj

/-!
# What an object owns

An object of the library can own an object of the device, through the handle in its base class
`obj`, and a verbs flow.  These are its two slots.

`obj::create` is public, sends a command whenever it can, and stores what comes of it over the
handle there was.
-/

namespace Dpcp

open Bits Dcmd Prm Owner

/-- What an object can own: an object of the device, and a verbs flow. -/
inductive Slot where
  | hw
  | flow
deriving DecidableEq

/-- The slots, in the order in which a destructor empties them. -/
def Slot.all : List Slot := [.flow, .hw]

theorem Slot.mem_all (k : Slot) :
  k ∈ all
  := by
  cases k <;> decide

/-- Which slots hold something. -/
def Slot.holding (hw flow : Bool) : Slot → Bool
  | .hw => hw
  | .flow => flow

namespace Obj

/-- `obj::create` gets as far as sending the command. -/
def Sends (o : Obj) (c : Command) : Prop :=
  o.mCtx = true ∧ 16 ≤ c.inlen ∧ 16 ≤ c.outlen

instance (o : Obj) (c : Command) : Decidable (o.Sends c) :=
  inferInstanceAs (Decidable (_ ∧ _))

/-- What a function that sends the command does with the slot: it stores what the device made, or
nothing if the device made nothing. -/
def sendOp (o : Obj) (device : Device) : Option Command → Op Slot
  | none => .keep
  | some c =>
      if o.Sends c then
        if (device c.mailbox c.inlen).handle then .acquire .hw else .clear .hw
      else .keep

/-- What `obj::destroy` does with the slot; `destroys` tells whether the device destroys its
object. -/
def destroyOp (destroys : Bool) : Op Slot :=
  if destroys then .release .hw else .clear .hw

/-- The command is sent exactly if it can be, and what the device answers decides. -/
theorem live_create (o : Obj) (device : Device) (c : Command) :
  (o.create device (some c.mailbox) c.inlen zeros c.outlen).2.1.live
    = if o.Sends c then (device c.mailbox c.inlen).handle else o.live
  := by
  by_cases hsends : o.Sends c
  · obtain ⟨hctx, hin, hout⟩ := hsends
    have hlen : ¬ (c.inlen < 16 ∨ c.outlen < 16) := by
      omega
    rw [if_pos ⟨hctx, hin, hout⟩]
    simp only [create, hctx, Bool.not_true, Bool.false_eq_true, if_false, if_neg hlen]
    split <;> simp [live]
  · rw [if_neg hsends]
    simp only [create]
    split
    · rfl
    · rename_i hctx
      rw [if_pos]
      by_contra hlen
      apply hsends
      refine ⟨by simpa using hctx, ?_, ?_⟩ <;> omega

/-- The object knows whether it owns something after the command. -/
theorem holding_send (o : Obj) (device : Device) (c : Option Command) (flow : Bool) :
  Slot.holding (o.send device c).live flow
    = (o.sendOp device c).after (Slot.holding o.live flow)
  := by
  cases c with
  | none => rfl
  | some c =>
      rw [send, live_create, sendOp]
      split
      · split
        · rename_i hhandle
          rw [hhandle]
          funext k
          cases k <;> rfl
        · rename_i hhandle
          rw [Bool.eq_false_iff.mpr hhandle]
          funext k
          cases k <;> rfl
      · rfl

theorem holding_destroy (o : Obj) (destroys flow : Bool) :
  Slot.holding o.destroy.2.live flow
    = (destroyOp destroys).after (Slot.holding o.live flow)
  := by
  rw [live_destroy, destroyOp]
  funext k
  cases destroys <;> cases k <;> rfl

end Obj

/-! ### Outcomes of a creation -/

/-- How a `create` can end: before a command is sent, with no handle, with a handle although the
device reports an error, or with an object. -/
inductive Outcome where
  | refused (ret : Status)
  | failed
  | unreported
  | created
deriving DecidableEq

namespace Outcome

/-- The status that is returned. -/
def status : Outcome → Status
  | refused ret => ret
  | failed => .errCreate
  | unreported => .errCreate
  | created => .ok

/-- Whether there is a handle afterwards, if there was one before as `live` tells. -/
def handle (live : Bool) : Outcome → Bool
  | refused _ => live
  | failed => false
  | unreported => true
  | created => true

/-- Whether the object is marked as created afterwards, if it was before as `initialized` tells. -/
def marks (initialized : Bool) : Outcome → Bool
  | created => true
  | _ => initialized

end Outcome

/-- How a function that sends the command ends. -/
def Obj.outcome (o : Obj) (device : Device) : Except Status Command → Outcome
  | .error ret => .refused ret
  | .ok c =>
      if !o.mCtx then
        .refused .errNoContext
      else if c.inlen < 16 ∨ c.outlen < 16 then
        .refused .errInvalidParam
      else if !(device c.mailbox c.inlen).handle then
        .failed
      else if devxGet (device c.mailbox c.inlen).out 0 StatusOut.status ≠ 0 then
        .unreported
      else
        .created

/-- The outcome tells the status, whether there is a handle, and whether the object is to be marked
as created. -/
theorem Obj.create_outcome (o : Obj) (device : Device) (c : Command) (out : Memory) :
  let r := o.create device (some c.mailbox) c.inlen out c.outlen
  let outcome := o.outcome device (.ok c)
  r.1 = outcome.status ∧ r.2.1.live = outcome.handle o.live
    ∧ ∀ initialized, outcome.marks initialized = if r.1 = .ok then true else initialized
  := by
  intro r outcome
  simp only [r, outcome, create, Obj.outcome]
  split
  · exact ⟨rfl, rfl, fun _ => rfl⟩
  · split
    · exact ⟨rfl, rfl, fun _ => rfl⟩
    · cases hhandle : (device c.mailbox c.inlen).handle with
      | false => simp [Outcome.status, Outcome.handle, Outcome.marks, live]
      | true =>
          simp only [Bool.not_true, Bool.false_eq_true, false_or, if_false]
          split <;> exact ⟨rfl, rfl, fun _ => rfl⟩

/-! ### Calls on an object -/

/-- A call on an object: one of its class, or one of `obj`.  The command of `obj::create` is none if
a pointer is null. -/
inductive ObjCall (α : Type) where
  | own (call : α)
  | create (device : Device) (c : Option Obj.Command)
  | destroy (destroys : Bool)

/-- A class derived from `obj`, by what the calls of the class do with the object and the slots. -/
def Obj.lifecycle {σ α : Type} (base : σ → Obj) (setBase : σ → Obj → σ) (flow : σ → Bool)
    (own : σ → α → σ) (ownOp : σ → α → Op Slot) (hbase : ∀ s o, base (setBase s o) = o)
    (hflow : ∀ s o, flow (setBase s o) = flow s)
    (hown : ∀ s a, Slot.holding (base (own s a)).live (flow (own s a))
      = (ownOp s a).after (Slot.holding (base s).live (flow s))) :
    Lifecycle Slot where
  State := σ
  Call := ObjCall α
  step s
    | .own a => own s a
    | .create device c => setBase s ((base s).send device c)
    | .destroy _ => setBase s (base s).destroy.2
  op s
    | .own a => ownOp s a
    | .create device c => (base s).sendOp device c
    | .destroy destroys => destroyOp destroys
  holds s := Slot.holding (base s).live (flow s)
  holds_step s c := by
    cases c with
    | own a => apply hown
    | create device c => simp only [hbase, hflow, holding_send]
    | destroy destroys => simp only [hbase, hflow, holding_destroy (base s) destroys]

/-- A class whose only call of its own is a `create` that sends a command. -/
def Obj.createLifecycle {σ α : Type} (base : σ → Obj) (setBase : σ → Obj → σ) (create : σ → α → σ)
    (device : α → Device) (command : σ → α → Option Command)
    (hbase : ∀ s o, base (setBase s o) = o)
    (hcreate : ∀ s a, base (create s a) = (base s).send (device a) (command s a)) :
    Lifecycle Slot :=
  lifecycle base setBase (fun _ => false) create
    (fun s a => (base s).sendOp (device a) (command s a))
    hbase (fun _ _ => rfl) fun s a => by rw [hcreate, holding_send]

end Dpcp
