import Dpcp.Adapter.Domains
import Dpcp.Machine.Naming
import Dpcp.Queue.SqContext
import Dpcp.Transport.Tir
import Dpcp.Transport.Tis

/-!
# The paths of packets

A packet that the device receives goes from a TIR to a receive queue and its completion queue, and
one that it sends from a send queue to a TIS and its transport domain, and to a completion queue.
The device follows the numbers in the contexts of these objects.  The caller reads the numbers off
the objects it has, with `get_id`, and writes them to the attributes of the objects it makes.

On the way a number is read from an out mailbox, cut off or masked, and written to another mailbox.
Objects can be destroyed while others use them, and the device can give their numbers again.  What
is shown is that the device follows from an object just the paths that the caller meant, as long as
all objects on them live, and only then.
-/

namespace Dpcp

open Bits Dcmd Prm Machine Naming Relation

/-- The classes of the objects on the paths. -/
inductive PathClass where
  | td
  | cq
  | rq
  | sq
  | tis
  | tir
deriving DecidableEq

/-- An object as the device knows it: the device numbers the objects of each class. -/
abbrev PathKey : Type := PathClass × BitVec 32

/-- What the context in a mailbox names, as the device reads it. -/
def PathKey.names : PathKey → Memory → List PathKey
  | (.td, _), _ => []
  | (.cq, _), _ => []
  | (.rq, _), m => [(.cq, devxGet m CreateRqIn.ctx Rqc.cqn)]
  | (.sq, _), m =>
      [(.cq, devxGet m CreateSqIn.ctx Sqc.cqn), (.tis, devxGet m CreateSqIn.ctx Sqc.tisNum0)]
  | (.tis, _), m => [(.td, devxGet m CreateTisIn.ctx Tisc.transportDomain)]
  | (.tir, _), m =>
      [(.rq, devxGet m CreateTirIn.tirContext Tirc.inlineRqn),
        (.td, devxGet m CreateTirIn.tirContext Tirc.transportDomain)]

/-- A call that makes an object.  An object that is used is given by the order in which the objects
were made; its number goes to the attributes, and in a TIR or a TIS also the flag for it. -/
inductive PathMake where
  | td (env : DomainEnv)
  | cq (ad : Adapter) (attrs : CqAttr) (env : QueueEnv)
  | rq (ad : Adapter) (kind : RqKind) (attr : RqAttr) (env : QueueEnv) (cq : Nat)
  | ibqRq (ad : Adapter) (attr : RqAttr) (protocol mkey : BitVec 32) (device : Device) (cq : Nat)
  | sq (ad : Adapter) (attr : SqAttr) (env : QueueEnv) (pacing : PpEnv) (cq tis : Nat)
  | tis (ctx : Bool) (attr : TisAttr) (device : Device) (answers : Answers) (td : Nat)
  | tir (ctx : Bool) (attr : TirAttr) (device : Device) (answers : Answers) (rq td : Nat)

/-- A call on the objects; `destroys` tells whether the device destroys its object when it is asked
to. -/
inductive PathCall where
  | make (c : PathMake)
  | destroy (b : Nat) (destroys : Bool)

/-- An object that was made: its class, its base, the mailbox that the device made it from, and what
it was made to use. -/
structure PathObj where
  cls : PathClass
  base : Obj
  mailbox : Memory
  uses : List Nat

/-- The key under which the device has the object. -/
def PathObj.key (o : PathObj) : PathKey :=
  (o.cls, o.base.mId)

/-- The objects of the caller, in the order in which they were made, and those of the device. -/
structure Paths where
  objs : List (PathClass × Obj)
  registry : Registry PathKey Memory

/-- The queue of a creation that succeeded. -/
def Creation.okQueue (r : Creation) : Option Queue :=
  if r.status = .ok then r.queue else none

/-- The attributes with a transport domain, and the flag for it. -/
def TisAttr.inDomain (attr : TisAttr) (tdn : BitVec 32) : TisAttr :=
  { attr with
    flags := attr.flags ||| BitVec.twoPow 32 tisAttrTransportDomain
    transportDomain := tdn.setWidth 24 }

/-- The attributes with a transport domain, and the flag for it. -/
def TirAttr.inDomain (attr : TirAttr) (tdn : BitVec 32) : TirAttr :=
  { attr with
    flags := attr.flags ||| BitVec.twoPow 32 tirAttrTransportDomain
    transportDomain := tdn.setWidth 24 }

/-- The attributes with a receive queue, and the flag for it. -/
def TirAttr.toRq (attr : TirAttr) (rqn : BitVec 32) : TirAttr :=
  { attr with
    flags := attr.flags ||| BitVec.twoPow 32 tirAttrInlineRqn
    inlineRqn := rqn.setWidth 24 }

/-- `td::create` on a new object. -/
def Td.create (device : Device) : Option PathObj :=
  let m := devxSet zeros 0 AllocTransportDomainIn.opcode mlx5CmdOpAllocTransportDomain
  match (Obj.new true).create device (some m) AllocTransportDomainIn.bytes zeros
      AllocTransportDomainOut.bytes with
  | (.ok, o, _) => some ⟨.td, o, m, []⟩
  | _ => none

namespace Paths

def new : Paths :=
  ⟨[], .new⟩

/-- `get_id` on an object of a class. -/
def number (s : Paths) (cls : PathClass) (b : Nat) : Option (BitVec 32) :=
  match s.objs[b]? with
  | some (cls', o) =>
      if cls' = cls ∧ (o.getId 0).1 = .ok then some (o.getId 0).2 else none
  | none => none

/-- What a call makes; there is nothing if the creation fails. -/
def made (s : Paths) : PathMake → Option PathObj
  | .td env => Td.create env.device
  | .cq ad attrs env => do
      let r ← ad.createCq attrs env 0
      let q ← r.okQueue
      let uar ← q.mUar
      let m ← Cq.createMailbox attrs q uar
      some ⟨.cq, q.base, m, []⟩
  | .rq ad kind attr env cq => do
      let cqn ← s.number .cq cq
      let attr := { attr with cqn := cqn }
      let r ← ad.createBasicRq kind attr env 0
      let q ← r.okQueue
      let m ← BasicRq.mailbox kind attr ad.mPdId q
      some ⟨.rq, q.base, m, [cq]⟩
  | .ibqRq ad attr protocol mkey device cq => do
      let cqn ← s.number .cq cq
      let attr := { attr with cqn := cqn }
      let r ← IbqRq.init attr protocol mkey ad.mPdId Queue.rst device (.new ad.mDcmdCtx)
      let log ← ilog2 (castInt (attr.bufStrideNum.setWidth 64))
      if r.1 = .ok then
        some ⟨.rq, r.2, IbqRq.mailbox attr protocol mkey ad.mPdId Queue.rst log, [cq]⟩
      else
        none
  | .sq ad attr env pacing cq tis => do
      let cqn ← s.number .cq cq
      let tisNum ← s.number .tis tis
      let attr := { attr with cqn := cqn, tisNum := tisNum }
      let r ← ad.createPpSq attr env pacing 0
      let q ← r.okQueue
      let uar ← q.mUar
      let ppIdx ← PpSq.pacingIndex attr pacing
      let m ← PpSq.sentMailbox attr ad.mPdId ppIdx q uar
      some ⟨.sq, q.base, m, [cq, tis]⟩
  | .tis ctx attr device answers td => do
      let tdn ← s.number .td td
      let attr := attr.inDomain tdn
      let r ← Tis.create (Tis.new ctx) attr device answers
      if r.1 = .ok then some ⟨.tis, r.2.base, Tis.createMailbox attr, [td]⟩ else none
  | .tir ctx attr device answers rq td => do
      let rqn ← s.number .rq rq
      let tdn ← s.number .td td
      let attr := (attr.toRq rqn).inDomain tdn
      let r ← Tir.create (Tir.new ctx) attr device answers
      if r.1 = .ok then some ⟨.tir, r.2.base, Tir.createMailbox attr, [rq, td]⟩ else none

/-- An object is made. -/
def add (s : Paths) (o : PathObj) : Paths :=
  ⟨s.objs ++ [(o.cls, o.base)], s.registry.make o.key o.mailbox o.uses⟩

/-- `obj::destroy`, which asks the device only as long as there is a handle. -/
def destroy (s : Paths) (b : Nat) (destroys : Bool) : Paths :=
  match s.objs[b]? with
  | none => s
  | some (cls, o) =>
      { objs := s.objs.set b (cls, o.destroy.2)
        registry := if o.live && destroys then s.registry.kill b else s.registry }

/-- One call. -/
def step (s : Paths) : PathCall → Paths
  | .make c => (s.made c).elim s s.add
  | .destroy b destroys => s.destroy b destroys

/-- The device gives the new object a number that no living object of the class has. -/
def Numbered (s : Paths) : PathCall → Prop
  | .make c => ∀ o ∈ (s.made c).toList, s.registry.Fresh o.key
  | .destroy _ _ => True

instance (s : Paths) : (c : PathCall) → Decidable (s.Numbered c)
  | .make c => inferInstanceAs (Decidable (∀ o ∈ (s.made c).toList, s.registry.Fresh o.key))
  | .destroy _ _ => isTrue trivial

end Paths

/-! ### The numbers in the mailboxes -/

/-- A number of 24 bits is not cut off. -/
theorem and_lowMask_of_fits {x : BitVec 32} (h : x.toNat < 2 ^ 24) :
  x &&& lowMask 24 = x
  := (and_lowMask_eq_self_iff (by decide) x).mpr h

/-- What is read from a field of 24 bits, as a number. -/
theorem devxGet_of_setWidth {m : Memory} {p : Nat} {f : Field} (hf : f.size = 24) {x : BitVec 32}
    (hx : x.toNat < 2 ^ 24) (h : (devxGet m p f).setWidth 24 = x.setWidth 24) :
  devxGet m p f = x
  := by
  have hread := devxGet_lt m p f
  rw [hf] at hread
  have hsame := congrArg BitVec.toNat h
  rw [BitVec.toNat_setWidth, BitVec.toNat_setWidth, Nat.mod_eq_of_lt hread, Nat.mod_eq_of_lt hx]
    at hsame
  apply BitVec.eq_of_toNat_eq hsame

theorem BasicRq.devxGet_cqn {kind : RqKind} {attr : RqAttr} {pd : BitVec 32} {q : Queue}
    {m : Memory} (h : mailbox kind attr pd q = some m) :
  devxGet m CreateRqIn.ctx Rqc.cqn = attr.cqn &&& lowMask 24
  := by
  cases kind with
  | striding =>
      obtain ⟨logWqStride, -, h⟩ := Option.bind_eq_some_iff.mp h
      obtain ⟨logWqeNum, -, h⟩ := Option.bind_eq_some_iff.mp h
      obtain ⟨logNumOfStrides, -, h⟩ := Option.bind_eq_some_iff.mp h
      obtain ⟨logNumOfBytes, -, h⟩ := Option.bind_eq_some_iff.mp h
      cases h
      simp only [StridingRq.mailbox, umems, wqSizes, context]
      simp (disch := decide) only [devxGet_devxSet_of_apart, devxGet_devxSet64_of_apart,
        devxGet_devxSet_self]
      rfl
  | regular =>
      obtain ⟨logWqStride, -, h⟩ := Option.bind_eq_some_iff.mp h
      obtain ⟨logWqeNum, -, h⟩ := Option.bind_eq_some_iff.mp h
      cases h
      simp only [RegularRq.mailbox, umems, wqSizes, context]
      simp (disch := decide) only [devxGet_devxSet_of_apart, devxGet_devxSet64_of_apart,
        devxGet_devxSet_self]
      rfl

theorem IbqRq.devxGet_cqn (attr : RqAttr) (protocol mkey pd mState : BitVec 32) (log : Int) :
  devxGet (mailbox attr protocol mkey pd mState log) CreateRqIn.ctx Rqc.cqn
    = attr.cqn &&& lowMask 24
  := by
  simp only [mailbox]
  simp (disch := decide) only [devxGet_devxSet_of_apart, devxGet_devxSet_self]
  rfl

theorem PpSq.devxGet_sent {attr : SqAttr} {pd ppIdx : BitVec 32} {q : Queue} {uar : UarT}
    {m : Memory} (h : sentMailbox attr pd ppIdx q uar = some m) :
  devxGet m CreateSqIn.ctx Sqc.cqn = attr.cqn &&& lowMask 24
    ∧ devxGet m CreateSqIn.ctx Sqc.tisNum0 = attr.tisNum &&& lowMask 24
  := by
  obtain ⟨logWqStride, -, h⟩ := Option.bind_eq_some_iff.mp h
  obtain ⟨logWqeNum, -, h⟩ := Option.bind_eq_some_iff.mp h
  cases h
  obtain ⟨-, hcqn, htis, -⟩ := devxGet_mailbox attr pd ppIdx uar q logWqStride logWqeNum
  exact ⟨hcqn, htis⟩

theorem Tis.devxGet_transportDomain (attr : TisAttr) {tdn : BitVec 32} (h : tdn.toNat < 2 ^ 24) :
  devxGet (createMailbox (attr.inDomain tdn)) CreateTisIn.ctx Tisc.transportDomain = tdn
  := by
  have hflag : (attr.inDomain tdn).flags.getLsbD tisAttrTransportDomain = true := by
    simp [TisAttr.inDomain, tisAttrTransportDomain]
  apply devxGet_of_setWidth rfl h
  rw [createMailbox, devxGet_devxSetIf_of_apart _ _ rfl, devxGet_devxSetIf_of_apart _ _ rfl,
    devxGet_devxSetIf_of_apart _ _ rfl, hflag]
  apply setWidth_devxGet_devxSetIf _ _ Tisc.transportDomain _ [] [] rfl rfl

theorem Tir.devxGet_inlineRqn (attr : TirAttr) {rqn tdn : BitVec 32} (h : rqn.toNat < 2 ^ 24) :
  devxGet (createMailbox ((attr.toRq rqn).inDomain tdn)) CreateTirIn.tirContext Tirc.inlineRqn = rqn
  := by
  have hflag : ((attr.toRq rqn).inDomain tdn).flags.getLsbD tirAttrInlineRqn = true := by
    simp [TirAttr.inDomain, TirAttr.toRq, tirAttrInlineRqn, tirAttrTransportDomain]
  have hread := (readsBack_created _).inlineRqn hflag
  rw [view_createdContext] at hread
  apply devxGet_of_setWidth rfl h hread

theorem Tir.devxGet_transportDomain (attr : TirAttr) {tdn : BitVec 32} (h : tdn.toNat < 2 ^ 24) :
  devxGet (createMailbox (attr.inDomain tdn)) CreateTirIn.tirContext Tirc.transportDomain = tdn
  := by
  have hflag : (attr.inDomain tdn).flags.getLsbD tirAttrTransportDomain = true := by
    simp [TirAttr.inDomain, tirAttrTransportDomain]
  have hread := (readsBack_created _).transportDomain hflag
  rw [view_createdContext] at hread
  apply devxGet_of_setWidth rfl h hread

namespace Paths

/-! ### What the caller knows -/

/-- The caller has the objects with the numbers that the device gave them. -/
def Linked (s : Paths) : Prop :=
  s.registry.history.map Birth.key = s.objs.map fun o => (o.1, o.2.mId)

theorem keyOf_of_linked {s : Paths} (h : s.Linked) (b : Nat) :
  s.registry.keyOf b = (s.objs[b]?).map fun o => (o.1, o.2.mId)
  := by
  rw [Registry.keyOf, ← List.getElem?_map, h, List.getElem?_map]

/-- A number that the caller reads off an object is the one under which the device had it. -/
theorem number_eq_some {s : Paths} (h : s.Linked) {cls : PathClass} {b : Nat} {id : BitVec 32}
    (hid : s.number cls b = some id) :
  some (cls, id) = s.registry.keyOf b ∧ id.toNat < 2 ^ 24
  := by
  rw [keyOf_of_linked h]
  rw [number] at hid
  split at hid
  · rename_i cls' o hobj
    split at hid
    · rename_i hok
      obtain ⟨rfl, hok⟩ := hok
      cases hid
      have hgetId : (o.getId 0).2 = o.mId := by
        rw [Obj.getId] at hok ⊢
        split
        · rfl
        · rename_i hnone
          rw [if_neg hnone] at hok
          cases hok
      rw [hgetId, hobj]
      exact ⟨rfl, o.idFits⟩
    · cases hid
  · cases hid

/-- What an object names in its context is what it was made to use. -/
theorem made_names {s : Paths} (h : s.Linked) {c : PathMake} {o : PathObj}
    (ho : s.made c = some o) :
  (PathKey.names o.key o.mailbox).map some = o.uses.map s.registry.keyOf
  := by
  cases c with
  | td env =>
      simp only [made, Td.create] at ho
      split at ho
      · cases ho
        rfl
      · cases ho
  | cq ad attrs env =>
      obtain ⟨r, -, ho⟩ := Option.bind_eq_some_iff.mp ho
      obtain ⟨q, -, ho⟩ := Option.bind_eq_some_iff.mp ho
      obtain ⟨uar, -, ho⟩ := Option.bind_eq_some_iff.mp ho
      obtain ⟨m, -, ho⟩ := Option.bind_eq_some_iff.mp ho
      cases ho
      rfl
  | rq ad kind attr env cq =>
      obtain ⟨cqn, hcqn, ho⟩ := Option.bind_eq_some_iff.mp ho
      obtain ⟨r, -, ho⟩ := Option.bind_eq_some_iff.mp ho
      obtain ⟨q, -, ho⟩ := Option.bind_eq_some_iff.mp ho
      obtain ⟨m, hm, ho⟩ := Option.bind_eq_some_iff.mp ho
      cases ho
      obtain ⟨hkey, hfits⟩ := number_eq_some h hcqn
      simp only [PathObj.key, PathKey.names, List.map_cons, List.map_nil, ← hkey,
        BasicRq.devxGet_cqn hm, and_lowMask_of_fits hfits]
  | ibqRq ad attr protocol mkey device cq =>
      obtain ⟨cqn, hcqn, ho⟩ := Option.bind_eq_some_iff.mp ho
      obtain ⟨r, -, ho⟩ := Option.bind_eq_some_iff.mp ho
      obtain ⟨log, -, ho⟩ := Option.bind_eq_some_iff.mp ho
      split at ho
      · cases ho
        obtain ⟨hkey, hfits⟩ := number_eq_some h hcqn
        simp only [PathObj.key, PathKey.names, List.map_cons, List.map_nil, ← hkey,
          IbqRq.devxGet_cqn, and_lowMask_of_fits hfits]
      · cases ho
  | sq ad attr env pacing cq tis =>
      obtain ⟨cqn, hcqn, ho⟩ := Option.bind_eq_some_iff.mp ho
      obtain ⟨tisNum, htis, ho⟩ := Option.bind_eq_some_iff.mp ho
      obtain ⟨r, -, ho⟩ := Option.bind_eq_some_iff.mp ho
      obtain ⟨q, -, ho⟩ := Option.bind_eq_some_iff.mp ho
      obtain ⟨uar, -, ho⟩ := Option.bind_eq_some_iff.mp ho
      obtain ⟨ppIdx, -, ho⟩ := Option.bind_eq_some_iff.mp ho
      obtain ⟨m, hm, ho⟩ := Option.bind_eq_some_iff.mp ho
      cases ho
      obtain ⟨hcqKey, hcqFits⟩ := number_eq_some h hcqn
      obtain ⟨htisKey, htisFits⟩ := number_eq_some h htis
      obtain ⟨hreadCqn, hreadTis⟩ := PpSq.devxGet_sent hm
      simp only [PathObj.key, PathKey.names, List.map_cons, List.map_nil, ← hcqKey, ← htisKey,
        hreadCqn, hreadTis, and_lowMask_of_fits hcqFits, and_lowMask_of_fits htisFits]
  | tis ctx attr device answers td =>
      obtain ⟨tdn, htd, ho⟩ := Option.bind_eq_some_iff.mp ho
      obtain ⟨r, -, ho⟩ := Option.bind_eq_some_iff.mp ho
      split at ho
      · cases ho
        obtain ⟨hkey, hfits⟩ := number_eq_some h htd
        simp only [PathObj.key, PathKey.names, List.map_cons, List.map_nil, ← hkey,
          Tis.devxGet_transportDomain _ hfits]
      · cases ho
  | tir ctx attr device answers rq td =>
      obtain ⟨rqn, hrq, ho⟩ := Option.bind_eq_some_iff.mp ho
      obtain ⟨tdn, htd, ho⟩ := Option.bind_eq_some_iff.mp ho
      obtain ⟨r, -, ho⟩ := Option.bind_eq_some_iff.mp ho
      split at ho
      · cases ho
        obtain ⟨hrqKey, hrqFits⟩ := number_eq_some h hrq
        obtain ⟨htdKey, htdFits⟩ := number_eq_some h htd
        simp only [PathObj.key, PathKey.names, List.map_cons, List.map_nil, ← hrqKey, ← htdKey,
          Tir.devxGet_inlineRqn _ hrqFits, Tir.devxGet_transportDomain _ htdFits]
      · cases ho

/-! ### What the device is sent -/

end Paths

/-- The object has the number that the device gave to what it made from the mailbox. -/
def Obj.MadeFrom (o : Obj) (device : Device) (m : Memory) (inlen : Nat) : Prop :=
  (device m inlen).handle = true ∧ o.mId = devxGet (device m inlen).out 0 StatusOut.id

theorem Obj.madeFrom_of_create {o o' : Obj} {device : Device} {m out out' : Memory}
    {inlen outlen : Nat} (h : o.create device (some m) inlen out outlen = (.ok, o', out')) :
  o'.MadeFrom device m inlen
  := by
  obtain ⟨-, hhandle, -, hid⟩ := create_eq_ok h
  exact ⟨hhandle, hid⟩

theorem Prep.madeFrom_of_createObj {env : QueueEnv} {m : Memory} {inlen outlen : Nat}
    {s s' : Prep} (h : s.createObj env m inlen outlen = (.ok, s')) :
  s'.queue.base.MadeFrom env.device m inlen
  := by
  simp only [createObj] at h
  split at h
  · rename_i hret
    obtain ⟨-, rfl⟩ := Prod.mk.inj h
    apply Obj.madeFrom_of_create (Prod.ext hret rfl)
  · rename_i hret
    cases hret (congrArg Prod.fst h)

theorem Cached.madeFrom_of_create {A : Type} {k : CachedKind A} {c c' : Cached A} {attr : A}
    {device : Device} {answers : Answers}
    (h : c.create k attr device answers = some (.ok, c')) :
  c'.base.MadeFrom device (k.createMailbox attr) k.createIn
  := by
  simp only [create] at h
  split at h
  · cases h
  · split at h
    · rename_i hret
      have hmade := Obj.madeFrom_of_create (Prod.ext hret rfl)
      split at h
      · obtain ⟨⟨ret, c'', attr'⟩, hquery, h⟩ := Option.bind_eq_some_iff.mp h
        cases h
        rcases query_cases hquery with ⟨-, hret, -⟩ | ⟨-, -, -, rfl, -⟩ | ⟨-, -, halike, -⟩
        · cases hret
        · apply hmade
        · exact ⟨hmade.1, halike.id.trans hmade.2⟩
      · rename_i hfail _
        cases hfail (congrArg Prod.fst (Option.some.inj h))
    · rename_i hret
      cases hret (congrArg Prod.fst (Option.some.inj h))

theorem IbqRq.madeFrom_of_init {attr : RqAttr} {protocol mkey pd mState : BitVec 32}
    {device : Device} {o o' : Obj} {log : Int}
    (hlog : ilog2 (castInt (attr.bufStrideNum.setWidth 64)) = some log)
    (h : init attr protocol mkey pd mState device o = some (.ok, o')) :
  o'.MadeFrom device (mailbox attr protocol mkey pd mState log) CreateRqIn.bytes
  := by
  rw [init, hlog] at h
  simp only [Option.bind_eq_bind, Option.bind_some] at h
  split at h
  · cases h
  · split at h
    · rename_i hret
      obtain ⟨-, rfl⟩ := Prod.mk.inj (Option.some.inj h)
      apply Obj.madeFrom_of_create (Prod.ext hret rfl)
    · rename_i hret
      cases hret (congrArg Prod.fst (Option.some.inj h))

/-- The device to which a call turns. -/
def PathMake.device : PathMake → Device
  | td env => env.device
  | cq _ _ env => env.device
  | rq _ _ _ env _ => env.device
  | ibqRq _ _ _ _ device _ => device
  | sq _ _ env _ _ _ => env.device
  | tis _ _ device _ _ => device
  | tir _ _ device _ _ _ => device

/-- The length of the mailbox that a call sends. -/
def PathMake.inlen : PathMake → Nat
  | td _ => AllocTransportDomainIn.bytes
  | cq _ _ _ => CreateCqIn.bytes
  | rq _ _ _ _ _ => CreateRqIn.bytes
  | ibqRq _ _ _ _ _ _ => CreateRqIn.bytes
  | sq _ _ _ _ _ _ => CreateSqIn.bytes
  | tis _ _ _ _ _ => CreateTisIn.bytes
  | tir _ _ _ _ _ _ => CreateTirIn.bytes

/-- The call has sent the mailbox, and the device has made an object from it under the number of the
key. -/
def PathMake.MadeAs (c : PathMake) (k : PathKey) (m : Memory) : Prop :=
  (c.device m c.inlen).handle = true ∧ k.2 = devxGet (c.device m c.inlen).out 0 StatusOut.id

theorem Creation.okQueue_eq_some {r : Creation} {q : Queue} (h : r.okQueue = some q) :
  r.status = .ok ∧ r.queue = some q
  := by
  rw [okQueue] at h
  split at h
  · rename_i hok
    exact ⟨hok, h⟩
  · cases h

namespace Paths

/-- The mailbox of an object is the one from which the device has made it, under its number. -/
theorem made_sent {s : Paths} {c : PathMake} {o : PathObj} (ho : s.made c = some o) :
  c.MadeAs o.key o.mailbox
  := by
  cases c with
  | td env =>
      simp only [made, Td.create] at ho
      split at ho
      · rename_i base out hcreate
        cases ho
        apply Obj.madeFrom_of_create hcreate
      · cases ho
  | cq ad attrs env =>
      obtain ⟨r, hr, ho⟩ := Option.bind_eq_some_iff.mp ho
      obtain ⟨q, hq, ho⟩ := Option.bind_eq_some_iff.mp ho
      obtain ⟨uar, huar, ho⟩ := Option.bind_eq_some_iff.mp ho
      obtain ⟨m, hm, ho⟩ := Option.bind_eq_some_iff.mp ho
      cases ho
      obtain ⟨hok, hqueue⟩ := Creation.okQueue_eq_some hq
      obtain ⟨-, p, p', -, hqueue', -, huarP, hcreate⟩ := Adapter.createCq_eq_ok hr hok
      obtain ⟨m', hm', hobj⟩ := Cq.create_eq_ok hcreate
      cases hqueue.symm.trans hqueue'
      have hsame := Prep.createObj_queue hobj
      rw [hsame, huarP] at huar
      cases huar
      rw [hsame] at hm
      cases hm.symm.trans hm'
      apply Prep.madeFrom_of_createObj hobj
  | rq ad kind attr env cq =>
      obtain ⟨cqn, -, ho⟩ := Option.bind_eq_some_iff.mp ho
      obtain ⟨r, hr, ho⟩ := Option.bind_eq_some_iff.mp ho
      obtain ⟨q, hq, ho⟩ := Option.bind_eq_some_iff.mp ho
      obtain ⟨m, hm, ho⟩ := Option.bind_eq_some_iff.mp ho
      cases ho
      obtain ⟨hok, hqueue⟩ := Creation.okQueue_eq_some hq
      obtain ⟨-, p, p', -, hqueue', -, hcreate⟩ := Adapter.createBasicRq_eq_ok hr hok
      obtain ⟨m', hm', hobj⟩ := BasicRq.create_eq_ok hcreate
      cases hqueue.symm.trans hqueue'
      rw [Prep.createObj_queue hobj, BasicRq.mailbox_base] at hm
      cases hm.symm.trans hm'
      apply Prep.madeFrom_of_createObj hobj
  | ibqRq ad attr protocol mkey device cq =>
      obtain ⟨cqn, -, ho⟩ := Option.bind_eq_some_iff.mp ho
      obtain ⟨⟨ret, base⟩, hr, ho⟩ := Option.bind_eq_some_iff.mp ho
      obtain ⟨log, hlog, ho⟩ := Option.bind_eq_some_iff.mp ho
      split at ho
      · rename_i hok
        cases hok
        cases ho
        apply IbqRq.madeFrom_of_init hlog hr
      · cases ho
  | sq ad attr env pacing cq tis =>
      obtain ⟨cqn, -, ho⟩ := Option.bind_eq_some_iff.mp ho
      obtain ⟨tisNum, -, ho⟩ := Option.bind_eq_some_iff.mp ho
      obtain ⟨r, hr, ho⟩ := Option.bind_eq_some_iff.mp ho
      obtain ⟨q, hq, ho⟩ := Option.bind_eq_some_iff.mp ho
      obtain ⟨uar, huar, ho⟩ := Option.bind_eq_some_iff.mp ho
      obtain ⟨ppIdx, hindex, ho⟩ := Option.bind_eq_some_iff.mp ho
      obtain ⟨m, hm, ho⟩ := Option.bind_eq_some_iff.mp ho
      cases ho
      obtain ⟨hok, hqueue⟩ := Creation.okQueue_eq_some hq
      obtain ⟨-, p, p', hqueue', hregistered, hindex', hcreate⟩ :=
        Adapter.createPpSq_eq_ok hr hok
      obtain ⟨hsame, m', hm', hobj⟩ := PpSq.sent_of_create hcreate
      cases hqueue.symm.trans hqueue'
      cases hindex.symm.trans hindex'
      have huar' : p'.queue.mUar = some p.uarP := by
        rw [hsame]
        apply hregistered.uar
      cases huar.symm.trans huar'
      cases hm.symm.trans hm'
      apply Prep.madeFrom_of_createObj hobj
  | tis ctx attr device answers td =>
      obtain ⟨tdn, -, ho⟩ := Option.bind_eq_some_iff.mp ho
      obtain ⟨⟨ret, t⟩, hr, ho⟩ := Option.bind_eq_some_iff.mp ho
      split at ho
      · rename_i hok
        cases hok
        cases ho
        apply Cached.madeFrom_of_create hr
      · cases ho
  | tir ctx attr device answers rq td =>
      obtain ⟨rqn, -, ho⟩ := Option.bind_eq_some_iff.mp ho
      obtain ⟨tdn, -, ho⟩ := Option.bind_eq_some_iff.mp ho
      obtain ⟨⟨ret, t⟩, hr, ho⟩ := Option.bind_eq_some_iff.mp ho
      split at ho
      · rename_i hok
        cases hok
        cases ho
        apply Cached.madeFrom_of_create hr
      · cases ho

/-! ### Runs -/

/-- What every call keeps: the caller knows the numbers, and every object that lives has the context
that one of the calls has sent. -/
structure Inv (calls : List PathCall) (s : Paths) : Prop where
  linked : s.Linked
  sound : s.registry.Sound PathKey.names
  sent : ∀ e ∈ s.registry.living, ∃ c, .make c ∈ calls ∧ c.MadeAs e.key e.context

theorem inv_new (calls : List PathCall) :
  new.Inv calls
  := ⟨rfl, Registry.sound_new, nofun⟩

theorem Inv.add {calls : List PathCall} {s : Paths} (h : s.Inv calls) {c : PathMake} {o : PathObj}
    (hc : .make c ∈ calls) (ho : s.made c = some o) (hfresh : s.registry.Fresh o.key) :
  (s.add o).Inv calls
  := by
  constructor
  · have hlinked := h.linked
    rw [Linked] at hlinked ⊢
    rw [Paths.add, Registry.make, List.map_append, List.map_append, hlinked]
    rfl
  · apply h.sound.make hfresh (made_names h.linked ho)
  · intro e he
    rcases List.mem_append.mp he with he | he
    · apply h.sent e he
    · rw [List.mem_singleton.mp he]
      exact ⟨c, hc, made_sent ho⟩

/-- A destroyed object keeps its number. -/
theorem mId_destroy (o : Obj) :
  o.destroy.2.mId = o.mId
  := by
  rw [Obj.destroy]
  split <;> rfl

theorem Inv.destroy {calls : List PathCall} {s : Paths} (h : s.Inv calls) (b : Nat)
    (destroys : Bool) :
  (s.destroy b destroys).Inv calls
  := by
  rw [Paths.destroy]
  split
  · apply h
  · rename_i cls o hobj
    constructor
    · have hhistory : (if (o.live && destroys) = true then s.registry.kill b
          else s.registry).history = s.registry.history := by
        split <;> rfl
      have hkey : (s.objs.map fun o => (o.1, o.2.mId))[b]? = some (cls, o.mId) := by
        rw [List.getElem?_map, hobj]
        rfl
      obtain ⟨hlt, hkey⟩ := List.getElem?_eq_some_iff.mp hkey
      rw [Linked, hhistory, h.linked, List.map_set, mId_destroy, ← hkey, List.set_getElem_self]
    · split
      · apply h.sound.kill
      · apply h.sound
    · intro e he
      apply h.sent e
      split at he
      · apply (Keyed.mem_remove.mp he).1
      · apply he

theorem inv_step {calls : List PathCall} (s : Paths) (c : PathCall)
    (hc : s.Numbered c ∧ c ∈ calls) (h : s.Inv calls) :
  (s.step c).Inv calls
  := by
  cases c with
  | make c =>
      obtain ⟨hnumbered, hc⟩ := hc
      simp only [step, Numbered] at hnumbered ⊢
      cases hmade : s.made c with
      | none => apply h
      | some o =>
          rw [hmade] at hnumbered
          apply h.add hc hmade (hnumbered o List.mem_cons_self)
  | destroy b destroys => apply h.destroy

/-- After any calls, every object that lives has a context from which the device has made it, under
its number; and from an object that lives the device follows just the paths that the caller meant
exactly if every object on those lives. -/
theorem paths_followed_iff {calls : List PathCall} (h : Along step Numbered new calls) {a : Nat}
    (ha : (run step new calls).registry.Lives a) :
  (∀ e ∈ (run step new calls).registry.living,
      ∃ c, .make c ∈ calls ∧ c.MadeAs e.key e.context)
    ∧ ((∀ b, ReflTransGen ((run step new calls).registry.Names PathKey.names) a b
        ↔ ReflTransGen (run step new calls).registry.Uses a b)
      ↔ ∀ b, ReflTransGen (run step new calls).registry.Uses a b
        → (run step new calls).registry.Lives b)
  := by
  have hcalls : Along step (fun _ c => c ∈ calls) new calls := along_of_forall (fun _ hc => hc) new
  have hinv : (run step new calls).Inv calls :=
    inv_run_of_along inv_step (h.and hcalls) (inv_new calls)
  exact ⟨hinv.sent, hinv.sound.paths_iff ha⟩

/-- A device that makes everything, and gives it the number `n`. -/
def numbers (n : BitVec 32) : Device :=
  fun _ _ => ⟨true, devxSet zeros 0 StatusOut.id n⟩

/-- A transport domain, a completion queue, a receive queue for it and a TIR for that; then the
completion queue is destroyed, and another one gets its number. -/
def replaced : List PathCall :=
  [.make (.td ⟨true, 0, true, true, true, numbers 3, true⟩),
    .make (.cq .fresh (.ofSize 16) { QueueEnv.generous with device := numbers 5 }),
    .make (.rq .fresh .regular .small { QueueEnv.generous with device := numbers 5 } 1),
    .make (.tir true Tir.kind.blank (numbers 9) (fun _ _ => ⟨false, zeros⟩) 2 0),
    .destroy 1 true,
    .make (.cq .fresh (.ofSize 32) { QueueEnv.generous with device := numbers 5 })]

/-- What the TIR receives completes in the queue that was made last. -/
theorem paths_followed_replaced :
  (run step new replaced).registry.Names PathKey.names 2 4
    ∧ ¬ ∀ b, ReflTransGen ((run step new replaced).registry.Names PathKey.names) 3 b
      ↔ ReflTransGen (run step new replaced).registry.Uses 3 b
  := by
  have hlives : (run step new replaced).registry.Lives 3 := by
    decide +kernel
  have hrq : (run step new replaced).registry.Uses 3 2 := by
    decide +kernel
  have hcq : (run step new replaced).registry.Uses 2 1 := by
    decide +kernel
  have hgone : ¬ (run step new replaced).registry.Lives 1 := by
    decide +kernel
  refine ⟨by decide +kernel, ?_⟩
  rw [(paths_followed_iff (by decide +kernel) hlives).2]
  intro hall
  apply hgone
  apply hall 1 ((ReflTransGen.single hrq).tail hcq)

end Paths

end Dpcp
