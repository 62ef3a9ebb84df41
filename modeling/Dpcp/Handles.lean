import Dpcp.Flow.TableQuery
import Dpcp.GeneralObject
import Dpcp.Parser.Query
import Dpcp.Queue.PacingSwap
import Dpcp.Queue.State
import Dpcp.Transport.Tir
import Dpcp.Transport.Tis

/-!
# The handle behind a query

`obj::modify` and `obj::query` call the `dcmd::obj` of their object and do not look whether there is
one.  There is none before `obj::create`, and after one for which the device made nothing;
`obj::destroy` leaves it.  The classes derived from `obj` look before they call them:

* `tir`, `tis`, `dek` and `tag_buffer_table_obj` by `get_handle`, and the queues by `obj::get_id`,
  which both fail without a `dcmd::obj`;
* `flow_table_prm` by its mark that it was created, which a later `obj::create` that fails does not
  take away;
* `parser_graph_node` by `get_id`, which the class overrides by one that never fails.

`Guarded` says of a call that it comes to `obj::modify` and `obj::query` only with a `dcmd::obj`,
and returns an error without one.
-/

namespace Dpcp

open Bits Dcmd Prm Machine

/-! ### Calls that reach the device -/

/-- A call of `obj::modify` or `obj::query`: the object as it is then, and the lengths of the
mailboxes. -/
structure Reach where
  obj : Obj
  inlen : Nat
  outlen : Nat

/-- The call uses a `dcmd::obj` that is not there. -/
def Reach.Faults (r : Reach) : Prop :=
  r.obj.mCtx = true ∧ ¬ (r.inlen < 16 ∨ r.outlen < 16) ∧ r.obj.mObjHandle = false

theorem Obj.command_eq_none_iff (o : Obj) (failure : Status) (answers : Answers) (m : Memory)
    (inlen : Nat) (out : Memory) (outlen : Nat) :
  o.command failure answers m inlen out outlen = none ↔ Reach.Faults ⟨o, inlen, outlen⟩
  := by
  simp only [Obj.command, Reach.Faults]
  cases o.mCtx with
  | false => simp
  | true =>
      by_cases hlen : inlen < 16 ∨ outlen < 16
      · simp [hlen]
      · cases o.mObjHandle with
        | false => simp [hlen]
        | true =>
            simp only [hlen, Bool.not_true, Bool.false_eq_true, if_false]
            split <;> simp

theorem isSome_bind_of_forall {α β : Type} {x : Option α} {f : α → Option β}
    (hf : ∀ a, (f a).isSome = true) :
  (x.bind f).isSome = x.isSome
  := by
  cases x with
  | none => rfl
  | some a => apply hf

/-- What is reached behind a look at the handle. -/
def Obj.behindHandle (o : Obj) (inlen outlen : Nat) : List Reach :=
  if o.getHandle ≠ .ok then [] else [⟨o, inlen, outlen⟩]

theorem Obj.handle_of_behindHandle {o : Obj} {inlen outlen : Nat} :
  ∀ r ∈ o.behindHandle inlen outlen, r.obj.mObjHandle = true
  := by
  intro r hr
  rw [behindHandle, getHandle] at hr
  cases hhandle : o.mObjHandle with
  | false => simp [hhandle] at hr
  | true =>
      simp only [hhandle, if_true, ne_eq, not_true_eq_false, if_false, List.mem_singleton] at hr
      rw [hr, hhandle]

/-- Where every object that is reached has a `dcmd::obj`, there is a result. -/
theorem null_iff_of_handles {α : Type} {x : Option α} {l : List Reach} (hx : x.isSome = true)
    (hl : ∀ r ∈ l, r.obj.mObjHandle = true) :
  x = none ↔ ∃ r ∈ l, r.Faults
  := by
  constructor
  · rintro rfl
    cases hx
  · rintro ⟨r, hr, -, -, hhandle⟩
    rw [hl r hr] at hhandle
    cases hhandle

/-! ### Classes -/

/-- A class derived from `obj`: its members, and its calls with their results.  `asks` tells the
calls that are to query or modify the object of the device, and `reached` are the calls of
`obj::modify` and `obj::query` that a call comes to.  A call that is to query or modify has no
result exactly if one of these faults. -/
structure ObjClass where
  State : Type
  base : State → Obj
  setBase : State → Obj → State
  Call : Type
  asks : Call → Bool
  exec : State → Call → Option (Status × State)
  reached : State → Call → List Reach
  null_iff : ∀ s c, asks c = true → (exec s c = none ↔ ∃ r ∈ reached s c, r.Faults)

/-- The calls that every class has from `obj`. -/
inductive BaseCall where
  | create (device : Device) (mailbox : Option Memory) (inlen : Nat) (out : Memory) (outlen : Nat)
  | modify (answers : Answers) (m : Memory) (inlen : Nat) (out : Memory) (outlen : Nat)
  | query (answers : Answers) (m : Memory) (inlen : Nat) (out : Memory) (outlen : Nat)
  | destroy

namespace BaseCall

def asks : BaseCall → Bool
  | modify .. => true
  | query .. => true
  | _ => false

def exec (o : Obj) : BaseCall → Option (Status × Obj)
  | create device mailbox inlen out outlen =>
      let (ret, o, _) := o.create device mailbox inlen out outlen
      some (ret, o)
  | modify answers m inlen out outlen =>
      (o.modify answers m inlen out outlen).map fun (ret, o, _) => (ret, o)
  | query answers m inlen out outlen =>
      (o.query answers m inlen out outlen).map fun (ret, o, _) => (ret, o)
  | destroy => some o.destroy

def reached (o : Obj) : BaseCall → List Reach
  | modify _ _ inlen _ outlen => [⟨o, inlen, outlen⟩]
  | query _ _ inlen _ outlen => [⟨o, inlen, outlen⟩]
  | _ => []

theorem null_iff (o : Obj) (c : BaseCall) (h : c.asks = true) :
  c.exec o = none ↔ ∃ r ∈ c.reached o, r.Faults
  := by
  cases c with
  | modify => simp [exec, reached, Obj.modify, Obj.command_eq_none_iff]
  | query => simp [exec, reached, Obj.query, Obj.command_eq_none_iff]
  | _ => cases h

end BaseCall

namespace ObjClass

/-- The class with the calls that it has from `obj`. -/
def withBase (k : ObjClass) : ObjClass where
  State := k.State
  base := k.base
  setBase := k.setBase
  Call := k.Call ⊕ BaseCall
  asks := Sum.elim k.asks BaseCall.asks
  exec s := Sum.elim (k.exec s) fun c =>
    (c.exec (k.base s)).map fun (ret, o) => (ret, k.setBase s o)
  reached s := Sum.elim (k.reached s) fun c => c.reached (k.base s)
  null_iff := by
    rintro s (c | c) h
    · apply k.null_iff s c h
    · simp only [Sum.elim_inr, Option.map_eq_none_iff]
      apply BaseCall.null_iff (k.base s) c h

variable (k : ObjClass)

/-- The members after a call; without a result they stay as they are. -/
def step (s : k.State) (c : k.Call) : k.State :=
  ((k.exec s c).map Prod.snd).getD s

/-- The call comes to `obj::modify` and `obj::query` only with a `dcmd::obj`, and if it is to query
or modify and there is none, it returns an error. -/
def Guarded (s : k.State) (c : k.Call) : Prop :=
  (∀ r ∈ k.reached s c, r.obj.mObjHandle = true)
    ∧ (k.asks c = true → (k.base s).mObjHandle = false →
      ∃ ret s', k.exec s c = some (ret, s') ∧ ret ≠ .ok)

variable {k}

/-- A call that is not to query or modify, and comes to neither, is guarded. -/
theorem guarded_of_idle {s : k.State} {c : k.Call} (hreached : k.reached s c = [])
    (hasks : k.asks c = false) :
  k.Guarded s c
  := by
  constructor
  · intro r hr
    rw [hreached] at hr
    cases hr
  · intro hasks'
    cases Bool.false_ne_true (hasks.symm.trans hasks')

/-- A call that comes to one of the two with the object as it is needs a `dcmd::obj`. -/
theorem guarded_iff_handle {s : k.State} {c : k.Call} {inlen outlen : Nat}
    (hreached : k.reached s c = [⟨k.base s, inlen, outlen⟩]) (hasks : k.asks c = true) :
  k.Guarded s c ↔ (k.asks c = true → (k.base s).mObjHandle = true)
  := by
  rw [Guarded, hreached]
  constructor
  · rintro ⟨hhandle, -⟩ _
    apply hhandle _ (List.mem_singleton_self _)
  · intro hhandle
    constructor
    · intro r hr
      rw [List.mem_singleton.mp hr, hhandle hasks]
    · intro _ hno
      cases Bool.false_ne_true (hno.symm.trans (hhandle hasks))

variable (k)

/-- A call of `obj` itself is guarded only if there is a `dcmd::obj` for it. -/
theorem guarded_base_iff (s : k.State) (c : BaseCall) :
  k.withBase.Guarded s (.inr c) ↔ (c.asks = true → (k.base s).mObjHandle = true)
  := by
  cases c with
  | modify answers m inlen out outlen =>
      apply guarded_iff_handle (k := k.withBase) rfl rfl
  | query answers m inlen out outlen =>
      apply guarded_iff_handle (k := k.withBase) rfl rfl
  | _ =>
      apply iff_of_true (guarded_of_idle rfl rfl)
      intro hasks
      cases hasks

/-- A call of the class itself, or `destroy`. -/
def Own : k.withBase.Call → Prop
  | .inl _ => True
  | .inr .destroy => True
  | .inr _ => False

end ObjClass

/-! ### The queues -/

namespace StateKind

/-- What `modify_state` reaches: the MODIFY, and the QUERY after it. -/
def reached (k : StateKind) (base : Obj) (mState newState : BitVec 32) (modifies : Answers) :
    List Reach :=
  if Refused mState newState then
    []
  else
    match base.getId 0 with
    | (.ok, number) =>
        if number = 0 then
          []
        else
          ⟨base, k.modifyIn, k.modifyOut⟩ ::
            match base.modify modifies (k.modifyMailbox number mState newState) k.modifyIn zeros
              k.modifyOut with
            | some (.ok, base, _) => [⟨base, k.queryIn, k.queryOut⟩]
            | _ => []
    | _ => []

theorem handle_of_reached {k : StateKind} {base : Obj} {mState newState : BitVec 32}
    {modifies : Answers} :
  ∀ r ∈ k.reached base mState newState modifies, r.obj.mObjHandle = true
  := by
  intro r hr
  simp only [reached, Obj.getId] at hr
  split at hr
  · cases hr
  · cases hhandle : base.mObjHandle with
    | false => simp [hhandle] at hr
    | true =>
        simp only [hhandle, if_true] at hr
        split at hr
        · cases hr
        · rcases List.mem_cons.mp hr with rfl | hr
          · apply hhandle
          · split at hr
            · rename_i hmodify
              obtain rfl := List.mem_singleton.mp hr
              rw [← hhandle]
              apply (Obj.alike_of_command hmodify).objHandle
            · cases hr

theorem modifyState_isSome (k : StateKind) (base : Obj) (mState newState : BitVec 32)
    (modifies queries : Answers) :
  (k.modifyState base mState newState modifies queries).isSome = true
  := by
  rw [modifyState]
  split
  · rfl
  · cases hhandle : base.mObjHandle with
    | false => simp [Obj.getId, hhandle]
    | true =>
        simp only [Obj.getId, hhandle, if_true]
        split
        · rfl
        · obtain ⟨⟨ret, base', out⟩, hmodify⟩ := Option.isSome_iff_exists.mp
            (Obj.command_isSome hhandle .errModify modifies
              (k.modifyMailbox base.mId mState newState) k.modifyIn zeros k.modifyOut)
          have hhandle' : base'.mObjHandle = true := by
            rw [← hhandle]
            apply (Obj.alike_of_command hmodify).objHandle
          simp only [Obj.modify, hmodify, Option.bind_eq_bind, Option.bind_some]
          cases ret with
          | ok =>
              obtain ⟨⟨ret, base'', out⟩, hquery⟩ := Option.isSome_iff_exists.mp
                (Obj.command_isSome hhandle' .errQuery queries (k.queryMailbox base.mId) k.queryIn
                  zeros k.queryOut)
              simp only [Obj.query, hquery, Option.bind_some]
              cases ret <;> rfl
          | _ => rfl

theorem modifyState_of_no_handle (k : StateKind) {base : Obj} (h : base.mObjHandle = false)
    (mState newState : BitVec 32) (modifies queries : Answers) :
  ∃ ret, ret ≠ .ok
    ∧ k.modifyState base mState newState modifies queries = some (ret, base, mState, none)
  := by
  rw [modifyState]
  split
  · exact ⟨.errInvalidParam, by decide, rfl⟩
  · simp only [Obj.getId, h, Bool.false_eq_true, if_false]
    exact ⟨.errInvalidId, by decide, rfl⟩

end StateKind

/-- `class rq`, by its object and `m_state`. -/
def rqClass : ObjClass where
  State := Obj × BitVec 32
  base := Prod.fst
  setBase s o := (o, s.2)
  Call := BitVec 32 × Answers × Answers
  asks _ := true
  exec s c :=
    (StateKind.rq.modifyState s.1 s.2 c.1 c.2.1 c.2.2).map fun (ret, base, mState, _) =>
      (ret, base, mState)
  reached s c := StateKind.rq.reached s.1 s.2 c.1 c.2.1
  null_iff s c _ := by
    apply null_iff_of_handles _ StateKind.handle_of_reached
    rw [Option.isSome_map]
    apply StateKind.modifyState_isSome

theorem rq_guarded (s : rqClass.State) (c : rqClass.Call) :
  rqClass.Guarded s c
  := by
  refine ⟨StateKind.handle_of_reached, fun _ hno => ?_⟩
  obtain ⟨ret, hret, hmodify⟩ :=
    StateKind.rq.modifyState_of_no_handle hno s.2 c.1 c.2.1 c.2.2
  refine ⟨ret, s, ?_, hret⟩
  apply congrArg (Option.map _) hmodify

namespace PpSq

/-- What `reprogram` reaches. -/
def reprogramReached (q : PpSq) : List Reach :=
  match q.queue.base.getId 0 with
  | (.ok, sqn) => if sqn = 0 then [] else [⟨q.queue.base, ModifySqIn.bytes, ModifySqOut.bytes⟩]
  | _ => []

/-- What `modify` reaches. -/
def modifyReached (q : PpSq) (attr : SqAttr) (pacing : PpEnv) : List Reach :=
  match makePp attr pacing with
  | .error _ => []
  | .ok _ => q.reprogramReached

theorem handle_of_modifyReached {q : PpSq} {attr : SqAttr} {pacing : PpEnv} :
  ∀ r ∈ q.modifyReached attr pacing, r.obj.mObjHandle = true
  := by
  intro r hr
  simp only [modifyReached, reprogramReached, Obj.getId] at hr
  split at hr
  · cases hr
  · cases hhandle : q.queue.base.mObjHandle with
    | false => simp [hhandle] at hr
    | true =>
        simp only [hhandle, if_true] at hr
        split at hr
        · cases hr
        · obtain rfl := List.mem_singleton.mp hr
          apply hhandle

theorem modify_isSome (q : PpSq) (attr : SqAttr) (pacing : PpEnv) (answers : Answers) :
  (q.modify attr pacing answers).isSome = true
  := by
  obtain ⟨ret, q', events, sent, hmodify, -⟩ := q.modify_cases attr pacing answers
  rw [hmodify]
  rfl

theorem modify_of_no_handle {q : PpSq} (h : q.queue.base.mObjHandle = false) (attr : SqAttr)
    (pacing : PpEnv) (answers : Answers) :
  ∃ ret r, ret ≠ .ok ∧ q.modify attr pacing answers = some (ret, r)
  := by
  cases hmake : makePp attr pacing with
  | error ret =>
      refine ⟨ret, (q, [], none), ?_, ?_⟩
      · rintro rfl
        apply makePp_ne_ok hmake
      · simp only [modify, hmake]
  | ok pp =>
      have hreaches : ¬ q.Reaches := fun hreaches => Bool.false_ne_true (h.symm.trans hreaches.1)
      obtain ⟨ret, q', hreprogram, -, hret, -⟩ :=
        reprogram_of_not_reaches hreaches pp (indexOf pp &&& 0xFFFF) answers
      rw [modify_eq hmake, hreprogram]
      exact ⟨ret, _, hret, rfl⟩

end PpSq

/-- The calls of a send queue that query or modify. -/
inductive SqCall where
  | modifyState (newState : BitVec 32) (modifies queries : Answers)
  | modify (attr : SqAttr) (pacing : PpEnv) (answers : Answers)

/-- `class pp_sq`, with `sq::modify_state`. -/
def sqClass : ObjClass where
  State := PpSq
  base q := q.queue.base
  setBase q o := { q with queue := { q.queue with base := o } }
  Call := SqCall
  asks _ := true
  exec q
    | .modifyState newState modifies queries =>
        (StateKind.sq.modifyState q.queue.base q.queue.mState newState modifies queries).map
          fun (ret, base, mState, _) =>
            (ret, { q with queue := { q.queue with base := base, mState := mState } })
    | .modify attr pacing answers =>
        (q.modify attr pacing answers).map fun (ret, q, _) => (ret, q)
  reached q
    | .modifyState newState modifies _ =>
        StateKind.sq.reached q.queue.base q.queue.mState newState modifies
    | .modify attr pacing _ => q.modifyReached attr pacing
  null_iff q c _ := by
    cases c with
    | modifyState =>
        apply null_iff_of_handles _ StateKind.handle_of_reached
        rw [Option.isSome_map]
        apply StateKind.modifyState_isSome
    | modify =>
        apply null_iff_of_handles _ PpSq.handle_of_modifyReached
        rw [Option.isSome_map]
        apply PpSq.modify_isSome

theorem sq_guarded (q : sqClass.State) (c : sqClass.Call) :
  sqClass.Guarded q c
  := by
  cases c with
  | modifyState newState modifies queries =>
      refine ⟨StateKind.handle_of_reached, fun _ hno => ?_⟩
      obtain ⟨ret, hret, hmodify⟩ :=
        StateKind.sq.modifyState_of_no_handle hno q.queue.mState newState modifies queries
      refine ⟨ret, q, ?_, hret⟩
      apply congrArg (Option.map _) hmodify
  | modify attr pacing answers =>
      refine ⟨PpSq.handle_of_modifyReached, fun _ hno => ?_⟩
      obtain ⟨ret, r, hret, hmodify⟩ := PpSq.modify_of_no_handle hno attr pacing answers
      refine ⟨ret, r.1, ?_, hret⟩
      apply congrArg (Option.map _) hmodify

/-! ### Transport objects -/

namespace Cached

variable {A : Type}

/-- What `query` reaches. -/
def queryReached (k : CachedKind A) (c : Cached A) : List Reach :=
  if k.flags c.mAttr ≠ 0 then [] else c.base.behindHandle k.queryIn k.queryOut

/-- What `create` reaches: the query at its end. -/
def createReached (k : CachedKind A) (c : Cached A) (attr : A) (device : Device) : List Reach :=
  if c.base.getHandle = .ok then
    []
  else
    let (ret, base, _) :=
      c.base.create device (some (k.createMailbox attr)) k.createIn zeros k.createOut
    let c := { c with base := base }
    match ret with
    | .ok =>
        match c.base.getId c.mNumber with
        | (.ok, number) =>
            let c := { c with mNumber := number }
            let c := { c with mAttr := if k.flags c.mAttr = 0 then k.blank else c.mAttr }
            c.queryReached k
        | _ => []
    | _ => []

theorem handle_of_queryReached {k : CachedKind A} {c : Cached A} :
  ∀ r ∈ c.queryReached k, r.obj.mObjHandle = true
  := by
  intro r hr
  rw [queryReached] at hr
  split at hr
  · cases hr
  · apply Obj.handle_of_behindHandle r hr

theorem handle_of_createReached {k : CachedKind A} {c : Cached A} {attr : A} {device : Device} :
  ∀ r ∈ c.createReached k attr device, r.obj.mObjHandle = true
  := by
  intro r hr
  simp only [createReached] at hr
  split at hr
  · cases hr
  · split at hr
    · split at hr
      · apply handle_of_queryReached r hr
      · cases hr
    · cases hr

theorem query_of_no_handle {c : Cached A} (h : c.base.mObjHandle = false) (k : CachedKind A)
    (out : A) (answers : Answers) :
  c.query k out answers = some (.errInvalidParam, c, out)
  := by
  simp [query, Obj.getHandle, h]

end Cached

/-- The calls of a TIR. -/
inductive TirCall where
  | create (attr : TirAttr) (device : Device) (answers : Answers)
  | query (out : TirAttr) (answers : Answers)
  | modify (attr : TirAttr) (answers : Answers)

/-- `class tir`. -/
def tirClass : ObjClass where
  State := Cached TirAttr
  base := Cached.base
  setBase t o := { t with base := o }
  Call := TirCall
  asks
    | .create .. => false
    | _ => true
  exec t
    | .create attr device answers => Tir.create t attr device answers
    | .query out answers => (Tir.query t out answers).map fun (ret, t, _) => (ret, t)
    | .modify attr answers => Tir.modify t attr answers
  reached t
    | .create attr device _ => t.createReached Tir.kind attr device
    | .query .. => t.queryReached Tir.kind
    | .modify .. => t.base.behindHandle ModifyTirIn.bytes ModifyTirOut.bytes
  null_iff t c h := by
    cases c with
    | create => cases h
    | query =>
        apply null_iff_of_handles _ Cached.handle_of_queryReached
        rw [Option.isSome_map]
        apply Cached.query_isSome
    | modify =>
        apply null_iff_of_handles _ Obj.handle_of_behindHandle
        apply Tir.modify_isSome

theorem tir_guarded (t : tirClass.State) (c : tirClass.Call) :
  tirClass.Guarded t c
  := by
  cases c with
  | create attr device answers =>
      refine ⟨Cached.handle_of_createReached, fun hasks _ => ?_⟩
      cases hasks
  | query out answers =>
      refine ⟨Cached.handle_of_queryReached, fun _ hno => ?_⟩
      refine ⟨.errInvalidParam, t, ?_, by decide⟩
      apply congrArg (Option.map _) (Cached.query_of_no_handle hno Tir.kind out answers)
  | modify attr answers =>
      refine ⟨Obj.handle_of_behindHandle, fun _ hno => ?_⟩
      refine ⟨.errInvalidParam, t, ?_, by decide⟩
      simp [tirClass, Tir.modify, Obj.getHandle, show t.base.mObjHandle = false from hno]

/-- The calls of a TIS. -/
inductive TisCall where
  | create (attr : TisAttr) (device : Device) (answers : Answers)
  | query (out : TisAttr) (answers : Answers)

/-- `class tis`. -/
def tisClass : ObjClass where
  State := Cached TisAttr
  base := Cached.base
  setBase t o := { t with base := o }
  Call := TisCall
  asks
    | .create .. => false
    | .query .. => true
  exec t
    | .create attr device answers => Tis.create t attr device answers
    | .query out answers => (Tis.query t out answers).map fun (ret, t, _) => (ret, t)
  reached t
    | .create attr device _ => t.createReached Tis.kind attr device
    | .query .. => t.queryReached Tis.kind
  null_iff t c h := by
    cases c with
    | create => cases h
    | query =>
        apply null_iff_of_handles _ Cached.handle_of_queryReached
        rw [Option.isSome_map]
        apply Cached.query_isSome

theorem tis_guarded (t : tisClass.State) (c : tisClass.Call) :
  tisClass.Guarded t c
  := by
  cases c with
  | create attr device answers =>
      refine ⟨Cached.handle_of_createReached, fun hasks _ => ?_⟩
      cases hasks
  | query out answers =>
      refine ⟨Cached.handle_of_queryReached, fun _ hno => ?_⟩
      refine ⟨.errInvalidParam, t, ?_, by decide⟩
      apply congrArg (Option.map _) (Cached.query_of_no_handle hno Tis.kind out answers)

/-! ### General objects -/

namespace Dek

/-- What `modify` reaches. -/
def modifyReached (d : Dek) (attr : DekAttr) : List Reach :=
  match d.modifyCommand attr with
  | .error _ => []
  | .ok c => [⟨d.base, c.inlen, c.outlen⟩]

theorem verifyAttr_cases (attr : DekAttr) :
  verifyAttr attr = .errInvalidParam ∨ verifyAttr attr = .ok ∧ attr.keyBlob.isSome = true
  := by
  simp only [verifyAttr]
  repeat' split
  all_goals simp_all [Option.isSome_iff_ne_none]

/-- Without a `dcmd::obj` there is no MODIFY, and an error. -/
theorem modifyCommand_of_no_handle {d : Dek} (h : d.base.mObjHandle = false) (attr : DekAttr) :
  d.modifyCommand attr = .error .errInvalidParam
  := by
  rcases verifyAttr_cases attr with hverify | ⟨hverify, hblob⟩
  · simp [modifyCommand, hverify]
  · obtain ⟨keyBlob, hblob⟩ := Option.isSome_iff_exists.mp hblob
    simp [modifyCommand, hverify, hblob, Obj.getHandle, h]

theorem handle_of_modifyReached {d : Dek} {attr : DekAttr} :
  ∀ r ∈ d.modifyReached attr, r.obj.mObjHandle = true
  := by
  intro r hr
  cases hhandle : d.base.mObjHandle with
  | false =>
      rw [modifyReached, modifyCommand_of_no_handle hhandle] at hr
      cases hr
  | true =>
      rw [modifyReached] at hr
      split at hr
      · cases hr
      · obtain rfl := List.mem_singleton.mp hr
        apply hhandle

theorem modify_isSome (d : Dek) (attr : DekAttr) (answers : Answers) :
  (d.modify attr answers).isSome = true
  := by
  rw [modify]
  cases hhandle : d.base.mObjHandle with
  | false =>
      rw [modifyCommand_of_no_handle hhandle]
      rfl
  | true =>
      split
      · rfl
      · rename_i c _
        obtain ⟨r, hr⟩ := Option.isSome_iff_exists.mp
          (Obj.command_isSome hhandle .errModify answers c.mailbox c.inlen zeros c.outlen)
        rw [Obj.modify, hr]
        rfl

theorem query_isSome (d : Dek) (answers : Answers) :
  (d.query answers).isSome = true
  := by
  cases hhandle : d.base.mObjHandle with
  | false => simp [query, Obj.getHandle, hhandle]
  | true =>
      simp only [query, Obj.getHandle, hhandle, if_true, ne_eq, not_true_eq_false, if_false,
        Obj.query, Option.bind_eq_bind]
      rw [isSome_bind_of_forall]
      · apply Obj.command_isSome hhandle
      · rintro ⟨ret, base, out⟩
        cases ret <;> rfl

end Dek

/-- The calls of a data encryption key. -/
inductive DekCall where
  | create (attr : DekAttr) (device : Device)
  | modify (attr : DekAttr) (answers : Answers)
  | query (answers : Answers)

/-- The classes derived from `dek`. -/
def dekClass : ObjClass where
  State := Dek
  base := Dek.base
  setBase d o := { d with base := o }
  Call := DekCall
  asks
    | .create .. => false
    | _ => true
  exec d
    | .create attr device => some (d.create attr device)
    | .modify attr answers => d.modify attr answers
    | .query answers => (d.query answers).map fun (ret, d, _) => (ret, d)
  reached d
    | .create .. => []
    | .modify attr _ => d.modifyReached attr
    | .query _ => d.base.behindHandle GeneralObjInCmdHdr.bytes QueryEncryptionKeyOut.bytes
  null_iff d c h := by
    cases c with
    | create => cases h
    | modify =>
        apply null_iff_of_handles _ Dek.handle_of_modifyReached
        apply Dek.modify_isSome
    | query =>
        apply null_iff_of_handles _ Obj.handle_of_behindHandle
        rw [Option.isSome_map]
        apply Dek.query_isSome

theorem dek_guarded (d : dekClass.State) (c : dekClass.Call) :
  dekClass.Guarded d c
  := by
  cases c with
  | create attr device => apply ObjClass.guarded_of_idle rfl rfl
  | modify attr answers =>
      refine ⟨Dek.handle_of_modifyReached, fun _ hno => ?_⟩
      refine ⟨.errInvalidParam, d, ?_, by decide⟩
      simp only [dekClass, Dek.modify, Dek.modifyCommand_of_no_handle hno]
  | query answers =>
      refine ⟨Obj.handle_of_behindHandle, fun _ hno => ?_⟩
      refine ⟨.errInvalidParam, d, ?_, by decide⟩
      simp [dekClass, Dek.query, Obj.getHandle, show d.base.mObjHandle = false from hno]

theorem TagBufferTableObj.query_isSome (t : TagBufferTableObj) (attr : Attr) (answers : Answers) :
  (t.query attr answers).isSome = true
  := by
  cases hhandle : t.base.mObjHandle with
  | false => simp [query, Obj.getHandle, hhandle]
  | true =>
      simp only [query, Obj.getHandle, hhandle, if_true, ne_eq, not_true_eq_false, if_false,
        Obj.query, Option.bind_eq_bind]
      rw [isSome_bind_of_forall]
      · apply Obj.command_isSome hhandle
      · rintro ⟨ret, base, out⟩
        cases ret <;> rfl

/-- The calls of a tag buffer table. -/
inductive TagBufferTableCall where
  | create (logTagBufferTableSize : BitVec 32) (device : Device)
  | query (attr : TagBufferTableObj.Attr) (answers : Answers)

/-- `class tag_buffer_table_obj`. -/
def tagBufferTableClass : ObjClass where
  State := TagBufferTableObj
  base := TagBufferTableObj.base
  setBase t o := { t with base := o }
  Call := TagBufferTableCall
  asks
    | .create .. => false
    | .query .. => true
  exec t
    | .create logTagBufferTableSize device => some (t.create logTagBufferTableSize device)
    | .query attr answers => (t.query attr answers).map fun (ret, t, _) => (ret, t)
  reached t
    | .create .. => []
    | .query .. => t.base.behindHandle GeneralObjInCmdHdr.bytes QueryTagBufferTableObjOut.bytes
  null_iff t c h := by
    cases c with
    | create => cases h
    | query =>
        apply null_iff_of_handles _ Obj.handle_of_behindHandle
        rw [Option.isSome_map]
        apply TagBufferTableObj.query_isSome

theorem tagBufferTable_guarded (t : tagBufferTableClass.State) (c : tagBufferTableClass.Call) :
  tagBufferTableClass.Guarded t c
  := by
  cases c with
  | create logTagBufferTableSize device => apply ObjClass.guarded_of_idle rfl rfl
  | query attr answers =>
      refine ⟨Obj.handle_of_behindHandle, fun _ hno => ?_⟩
      refine ⟨.errInvalidParam, t, ?_, by decide⟩
      simp [tagBufferTableClass, TagBufferTableObj.query, Obj.getHandle,
        show t.base.mObjHandle = false from hno]

/-! ### Flow tables and parser graph nodes -/

namespace DevxTable

/-- What `query` reaches, behind the mark that the table was created. -/
def queryReached (t : DevxTable) : List Reach :=
  if !t.mIsInitialized then [] else [⟨t.base, QueryFlowTableIn.bytes, QueryFlowTableOut.bytes⟩]

theorem query_eq_none_iff (t : DevxTable) (tableMiss : Option Nat)
    (tables : Nat → Option DevxTable) (answers : Answers) (attr : FullFlowTableAttr) :
  t.query tableMiss tables answers attr = none ↔ ∃ r ∈ t.queryReached, r.Faults
  := by
  cases hinitialized : t.mIsInitialized with
  | false => simp [query, queryReached, hinitialized]
  | true =>
      simp only [query, queryReached, hinitialized, Bool.not_true, Bool.false_eq_true, if_false,
        List.mem_singleton, exists_eq_left]
      rw [← Obj.command_eq_none_iff t.base .errQuery answers t.queryMailbox _ zeros, Obj.query,
        Option.bind_eq_bind, ← Option.not_isSome_iff_eq_none, ← Option.not_isSome_iff_eq_none,
        isSome_bind_of_forall]
      rintro ⟨ret, base, out⟩
      simp only
      repeat' split
      all_goals rfl

/-- A table that was created has a `dcmd::obj`. -/
def Backed (t : DevxTable) : Prop :=
  t.mIsInitialized = true → t.base.mObjHandle = true

theorem backed_create {t : DevxTable} (h : t.Backed) (tableMiss : Option DevxTable)
    (device : Device) :
  (t.create tableMiss device).2.Backed
  := by
  simp only [create]
  split
  · apply h
  · rename_i c hcommand
    have hnot := not_initialized_of_command hcommand
    cases hcreate : t.base.create device (some c.mailbox) c.inlen zeros c.outlen with
    | mk ret r =>
        cases ret with
        | ok =>
            intro _
            have hlive := (Obj.create_eq_ok hcreate).1
            rw [Obj.live, Bool.and_eq_true] at hlive
            apply hlive.1
        | _ =>
            intro hinitialized
            rw [hnot] at hinitialized
            cases hinitialized

theorem backed_query {t t' : DevxTable} (h : t.Backed) {tableMiss : Option Nat}
    {tables : Nat → Option DevxTable} {answers : Answers} {attr attr' : FullFlowTableAttr}
    {ret : Status} (hquery : t.query tableMiss tables answers attr = some (ret, t', attr')) :
  t'.Backed
  := by
  obtain ⟨hprm, -, hbase⟩ := query_alike hquery
  intro hinitialized
  rw [hprm] at hinitialized
  rw [hbase.objHandle]
  apply h hinitialized

theorem backed_step {t : DevxTable} (h : t.Backed) (c : Call) :
  (t.step c).Backed
  := by
  cases c with
  | create tableMiss device => apply backed_create h
  | query tableMiss tables answers attr =>
      rw [step]
      cases hquery : t.query tableMiss tables answers attr with
      | none => apply h
      | some r => apply backed_query h hquery

end DevxTable

theorem Obj.destroy_handle (o : Obj) :
  o.destroy.2.mObjHandle = o.mObjHandle
  := by
  rw [destroy]
  split <;> rfl

/-- `class flow_table_prm`. -/
def flowTableClass : ObjClass where
  State := DevxTable
  base t := t.base
  setBase t o := { t with base := o }
  Call := DevxTable.Call
  asks
    | .create .. => false
    | .query .. => true
  exec t
    | .create tableMiss device => some (t.create tableMiss device)
    | .query tableMiss tables answers attr =>
        (t.query tableMiss tables answers attr).map fun (ret, t, _) => (ret, t)
  reached t
    | .create .. => []
    | .query .. => t.queryReached
  null_iff t c h := by
    cases c with
    | create => cases h
    | query =>
        rw [Option.map_eq_none_iff]
        apply DevxTable.query_eq_none_iff

theorem flowTable_step (t : flowTableClass.State) (c : flowTableClass.Call) :
  flowTableClass.withBase.step t (.inl c) = DevxTable.step t c
  := by
  cases c with
  | create tableMiss device => rfl
  | query tableMiss tables answers attr =>
      apply congrArg (Option.getD · t)
      apply Option.map_map

/-- The calls of a table and `destroy` keep its `dcmd::obj`. -/
theorem flowTable_backed_step {t : flowTableClass.State} {c : flowTableClass.withBase.Call}
    (hown : flowTableClass.Own c) (h : DevxTable.Backed t) :
  DevxTable.Backed (flowTableClass.withBase.step t c)
  := by
  rcases c with c | c
  · rw [flowTable_step]
    apply DevxTable.backed_step h
  · cases c with
    | destroy =>
        intro hinitialized
        apply (Obj.destroy_handle t.base).trans (h hinitialized)
    | _ => cases hown

/-- The mark is as good as the handle for a table that has one if it was created. -/
theorem flowTable_guarded_iff (t : flowTableClass.State) (c : flowTableClass.Call) :
  flowTableClass.Guarded t c ↔ (flowTableClass.asks c = true → DevxTable.Backed t)
  := by
  cases c with
  | create tableMiss device =>
      apply iff_of_true (ObjClass.guarded_of_idle rfl rfl)
      intro hasks
      cases hasks
  | query tableMiss tables answers attr =>
      constructor
      · rintro ⟨hreached, -⟩ _ hinitialized
        apply hreached ⟨t.base, QueryFlowTableIn.bytes, QueryFlowTableOut.bytes⟩
        simp [flowTableClass, DevxTable.queryReached, hinitialized]
      · intro hbacked
        refine ⟨fun r hr => ?_, fun hasks hno => ?_⟩
        · simp only [flowTableClass, DevxTable.queryReached] at hr
          split at hr
          · cases hr
          · rename_i hinitialized
            obtain rfl := List.mem_singleton.mp hr
            apply hbacked rfl (by simpa using hinitialized)
        · have hnot : t.mIsInitialized = false := by
            rw [Bool.eq_false_iff]
            intro hinitialized
            apply Bool.false_ne_true (hno.symm.trans (hbacked hasks hinitialized))
          refine ⟨.errNotApplied, t, ?_, by decide⟩
          simp [flowTableClass, DevxTable.query, hnot]

/-- The calls of a parser graph node. -/
inductive ParserGraphNodeCall where
  | create (device : Device)
  | query (answers : Answers)

theorem ParserGraphNode.Sampled.query_eq_none_iff (node : Sampled) (answers : Answers) :
  node.query answers = none
    ↔ Reach.Faults ⟨node.base, GeneralObjInCmdHdr.bytes, CreateParseGraphNodeOut.bytes⟩
  := by
  rw [query, ← Obj.command_eq_none_iff node.base .errQuery answers node.queryMailbox _ zeros,
    Obj.query, Option.bind_eq_bind, ← Option.not_isSome_iff_eq_none,
    ← Option.not_isSome_iff_eq_none, isSome_bind_of_forall]
  rintro ⟨ret, base, out⟩
  simp only
  repeat' split
  all_goals rfl

/-- `class parser_graph_node`, whose `get_id` never fails, so that the check before the query is
never taken. -/
def parserGraphNodeClass : ObjClass where
  State := ParserGraphNode.Sampled
  base node := node.base
  setBase node o := { node with base := o }
  Call := ParserGraphNodeCall
  asks
    | .create _ => false
    | .query _ => true
  exec node
    | .create device =>
        (node.toParserGraphNode.create device).map fun (ret, node') =>
          (ret, { node with toParserGraphNode := node' })
    | .query answers => node.query answers
  reached node
    | .create _ => []
    | .query _ => [⟨node.base, GeneralObjInCmdHdr.bytes, CreateParseGraphNodeOut.bytes⟩]
  null_iff node c h := by
    cases c with
    | create => cases h
    | query =>
        rw [ParserGraphNode.Sampled.query_eq_none_iff]
        simp

/-- Nothing stands between the query of a node and the `dcmd::obj`. -/
theorem parserGraphNode_guarded_iff (node : parserGraphNodeClass.State)
    (c : parserGraphNodeClass.Call) :
  parserGraphNodeClass.Guarded node c
    ↔ (parserGraphNodeClass.asks c = true → (parserGraphNodeClass.base node).mObjHandle = true)
  := by
  cases c with
  | create device =>
      apply iff_of_true (ObjClass.guarded_of_idle rfl rfl)
      intro hasks
      cases hasks
  | query answers =>
      apply ObjClass.guarded_iff_handle (k := parserGraphNodeClass) rfl rfl

/-! ### Every class -/

/-- A class none of whose own calls comes to `obj::modify` or `obj::query`: the keys, EQs, CQs, flow
groups, rules and actions, protection and transport domains, and the table of the kernel. -/
def otherClass : ObjClass where
  State := Obj
  base := id
  setBase _ o := o
  Call := Empty
  asks c := c.elim
  exec _ c := c.elim
  reached _ c := c.elim
  null_iff _ c := c.elim

/-- The classes derived from `obj`. -/
inductive ClassName where
  | rq
  | sq
  | tir
  | tis
  | dek
  | tagBufferTable
  | flowTable
  | parserGraphNode
  | other
deriving DecidableEq

namespace ClassName

def cls : ClassName → ObjClass
  | rq => rqClass
  | sq => sqClass
  | tir => tirClass
  | tis => tisClass
  | dek => dekClass
  | tagBufferTable => tagBufferTableClass
  | flowTable => flowTableClass
  | parserGraphNode => parserGraphNodeClass
  | other => otherClass

/-- What a call of the class itself needs to be guarded. -/
def Safe : (n : ClassName) → n.cls.State → n.cls.Call → Prop
  | flowTable, t, c => flowTableClass.asks c = true → DevxTable.Backed t
  | parserGraphNode, node, c =>
      parserGraphNodeClass.asks c = true → (parserGraphNodeClass.base node).mObjHandle = true
  | _, _, _ => True

/-- Every call of a class itself is guarded exactly when it is safe. -/
theorem guarded_iff (n : ClassName) (s : n.cls.State) (c : n.cls.Call) :
  n.cls.Guarded s c ↔ n.Safe s c
  := by
  cases n with
  | rq => exact iff_of_true (rq_guarded s c) trivial
  | sq => exact iff_of_true (sq_guarded s c) trivial
  | tir => exact iff_of_true (tir_guarded s c) trivial
  | tis => exact iff_of_true (tis_guarded s c) trivial
  | dek => exact iff_of_true (dek_guarded s c) trivial
  | tagBufferTable => exact iff_of_true (tagBufferTable_guarded s c) trivial
  | flowTable => apply flowTable_guarded_iff
  | parserGraphNode => apply parserGraphNode_guarded_iff
  | other => cases c

/-- What any call needs to be guarded: `obj::modify` and `obj::query` themselves need a
`dcmd::obj`. -/
def SafeCall (n : ClassName) (s : n.cls.State) : n.cls.withBase.Call → Prop
  | .inl c => n.Safe s c
  | .inr c => c.asks = true → (n.cls.base s).mObjHandle = true

theorem guarded_call_iff (n : ClassName) (s : n.cls.State) (c : n.cls.withBase.Call) :
  n.cls.withBase.Guarded s c ↔ n.SafeCall s c
  := by
  rcases c with c | c
  · apply guarded_iff
  · apply ObjClass.guarded_base_iff

/-- A table that is marked as created has a `dcmd::obj`; of the other classes nothing is asked. -/
def Backed : (n : ClassName) → n.cls.State → Prop
  | flowTable, t => DevxTable.Backed t
  | _, _ => True

/-- The object is as its constructor leaves it, as far as the class marks its creation. -/
def Starts : (n : ClassName) → n.cls.State → Prop
  | flowTable, t => ∃ ctx attr, t = DevxTable.new ctx attr
  | _, _ => True

theorem backed_of_starts {n : ClassName} {s : n.cls.State} (h : n.Starts s) :
  n.Backed s
  := by
  cases n with
  | flowTable =>
      obtain ⟨ctx, attr, rfl⟩ := h
      intro hinitialized
      cases hinitialized
  | _ => trivial

theorem backed_step {n : ClassName} {s : n.cls.State} {c : n.cls.withBase.Call}
    (hown : n.cls.Own c) (h : n.Backed s) :
  n.Backed (n.cls.withBase.step s c)
  := by
  cases n with
  | flowTable => apply flowTable_backed_step hown h
  | _ => trivial

theorem safeCall_of_backed {n : ClassName} (hn : n ≠ parserGraphNode) {s : n.cls.State}
    {c : n.cls.withBase.Call} (hown : n.cls.Own c) (h : n.Backed s) :
  n.SafeCall s c
  := by
  rcases c with c | c
  · cases n with
    | flowTable => exact fun _ => h
    | parserGraphNode => cases hn rfl
    | _ => trivial
  · cases c with
    | destroy =>
        intro hasks
        cases hasks
    | _ => cases hown

/-- In an order of calls, every call comes to `obj::modify` and `obj::query` only with a `dcmd::obj`
and returns an error without one, exactly when each is safe: a parser graph node is queried, and
`obj::modify` and `obj::query` are called, only with a `dcmd::obj`, and a flow table that is marked
as created is queried only while it has one.  So any order of the calls that a class has itself is
guarded, but for the parser graph node. -/
theorem handles_guarded_iff (n : ClassName) (s : n.cls.State)
    (calls : List n.cls.withBase.Call) :
  (Along n.cls.withBase.step n.cls.withBase.Guarded s calls
    ↔ Along n.cls.withBase.step n.SafeCall s calls)
    ∧ (n ≠ parserGraphNode → n.Starts s → (∀ c ∈ calls, n.cls.Own c) →
      Along n.cls.withBase.step n.cls.withBase.Guarded s calls)
  := by
  constructor
  · apply along_iff_along (I := fun _ => True) _ _ trivial
    · intro s c _ _
      apply guarded_call_iff
    · intro s c _ _ _
      trivial
  · intro hn hs hown
    apply (along_iff_along _ _ (backed_of_starts hs)).mpr (along_of_forall hown s)
    · intro s c hc hbacked
      have hsafe := safeCall_of_backed hn (hown c hc) hbacked
      apply iff_of_true ((guarded_call_iff n s c).mpr hsafe) (hown c hc)
    · intro s c hc hbacked _
      apply backed_step (hown c hc) hbacked

/-- The node of the eCPRI header, before it is created. -/
def freshNode : ParserGraphNode.Sampled :=
  ⟨ParserGraphNode.new true ParserGraphNode.ecpri, []⟩

/-- The query of a node that was not created uses a `dcmd::obj` that is not there; the query of a
key that was not created returns an error. -/
theorem freshNode_query_unguarded :
  freshNode.query (fun _ _ => ⟨false, zeros⟩) = none
    ∧ ¬ Along parserGraphNode.cls.withBase.step parserGraphNode.cls.withBase.Guarded freshNode
      [.inl (.query fun _ _ => ⟨false, zeros⟩)]
    ∧ ∃ attr, (Dek.new true .tls).query (fun _ _ => ⟨false, zeros⟩)
      = some (.errInvalidParam, Dek.new true .tls, attr)
  := by
  refine ⟨?_, ?_, ?_⟩
  · rw [ParserGraphNode.Sampled.query_eq_none_iff]
    exact ⟨rfl, by decide, rfl⟩
  · rintro ⟨hguarded, -⟩
    cases (guarded_call_iff parserGraphNode freshNode _).mp hguarded rfl
  · exact ⟨_, rfl⟩

end ClassName

end Dpcp
