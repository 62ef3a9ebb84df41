import Dpcp.Machine.Run
import Dpcp.Obj

/-!
# Objects that cache what they read from the device

`tir` and `tis` keep the attributes of their object of the device.  The flags of the attributes tell
which of them were read; as long as none was, `query` asks the device, and after that it answers
from the cache.  `create` makes the object and then queries it.

The two classes differ in the attributes and in the mailboxes; that is a `CachedKind`.
-/

namespace Dpcp

open Bits Dcmd Prm

/-- A class that caches attributes of type `A`: the mailboxes of `create` and `query` with their
lengths, where the context stands in the mailbox of `create` and in the out mailbox of `query`, and
how the attributes are filled in from the latter.  `blank` are the attributes after a `memset`, and
`view` those that a context has. -/
structure CachedKind (A : Type) where
  flags : A → BitVec 32
  blank : A
  createMailbox : A → Memory
  createIn : Nat
  createOut : Nat
  createContext : Nat
  queryMailbox : BitVec 32 → Memory
  queryIn : Nat
  queryOut : Nat
  queryContext : Nat
  fill : A → Memory → A
  view : Memory → A
  flags_blank : flags blank = 0
  flags_view : ∀ ctx, flags (view ctx) ≠ 0
  fill_blank : ∀ out, fill blank out = view (slice out queryContext)

/-- `class tir` and `class tis`; `mNumber` is `m_tirn` or `m_tisn`. -/
structure Cached (A : Type) where
  base : Obj
  mAttr : A
  mNumber : BitVec 32

namespace Cached

variable {A : Type} (k : CachedKind A)

/-- The constructors. -/
def new (ctx : Bool) : Cached A :=
  ⟨.new ctx, k.blank, 0⟩

/-- `tir::query` and `tis::query`; `out` is what the output parameter held. -/
def query (c : Cached A) (out : A) (answers : Answers) : Option (Status × Cached A × A) :=
  if c.base.getHandle ≠ .ok then
    some (.errInvalidParam, c, out)
  else if k.flags c.mAttr ≠ 0 then
    some (.ok, c, c.mAttr)
  else do
    let (ret, base, m) ←
      c.base.query answers (k.queryMailbox c.mNumber) k.queryIn zeros k.queryOut
    let c := { c with base := base }
    match ret with
    | .ok =>
        let c := { c with mAttr := k.fill c.mAttr m }
        some (.ok, c, c.mAttr)
    | ret => some (ret, c, k.blank)

/-- `tir::create` and `tis::create`.  The query at the end has the cache itself as its output
parameter, so that it clears the cache before it asks the device. -/
def create (c : Cached A) (attr : A) (device : Device) (answers : Answers) :
    Option (Result (Cached A)) :=
  if c.base.getHandle = .ok then
    some (.errInvalidParam, c)
  else
    let (ret, base, _) :=
      c.base.create device (some (k.createMailbox attr)) k.createIn zeros k.createOut
    let c := { c with base := base }
    match ret with
    | .ok =>
        match c.base.getId c.mNumber with
        | (.ok, number) => do
            let c := { c with mNumber := number }
            let c := { c with mAttr := if k.flags c.mAttr = 0 then k.blank else c.mAttr }
            let (ret, c, attr) ← c.query k c.mAttr answers
            some (ret, { c with mAttr := attr })
        | (ret, _) => some (ret, c)
    | ret => some (ret, c)

variable {k}

/-- What `query` can do: refuse without an object, answer from the cache, or ask the device. -/
theorem query_cases {c c' : Cached A} {out out' : A} {answers : Answers} {ret : Status}
    (h : c.query k out answers = some (ret, c', out')) :
  (c.base.mObjHandle = false ∧ ret = .errInvalidParam ∧ c' = c ∧ out' = out)
    ∨ (c.base.mObjHandle = true ∧ k.flags c.mAttr ≠ 0 ∧ ret = .ok ∧ c' = c ∧ out' = c.mAttr)
    ∨ (c.base.mObjHandle = true ∧ k.flags c.mAttr = 0 ∧ c'.base.Alike c.base
      ∧ (ret ≠ .ok ∧ c'.mAttr = c.mAttr ∧ out' = k.blank
        ∨ ret = .ok ∧ c'.mAttr = out'
          ∧ ∃ m len, out' = k.fill c.mAttr (answers m len).out))
  := by
  simp only [query, Obj.getHandle] at h
  cases hhandle : c.base.mObjHandle with
  | false =>
      simp only [hhandle, Bool.false_eq_true, if_false, ne_eq, reduceCtorEq, not_false_eq_true,
        if_true, Option.some.injEq, Prod.mk.injEq] at h
      obtain ⟨rfl, rfl, rfl⟩ := h
      exact .inl ⟨rfl, rfl, rfl, rfl⟩
  | true =>
      simp only [hhandle, if_true, ne_eq, not_true_eq_false, if_false] at h
      split at h
      · rename_i hflags
        cases h
        exact .inr (.inl ⟨rfl, hflags, rfl, rfl, rfl⟩)
      · rename_i hflags
        obtain ⟨⟨ret', base, m⟩, hquery, h⟩ := Option.bind_eq_some_iff.mp h
        refine .inr (.inr ⟨rfl, not_not.mp hflags, ?_⟩)
        cases ret' with
        | ok =>
            cases h
            obtain ⟨-, rfl⟩ := Obj.command_eq_ok (by decide) hquery
            exact ⟨Obj.alike_of_command hquery, .inr ⟨rfl, rfl, _, _, rfl⟩⟩
        | _ =>
            cases h
            exact ⟨Obj.alike_of_command hquery, .inl ⟨by simp, rfl, rfl⟩⟩

/-- A query that succeeds has an object. -/
theorem handle_of_query {c c' : Cached A} {out out' : A} {answers : Answers}
    (h : c.query k out answers = some (.ok, c', out')) :
  c.base.mObjHandle = true
  := by
  rcases query_cases h with ⟨-, hret, -⟩ | ⟨hhandle, -⟩ | ⟨hhandle, -⟩
  · cases hret
  · apply hhandle
  · apply hhandle

/-- What `create` can do: refuse with an object, fail before it comes to the query, or return what
the query does, which clears the cache if it asks the device. -/
theorem create_cases {c c' : Cached A} {attr : A} {device : Device} {answers : Answers}
    {ret : Status} (h : c.create k attr device answers = some (ret, c')) :
  (c.base.mObjHandle = true ∧ ret ≠ .ok ∧ c' = c)
    ∨ (c.base.mObjHandle = false ∧ ret ≠ .ok ∧ c'.mAttr = c.mAttr)
    ∨ (c.base.mObjHandle = false ∧ ∃ (made c'' : Cached A) (attr' : A),
      made.mAttr = (if k.flags c.mAttr = 0 then k.blank else c.mAttr)
        ∧ made.query k made.mAttr answers = some (ret, c'', attr')
        ∧ c' = { c'' with mAttr := attr' })
  := by
  simp only [create, Obj.getHandle] at h
  cases hhandle : c.base.mObjHandle with
  | true =>
      simp only [hhandle, if_true, Option.some.injEq, Prod.mk.injEq] at h
      obtain ⟨rfl, rfl⟩ := h
      exact .inl ⟨rfl, by decide, rfl⟩
  | false =>
      simp only [hhandle, Bool.false_eq_true, if_false, reduceCtorEq] at h
      right
      split at h
      · split at h
        · obtain ⟨⟨ret', c'', out⟩, hquery, h⟩ := Option.bind_eq_some_iff.mp h
          cases h
          exact .inr ⟨rfl, _, _, _, rfl, hquery, rfl⟩
        · rename_i hret _
          obtain ⟨rfl, rfl⟩ := Prod.mk.inj (Option.some.inj h)
          exact .inl ⟨rfl, hret, rfl⟩
      · rename_i hret
        obtain ⟨rfl, rfl⟩ := Prod.mk.inj (Option.some.inj h)
        exact .inl ⟨rfl, hret, rfl⟩

/-! ### The cache and the context -/

/-- The answers of a device that fills in the context of the object. -/
def echo (k : CachedKind A) (ctx : Memory) (answer : Answer) : Answers :=
  fun _ _ => ⟨answer.err, splice answer.out k.queryContext ctx⟩

/-- The cache goes with the context `ctx` of the device: what was read is what the context says, and
as long as nothing was read the next reading does not depend on the cache. -/
structure Coherent (k : CachedKind A) (c : Cached A) (ctx : Memory) : Prop where
  unread : k.flags c.mAttr = 0 → ∀ out, k.fill c.mAttr out = k.fill k.blank out
  read : k.flags c.mAttr ≠ 0 → c.base.mObjHandle = true ∧ c.mAttr = k.view ctx

theorem coherent_new (ctx : Bool) (m : Memory) :
  (new k ctx).Coherent k m
  := by
  constructor
  · intro _ _
    rfl
  · intro h
    cases h k.flags_blank

/-- A cache with what the context says. -/
theorem coherent_of_view {c : Cached A} {ctx : Memory} (hhandle : c.base.mObjHandle = true)
    (hattr : c.mAttr = k.view ctx) :
  c.Coherent k ctx
  := by
  constructor
  · intro h
    rw [hattr] at h
    cases k.flags_view ctx h
  · intro _
    exact ⟨hhandle, hattr⟩

/-- A query keeps the cache coherent, and what it reports is what the context says. -/
theorem query_coherent {c c' : Cached A} {ctx : Memory} (hc : c.Coherent k ctx) {out out' : A}
    {answer : Answer} {ret : Status}
    (h : c.query k out (echo k ctx answer) = some (ret, c', out')) :
  c'.Coherent k ctx ∧ c'.base.mObjHandle = c.base.mObjHandle ∧ (ret = .ok → out' = k.view ctx)
  := by
  rcases query_cases h with ⟨-, rfl, rfl, -⟩ | ⟨-, hflags, rfl, rfl, rfl⟩
    | ⟨hhandle, hflags, hbase, ⟨hret, hattr, -⟩ | ⟨rfl, hattr, m, len, hout⟩⟩
  · exact ⟨hc, rfl, nofun⟩
  · exact ⟨hc, rfl, fun _ => (hc.read hflags).2⟩
  · refine ⟨⟨?_, ?_⟩, hbase.objHandle, fun hok => absurd hok hret⟩
    · rw [hattr]
      apply hc.unread
    · rw [hattr]
      intro hread
      cases hread hflags
  · have hbase := hbase.objHandle
    have hview : out' = k.view ctx := by
      rw [hout, hc.unread hflags, k.fill_blank, echo, slice_splice]
    exact ⟨coherent_of_view (hbase.trans hhandle) (hattr.trans hview), hbase, fun _ => hview⟩

/-- The context that `create` gives to the device. -/
def createdContext (k : CachedKind A) (attr : A) : Memory :=
  slice (k.createMailbox attr) k.createContext

/-- A cleared cache goes with any context. -/
theorem coherent_of_blank {c : Cached A} (h : c.mAttr = k.blank) (ctx : Memory) :
  c.Coherent k ctx
  := by
  constructor
  · intro _ _
    rw [h]
  · intro hread
    rw [h] at hread
    cases hread k.flags_blank

/-- Without an object nothing was read. -/
theorem Coherent.flags_of_no_handle {c : Cached A} {ctx : Memory} (hc : c.Coherent k ctx)
    (hhandle : c.base.mObjHandle = false) :
  k.flags c.mAttr = 0
  := by
  by_contra hflags
  cases hhandle.symm.trans (hc.read hflags).1

/-- `create` keeps the cache coherent, with the context of the object that is there after it. -/
theorem create_coherent {c c' : Cached A} {ctx : Memory} (hc : c.Coherent k ctx) {attr : A}
    {device : Device} {answer : Answer} {ret : Status}
    (h : c.create k attr device (echo k (createdContext k attr) answer) = some (ret, c')) :
  c'.Coherent k (if c.base.mObjHandle then ctx else createdContext k attr)
  := by
  rcases create_cases h with ⟨hhandle, -, rfl⟩ | ⟨hhandle, -, hattr⟩
    | ⟨hhandle, made, c'', attr', hmade, hquery, rfl⟩
  · rw [hhandle, if_pos rfl]
    apply hc
  · have hflags := hc.flags_of_no_handle hhandle
    constructor
    · rw [hattr]
      apply hc.unread
    · rw [hattr]
      intro hread
      cases hread hflags
  · rw [if_pos (hc.flags_of_no_handle hhandle)] at hmade
    rw [hhandle, if_neg nofun]
    have hblank := coherent_of_blank hmade (createdContext k attr)
    rcases query_cases hquery with ⟨-, -, -, rfl⟩ | ⟨-, hread, -⟩
      | ⟨-, -, -, ⟨-, -, rfl⟩ | ⟨-, rfl, -⟩⟩
    · apply coherent_of_blank
      apply hmade
    · rw [hmade] at hread
      cases hread k.flags_blank
    · apply coherent_of_blank rfl
    · exact (query_coherent hblank hquery).1

/-- After a creation that succeeded the cache holds what the context says. -/
theorem create_eq_ok {c c' : Cached A} {ctx : Memory} (hc : c.Coherent k ctx) {attr : A}
    {device : Device} {answer : Answer}
    (h : c.create k attr device (echo k (createdContext k attr) answer) = some (.ok, c')) :
  c.base.mObjHandle = false ∧ c'.base.mObjHandle = true
    ∧ c'.mAttr = k.view (createdContext k attr)
  := by
  rcases create_cases h with ⟨-, hret, -⟩ | ⟨-, hret, -⟩
    | ⟨hhandle, made, c'', attr', hmade, hquery, rfl⟩
  · cases hret rfl
  · cases hret rfl
  · rw [if_pos (hc.flags_of_no_handle hhandle)] at hmade
    have hblank := coherent_of_blank hmade (createdContext k attr)
    obtain ⟨-, hbase, hattr⟩ := query_coherent hblank hquery
    refine ⟨hhandle, ?_, hattr rfl⟩
    rw [hbase]
    apply handle_of_query hquery

/-- Without an object the cache goes with any context. -/
theorem Coherent.of_no_handle {c : Cached A} {ctx : Memory} (hc : c.Coherent k ctx)
    (hhandle : c.base.mObjHandle = false) (ctx' : Memory) :
  c.Coherent k ctx'
  := by
  refine ⟨hc.unread, ?_⟩
  intro hread
  cases hread (hc.flags_of_no_handle hhandle)

/-- Nothing that coherence is about is changed. -/
theorem Coherent.of_same {c c' : Cached A} {ctx ctx' : Memory} (hc : c.Coherent k ctx)
    (hhandle : c'.base.mObjHandle = c.base.mObjHandle) (hattr : c'.mAttr = c.mAttr)
    (hview : k.view ctx' = k.view ctx) :
  c'.Coherent k ctx'
  := by
  constructor
  · rw [hattr]
    apply hc.unread
  · rw [hattr, hhandle, hview]
    apply hc.read

/-- `query` has a result. -/
theorem query_isSome (c : Cached A) (out : A) (answers : Answers) :
  (c.query k out answers).isSome = true
  := by
  simp only [query, Obj.getHandle]
  cases hhandle : c.base.mObjHandle with
  | false => rfl
  | true =>
      simp only [if_true, ne_eq, not_true_eq_false, if_false]
      split
      · rfl
      · obtain ⟨⟨ret, base, m⟩, hquery⟩ := Option.isSome_iff_exists.mp
          (Obj.command_isSome hhandle .errQuery answers (k.queryMailbox c.mNumber) k.queryIn zeros
            k.queryOut)
        rw [Obj.query, hquery]
        cases ret <;> rfl

/-! ### An object and the device -/

/-- The objects differ only in what they remember of the last command. -/
structure Alike (c c' : Cached A) : Prop where
  base : c.base.Alike c'.base
  attr : c.mAttr = c'.mAttr
  number : c.mNumber = c'.mNumber

theorem Alike.query {c c' : Cached A} (h : c.Alike c') (out : A) (answers : Answers) :
  Option.Rel (fun r r' => r.1 = r'.1 ∧ r.2.1.Alike r'.2.1 ∧ r.2.2 = r'.2.2)
    (c.query k out answers) (c'.query k out answers)
  := by
  obtain ⟨base, attr, number⟩ := c
  obtain ⟨base', attr', number'⟩ := c'
  obtain ⟨hbase, rfl, rfl⟩ := h
  have hhandle : base.getHandle = base'.getHandle := hbase.getHandle
  simp only [Cached.query, hhandle]
  by_cases hok : base'.getHandle ≠ .ok
  · rw [if_pos hok, if_pos hok]
    exact .some ⟨rfl, ⟨hbase, rfl, rfl⟩, rfl⟩
  · by_cases hflags : k.flags attr ≠ 0
    · rw [if_neg hok, if_neg hok, if_pos hflags, if_pos hflags]
      exact .some ⟨rfl, ⟨hbase, rfl, rfl⟩, rfl⟩
    · rw [if_neg hok, if_neg hok, if_neg hflags, if_neg hflags]
      apply rel_bind (hbase.command .errQuery answers (k.queryMailbox number) k.queryIn zeros
        k.queryOut)
      rintro ⟨ret, base, m⟩ ⟨_, base', _⟩ ⟨rfl, hbase, rfl⟩
      cases ret with
      | ok => exact .some ⟨rfl, ⟨hbase, rfl, rfl⟩, rfl⟩
      | _ => exact .some ⟨rfl, ⟨hbase, rfl, rfl⟩, rfl⟩

theorem Alike.create {c c' : Cached A} (h : c.Alike c') (attr : A) (device : Device)
    (answers : Answers) :
  Option.Rel (fun r r' => r.1 = r'.1 ∧ r.2.Alike r'.2) (c.create k attr device answers)
    (c'.create k attr device answers)
  := by
  obtain ⟨base, mAttr, number⟩ := c
  obtain ⟨base', mAttr', number'⟩ := c'
  obtain ⟨hbase, rfl, rfl⟩ := h
  have hhandle : base.getHandle = base'.getHandle := hbase.getHandle
  simp only [Cached.create, hhandle]
  by_cases hok : base'.getHandle = .ok
  · rw [if_pos hok, if_pos hok]
    exact .some ⟨rfl, ⟨hbase, rfl, rfl⟩⟩
  · rw [if_neg hok, if_neg hok]
    obtain ⟨hret, hmade⟩ := hbase.create device (some (k.createMailbox attr)) k.createIn zeros
      k.createOut
    generalize base.create device (some (k.createMailbox attr)) k.createIn zeros k.createOut = r
      at hret hmade
    generalize base'.create device (some (k.createMailbox attr)) k.createIn zeros k.createOut = r'
      at hret hmade
    obtain ⟨ret, base, m⟩ := r
    obtain ⟨_, base', m'⟩ := r'
    obtain rfl := hret
    cases ret with
    | ok =>
        simp only [hmade.getId number]
        generalize base'.getId number = reply
        obtain ⟨ret, number⟩ := reply
        cases ret with
        | ok =>
            have halike (attr : A) :
                (⟨base, attr, number⟩ : Cached A).Alike ⟨base', attr, number⟩ :=
              ⟨hmade, rfl, rfl⟩
            apply rel_bind ((halike _).query _ answers)
            rintro ⟨ret, c, out⟩ ⟨_, c', _⟩ ⟨rfl, hc, rfl⟩
            exact .some ⟨rfl, ⟨hc.base, rfl, hc.number⟩⟩
        | _ => exact .some ⟨rfl, ⟨hmade, rfl, rfl⟩⟩
    | _ => exact .some ⟨rfl, ⟨hmade, rfl, rfl⟩⟩

/-- An object, the context it has in the device, and the attributes it was made with. -/
structure World (A : Type) where
  obj : Cached A
  ctx : Memory
  made : A

namespace World

/-- A new object, and no context yet. -/
def new (k : CachedKind A) (ctx : Bool) : World A :=
  ⟨.new k ctx, zeros, k.blank⟩

/-- A call of `create`.  If there is an object after it that was not there before, the device has
the context from the mailbox. -/
def create (k : CachedKind A) (w : World A) (attr : A) (device : Device) (answer : Answer) :
    World A :=
  (w.obj.create k attr device (echo k (createdContext k attr) answer)).elim w fun (_, obj) =>
    if !w.obj.base.mObjHandle && obj.base.mObjHandle then
      ⟨obj, createdContext k attr, attr⟩
    else
      { w with obj := obj }

/-- A call of `query`. -/
def query (k : CachedKind A) (w : World A) (out : A) (answer : Answer) : World A :=
  (w.obj.query k out (echo k w.ctx answer)).elim w fun (_, obj, _) => { w with obj := obj }

/-- What a call of `query` returns. -/
def report (k : CachedKind A) (w : World A) (out : A) (answer : Answer) : Option (Result A) :=
  (w.obj.query k out (echo k w.ctx answer)).elim none fun (ret, _, attr) => some (ret, attr)

/-- The cache goes with the context of the device. -/
def Coherent (k : CachedKind A) (w : World A) : Prop :=
  w.obj.Coherent k w.ctx

theorem coherent_new (ctx : Bool) :
  (new k ctx).Coherent k
  := Cached.coherent_new ctx zeros

theorem Coherent.query {w : World A} (h : w.Coherent k) (out : A) (answer : Answer) :
  (w.query k out answer).Coherent k
  := by
  cases hquery : w.obj.query k out (echo k w.ctx answer) with
  | none =>
      rw [World.query, hquery]
      apply h
  | some r =>
      rw [World.query, hquery]
      exact (query_coherent h hquery).1

theorem Coherent.create {w : World A} (h : w.Coherent k) (attr : A) (device : Device)
    (answer : Answer) :
  (w.create k attr device answer).Coherent k
  := by
  cases hcreate : w.obj.create k attr device (echo k (createdContext k attr) answer) with
  | none =>
      rw [World.create, hcreate]
      apply h
  | some r =>
      have hnew := create_coherent h hcreate
      simp only [World.create, hcreate, Option.elim_some]
      cases hold : w.obj.base.mObjHandle with
      | true =>
          rw [hold, if_pos rfl] at hnew
          apply hnew
      | false =>
          rw [hold, if_neg nofun] at hnew
          split
          · apply hnew
          · rename_i hhandle
            apply hnew.of_no_handle
            simpa using hhandle

/-- A query that succeeds reports what the context says. -/
theorem Coherent.report {w : World A} (h : w.Coherent k) {out attr : A} {answer : Answer}
    (hreport : w.report k out answer = some (.ok, attr)) :
  attr = k.view w.ctx
  := by
  cases hquery : w.obj.query k out (echo k w.ctx answer) with
  | none =>
      rw [World.report, hquery] at hreport
      cases hreport
  | some r =>
      obtain ⟨ret, obj, out'⟩ := r
      rw [World.report, hquery] at hreport
      cases hreport
      exact (query_coherent h hquery).2.2 rfl

/-- A query that succeeds has an object. -/
theorem handle_of_report {w : World A} {out attr : A} {answer : Answer}
    (hreport : w.report k out answer = some (.ok, attr)) :
  w.obj.base.mObjHandle = true
  := by
  cases hquery : w.obj.query k out (echo k w.ctx answer) with
  | none =>
      rw [World.report, hquery] at hreport
      cases hreport
  | some r =>
      obtain ⟨ret, obj, out'⟩ := r
      rw [World.report, hquery] at hreport
      cases hreport
      apply handle_of_query hquery

/-- A query leaves the handle. -/
theorem query_handle (w : World A) (out : A) (answer : Answer) :
  (w.query k out answer).obj.base.mObjHandle = w.obj.base.mObjHandle
  := by
  cases hquery : w.obj.query k out (echo k w.ctx answer) with
  | none => rw [World.query, hquery, Option.elim_none]
  | some r =>
      obtain ⟨ret, obj, attr⟩ := r
      rw [World.query, hquery, Option.elim_some]
      rcases query_cases hquery with ⟨-, -, rfl, -⟩ | ⟨-, -, -, rfl, -⟩ | ⟨-, -, hbase, -⟩
      · rfl
      · rfl
      · apply hbase.objHandle

/-- A query leaves the device and what was asked of it. -/
theorem query_made (w : World A) (out : A) (answer : Answer) :
  (w.query k out answer).ctx = w.ctx ∧ (w.query k out answer).made = w.made
  := by
  rw [World.query]
  cases w.obj.query k out (echo k w.ctx answer) with
  | none => exact ⟨rfl, rfl⟩
  | some r => exact ⟨rfl, rfl⟩

theorem report_isSome (w : World A) (out : A) (answer : Answer) :
  (w.report k out answer).isSome = true
  := by
  obtain ⟨r, hquery⟩ := Option.isSome_iff_exists.mp
    (query_isSome (k := k) w.obj out (echo k w.ctx answer))
  rw [World.report, hquery]
  rfl

/-- What `create` makes of the context and of the attributes, for a relation between the two that it
establishes. -/
theorem create_made {R : A → Memory → Prop} (hR : ∀ attr, R attr (createdContext k attr))
    {w : World A} (h : w.obj.base.mObjHandle = true → R w.made w.ctx) (attr : A)
    (device : Device) (answer : Answer)
    (hhandle : (w.create k attr device answer).obj.base.mObjHandle = true) :
  R (w.create k attr device answer).made (w.create k attr device answer).ctx
  := by
  simp only [World.create] at hhandle ⊢
  cases hcreate : w.obj.create k attr device (echo k (createdContext k attr) answer) with
  | none =>
      rw [hcreate] at hhandle
      apply h hhandle
  | some r =>
      rw [hcreate] at hhandle
      simp only [Option.elim_some] at hhandle ⊢
      split
      · apply hR
      · rename_i hold
        rw [if_neg hold] at hhandle
        have hobj : r.2.base.mObjHandle = true := hhandle
        apply h
        simpa [hobj] using hold

/-- The object has the context `ctx`, and what it says is in the cache. -/
structure Holds (k : CachedKind A) (w : World A) (ctx : Memory) : Prop where
  handle : w.obj.base.mObjHandle = true
  attr : w.obj.mAttr = k.view ctx

theorem holds_of_create {w : World A} (h : w.Coherent k) {attr : A} {device : Device}
    {answer : Answer} {obj : Cached A}
    (hcreate : w.obj.create k attr device (echo k (createdContext k attr) answer)
      = some (.ok, obj)) :
  (w.create k attr device answer).Holds k (createdContext k attr)
  := by
  obtain ⟨hold, hhandle, hattr⟩ := create_eq_ok h hcreate
  simp only [World.create, hcreate, Option.elim_some, hold, hhandle, Bool.not_false, Bool.and_self,
    if_true]
  exact ⟨hhandle, hattr⟩

/-- A later query answers from the cache. -/
theorem Holds.query_eq {w : World A} {ctx : Memory} (h : w.Holds k ctx) (out : A)
    (answers : Answers) :
  w.obj.query k out answers = some (.ok, w.obj, k.view ctx)
  := by
  have hflags : k.flags w.obj.mAttr ≠ 0 := by
    rw [h.attr]
    apply k.flags_view
  simp only [Cached.query, Obj.getHandle, h.handle, if_true, ne_eq, not_true_eq_false, if_false]
  rw [if_pos hflags, h.attr]

theorem Holds.report {w : World A} {ctx : Memory} (h : w.Holds k ctx) (out : A)
    (answer : Answer) :
  w.report k out answer = some (.ok, k.view ctx)
  := by
  rw [World.report, h.query_eq]
  rfl

theorem Holds.query {w : World A} {ctx : Memory} (h : w.Holds k ctx) (out : A) (answer : Answer) :
  (w.query k out answer).Holds k ctx
  := by
  rw [World.query, h.query_eq]
  exact ⟨h.handle, h.attr⟩

/-- A later creation is refused. -/
theorem Holds.create {w : World A} {ctx : Memory} (h : w.Holds k ctx) (attr : A)
    (device : Device) (answer : Answer) :
  (w.create k attr device answer).Holds k ctx
  := by
  simp only [World.create, Cached.create, Obj.getHandle, h.handle, if_true, Option.elim_some,
    Bool.not_true, Bool.false_and, Bool.false_eq_true, if_false]
  exact ⟨h.handle, h.attr⟩

/-- The worlds differ only in what the object remembers of the last command. -/
structure Alike (w w' : World A) : Prop where
  obj : w.obj.Alike w'.obj
  ctx : w.ctx = w'.ctx
  made : w.made = w'.made

theorem Alike.report {w w' : World A} (h : w.Alike w') (out : A) (answer : Answer) :
  w.report k out answer = w'.report k out answer
  := by
  simp only [World.report, h.ctx]
  apply rel_elim (S := Eq) (h.obj.query out (echo k w'.ctx answer)) rfl
  rintro r r' ⟨hret, -, hout⟩
  simp only [hret, hout]

theorem Alike.query {w w' : World A} (h : w.Alike w') (out : A) (answer : Answer) :
  (w.query k out answer).Alike (w'.query k out answer)
  := by
  simp only [World.query, h.ctx]
  apply rel_elim (h.obj.query out (echo k w'.ctx answer)) h
  rintro r r' ⟨-, hobj, -⟩
  exact ⟨hobj, rfl, h.made⟩

theorem Alike.create {w w' : World A} (h : w.Alike w') (attr : A) (device : Device)
    (answer : Answer) :
  (w.create k attr device answer).Alike (w'.create k attr device answer)
  := by
  simp only [World.create]
  apply rel_elim (h.obj.create attr device (echo k (createdContext k attr) answer)) h
  rintro r r' ⟨-, hobj⟩
  simp only [h.obj.base.objHandle, hobj.base.objHandle]
  split
  · exact ⟨hobj, rfl, rfl⟩
  · exact ⟨hobj, h.ctx, h.made⟩

end World

end Cached

end Dpcp
