import Dpcp.Queue.Basic

/-!
# The domains of an adapter

An adapter works in a protection domain and a transport domain.  The protection domain is made by
`create_ibv_pd` or `create_own_pd`, or set by `set_pd`.  The transport domain is set by `set_td`,
or made by `open`, which makes a protection domain as well if there is none.  Each of these can
fail half-way, and can then be called again.

The objects `pd` and `td` are numbered in the order in which they are made.
-/

namespace Dpcp

open Bits Dcmd Prm Machine

/-- What the world outside decides during a call: whether there is memory for the new objects, the
address of the `ibv_pd` that is allocated, `0` if none is, whether the driver tells the number
of an `ibv_pd`, the device, and whether its initial segment is mapped. -/
structure DomainEnv where
  newPd : Bool
  ibvAllocPd : Nat
  initObj : Bool
  newTd : Bool
  newUarpool : Bool
  device : Device
  hcaIsegMapping : Bool

/-- `class adapter`, as far as its domains go.  An `ibv_pd` is given by its address, `0` if it is
null; `made` counts the `pd` and `td` objects, and `freed` has those that were deleted. -/
structure Domains where
  mPd : Option Nat
  mTd : Option Nat
  mIbvPd : Nat
  mPdId : BitVec 32
  mTdId : BitVec 32
  mUarpool : Option UarCollection
  mOpened : Bool
  made : Nat
  freed : List Nat

/-! ### The objects -/

def mlx5CmdOpAllocPd : BitVec 32 := 0x800
def mlx5CmdOpAllocTransportDomain : BitVec 32 := 0x816

/-- A new object is created by the command `m`, and `obj::get_id` called on it; `id` is what the
output parameter held. -/
def allocId (device : Device) (m : Memory) (inlen outlen : Nat) (id : BitVec 32) :
    Result (BitVec 32) :=
  match (Obj.new true).create device (some m) inlen zeros outlen with
  | (.ok, o, _) => o.getId id
  | (ret, _, _) => (ret, id)

/-- `pd_devx::create`, and `get_id`. -/
def PdDevx.createId (env : DomainEnv) (id : BitVec 32) : Result (BitVec 32) :=
  let m := devxSet zeros 0 AllocPdIn.opcode mlx5CmdOpAllocPd
  allocId env.device m AllocPdIn.bytes AllocPdOut.bytes id

/-- `td::create`, and `get_id`. -/
def Td.createId (env : DomainEnv) (id : BitVec 32) : Result (BitVec 32) :=
  let m := devxSet zeros 0 AllocTransportDomainIn.opcode mlx5CmdOpAllocTransportDomain
  allocId env.device m AllocTransportDomainIn.bytes AllocTransportDomainOut.bytes id

/-- The id is that of an object the device made, or as it was. -/
theorem allocId_cases (device : Device) (m : Memory) (inlen outlen : Nat) (id : BitVec 32) :
  (allocId device m inlen outlen id).1 ≠ .ok ∧ (allocId device m inlen outlen id).2 = id
    ∨ (device.Numbers → (allocId device m inlen outlen id).2 ≠ 0)
  := by
  rw [allocId]
  split
  · rename_i o out hcreate
    right
    intro hnumbers
    obtain ⟨hlive, hhandle, hstatus, hid⟩ := Obj.create_eq_ok hcreate
    rw [Obj.getId_of_live hlive, hid]
    apply hnumbers m inlen hhandle hstatus
  · rename_i ret o out hret _
    left
    exact ⟨fun h => hret h, rfl⟩

/-- `class pd_ibv`. -/
structure PdIbv where
  mIbvPd : Nat
  mPdId : BitVec 32

namespace Domains

-- the number that the driver tells of an `ibv_pd`
variable (pdn : Nat → BitVec 32)

/-- `pd_ibv::create` on an object constructed with `ibvPd`. -/
def createPdIbv (ibvPd : Nat) (env : DomainEnv) : Result PdIbv :=
  let mIbvPd := if ibvPd = 0 then env.ibvAllocPd else ibvPd
  if mIbvPd = 0 then
    (.errCreate, ⟨mIbvPd, 0⟩)
  else if !env.initObj then
    (.errInvalidId, ⟨mIbvPd, 0⟩)
  else
    (.ok, ⟨mIbvPd, pdn mIbvPd⟩)

/-! ### The calls -/

/-- The constructor of `adapter`. -/
def new : Domains :=
  ⟨none, none, 0, 0, 0, none, false, 0, []⟩

/-- A new `pd`, and `m_pd` points to it. -/
def newPd (s : Domains) : Domains :=
  { s with mPd := some s.made, made := s.made + 1 }

/-- A new `td`, and `m_td` points to it. -/
def newTd (s : Domains) : Domains :=
  { s with mTd := some s.made, made := s.made + 1 }

/-- `adapter::set_pd`. -/
def setPd (s : Domains) (pdId : BitVec 32) (ibvPd : Nat) : Result Domains :=
  if pdId = 0 ∨ ibvPd = 0 then
    (.errInvalidParam, s)
  else
    (.ok, { s with mPdId := pdId, mIbvPd := ibvPd })

/-- `adapter::create_ibv_pd`. -/
def createIbvPd (s : Domains) (ibvPd : Nat) (env : DomainEnv) : Result Domains :=
  if s.mPd.isSome then
    if s.mIbvPd = ibvPd then (.ok, s) else (.errCreate, s)
  else if !env.newPd then
    (.errNoMemory, s)
  else
    match createPdIbv pdn ibvPd env with
    | (.ok, pd) => s.newPd.setPd pd.mPdId pd.mIbvPd
    | (ret, _) => (ret, s.newPd)

/-- `adapter::create_own_pd`, which does not look at `m_pd`. -/
def createOwnPd (s : Domains) (env : DomainEnv) : Result Domains :=
  if !env.newPd then
    (.errNoMemory, { s with mPd := none })
  else
    let (ret, pdId) := PdDevx.createId env s.mPdId
    (ret, { s.newPd with mPdId := pdId })

/-- `adapter::set_td`. -/
def setTd (s : Domains) (tdn : BitVec 32) : Result Domains :=
  if tdn = 0 then
    (.errInvalidParam, s)
  else
    (.ok, { s with mTdId := tdn, mTd := none, freed := s.mTd.toList ++ s.freed })

/-- The part of `open` that makes a protection domain. -/
def openPd (s : Domains) (env : DomainEnv) : Result Domains :=
  if s.mPdId = 0 then s.createIbvPd pdn 0 env else (.ok, s)

/-- The part of `open` that makes a transport domain, which does not look at `m_td`. -/
def openTd (s : Domains) (env : DomainEnv) : Result Domains :=
  if s.mTdId ≠ 0 then
    (.ok, s)
  else if !env.newTd then
    (.errNoMemory, { s with mTd := none })
  else
    let (ret, tdId) := Td.createId env s.mTdId
    (ret, { s.newTd with mTdId := tdId })

/-- The part of `open` that makes the UAR pool. -/
def openUarpool (s : Domains) (env : DomainEnv) : Result Domains :=
  match s.mUarpool with
  | some _ => (.ok, s)
  | none => if env.newUarpool then (.ok, { s with mUarpool := some .new }) else (.errNoMemory, s)

/-- The rest of `open`: the UAR pool and the mapping of the initial segment. -/
def openRest (s : Domains) (env : DomainEnv) : Result Domains :=
  (s.openUarpool env).andThen fun s =>
    if !env.hcaIsegMapping then (.errNoContext, s) else (.ok, { s with mOpened := true })

/-- `adapter::open`. -/
def openAdapter (s : Domains) (env : DomainEnv) : Result Domains :=
  if s.mOpened then
    (.ok, s)
  else
    (s.openPd pdn env).andThen fun s => (s.openTd env).andThen fun s => s.openRest env

/-- The adapter as its factories see it. -/
def adapter (s : Domains) : Adapter :=
  ⟨true, s.mUarpool, s.mPdId, s.mIbvPd ≠ 0⟩

end Domains

/-- A call on the adapter. -/
inductive DomainCall where
  | openAdapter (env : DomainEnv)
  | createIbvPd (ibvPd : Nat) (env : DomainEnv)
  | createOwnPd (env : DomainEnv)
  | setPd (pdId : BitVec 32) (ibvPd : Nat)
  | setTd (tdn : BitVec 32)

/-- The domains that the device makes during the call get numbers other than zero. -/
def DomainCall.Numbers : DomainCall → Prop
  | openAdapter env | createIbvPd _ env | createOwnPd env => env.device.Numbers
  | setPd _ _ | setTd _ => True

namespace Domains

variable (pdn : Nat → BitVec 32)

/-- The adapter after a call. -/
def step (s : Domains) : DomainCall → Domains
  | .openAdapter env => (s.openAdapter pdn env).2
  | .createIbvPd ibvPd env => (s.createIbvPd pdn ibvPd env).2
  | .createOwnPd env => (s.createOwnPd env).2
  | .setPd pdId ibvPd => (s.setPd pdId ibvPd).2
  | .setTd tdn => (s.setTd tdn).2

/-! ### What the calls can do -/

/-- The ways in which `create_ibv_pd` ends. -/
inductive IbvPdEffect (s : Domains) (ibvPd : Nat) : Result Domains → Prop where
  | already : s.mPd ≠ none → s.mIbvPd = ibvPd → IbvPdEffect s ibvPd (.ok, s)
  | other : s.mPd ≠ none → s.mIbvPd ≠ ibvPd → IbvPdEffect s ibvPd (.errCreate, s)
  | noMemory : s.mPd = none → IbvPdEffect s ibvPd (.errNoMemory, s)
  | failed {ret : Status} : s.mPd = none → ret ≠ .ok → IbvPdEffect s ibvPd (ret, s.newPd)
  | made {mIbvPd : Nat} : s.mPd = none → mIbvPd ≠ 0 → pdn mIbvPd ≠ 0 →
      IbvPdEffect s ibvPd (.ok, { s.newPd with mPdId := pdn mIbvPd, mIbvPd := mIbvPd })

theorem createPdIbv_eq_ok {ibvPd : Nat} {env : DomainEnv} {pd : PdIbv}
    (h : createPdIbv pdn ibvPd env = (.ok, pd)) :
  pd.mIbvPd ≠ 0 ∧ pd.mPdId = pdn pd.mIbvPd
  := by
  simp only [createPdIbv] at h
  generalize (if ibvPd = 0 then env.ibvAllocPd else ibvPd) = mIbvPd at h
  split at h
  · cases h
  · rename_i hnull
    split at h
    · cases h
    · cases h
      exact ⟨hnull, rfl⟩

theorem effect_createIbvPd (s : Domains) (ibvPd : Nat) (env : DomainEnv) :
  s.IbvPdEffect pdn ibvPd (s.createIbvPd pdn ibvPd env)
  := by
  rw [createIbvPd]
  split
  · rename_i hsome
    have hpd : s.mPd ≠ none := Option.isSome_iff_ne_none.mp hsome
    split
    · rename_i hsame
      apply IbvPdEffect.already hpd hsame
    · rename_i hother
      apply IbvPdEffect.other hpd hother
  · rename_i hnone
    have hpd : s.mPd = none := by
      simpa using hnone
    split
    · apply IbvPdEffect.noMemory hpd
    · split
      · rename_i pd hcreate
        obtain ⟨hnull, hid⟩ := createPdIbv_eq_ok pdn hcreate
        rw [setPd]
        split
        · apply IbvPdEffect.failed hpd
          decide
        · rename_i hset
          rw [hid] at hset ⊢
          apply IbvPdEffect.made hpd hnull
          intro hzero
          apply hset (.inl hzero)
      · rename_i ret pd hret _
        apply IbvPdEffect.failed hpd
        intro h
        apply hret h

/-! ### Opened adapters -/

/-- The `create_ibv_pd` that is made in a call, with its argument. -/
def ibvPdCall (s : Domains) : DomainCall → Option (Nat × DomainEnv)
  | .createIbvPd ibvPd env => some (ibvPd, env)
  | .openAdapter env => if s.mOpened ∨ s.mPdId ≠ 0 then none else some (0, env)
  | _ => none

/-- The `create_ibv_pd` that is made in a call leaves a protection domain if it succeeds. -/
def GivesPd (s : Domains) (c : DomainCall) : Prop :=
  ∀ ibvPd env, s.ibvPdCall c = some (ibvPd, env) → (s.createIbvPd pdn ibvPd env).1 = .ok →
    (s.createIbvPd pdn ibvPd env).2.mPdId ≠ 0

/-- An adapter that is opened has a protection domain, a transport domain and a UAR pool. -/
def Usable (s : Domains) : Prop :=
  s.mOpened = true → s.mPdId ≠ 0 ∧ s.mTdId ≠ 0 ∧ s.mUarpool ≠ none

/-- The factories of such an adapter find a UAR pool and a protection domain. -/
theorem Usable.factories {s : Domains} (h : s.Usable) (hopened : s.mOpened = true)
    (env : QueueEnv) :
  (s.adapter.makeUarpool env).isSome = true ∧ s.adapter.mPdId ≠ 0
  := by
  obtain ⟨hpd, -, hpool⟩ := h hopened
  refine ⟨?_, hpd⟩
  rw [Adapter.makeUarpool_isSome]
  exact .inl hpool

/-- A `create_ibv_pd` with the null pointer is not made while there is a `pd` object, but no
number. -/
def AsksAfresh (s : Domains) (c : DomainCall) : Prop :=
  ∀ env, s.ibvPdCall c = some (0, env) → s.mPd = none ∨ s.mPdId ≠ 0

/-- What every call keeps. -/
structure Sound (s : Domains) : Prop where
  pdOfIbvPd : s.mIbvPd ≠ 0 → s.mPdId ≠ 0
  usable : s.Usable

/-- A successful `create_ibv_pd` leaves a protection domain, unless it finds a `pd` object that has
none. -/
theorem createIbvPd_pdId_iff {s : Domains} (hs : s.Sound) (ibvPd : Nat) (env : DomainEnv) :
  ((s.createIbvPd pdn ibvPd env).1 = .ok → (s.createIbvPd pdn ibvPd env).2.mPdId ≠ 0)
    ↔ (ibvPd = 0 → s.mPd = none ∨ s.mPdId ≠ 0)
  := by
  have heffect := effect_createIbvPd pdn s ibvPd env
  generalize s.createIbvPd pdn ibvPd env = r at heffect
  cases heffect with
  | already hpd hsame =>
      constructor
      · intro h _
        exact .inr (h rfl)
      · intro h _
        by_cases hnull : ibvPd = 0
        · apply (h hnull).resolve_left hpd
        · apply hs.pdOfIbvPd
          rw [hsame]
          apply hnull
  | other hpd hother =>
      apply iff_of_true
      · intro hret
        cases hret
      · rintro rfl
        exact .inr (hs.pdOfIbvPd hother)
  | noMemory hpd =>
      apply iff_of_true
      · intro hret
        cases hret
      · intro _
        exact .inl hpd
  | failed hpd hfail =>
      apply iff_of_true
      · intro hret
        cases hfail hret
      · intro _
        exact .inl hpd
  | made hpd _ hpdn =>
      apply iff_of_true
      · intro _
        apply hpdn
      · intro _
        exact .inl hpd

theorem givesPd_iff {s : Domains} (hs : s.Sound) (c : DomainCall) :
  s.GivesPd pdn c ↔ s.AsksAfresh c
  := by
  constructor
  · intro h env hcall
    apply (createIbvPd_pdId_iff pdn hs 0 env).mp (h 0 env hcall) rfl
  · intro h ibvPd env hcall
    apply (createIbvPd_pdId_iff pdn hs ibvPd env).mpr
    rintro rfl
    apply h env hcall

theorem sound_createIbvPd {s : Domains} (hs : s.Sound) (ibvPd : Nat) (env : DomainEnv) :
  (s.createIbvPd pdn ibvPd env).2.Sound
  := by
  have heffect := effect_createIbvPd pdn s ibvPd env
  generalize s.createIbvPd pdn ibvPd env = r at heffect
  cases heffect with
  | already _ _ => apply hs
  | other _ _ => apply hs
  | noMemory _ => apply hs
  | failed _ _ => exact ⟨hs.pdOfIbvPd, hs.usable⟩
  | made _ _ hpdn => exact ⟨fun _ => hpdn, fun hopened => ⟨hpdn, (hs.usable hopened).2⟩⟩

theorem sound_createOwnPd {s : Domains} (hs : s.Sound) {env : DomainEnv}
    (hnumbers : env.device.Numbers) :
  (s.createOwnPd env).2.Sound
  := by
  rw [createOwnPd]
  split
  · exact ⟨hs.pdOfIbvPd, hs.usable⟩
  · have hid : s.mPdId ≠ 0 → (PdDevx.createId env s.mPdId).2 ≠ 0 := by
      intro hpd
      rcases allocId_cases env.device _ _ _ s.mPdId with ⟨-, hsame⟩ | hmade
      · rw [PdDevx.createId, hsame]
        apply hpd
      · apply hmade hnumbers
    constructor
    · intro hibv
      apply hid (hs.pdOfIbvPd hibv)
    · intro hopened
      obtain ⟨hpd, htd, hpool⟩ := hs.usable hopened
      exact ⟨hid hpd, htd, hpool⟩

theorem sound_setPd {s : Domains} (hs : s.Sound) (pdId : BitVec 32) (ibvPd : Nat) :
  (s.setPd pdId ibvPd).2.Sound
  := by
  rw [setPd]
  split
  · apply hs
  · rename_i hset
    obtain ⟨hpd, -⟩ := not_or.mp hset
    exact ⟨fun _ => hpd, fun hopened => ⟨hpd, (hs.usable hopened).2⟩⟩

theorem sound_setTd {s : Domains} (hs : s.Sound) (tdn : BitVec 32) :
  (s.setTd tdn).2.Sound
  := by
  rw [setTd]
  split
  · apply hs
  · rename_i htd
    refine ⟨hs.pdOfIbvPd, ?_⟩
    intro hopened
    obtain ⟨hpd, -, hpool⟩ := hs.usable hopened
    exact ⟨hpd, htd, hpool⟩

/-- What the parts of `open` keep before the adapter is opened. -/
structure Opening (s : Domains) : Prop where
  pdOfIbvPd : s.mIbvPd ≠ 0 → s.mPdId ≠ 0
  notOpened : s.mOpened = false

theorem Opening.sound {s : Domains} (hs : s.Opening) :
  s.Sound
  := by
  refine ⟨hs.pdOfIbvPd, ?_⟩
  intro hopened
  rw [hs.notOpened] at hopened
  cases hopened

theorem opening_openPd {s : Domains} (hs : s.Opening) (env : DomainEnv) :
  (s.openPd pdn env).2.Opening
  := by
  rw [openPd]
  split
  · have heffect := effect_createIbvPd pdn s 0 env
    refine ⟨(sound_createIbvPd pdn hs.sound 0 env).pdOfIbvPd, ?_⟩
    generalize s.createIbvPd pdn 0 env = r at heffect
    cases heffect <;> apply hs.notOpened
  · apply hs

theorem opening_openTd {s : Domains} (hs : s.Opening) (env : DomainEnv) :
  (s.openTd env).2.Opening ∧ (s.openTd env).2.mPdId = s.mPdId
    ∧ (env.device.Numbers → (s.openTd env).1 = .ok → (s.openTd env).2.mTdId ≠ 0)
  := by
  rw [openTd]
  split
  · rename_i htd
    exact ⟨hs, rfl, fun _ _ => htd⟩
  · split
    · exact ⟨⟨hs.pdOfIbvPd, hs.notOpened⟩, rfl, fun _ hret => by cases hret⟩
    · refine ⟨⟨hs.pdOfIbvPd, hs.notOpened⟩, rfl, ?_⟩
      intro hnumbers hret
      rcases allocId_cases env.device _ _ _ s.mTdId with ⟨hfail, -⟩ | hmade
      · cases hfail hret
      · apply hmade hnumbers

/-- The UAR pool is made, or not, and is there at the end if this succeeds. -/
theorem openUarpool_eq (s : Domains) (env : DomainEnv) :
  ∃ pool, (s.openUarpool env).2 = { s with mUarpool := pool }
    ∧ ((s.openUarpool env).1 = .ok → pool ≠ none)
  := by
  rw [openUarpool]
  split
  · rename_i pool hpool
    exact ⟨some pool, by rw [← hpool], fun _ => Option.some_ne_none _⟩
  · rename_i hpool
    split
    · exact ⟨some .new, rfl, fun _ => Option.some_ne_none _⟩
    · exact ⟨none, by rw [← hpool], fun hret => by cases hret⟩

/-- The rest of `open` makes the UAR pool, and opens the adapter if there is one. -/
theorem openRest_eq (s : Domains) (env : DomainEnv) :
  ∃ pool opened, (s.openRest env).2 = { s with mUarpool := pool, mOpened := opened }
    ∧ (opened = s.mOpened ∨ pool ≠ none)
  := by
  obtain ⟨pool, hpool, hsome⟩ := openUarpool_eq s env
  refine Result.andThen_inv (P := fun s' => ∃ pool opened,
    s' = { s with mUarpool := pool, mOpened := opened } ∧ (opened = s.mOpened ∨ pool ≠ none)) ?_ ?_
  · intro _
    exact ⟨pool, s.mOpened, hpool, .inl rfl⟩
  · intro hret
    rw [hpool]
    split
    · exact ⟨pool, s.mOpened, rfl, .inl rfl⟩
    · exact ⟨pool, true, rfl, .inr (hsome hret)⟩

theorem sound_openRest {s : Domains} (hs : s.Opening) (hpd : s.mPdId ≠ 0) (htd : s.mTdId ≠ 0)
    (env : DomainEnv) :
  (s.openRest env).2.Sound
  := by
  obtain ⟨pool, opened, heq, hpool⟩ := openRest_eq s env
  rw [heq]
  refine ⟨hs.pdOfIbvPd, ?_⟩
  intro hopened
  refine ⟨hpd, htd, hpool.resolve_left ?_⟩
  rintro rfl
  cases hs.notOpened.symm.trans hopened

/-- `open` keeps an adapter sound if the `create_ibv_pd` it makes leaves a protection domain. -/
theorem sound_openAdapter {s : Domains} (hs : s.Sound) {env : DomainEnv}
    (hnumbers : env.device.Numbers) (hgives : s.GivesPd pdn (.openAdapter env)) :
  (s.openAdapter pdn env).2.Sound
  := by
  rw [openAdapter]
  split
  · apply hs
  · rename_i hopened
    have hopening : s.Opening := ⟨hs.pdOfIbvPd, Bool.eq_false_iff.mpr hopened⟩
    have hpd := opening_openPd pdn hopening env
    refine Result.andThen_inv (fun _ => hpd.sound) ?_
    intro hretPd
    have hpdId : (s.openPd pdn env).2.mPdId ≠ 0 := by
      rw [openPd] at hretPd ⊢
      split
      · rename_i hzero
        rw [if_pos hzero] at hretPd
        apply hgives 0 env _ hretPd
        rw [ibvPdCall, if_neg (not_or.mpr ⟨hopened, not_not.mpr hzero⟩)]
      · rename_i hpdId
        apply hpdId
    obtain ⟨htd, htdPd, htdId⟩ := opening_openTd hpd env
    refine Result.andThen_inv (fun _ => htd.sound) ?_
    intro hretTd
    apply sound_openRest htd _ (htdId hnumbers hretTd)
    rw [htdPd]
    apply hpdId

theorem sound_step {s : Domains} (hs : s.Sound) {c : DomainCall} (hnumbers : c.Numbers)
    (hasks : s.AsksAfresh c) :
  (s.step pdn c).Sound
  := by
  cases c with
  | openAdapter env => apply sound_openAdapter pdn hs hnumbers ((givesPd_iff pdn hs _).mpr hasks)
  | createIbvPd ibvPd env => apply sound_createIbvPd pdn hs
  | createOwnPd env => apply sound_createOwnPd hs hnumbers
  | setPd pdId ibvPd => apply sound_setPd hs
  | setTd tdn => apply sound_setTd hs

/-- In every sequence of calls, given that the device gives no domain the number zero: each
successful `create_ibv_pd` leaves a protection domain, and after each call an adapter that is
opened has both domains and a UAR pool, exactly when no `create_ibv_pd` with the null pointer is
made while there is a `pd` object without a number. -/
theorem usable_iff_asksAfresh {calls : List DomainCall} (hnumbers : ∀ c ∈ calls, c.Numbers) :
  Along (step pdn) (fun s c => s.GivesPd pdn c ∧ (s.step pdn c).Usable) new calls
    ↔ Along (step pdn) AsksAfresh new calls
  := by
  have hnew : new.Sound := by
    constructor
    · intro hibv
      cases hibv rfl
    · intro hopened
      cases hopened
  apply along_iff_along _ _ hnew
  · intro s c hc hs
    rw [← givesPd_iff pdn hs c]
    constructor
    · intro h
      apply h.1
    · intro hgives
      refine ⟨hgives, ?_⟩
      apply (sound_step pdn hs (hnumbers c hc) ((givesPd_iff pdn hs c).mp hgives)).usable
  · intro s c hc hs hasks
    apply sound_step pdn hs (hnumbers c hc) hasks

/-- A world in which every step succeeds, and the device gives the number 3. -/
def generous : DomainEnv where
  newPd := true
  ibvAllocPd := 0x5000
  initObj := true
  newTd := true
  newUarpool := true
  device _ _ := ⟨true, fun i => if i = 11 then 3 else 0⟩
  hcaIsegMapping := true

/-- Every `ibv_pd` has the number 7. -/
def seven : Nat → BitVec 32 := fun _ => 7

theorem numbers_generous :
  generous.device.Numbers
  := by
  intro m len _ _
  show devxGet (fun i => if i = 11 then 3 else 0) 0 StatusOut.id ≠ 0
  decide +kernel

/-- An adapter that is opened at the first attempt. -/
theorem usable_openAdapter :
  (run (step seven) new [.openAdapter generous]).mOpened = true
    ∧ Along (step seven) (fun s c => s.GivesPd seven c ∧ (s.step seven c).Usable) new
      [.openAdapter generous]
  := by
  constructor
  · rfl
  · apply (usable_iff_asksAfresh seven _).mpr
    · refine ⟨?_, trivial⟩
      intro env _
      exact .inl rfl
    · intro c hc
      rw [List.mem_singleton.mp hc]
      apply numbers_generous

/-- The first `open` finds out that the driver does not tell the number of the `ibv_pd`.  Then
`create_ibv_pd` succeeds without a protection domain, and so does a second `open`. -/
theorem not_usable_openAdapter_twice :
  let failed := run (step seven) new [.openAdapter { generous with initObj := false }]
  let opened := failed.step seven (.openAdapter generous)
  (failed.createIbvPd seven 0 generous).1 = .ok
    ∧ (failed.createIbvPd seven 0 generous).2.mPdId = 0
    ∧ opened.mOpened = true ∧ opened.mPdId = 0 ∧ ¬ opened.Usable
    ∧ ¬ failed.GivesPd seven (.createIbvPd 0 generous)
  := by
  refine ⟨rfl, rfl, rfl, rfl, ?_, ?_⟩
  · intro h
    cases (h rfl).1 rfl
  · intro h
    cases h 0 generous rfl rfl rfl

/-! ### Owned objects -/

/-- The number of the protection domain is that of the `ibv_pd`, if there is one. -/
def SameDomain (s : Domains) : Prop :=
  s.mIbvPd ≠ 0 → s.mPdId = pdn s.mIbvPd

/-- Every `pd` and `td` object is still owned, or was freed. -/
def Accounted (s : Domains) : Prop :=
  ∀ n, n < s.made → s.mPd = some n ∨ s.mTd = some n ∨ n ∈ s.freed

/-- A call that allocates an object does not find its pointer set: `create_own_pd` not `m_pd`, and
`open` not `m_td` if it needs a transport domain. -/
def LeavesOwned (s : Domains) : DomainCall → Prop
  | .createOwnPd _ => s.mPd = none
  | .openAdapter _ => s.mOpened = true ∨ s.mTdId ≠ 0 ∨ s.mTd = none
  | _ => True

/-- What the calls keep that do not call `set_pd` and leave the owned objects alone. -/
structure Owning (s : Domains) : Prop where
  pdFirst : s.mPd = none → s.mPdId = 0 ∧ s.mIbvPd = 0
  tdAfterPd : s.mTd ≠ none → s.mPd ≠ none ∧ (s.mPdId ≠ 0 ∨ s.mIbvPd = 0)
  pdLt : ∀ n, s.mPd = some n → n < s.made ∧ n ∉ s.freed
  tdLt : ∀ n, s.mTd = some n → n < s.made ∧ n ∉ s.freed ∧ s.mPd ≠ some n
  freedLt : ∀ n ∈ s.freed, n < s.made

/-- The adapter is in one domain, and has lost no object. -/
structure Kept (s : Domains) : Prop where
  sameDomain : s.SameDomain pdn
  accounted : s.Accounted

/-- Without a `pd` there is no `td` either. -/
theorem Owning.mTd_eq_none {s : Domains} (hs : s.Owning) (hpd : s.mPd = none) :
  s.mTd = none
  := by
  by_contra htd
  apply (hs.tdAfterPd htd).1 hpd

/-- A new `pd` where there was none, in whatever domain. -/
theorem owning_newPd {s : Domains} (hs : s.Owning) (hpd : s.mPd = none) (pdId : BitVec 32)
    (ibvPd : Nat) :
  Owning { s.newPd with mPdId := pdId, mIbvPd := ibvPd }
  := by
  have htd := hs.mTd_eq_none hpd
  constructor
  case pdFirst =>
    intro h
    cases h
  case tdAfterPd =>
    intro h
    cases h htd
  case pdLt =>
    intro n hn
    cases hn
    refine ⟨Nat.lt_succ_self _, ?_⟩
    intro hmem
    exact Nat.lt_irrefl _ (hs.freedLt _ hmem)
  case tdLt =>
    intro n hn
    cases htd.symm.trans hn
  case freedLt =>
    intro n hn
    apply Nat.lt_succ_of_lt (hs.freedLt n hn)

theorem accounted_newPd {s : Domains} (hs : s.Accounted) (hpd : s.mPd = none) :
  s.newPd.Accounted
  := by
  intro n hn
  rcases Nat.lt_succ_iff_lt_or_eq.mp hn with hn | rfl
  · rcases hs n hn with hpd' | hrest
    · cases hpd.symm.trans hpd'
    · exact .inr hrest
  · exact .inl rfl

/-- A new `td` where there was none. -/
theorem owning_newTd {s : Domains} (hs : s.Owning)
    (hpd : s.mPd ≠ none ∧ (s.mPdId ≠ 0 ∨ s.mIbvPd = 0)) (tdId : BitVec 32) :
  Owning { s.newTd with mTdId := tdId }
  := by
  constructor
  case pdFirst => apply hs.pdFirst
  case tdAfterPd =>
    intro _
    apply hpd
  case pdLt =>
    intro n hn
    obtain ⟨hlt, hfreed⟩ := hs.pdLt n hn
    exact ⟨Nat.lt_succ_of_lt hlt, hfreed⟩
  case tdLt =>
    intro n hn
    cases hn
    refine ⟨Nat.lt_succ_self _, ?_, ?_⟩
    · intro hmem
      exact Nat.lt_irrefl _ (hs.freedLt _ hmem)
    · intro hpd
      exact Nat.lt_irrefl _ (hs.pdLt _ hpd).1
  case freedLt =>
    intro n hn
    apply Nat.lt_succ_of_lt (hs.freedLt n hn)

theorem accounted_newTd {s : Domains} (hs : s.Accounted) (htd : s.mTd = none) :
  s.newTd.Accounted
  := by
  intro n hn
  rcases Nat.lt_succ_iff_lt_or_eq.mp hn with hn | rfl
  · rcases hs n hn with hpd | htd' | hfreed
    · exact .inl hpd
    · cases htd.symm.trans htd'
    · exact .inr (.inr hfreed)
  · exact .inr (.inl rfl)

theorem kept_createIbvPd {s : Domains} (hs : s.Owning) (hkept : s.Kept pdn) (ibvPd : Nat)
    (env : DomainEnv) :
  (s.createIbvPd pdn ibvPd env).2.Owning ∧ (s.createIbvPd pdn ibvPd env).2.Kept pdn
  := by
  have heffect := effect_createIbvPd pdn s ibvPd env
  generalize s.createIbvPd pdn ibvPd env = r at heffect
  cases heffect with
  | already _ _ => exact ⟨hs, hkept⟩
  | other _ _ => exact ⟨hs, hkept⟩
  | noMemory _ => exact ⟨hs, hkept⟩
  | failed hpd _ =>
      exact ⟨owning_newPd hs hpd s.mPdId s.mIbvPd, hkept.sameDomain,
        accounted_newPd hkept.accounted hpd⟩
  | made hpd _ _ =>
      exact ⟨owning_newPd hs hpd _ _, fun _ => rfl, accounted_newPd hkept.accounted hpd⟩

theorem kept_createOwnPd {s : Domains} (hs : s.Owning) (hkept : s.Kept pdn) (hpd : s.mPd = none)
    (env : DomainEnv) :
  (s.createOwnPd env).2.Owning ∧ (s.createOwnPd env).2.Kept pdn
  := by
  have hibv := (hs.pdFirst hpd).2
  rw [createOwnPd]
  split
  · have hsame : { s with mPd := none } = s := by
      rw [← hpd]
    rw [hsame]
    exact ⟨hs, hkept⟩
  · exact ⟨owning_newPd hs hpd _ _, fun hne => (hne hibv).elim,
      accounted_newPd hkept.accounted hpd⟩

/-- An object to which nothing points is lost, unless it was freed. -/
theorem not_accounted {s : Domains} {n : Nat} (hlt : n < s.made) (hpd : s.mPd ≠ some n)
    (htd : s.mTd ≠ some n) (hfreed : n ∉ s.freed) :
  ¬ s.Accounted
  := by
  intro h
  rcases h n hlt with h | h | h
  · apply hpd h
  · apply htd h
  · apply hfreed h

/-- `create_own_pd` loses the `pd` it finds. -/
theorem not_accounted_createOwnPd {s : Domains} (hs : s.Owning) (hpd : s.mPd ≠ none)
    (env : DomainEnv) :
  ¬ (s.createOwnPd env).2.Accounted
  := by
  obtain ⟨n, hn⟩ := Option.ne_none_iff_exists'.mp hpd
  obtain ⟨hlt, hfreed⟩ := hs.pdLt n hn
  have htd : s.mTd ≠ some n := by
    intro htd
    apply (hs.tdLt n htd).2.2 hn
  rw [createOwnPd]
  split
  · refine not_accounted hlt ?_ htd hfreed
    intro h
    cases h
  · refine not_accounted (Nat.lt_succ_of_lt hlt) ?_ htd hfreed
    intro h
    cases h
    exact Nat.lt_irrefl _ hlt

theorem kept_setTd {s : Domains} (hs : s.Owning) (hkept : s.Kept pdn) (tdn : BitVec 32) :
  (s.setTd tdn).2.Owning ∧ (s.setTd tdn).2.Kept pdn
  := by
  rw [setTd]
  split
  · exact ⟨hs, hkept⟩
  · refine ⟨⟨hs.pdFirst, fun h => (h rfl).elim, ?_, ?_, ?_⟩, hkept.sameDomain, ?_⟩
    · intro n hn
      obtain ⟨hlt, hfreed⟩ := hs.pdLt n hn
      refine ⟨hlt, ?_⟩
      simp only [List.mem_append, Option.mem_toList, not_or]
      refine ⟨?_, hfreed⟩
      intro htd
      apply (hs.tdLt n htd).2.2 hn
    · intro n hn
      cases hn
    · intro n hn
      rcases List.mem_append.mp hn with htd | hfreed
      · apply (hs.tdLt n (Option.mem_toList.mp htd)).1
      · apply hs.freedLt n hfreed
    · intro n hn
      rcases hkept.accounted n hn with hpd | htd | hfreed
      · exact .inl hpd
      · exact .inr (.inr (List.mem_append_left _ (Option.mem_toList.mpr htd)))
      · exact .inr (.inr (List.mem_append_right _ hfreed))

theorem kept_openPd {s : Domains} (hs : s.Owning) (hkept : s.Kept pdn) (env : DomainEnv) :
  (s.openPd pdn env).2.Owning ∧ (s.openPd pdn env).2.Kept pdn
  := by
  rw [openPd]
  split
  · apply kept_createIbvPd pdn hs hkept
  · exact ⟨hs, hkept⟩

/-- After the first part of `open` a `td` may be made. -/
theorem openPd_ok {s : Domains} (hs : s.Owning) {env : DomainEnv}
    (hret : (s.openPd pdn env).1 = .ok) :
  (s.openPd pdn env).2.mPd ≠ none
    ∧ ((s.openPd pdn env).2.mPdId ≠ 0 ∨ (s.openPd pdn env).2.mIbvPd = 0)
  := by
  rw [openPd] at hret ⊢
  split
  · rename_i hzero
    rw [if_pos hzero] at hret
    have heffect := effect_createIbvPd pdn s 0 env
    generalize s.createIbvPd pdn 0 env = r at heffect hret
    cases heffect with
    | already hpd hsame => exact ⟨hpd, .inr hsame⟩
    | other _ _ => cases hret
    | noMemory _ => cases hret
    | failed _ hfail => cases hfail hret
    | made _ _ hpdn => exact ⟨Option.some_ne_none _, .inl hpdn⟩
  · rename_i hpdId
    refine ⟨?_, .inl hpdId⟩
    intro hpd
    apply hpdId (hs.pdFirst hpd).1

/-- Where there is a `td`, the first part of `open` does nothing. -/
theorem openPd_of_td {s : Domains} (hs : s.Owning) (htd : s.mTd ≠ none) (env : DomainEnv) :
  s.openPd pdn env = (.ok, s)
  := by
  obtain ⟨hpd, hdomain⟩ := hs.tdAfterPd htd
  rw [openPd]
  split
  · rename_i hzero
    have hibv : s.mIbvPd = 0 := hdomain.resolve_left (fun hne => hne hzero)
    rw [createIbvPd, if_pos (Option.isSome_iff_ne_none.mpr hpd), if_pos hibv]
  · rfl

theorem kept_openTd {s : Domains} (hs : s.Owning) (hkept : s.Kept pdn)
    (hpd : s.mPd ≠ none ∧ (s.mPdId ≠ 0 ∨ s.mIbvPd = 0)) (htd : s.mTdId ≠ 0 ∨ s.mTd = none)
    (env : DomainEnv) :
  (s.openTd env).2.Owning ∧ (s.openTd env).2.Kept pdn
  := by
  rw [openTd]
  split
  · exact ⟨hs, hkept⟩
  · rename_i hzero
    have htd : s.mTd = none := htd.resolve_left hzero
    split
    · have hsame : { s with mTd := none } = s := by
        rw [← htd]
      rw [hsame]
      exact ⟨hs, hkept⟩
    · exact ⟨owning_newTd hs hpd _, hkept.sameDomain, accounted_newTd hkept.accounted htd⟩

/-- The second part of `open` loses the `td` it finds. -/
theorem not_accounted_openTd {s : Domains} (hs : s.Owning) (hzero : s.mTdId = 0)
    (htd : s.mTd ≠ none) (env : DomainEnv) :
  ¬ (s.openTd env).2.Accounted
  := by
  obtain ⟨n, hn⟩ := Option.ne_none_iff_exists'.mp htd
  obtain ⟨hlt, hfreed, hpd⟩ := hs.tdLt n hn
  rw [openTd, if_neg (not_not.mpr hzero)]
  split
  · refine not_accounted hlt hpd ?_ hfreed
    intro h
    cases h
  · refine not_accounted (Nat.lt_succ_of_lt hlt) hpd ?_ hfreed
    intro h
    cases h
    exact Nat.lt_irrefl _ hlt

theorem openRest_kept {s : Domains} (env : DomainEnv) :
  ((s.openRest env).2.Owning ↔ s.Owning) ∧ ((s.openRest env).2.Kept pdn ↔ s.Kept pdn)
  := by
  obtain ⟨pool, opened, heq, -⟩ := openRest_eq s env
  rw [heq]
  constructor
  · constructor
    · rintro ⟨h₁, h₂, h₃, h₄, h₅⟩
      exact ⟨h₁, h₂, h₃, h₄, h₅⟩
    · rintro ⟨h₁, h₂, h₃, h₄, h₅⟩
      exact ⟨h₁, h₂, h₃, h₄, h₅⟩
  · constructor
    · rintro ⟨h₁, h₂⟩
      exact ⟨h₁, h₂⟩
    · rintro ⟨h₁, h₂⟩
      exact ⟨h₁, h₂⟩

/-- The first part of `open` does not touch the transport domain. -/
theorem openPd_td (s : Domains) (env : DomainEnv) :
  (s.openPd pdn env).2.mTd = s.mTd ∧ (s.openPd pdn env).2.mTdId = s.mTdId
  := by
  rw [openPd]
  split
  · have heffect := effect_createIbvPd pdn s 0 env
    generalize s.createIbvPd pdn 0 env = r at heffect
    cases heffect <;> exact ⟨rfl, rfl⟩
  · exact ⟨rfl, rfl⟩

theorem kept_openAdapter {s : Domains} (hs : s.Owning) (hkept : s.Kept pdn) (env : DomainEnv)
    (htd : s.mTdId ≠ 0 ∨ s.mTd = none) :
  (s.openAdapter pdn env).2.Owning ∧ (s.openAdapter pdn env).2.Kept pdn
  := by
  let P : Domains → Prop := fun s => s.Owning ∧ s.Kept pdn
  rw [openAdapter]
  split
  · exact ⟨hs, hkept⟩
  · have hpd := kept_openPd pdn hs hkept env
    refine Result.andThen_inv (P := P) (fun _ => hpd) ?_
    intro hret
    have hready := openPd_ok pdn hs hret
    obtain ⟨hsameTd, hsameTdId⟩ := openPd_td pdn s env
    rw [← hsameTd, ← hsameTdId] at htd
    have htd := kept_openTd pdn hpd.1 hpd.2 hready htd env
    refine Result.andThen_inv (P := P) (fun _ => htd) ?_
    intro _
    obtain ⟨howning, hkept⟩ := openRest_kept pdn (s := ((s.openPd pdn env).2.openTd env).2) env
    exact ⟨howning.mpr htd.1, hkept.mpr htd.2⟩

/-- `open` loses the `td` it finds, if it needs one. -/
theorem not_kept_openAdapter {s : Domains} (hs : s.Owning) (hopened : ¬ s.mOpened = true)
    (hzero : s.mTdId = 0) (htd : s.mTd ≠ none) (env : DomainEnv) :
  ¬ (s.openAdapter pdn env).2.Kept pdn
  := by
  have hlost : ¬ (s.openTd env).2.Kept pdn := by
    intro h
    apply not_accounted_openTd hs hzero htd env h.accounted
  rw [openAdapter, if_neg hopened, openPd_of_td pdn hs htd]
  show ¬ ((s.openTd env).andThen fun s => s.openRest env).2.Kept pdn
  refine Result.andThen_inv (P := fun s' : Domains => ¬ s'.Kept pdn) (fun _ => hlost) ?_
  intro _
  rw [(openRest_kept pdn env).2]
  apply hlost

/-- A call other than `set_pd` loses no object and keeps to one domain if it leaves the owned
objects alone, and loses one if it does not. -/
theorem kept_step_iff {s : Domains} (hs : s.Owning) (hkept : s.Kept pdn) {c : DomainCall}
    (hc : ∀ pdId ibvPd, c ≠ .setPd pdId ibvPd) :
  (s.LeavesOwned c → (s.step pdn c).Owning) ∧ ((s.step pdn c).Kept pdn ↔ s.LeavesOwned c)
  := by
  cases c with
  | setPd pdId ibvPd => cases hc pdId ibvPd rfl
  | createIbvPd ibvPd env =>
      obtain ⟨howning, hkept⟩ := kept_createIbvPd pdn hs hkept ibvPd env
      exact ⟨fun _ => howning, iff_of_true hkept trivial⟩
  | setTd tdn =>
      obtain ⟨howning, hkept⟩ := kept_setTd pdn hs hkept tdn
      exact ⟨fun _ => howning, iff_of_true hkept trivial⟩
  | createOwnPd env =>
      by_cases hpd : s.mPd = none
      · obtain ⟨howning, hkept⟩ := kept_createOwnPd pdn hs hkept hpd env
        exact ⟨fun _ => howning, iff_of_true hkept hpd⟩
      · refine ⟨fun h => (hpd h).elim, iff_of_false ?_ hpd⟩
        intro h
        apply not_accounted_createOwnPd hs hpd env h.accounted
  | openAdapter env =>
      by_cases hopened : s.mOpened = true
      · have hsame : s.step pdn (.openAdapter env) = s := by
          rw [step, openAdapter, if_pos hopened]
        rw [hsame]
        exact ⟨fun _ => hs, iff_of_true hkept (.inl hopened)⟩
      · by_cases htd : s.mTdId ≠ 0 ∨ s.mTd = none
        · obtain ⟨howning, hkept⟩ := kept_openAdapter pdn hs hkept env htd
          exact ⟨fun _ => howning, iff_of_true hkept (.inr htd)⟩
        · have hnot : ¬ s.LeavesOwned (.openAdapter env) := not_or.mpr ⟨hopened, htd⟩
          obtain ⟨hzero, htd⟩ := not_or.mp htd
          exact ⟨fun h => (hnot h).elim,
            iff_of_false (not_kept_openAdapter pdn hs hopened (not_not.mp hzero) htd env) hnot⟩

/-- In every sequence of calls without `set_pd`: in every state the number of the protection domain
is that of the `ibv_pd`, if there is one, and no `pd` or `td` object has been overwritten without
being freed, exactly when `create_own_pd` is only called without a `pd` object, and `open` not with
a `td` object that has no number. -/
theorem kept_iff_leavesOwned {calls : List DomainCall}
    (hcalls : ∀ c ∈ calls, ∀ pdId ibvPd, c ≠ .setPd pdId ibvPd) :
  (∀ calls', calls' <+: calls → (run (step pdn) new calls').Kept pdn)
    ↔ Along (step pdn) LeavesOwned new calls
  := by
  have hnew : new.Owning := by
    constructor <;> simp [new]
  have hnew' : new.Kept pdn := by
    constructor
    · intro hne
      cases hne rfl
    · intro n hn
      cases hn
  apply forall_prefix_iff_along _ _ hnew hnew'
  · intro s c hc hs hkept
    apply (kept_step_iff pdn hs hkept (hcalls c hc)).2
  · intro s c hc hs hkept hleaves
    apply (kept_step_iff pdn hs hkept (hcalls c hc)).1 hleaves

/-- An adapter that is opened at the first attempt. -/
theorem kept_openAdapter_once :
  (run (step seven) new [.openAdapter generous]).mIbvPd = 0x5000
    ∧ ∀ calls', calls' <+: [.openAdapter generous] → (run (step seven) new calls').Kept seven
  := by
  constructor
  · rfl
  · apply (kept_iff_leavesOwned seven _).mpr
    · exact ⟨.inr (.inr rfl), trivial⟩
    · intro c hc pdId ibvPd heq
      rw [List.mem_singleton.mp hc] at heq
      cases heq

/-- `create_own_pd` after `create_ibv_pd`. -/
def ownAfterIbv : List DomainCall :=
  [.createIbvPd 0 generous, .createOwnPd generous]

/-- Two `open`, the first of them with a device that makes no transport domain. -/
def openedTwice : List DomainCall :=
  [.openAdapter { generous with device := fun _ _ => ⟨false, zeros⟩ }, .openAdapter generous]

/-- After `create_own_pd` the adapter has the `ibv_pd` with the number 7 and works in the domain 3,
and the first `pd` is lost; after the second `open` the first `td` is lost. -/
theorem not_kept_ownAfterIbv_openedTwice :
  (run (step seven) new ownAfterIbv).mIbvPd = 0x5000
    ∧ (run (step seven) new ownAfterIbv).mPdId = 3
    ∧ ¬ (run (step seven) new ownAfterIbv).SameDomain seven
    ∧ ¬ (run (step seven) new ownAfterIbv).Accounted
    ∧ (run (step seven) new openedTwice).mOpened = true
    ∧ (run (step seven) new openedTwice).mTd = some 2
    ∧ ¬ (run (step seven) new openedTwice).Accounted
  := by
  have hid : (run (step seven) new ownAfterIbv).mPdId = 3 := by
    decide +kernel
  refine ⟨rfl, hid, ?_, ?_, rfl, rfl, ?_⟩
  · intro h
    have hseven := h (by decide)
    rw [hid] at hseven
    cases hseven
  · apply not_accounted (n := 0) <;> decide
  · apply not_accounted (n := 1) <;> decide

end Domains

end Dpcp
