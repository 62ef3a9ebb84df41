import Dpcp.Machine.Run
import Dpcp.Provider.Version

/-!
# The devices of the provider

`provider::get_instance` has `dcmd::provider` list the devices that can be opened.  The list is made
once: when there is one, later calls get the same, whatever devices there are by then.  A program
asks for the number of adapters, then for their descriptions, and opens an adapter by its id.

The calls of `get_instance` are the steps of a machine, and `firstList` is what the calls so far
should have led to.
-/

namespace Dpcp

open Machine

/-- `struct adapter_info`, which is also what is kept of a `dcmd::device`. -/
structure AdapterInfo where
  id : String
  name : String
  vendorId : BitVec 32
  vendorPartId : BitVec 32
deriving DecidableEq

/-- A device in the list of the verbs library, and what the system does when a `dcmd::device` is
made for it: whether there is memory, whether the device can be opened, and the vendor that
`ibv_query_device` reports, if it does not fail. -/
structure DevHandle where
  name : String
  newDevice : Bool
  opens : Bool
  attr : Option (BitVec 32 × BitVec 32)

/-- What the system does while `get_instance` runs: the list of the verbs library, if there is one,
and whether there is memory for the array. -/
structure ProviderEnv where
  deviceList : Option (List DevHandle)
  newArray : Bool

/-- What the system does while `open_adapter` runs, for each device of the list: whether it can be
opened, and whether there is memory for the adapter. -/
structure OpenEnv where
  opens : Nat → Bool
  newAdapter : Nat → Bool

/-- `dcmd::provider::create_device`. -/
def DevHandle.createDevice (h : DevHandle) : Option AdapterInfo :=
  if h.newDevice && h.opens then
    let attr := h.attr.getD (0, 0)
    some ⟨h.name, h.name, attr.1, attr.2⟩
  else
    none

/-- `class provider`, with the array of `dcmd::provider`, which is the same one from the first call
of `get_instance` on that has a list. -/
structure Provider where
  mDevArray : Option (List AdapterInfo)
  mDevices : Option (List AdapterInfo)
  mNumDevices : Nat

namespace Provider

/-- The constructor of `provider`. -/
def new : Provider :=
  ⟨none, none, 0⟩

/-- `dcmd::provider::get_device_list`. -/
def getDeviceList (mDevArray : Option (List AdapterInfo)) (env : ProviderEnv) :
    Option (List AdapterInfo) :=
  match mDevArray with
  | some devices => some devices
  | none =>
      match env.deviceList with
      | none => none
      | some handles =>
          if env.newArray then some (handles.filterMap DevHandle.createDevice) else none

/-- `provider::get_instance`.  When it succeeds it ends with a call of `init_mkeys`. -/
def getInstance (p : Provider) (version : Option (List Char)) (env : ProviderEnv) :
    Result Provider :=
  match checkVersion version with
  | .ok =>
      let devices := getDeviceList p.mDevArray env
      let p := ⟨devices, devices, (devices.getD []).length⟩
      (if devices.isNone then .errNoDevices else .ok, p)
  | ret => (ret, p)

/-- `provider::get_adapter_info_lst`: the status, what `adapter_num` holds then, and the
descriptions that are written.  `infoLst` tells whether there is a pointer. -/
def getAdapterInfoLst (p : Provider) (infoLst : Bool) (adapterNum : Nat) :
    Status × Nat × List AdapterInfo :=
  if adapterNum = 0 ∨ infoLst = false ∨ adapterNum < p.mNumDevices then
    (.errOutOfRange, p.mNumDevices, [])
  else
    (.ok, adapterNum, (p.mDevices.getD []).take p.mNumDevices)

/-- The loop of `provider::open_adapter`, at the device `i`. -/
def openFrom (id : String) (env : OpenEnv) (i : Nat) : List AdapterInfo → Status × Option Nat
  | [] => (.errNoDevices, none)
  | dev :: rest =>
      if dev.id = id then
        if !env.opens i then
          (.errNoDevices, none)
        else if env.newAdapter i then
          (.ok, some i)
        else
          openFrom id env (i + 1) rest
      else
        openFrom id env (i + 1) rest

/-- `provider::open_adapter`, with the number of the device that is opened. -/
def openAdapter (p : Provider) (id : String) (env : OpenEnv) : Status × Option Nat :=
  if id = "" then (.errInvalidId, none)
  else openFrom id env 0 ((p.mDevices.getD []).take p.mNumDevices)

/-- A call of `get_instance`. -/
structure InstanceCall where
  version : Option (List Char)
  env : ProviderEnv

def step (p : Provider) (c : InstanceCall) : Provider :=
  (p.getInstance c.version c.env).2

/-- The list that a call finds, if the version is accepted. -/
def InstanceCall.list (c : InstanceCall) : Option (List AdapterInfo) :=
  if checkVersion c.version = .ok then getDeviceList none c.env else none

/-- The list that the first call with one finds. -/
def firstList : List InstanceCall → Option (List AdapterInfo)
  | [] => none
  | c :: l => c.list.or (firstList l)

/-! ### Runs -/

/-- The provider has the list that `dcmd::provider` keeps. -/
def ofList (devices : Option (List AdapterInfo)) : Provider :=
  ⟨devices, devices, (devices.getD []).length⟩

/-- A list that is there stays, and one is made if there is none. -/
theorem step_ofList (devices : Option (List AdapterInfo)) (c : InstanceCall) :
  (ofList devices).step c = ofList (devices.or c.list)
  := by
  rw [step, getInstance, InstanceCall.list]
  split
  case h_1 hversion =>
    rw [if_pos hversion]
    cases devices with
    | none => rw [Option.none_or, ofList, ofList]
    | some devices => rfl
  case h_2 hversion =>
    rw [if_neg hversion, Option.or_none]

theorem run_ofList (devices : Option (List AdapterInfo)) (l : List InstanceCall) :
  run step (ofList devices) l = ofList (devices.or (firstList l))
  := by
  induction l generalizing devices with
  | nil => rw [firstList, Option.or_none, run, List.foldl_nil]
  | cons c l ih => rw [run_cons, step_ofList, ih, firstList, Option.or_assoc]

/-- From the device `i` on there is one with the id for whose adapter there is memory, and none with
the id up to it fails to open. -/
def CanOpen (id : String) (env : OpenEnv) (i : Nat) (devices : List AdapterInfo) : Prop :=
  ∃ k dev, devices[k]? = some dev ∧ dev.id = id ∧ env.newAdapter (i + k) = true
    ∧ ∀ j ≤ k, ∀ dev', devices[j]? = some dev' → dev'.id = id → env.opens (i + j) = true

theorem canOpen_cons_iff (id : String) (env : OpenEnv) (i : Nat) (dev : AdapterInfo)
    (rest : List AdapterInfo) :
  CanOpen id env i (dev :: rest) ↔ (dev.id = id → env.opens i = true)
    ∧ (dev.id = id ∧ env.newAdapter i = true ∨ CanOpen id env (i + 1) rest)
  := by
  have hshift (k : Nat) : i + 1 + k = i + (k + 1) := by omega
  constructor
  · rintro ⟨k, dev', hk, hid, hnew, hopens⟩
    refine ⟨hopens 0 (Nat.zero_le k) dev rfl, ?_⟩
    cases k with
    | zero =>
        cases hk
        exact .inl ⟨hid, hnew⟩
    | succ k =>
        refine .inr ⟨k, dev', hk, hid, ?_, ?_⟩
        · rw [hshift]
          apply hnew
        · intro j hj
          rw [hshift]
          apply hopens (j + 1) (Nat.succ_le_succ hj)
  · rintro ⟨hfirst, ⟨hid, hnew⟩ | ⟨k, dev', hk, hid, hnew, hopens⟩⟩
    · refine ⟨0, dev, rfl, hid, hnew, ?_⟩
      intro j hj dev' hdev' hid'
      obtain rfl : j = 0 := Nat.le_zero.mp hj
      apply hfirst hid
    · rw [hshift] at hnew
      refine ⟨k + 1, dev', hk, hid, hnew, ?_⟩
      intro j hj dev'' hdev'' hid''
      cases j with
      | zero =>
          cases hdev''
          apply hfirst hid''
      | succ j =>
          rw [← hshift]
          apply hopens j (Nat.le_of_succ_le_succ hj) dev'' hdev'' hid''

theorem openFrom_eq_ok_iff (id : String) (env : OpenEnv) (i : Nat) (devices : List AdapterInfo) :
  (openFrom id env i devices).1 = .ok ↔ CanOpen id env i devices
  := by
  induction devices generalizing i with
  | nil => simp [openFrom, CanOpen]
  | cons dev rest ih =>
      rw [canOpen_cons_iff, ← ih, openFrom]
      by_cases hid : dev.id = id
      · cases hopens : env.opens i with
        | false => simp [hid]
        | true =>
            cases hnew : env.newAdapter i with
            | false => simp [hid]
            | true => simp [hid]
      · simp [hid]

/-- What a program sees of the devices after any calls of `get_instance` are those that the first
call with a list found.  It learns their number, then gets the descriptions of all of them, unless
there are none, and it can open just those, by their ids. -/
theorem adapters_seen (l : List InstanceCall) :
  let p := run step new l
  let devices := (firstList l).getD []
  p.getAdapterInfoLst false 0 = (.errOutOfRange, devices.length, [])
    ∧ (∀ n, devices.length ≤ n →
      p.getAdapterInfoLst true n = if n = 0 then (.errOutOfRange, 0, []) else (.ok, n, devices))
    ∧ ∀ id env, (p.openAdapter id env).1 = .ok ↔ id ≠ "" ∧ CanOpen id env 0 devices
  := by
  intro p devices
  have hp : p = ofList (firstList l) := run_ofList none l
  have hdevices : (p.mDevices.getD []).take p.mNumDevices = devices := by
    rw [hp]
    apply List.take_length
  refine ⟨?_, ?_, ?_⟩
  · rw [hp]
    rfl
  · intro n hn
    have hnum : p.mNumDevices ≤ n := by
      rw [hp]
      apply hn
    rw [getAdapterInfoLst, hdevices]
    by_cases hzero : n = 0
    · have hnone : p.mNumDevices = 0 := by omega
      rw [if_pos (.inl hzero), if_pos hzero, hnone]
    · rw [if_neg hzero, if_neg (by simp [hzero, hnum])]
  · intro id env
    rw [openAdapter, hdevices]
    by_cases hid : id = ""
    · simp [hid]
    · rw [if_neg hid, openFrom_eq_ok_iff]
      exact (and_iff_right hid).symm

end Provider

end Dpcp
