import SchedTest.LoadData

/-!
# Workloads

A `TestWorld` is the harness's object for one synthetic workload (a `VM` in the source):
its configured parameters, the world id the scheduler gave it once started, and what it last
read from a snapshot.  `setSchedData` keeps the snapshot's rows for the workload's world and
the leader row, the one whose vcpu number equals the world id; `getVcpuVal` sums a column
over those rows and `getVMVal` reads one from the leader.  The configuration writes go to
files under the world's directory `/proc/vmware/vm/<vmid>/`.

`setSchedData` empties the row list on every call but never clears `leader`, so a snapshot
without a leader row passes its assertion whenever an earlier snapshot had one:
`setSchedData_keeps_stale_leader`.
-/

namespace SchedTest

/-- A write to a file of the proc interface: `open(path, "w").write(data)`. -/
structure Write where
  path : String
  data : String
  deriving DecidableEq, Repr

/-- A workload's `affinity`: `None`, a pcpu number, a string of pcpus such as `"0,1"`, or
one pcpu number per vcpu. -/
inductive Affinity where
  | none
  | pcpu (p : Nat)
  | spec (s : String)
  | list (ps : List Nat)
  deriving DecidableEq, Repr

/-- `str(affinity)`. -/
def Affinity.str : Affinity → String
  | .none => "None"
  | .pcpu p => toString p
  | .spec s => s
  | .list ps => toString ps

/-- The state of a `TestWorld` object: the fields of `VM.__init__`, those of
`TestWorld.__init__`, and `vmid`, which exists once `start` has assigned it. -/
structure TestWorld where
  schedData : Option SchedData
  leader : Option LineData
  vcpus : List LineData
  htsharing : Option String
  run : Int
  wait : Int
  shares : Int
  numvcpus : Nat
  path : String
  min : Int
  max : Int
  affinity : Affinity
  vmid : Option Int
  deriving Repr

/-- `TestWorld.__init__(run, wait, shares, numvcpus, min, max, affinity)` for the workload
kind whose control node is `path`: a `max` of `0` stands for `100 * numvcpus`. -/
def TestWorld.init (path : String) (run wait shares : Int) (numvcpus : Nat) (min max : Int)
    (affinity : Affinity) : TestWorld where
  schedData := none
  leader := none
  vcpus := []
  htsharing := none
  run := run
  wait := wait
  shares := shares
  numvcpus := numvcpus
  path := path
  min := min
  max := if max = 0 then 100 * numvcpus else max
  affinity := affinity
  vmid := none

/-- `TimerWorld.path`, the control node of timer-driven workloads. -/
def TimerWorld.path : String := "/proc/vmware/testworlds/timer-based"

/-- The control node of CPU-burning workloads, set by `BasicWorld.__init__`. -/
def BasicWorld.path : String := "/proc/vmware/testworlds/basic"

/-- `TimerWorld(run, wait, shares=1000, numvcpus=1, min=0, max=0, affinity=None)`. -/
def TimerWorld (run wait : Int) (shares : Int := 1000) (numvcpus : Nat := 1) (min : Int := 0)
    (max : Int := 0) (affinity : Affinity := .none) : TestWorld :=
  TestWorld.init TimerWorld.path run wait shares numvcpus min max affinity

/-- `BasicWorld(run, wait, shares=1000, numvcpus=1, min=0, max=0, affinity=None)`. -/
def BasicWorld (run wait : Int) (shares : Int := 1000) (numvcpus : Nat := 1) (min : Int := 0)
    (max : Int := 0) (affinity : Affinity := .none) : TestWorld :=
  TestWorld.init BasicWorld.path run wait shares numvcpus min max affinity

/-- `self.vmid`, which raises before `start` has assigned it. -/
def vmidAttr : Option Int → Except String Int
  | some id => pure id
  | none => throw "AttributeError: TestWorld instance has no attribute 'vmid'"

/-- The directory of world `id`, `"/proc/vmware/vm/%d/" % id`. -/
def vmDir (id : Int) : String :=
  "/proc/vmware/vm/" ++ toString id ++ "/"

/-- `getVMDir()`. -/
def TestWorld.getVMDir (w : TestWorld) : Except String String :=
  vmDir <$> vmidAttr w.vmid

/-! ### Reading a snapshot -/

/-- The loop of `setSchedData` over the snapshot's vcpu rows: the rows whose world id is
the workload's, and the last of them whose vcpu number equals its world id, starting from
the `leader` already held. -/
def collectVcpus (vmid : Option Int) :
    List LineData → Option LineData → Except String (List LineData × Option LineData)
  | [], leader => pure ([], leader)
  | v :: vs, leader => do
    let vm ← (v.getattr "vm").int
    if vm = (← vmidAttr vmid) then
      let vcpu ← (v.getattr "vcpu").int
      let (rest, leader') ← collectVcpus vmid vs (if vm = vcpu then some v else leader)
      pure (v :: rest, leader')
    else collectVcpus vmid vs leader

/-- `setSchedData(schedData)`: keeps the workload's rows and its leader row, and asserts
that a leader is held.  With no row for the world, its message reads `self.vmid`. -/
def TestWorld.setSchedData (w : TestWorld) (sched : SchedData) : Except String TestWorld := do
  let (vcpus, leader) ← collectVcpus w.vmid sched.vcpuList w.leader
  if vcpus = [] then
    let _ ← vmidAttr w.vmid
  match leader with
  | some _ => pure { w with schedData := some sched, vcpus := vcpus, leader := leader }
  | none => throw "AssertionError"

/-- `collectVcpus` keeps what it finds: started from the leader it returned, it returns the
same rows and leader. -/
theorem collectVcpus_idem {vmid : Option Int} {rows : List LineData}
    {leader leader' : Option LineData} {vcpus : List LineData}
    (h : collectVcpus vmid rows leader = .ok (vcpus, leader')) :
  collectVcpus vmid rows leader' = .ok (vcpus, leader')
  := by
  induction rows generalizing leader vcpus with
  | nil =>
    simp only [collectVcpus, except_pure, Except.ok.injEq, Prod.mk.injEq] at h
    obtain ⟨rfl, rfl⟩ := h
    rfl
  | cons v vs ih =>
    simp only [collectVcpus] at h ⊢
    rcases hvm : (v.getattr "vm").int with _ | vm <;> simp only [hvm, except_ok_bind] at h ⊢
    · cases h
    rcases hid : vmidAttr vmid with _ | id <;> simp only [hid, except_ok_bind] at h ⊢
    · cases h
    by_cases hm : vm = id <;> simp only [hm, if_true, if_false] at h ⊢
    · rcases hvcpu : (v.getattr "vcpu").int with _ | vcpu <;>
        simp only [hvcpu, except_ok_bind] at h ⊢
      · cases h
      by_cases hl : id = vcpu <;> simp only [hl, if_true, if_false] at h ⊢
      · exact h
      · rcases hc : collectVcpus vmid vs leader with _ | ⟨rest, l⟩ <;> rw [hc] at h
        · cases h
        simp only [except_ok_bind, except_pure, Except.ok.injEq, Prod.mk.injEq] at h
        obtain ⟨rfl, rfl⟩ := h
        rw [ih hc]
        rfl
    · exact ih h

/-- What `setSchedData` changes: the snapshot, the rows and the leader, and nothing else. -/
theorem setSchedData_eq {w w' : TestWorld} {sched : SchedData}
    (h : w.setSchedData sched = .ok w') :
  ∃ vcpus leader, collectVcpus w.vmid sched.vcpuList w.leader = .ok (vcpus, some leader) ∧
    w' = { w with schedData := some sched, vcpus := vcpus, leader := some leader }
  := by
  rcases hc : collectVcpus w.vmid sched.vcpuList w.leader with _ | ⟨vcpus, _ | leader⟩ <;>
    simp only [TestWorld.setSchedData, hc, except_ok_bind, except_error_bind, except_pure,
      except_throw] at h
  · cases h
  · split at h
    · rcases hv : vmidAttr w.vmid with _ | _ <;>
        simp only [hv, except_ok_bind, except_error_bind] at h <;> cases h
    · cases h
  · refine ⟨vcpus, leader, rfl, ?_⟩
    split at h
    · rcases hv : vmidAttr w.vmid with _ | _ <;> simp only [hv, except_ok_bind, except_error_bind] at h
      · cases h
      · exact (Except.ok.inj h).symm
    · exact (Except.ok.inj h).symm

/-- Reading the same snapshot again changes nothing. -/
theorem setSchedData_idem {w w' : TestWorld} {sched : SchedData}
    (h : w.setSchedData sched = .ok w') :
  w'.setSchedData sched = .ok w'
  := by
  obtain ⟨vcpus, leader, hc, rfl⟩ := setSchedData_eq h
  have hc' := collectVcpus_idem hc
  simp only [TestWorld.setSchedData, hc, except_ok_bind] at h
  simpa only [TestWorld.setSchedData, hc', except_ok_bind] using h

/-- A workload with its cached observed state erased: what it is and how it is
configured. -/
def TestWorld.identity (w : TestWorld) : TestWorld :=
  { w with schedData := none, vcpus := [], leader := none }

/-- Reading a snapshot changes only the cached observed state. -/
theorem setSchedData_identity {w w' : TestWorld} {sched : SchedData}
    (h : w.setSchedData sched = .ok w') :
  w'.identity = w.identity
  := by
  obtain ⟨_, _, _, rfl⟩ := setSchedData_eq h
  rfl

/-- `getVcpuVal(valname, typefun)`: `typefun` of the column summed over the workload's rows
with `reduce(operator.add, ...)`, which raises on an empty list. -/
def TestWorld.getVcpuVal {α : Type} [Add α] (w : TestWorld) (valname : String)
    (typefun : String → Except String α) : Except String α := do
  if w.schedData.isNone then throw "AssertionError: Must set schedData before querying"
  let xs ← w.vcpus.mapM fun x => do typefun (← x.get valname)
  match xs with
  | [] => throw "TypeError: reduce() of empty sequence with no initial value"
  | x :: rest => pure (rest.foldl (· + ·) x)

/-- `getVMVal(valname, typefun)`: `typefun` of the leader's column. -/
def TestWorld.getVMVal {α : Type} (w : TestWorld) (valname : String)
    (typefun : String → Except String α) : Except String α :=
  match w.leader with
  | some l => do typefun (← l.get valname)
  | none => throw "AttributeError: 'NoneType' object has no attribute 'data'"

/-- `getMigs()`. -/
def TestWorld.getMigs (w : TestWorld) : Except String Int :=
  w.getVcpuVal "pmigs" pyInt

/-- `getSwitch()`. -/
def TestWorld.getSwitch (w : TestWorld) : Except String Int :=
  w.getVcpuVal "switch" pyInt

/-- `getUsedSec()`. -/
def TestWorld.getUsedSec (w : TestWorld) : Except String ℚ :=
  w.getVcpuVal "usedsec" pyFloat

/-! ### Configuration writes -/

/-- `configMin(min)`: writes `str(min)` to `cpu/min`. -/
def TestWorld.configMin (w : TestWorld) (min : Int) : Except String Write := do
  pure ⟨(← w.getVMDir) ++ "cpu/min", toString min⟩

/-- `configMax(max)`: writes `str(max)` to `cpu/max`. -/
def TestWorld.configMax (w : TestWorld) (max : Int) : Except String Write := do
  pure ⟨(← w.getVMDir) ++ "cpu/max", toString max⟩

/-- `configHTSharing()`: writes `htsharing` to `cpu/hyperthreading`. -/
def TestWorld.configHTSharing (w : TestWorld) : Except String Write := do
  let dir ← w.getVMDir
  match w.htsharing with
  | some mode => pure ⟨dir ++ "cpu/hyperthreading", mode⟩
  | none => throw "TypeError: argument 1 must be string or read-only buffer, not None"

/-! ### The leader is never cleared -/

/-- A row of a snapshot with only a world id and a vcpu number. -/
def vcpuRow (vm vcpu : Nat) : LineData :=
  LineData.zip ["vm", "vcpu"] [toString vm, toString vcpu]

/-- A snapshot whose vcpu rows are `rows`. -/
def snapshotOf (rows : List LineData) : SchedData :=
  ⟨rows, [], [], none⟩

/-- World 5 started, as `start` leaves it. -/
def world5 : TestWorld :=
  { TimerWorld 5 5 with vmid := some 5 }

/-- A first snapshot holds the leader row of world 5 and a second holds no row of it; the
second `setSchedData` returns normally, with no row for the world and the first snapshot's
leader row still in `leader`. -/
theorem setSchedData_keeps_stale_leader :
  (world5.setSchedData (snapshotOf [vcpuRow 5 5]) >>= fun w =>
      w.setSchedData (snapshotOf [vcpuRow 1 1])).map (fun w => (w.vcpus, w.leader))
    = .ok ([], some (vcpuRow 5 5))
  := rfl

end SchedTest
