import SchedTest.Affinity

/-!
# The machine the harness drives

The harness runs against a live scheduler.  A `Sys` is what it sees of that machine and
what it keeps in memory: the workload and test objects, by reference, since tests share and
change them; the answers of the proc interface to successive reads, as streams in the order
they are read (the listings of `/proc/vmware/vm`, the contents of `sched/cpu-verbose`, the
outcomes of the random module); the writes it has made; and what it has printed.  Harness
code is a computation in `Harness`, which threads a `Sys` and raises as Python does, keeping
the effects made before the raise.

`Sys.Frame` says what reading may change, and `Harness.Keeps` that a computation changes
no more than that on any run.

The control nodes have a meaning of their own, from the spec: `liveWorlds` reads the write
log as the scheduler's test-world module does, one world created per `start` command and
every world of a kind removed by `stop`.
-/

namespace SchedTest

/-! ### Test objects -/

/-- An entry of a test's error list: a `TestError`, whose message is kept as its format and
the values it formats; a `FairnessError` naming its workload by reference; or the bare
string that `AffinityTortureTest` appends. -/
inductive Failure where
  | testError (msg : String) (args : List ℚ) (sched : SchedData)
  | fairnessError (desc : String) (vm : Nat) (fairness : ℚ) (sched : SchedData)
  | text (s : String)
  deriving Repr

/-- `err.sched`: a bare string has none. -/
def Failure.sched : Failure → Except String SchedData
  | .testError _ _ s => pure s
  | .fairnessError _ _ _ s => pure s
  | .text _ => throw "AttributeError: 'str' object has no attribute 'sched'"

/-- What a kind of test adds to `BasicTest`: its bound and, for `AffinityTortureTest`, the
number of rounds, the `(physical, logical)` pcpu counts read at construction, and the error
list its rounds extend.  `VmkstatsTest`, which drives the external vmkstats profiler through
its control file and shell commands, is not modelled. -/
inductive TestKind where
  | fairness (maxUnfairness : ℚ)
  | minMax (maxErr : ℚ)
  | perfStats
  | affinityTorture (numreps : Nat) (ncpus : Nat × Nat) (errs : List Failure)
  deriving Repr

/-- A test object: its name, its workloads by reference, whether it always prints its
results, and what its kind adds. -/
structure BasicTest where
  name : String
  vms : List Nat
  alwaysVerbose : Bool
  kind : TestKind
  deriving Repr

/-- `BasicTest.__init__(vms)` followed by the subclass's `self.name = name`: the workload
list is repeated `TEST_SIZE_FACTOR` times, `vms * TEST_SIZE_FACTOR`. -/
def BasicTest.init (vms : List Nat) (testSizeFactor : Nat) (name : String) (kind : TestKind) :
    BasicTest where
  name := name
  vms := (List.replicate testSizeFactor vms).flatten
  alwaysVerbose := false
  kind := kind

/-- `vms * k` holds `k` entries for each entry of `vms`. -/
@[simp] theorem BasicTest.init_vms_length (vms : List Nat) (k : Nat) (name : String)
    (kind : TestKind) :
  (BasicTest.init vms k name kind).vms.length = k * vms.length
  := by
  induction k with
  | zero => simp [BasicTest.init]
  | succ k ih =>
    simp only [BasicTest.init, List.replicate_succ, List.flatten_cons, List.length_append] at ih ⊢
    rw [ih, Nat.succ_mul, Nat.add_comm]

/-- For `k ≥ 1`, `vms * k` holds the workloads of `vms` and no other. -/
@[simp] theorem BasicTest.mem_init_vms {vms : List Nat} {k : Nat} {name : String}
    {kind : TestKind} (hk : 0 < k) {r : Nat} :
  r ∈ (BasicTest.init vms k name kind).vms ↔ r ∈ vms
  := by simp [BasicTest.init, hk.ne']

/-- What `run_tests` and `run_batch_tests` print, one event per `print`. -/
inductive Report where
  | passed (num : Nat) (name : String)
  | failed (num : Nat) (name : String)
  | error (name : String) (err : Failure)
  | sched (text : String)
  | results (res : List (String × ℚ))
  | separator
  | status (pass : Bool)
  | element (e : String) (value : ℚ)
  deriving Repr

/-! ### The machine and the harness monad -/

/-- The harness's view of the machine. -/
structure Sys where
  worlds : Nat → TestWorld
  tests : Nat → BasicTest
  vmDirs : List (List String)
  cpuVerbose : List (List String)
  random : List Nat
  writes : List Write
  out : List Report

/-- Harness code: it reads and changes a `Sys`, and may raise. -/
abbrev Harness := ExceptT String (StateM Sys)

/-- Runs harness code from `s`: its result or the error it raised, and the state it left. -/
def Harness.exec {α : Type} (x : Harness α) (s : Sys) : Except String α × Sys :=
  x.run.run s

@[simp] theorem Harness.exec_pure {α : Type} (a : α) (s : Sys) :
  (pure a : Harness α).exec s = (.ok a, s)
  := rfl

@[simp] theorem Harness.exec_throw {α : Type} (e : String) (s : Sys) :
  (throw e : Harness α).exec s = (.error e, s)
  := rfl

@[simp] theorem Harness.exec_bind {α β : Type} (x : Harness α) (f : α → Harness β) (s : Sys) :
  (x >>= f).exec s = match x.exec s with
    | (.ok a, s') => (f a).exec s'
    | (.error e, s') => (.error e, s')
  := by
  simp only [Harness.exec, ExceptT.run_bind, StateT.run_bind]
  cases x.run.run s with
  | mk r s' => cases r <;> rfl

@[simp] theorem Harness.exec_get (s : Sys) :
  (get : Harness Sys).exec s = (.ok s, s)
  := rfl

/-- A sequence returns normally only when its first part does. -/
theorem Harness.exec_bind_ok {α β : Type} {x : Harness α} {f : α → Harness β} {s s' : Sys}
    {b : β} (h : (x >>= f).exec s = (.ok b, s')) :
  ∃ a s₁, x.exec s = (.ok a, s₁) ∧ (f a).exec s₁ = (.ok b, s')
  := by
  rw [Harness.exec_bind] at h
  rcases hx : x.exec s with ⟨_ | a, s₁⟩ <;> rw [hx] at h
  · cases h
  · exact ⟨a, s₁, rfl, h⟩

/-- A sequence raises when its first part does, or when its first part returns and the rest
raises. -/
theorem Harness.exec_bind_error {α β : Type} {x : Harness α} {f : α → Harness β} {s s' : Sys}
    {e : String} (h : (x >>= f).exec s = (.error e, s')) :
  x.exec s = (.error e, s') ∨ ∃ a s₁, x.exec s = (.ok a, s₁) ∧ (f a).exec s₁ = (.error e, s')
  := by
  rw [Harness.exec_bind] at h
  rcases hx : x.exec s with ⟨_ | a, s₁⟩ <;> rw [hx] at h <;> dsimp only at h
  · cases h
    exact .inl rfl
  · exact .inr ⟨a, s₁, rfl, h⟩

theorem Harness.exec_bind_of_ok {α β : Type} {x : Harness α} {f : α → Harness β} {s s₁ : Sys}
    {a : α} (h : x.exec s = (.ok a, s₁)) :
  (x >>= f).exec s = (f a).exec s₁
  := by rw [Harness.exec_bind, h]

/-- A run that returns ends in its own final state; stated over any run, so that applying it
to a concrete run never unfolds that run's final state. -/
theorem Harness.exec_eq_of_ok {α : Type} {x : Harness α} {s : Sys} {a : α}
    (h : (x.exec s).1 = .ok a) : x.exec s = (.ok a, (x.exec s).2)
  := Prod.ext h rfl

theorem Harness.exec_eq_of_error {α : Type} {x : Harness α} {s : Sys} {e : String}
    (h : (x.exec s).1 = .error e) : x.exec s = (.error e, (x.exec s).2)
  := Prod.ext h rfl

/-- `try ... except`: the handler runs from the state the protected code raised in. -/
@[simp] theorem Harness.exec_tryCatch {α : Type} (x : Harness α) (handle : String → Harness α)
    (s : Sys) :
  (tryCatch x handle).exec s = match x.exec s with
    | (.ok a, s') => (.ok a, s')
    | (.error e, s') => (handle e).exec s'
  := by
  show (ExceptT.tryCatch x handle).run.run s = _
  simp only [ExceptT.tryCatch, ExceptT.run_mk, StateT.run_bind]
  simp only [Harness.exec, ExceptT.run]
  rcases StateT.run x s with ⟨_ | a, s'⟩ <;> rfl

/-- A failing or succeeding pure computation in the harness. -/
def Harness.ofExcept {α : Type} : Except String α → Harness α
  | .ok a => pure a
  | .error e => throw e

@[simp] theorem Harness.exec_ofExcept {α : Type} (x : Except String α) (s : Sys) :
  (Harness.ofExcept x).exec s = (x, s)
  := by cases x <;> rfl

/-- The workload object `r`. -/
def getWorld (r : Nat) : Harness TestWorld :=
  return (← get).worlds r

/-- Replaces the workload object `r`, as an assignment to its fields does. -/
def setWorld (r : Nat) (w : TestWorld) : Harness Unit :=
  modify fun s => { s with worlds := Function.update s.worlds r w }

/-- The test object `t`. -/
def getTest (t : Nat) : Harness BasicTest :=
  return (← get).tests t

/-- Replaces the test object `t`. -/
def setTest (t : Nat) (x : BasicTest) : Harness Unit :=
  modify fun s => { s with tests := Function.update s.tests t x }

/-- `open(path, "w").write(data)`. -/
def writeFile (path data : String) : Harness Unit :=
  modify fun s => { s with writes := s.writes ++ [⟨path, data⟩] }

/-- Makes a write that a pure computation prepared. -/
def writeOf (x : Except String Write) : Harness Unit := do
  let w ← Harness.ofExcept x
  writeFile w.path w.data

/-- `print`. -/
def print (r : Report) : Harness Unit :=
  modify fun s => { s with out := s.out ++ [r] }

/-- `glob.glob("/proc/vmware/vm/*")`: the next listing, empty once the stream is spent. -/
def globVmDirs : Harness (List String) :=
  modifyGet fun s => (s.vmDirs.headD [], { s with vmDirs := s.vmDirs.tail })

/-- The next contents of `/proc/vmware/sched/cpu-verbose`, as lines. -/
def readCpuVerbose : Harness (List String) :=
  modifyGet fun s => (s.cpuVerbose.headD [], { s with cpuVerbose := s.cpuVerbose.tail })

/-- `parse_sched.load_data()`: parses the next contents of `sched/cpu-verbose`. -/
def loadSched : Harness SchedData := do
  Harness.ofExcept (loadData (← readCpuVerbose) true)

/-- The next outcome of the random module, `0` once the stream is spent. -/
def randomDraw : Harness Nat :=
  modifyGet fun s => (s.random.headD 0, { s with random := s.random.tail })

/-- `parse_sched.reset_stats()`. -/
def resetStats : Harness Unit :=
  writeFile "/proc/vmware/sched/reset-stats" "reset"

/-- `stop_timer_worlds()`: `stop` to the node of the timer-driven kind. -/
def stopTimerWorlds : Harness Unit :=
  writeFile TimerWorld.path "stop"

@[simp] theorem getWorld_exec (r : Nat) (s : Sys) :
  (getWorld r).exec s = (.ok (s.worlds r), s)
  := rfl

@[simp] theorem setWorld_exec (r : Nat) (w : TestWorld) (s : Sys) :
  (setWorld r w).exec s = (.ok (), { s with worlds := Function.update s.worlds r w })
  := rfl

@[simp] theorem getTest_exec (t : Nat) (s : Sys) :
  (getTest t).exec s = (.ok (s.tests t), s)
  := rfl

@[simp] theorem setTest_exec (t : Nat) (x : BasicTest) (s : Sys) :
  (setTest t x).exec s = (.ok (), { s with tests := Function.update s.tests t x })
  := rfl

@[simp] theorem writeFile_exec (path data : String) (s : Sys) :
  (writeFile path data).exec s = (.ok (), { s with writes := s.writes ++ [⟨path, data⟩] })
  := rfl

@[simp] theorem print_exec (r : Report) (s : Sys) :
  (print r).exec s = (.ok (), { s with out := s.out ++ [r] })
  := rfl

@[simp] theorem globVmDirs_exec (s : Sys) :
  globVmDirs.exec s = (.ok (s.vmDirs.headD []), { s with vmDirs := s.vmDirs.tail })
  := rfl

@[simp] theorem readCpuVerbose_exec (s : Sys) :
  readCpuVerbose.exec s
    = (.ok (s.cpuVerbose.headD []), { s with cpuVerbose := s.cpuVerbose.tail })
  := rfl

@[simp] theorem randomDraw_exec (s : Sys) :
  randomDraw.exec s = (.ok (s.random.headD 0), { s with random := s.random.tail })
  := rfl

@[simp] theorem loadSched_exec (s : Sys) :
  loadSched.exec s
    = (loadData (s.cpuVerbose.headD []) true, { s with cpuVerbose := s.cpuVerbose.tail })
  := by simp [loadSched]

/-! ### What a computation may change -/

/-- From `s` to `s'` every workload has kept its identity, and the tests, the writes and the
output are as they were: only the streams read and the workloads' observed state have
moved. -/
def Sys.Frame (s s' : Sys) : Prop :=
  (∀ r, (s'.worlds r).identity = (s.worlds r).identity) ∧ s'.tests = s.tests ∧
    s'.writes = s.writes ∧ s'.out = s.out

theorem Sys.Frame.refl (s : Sys) : s.Frame s
  := ⟨fun _ => rfl, rfl, rfl, rfl⟩

theorem Sys.Frame.trans {s₁ s₂ s₃ : Sys} (h₁ : s₁.Frame s₂) (h₂ : s₂.Frame s₃) : s₁.Frame s₃
  := ⟨fun r => (h₂.1 r).trans (h₁.1 r), h₂.2.1.trans h₁.2.1, h₂.2.2.1.trans h₁.2.2.1,
    h₂.2.2.2.trans h₁.2.2.2⟩

/-- Harness code that keeps `Sys.Frame` on every run, whether it returns or raises. -/
def Harness.Keeps {α : Type} (x : Harness α) : Prop :=
  ∀ s : Sys, s.Frame (x.exec s).2

theorem Harness.keeps_pure {α : Type} (a : α) : (pure a : Harness α).Keeps
  := fun s => Sys.Frame.refl s

theorem Harness.keeps_throw {α : Type} (e : String) : (throw e : Harness α).Keeps
  := fun s => Sys.Frame.refl s

theorem Harness.keeps_ofExcept {α : Type} (x : Except String α) : (Harness.ofExcept x).Keeps
  := fun s => by simpa using Sys.Frame.refl s

theorem Harness.keeps_get : (get : Harness Sys).Keeps
  := fun s => Sys.Frame.refl s

theorem Harness.keeps_getTest (t : Nat) : (getTest t).Keeps
  := fun s => Sys.Frame.refl s

theorem Harness.keeps_loadSched : loadSched.Keeps
  := fun s => by
  rw [loadSched_exec]
  exact ⟨fun _ => rfl, rfl, rfl, rfl⟩

/-- Code that keeps the frame, followed by code that keeps it whatever the first returned,
keeps it. -/
theorem Harness.keeps_bind {α β : Type} {x : Harness α} {f : α → Harness β} (hx : x.Keeps)
    (hf : ∀ a, (f a).Keeps) : (x >>= f).Keeps
  := fun s => by
  have h₁ := hx s
  rw [Harness.exec_bind]
  rcases hxs : x.exec s with ⟨_ | a, s₁⟩ <;> rw [hxs] at h₁
  · exact h₁
  · exact h₁.trans (hf a s₁)

/-! ### The control nodes -/

/-- Modelled from the spec: how one write changes the number of live worlds of the kind
whose control node is `kind`.  A `start ...` command written there creates one world, and
`stop` removes every world of the kind; a write elsewhere changes nothing. -/
def liveStep (kind : String) (n : Nat) (w : Write) : Nat :=
  if w.path = kind then
    if w.data = "stop" then 0
    else if (split w.data).head? = some "start" then n + 1 else n
  else n

/-- Modelled from the spec: the number of live worlds of kind `kind` after the writes `ws`,
none being live before. -/
def liveWorlds (kind : String) (ws : List Write) : Nat :=
  ws.foldl (liveStep kind) 0

theorem liveWorlds_append (kind : String) (ws ws' : List Write) :
  liveWorlds kind (ws ++ ws') = ws'.foldl (liveStep kind) (liveWorlds kind ws)
  := List.foldl_append ..

/-- A write to another kind's node leaves this kind's worlds as they are. -/
theorem liveStep_of_ne {kind : String} {w : Write} (h : w.path ≠ kind) (n : Nat) :
  liveStep kind n w = n
  := by simp [liveStep, h]

/-- `stop` to a kind's node leaves none of its worlds live. -/
theorem liveStep_stop (kind : String) (n : Nat) :
  liveStep kind n ⟨kind, "stop"⟩ = 0
  := by simp [liveStep]

end SchedTest
