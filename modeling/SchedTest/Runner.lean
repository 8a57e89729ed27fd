import SchedTest.Torture

/-!
# Running the tests

`run_tests` runs each test of a list in turn: `setup` starts its workloads (a second time,
after a `shutdown`, when the first attempt raises), `run` lets them run, `results` measures,
and `shutdown` stops the workloads; then it prints whether the test passed, its errors, and
its results.  Nothing catches an error raised after `setup`: it ends the whole run.
`run_batch_tests` runs the tests the same way and prints a status line and the value of
each test element instead.

At verbosity at most 1 reporting a test never raises, whatever its errors: `report_ok`.
Whatever the kind of test, `results` changes the workloads' cached observed state only,
never what a workload is or how it is configured: `results_keeps`.

`shutdown` writes `stop` to the timer-world node only, so a basic workload stays live after
its test: `runTests_leaves_basic_world`.  At verbosity 2 `run_tests` prints the snapshot of
a failed test's first error, which the bare strings of the torture test do not carry:
`runTests_verbose_string_error`.
-/

namespace SchedTest

/-! ### The steps of a test -/

/-- `shutdown()`, documented as "Stops all timer/basic worlds": `stop_timer_worlds()`. -/
def BasicTest.shutdown : Harness Unit :=
  stopTimerWorlds

/-- `setup()`: starts the test's workloads in order; if that raises, shuts down and starts
them all again, and raises what the second attempt raises. -/
def BasicTest.setup (t : Nat) : Harness Unit := do
  let vms := (← getTest t).vms
  tryCatch (vms.forM TestWorld.start) fun _ => do
    BasicTest.shutdown
    vms.forM TestWorld.start

/-- `run()`: the statistics are reset and the workloads run for `RUN_TIME` seconds, or the
torture test's rounds, on its `ncpus[1]` logical pcpus. -/
def BasicTest.run (t : Nat) : Harness Unit := do
  let x ← getTest t
  match x.kind with
  | .affinityTorture numreps ncpus _ => tortureRun t ncpus.2 x.vms numreps
  | _ => resetStats

/-- `results()`: the result map and the error list. -/
def BasicTest.results (runTime t : Nat) : Harness (List (String × ℚ) × List Failure) := do
  let x ← getTest t
  match x.kind with
  | .fairness maxUnfairness => fairnessResults x.vms maxUnfairness
  | .minMax maxErr => minMaxResults x.vms maxErr
  | .perfStats => perfStatsResults runTime x.vms
  | .affinityTorture _ _ errs => pure ([("affintorture", 0)], errs)

/-- Whatever kind of test, and whether it returns or raises, `results()` changes only the
workloads' observed state and the stream of snapshots: no workload's identity or
configuration, no test, no write and no output. -/
theorem results_keeps (runTime t : Nat) : (BasicTest.results runTime t).Keeps
  := Harness.keeps_bind (Harness.keeps_getTest t) fun x => by
  cases x.kind with
  | fairness maxUnfairness => exact fairnessResults_keeps _ _
  | minMax maxErr => exact minMaxResults_keeps _ _
  | perfStats => exact perfStatsResults_keeps _ _
  | affinityTorture _ _ errs => exact Harness.keeps_pure _

/-- `getTestElements()`: the keys `run_batch_tests` prints, counted by position. -/
def BasicTest.getTestElements (t : Nat) : Harness (List String) := do
  let x ← getTest t
  let worlds := (← get).worlds
  pure <| match x.kind with
    | .fairness _ => x.vms.enum.map fun (i, r) => (worlds r).shortFormat ++ "#" ++ toString i
    | .minMax _ => x.vms.enum.flatMap fun (i, r) =>
      ["minratio-" ++ (worlds r).shortFormat ++ "#" ++ toString i,
        "maxratio-" ++ (worlds r).shortFormat ++ "#" ++ toString i]
    | .perfStats => ["switch", "pmigs", "yields", "idle"]
    | .affinityTorture .. => []

/-! ### `run_tests` and `run_batch_tests` -/

/-- What `run_tests` prints for test number `num` once it has run: `PASSED` or `FAILED` and
each error; at verbosity 2 the first error's snapshot, `errors[0].sched`; and the results,
when verbose, failed, or always wanted. -/
def report (verbose num : Nat) (x : BasicTest) (res : List (String × ℚ))
    (errors : List Failure) : Harness Unit := do
  if errors.isEmpty then print (.passed num x.name)
  else
    print (.failed num x.name)
    errors.forM fun err => print (.error x.name err)
  match errors with
  | err :: _ =>
    if verbose > 1 then print (.sched (String.join (← Harness.ofExcept err.sched).vcpulines))
  | [] => pure ()
  if verbose > 0 ∨ !errors.isEmpty ∨ x.alwaysVerbose then print (.results res)
  print .separator

/-- One iteration of the loop of `run_tests`. -/
def runTest (runTime verbose num t : Nat) : Harness Unit := do
  BasicTest.setup t
  BasicTest.run t
  let (res, errors) ← BasicTest.results runTime t
  BasicTest.shutdown
  report verbose num (← getTest t) res errors

/-- The loop of `run_tests` from test number `num` on. -/
def runTestsFrom (runTime verbose : Nat) : Nat → List Nat → Harness Unit
  | _, [] => pure ()
  | num, t :: ts => do
    runTest runTime verbose num t
    runTestsFrom runTime verbose (num + 1) ts

/-- `run_tests(testList, verbose)` with `RUN_TIME = runTime`. -/
def runTests (runTime verbose : Nat) (tests : List Nat) : Harness Unit :=
  runTestsFrom runTime verbose 0 tests

theorem forM_print_exec {α : Type} (f : α → Report) (l : List α) (s : Sys) :
  (l.forM fun a => print (f a)).exec s = (.ok (), { s with out := s.out ++ l.map f })
  := by
  induction l generalizing s with
  | nil => simp
  | cons a as ih => simp [ih]

/-- At verbosity at most 1 reporting a test never raises, whatever its errors, and prints the
verdict first: `FAILED` exactly when there are errors. -/
theorem report_ok {verbose : Nat} (hv : verbose ≤ 1) (num : Nat) (x : BasicTest)
    (res : List (String × ℚ)) (errors : List Failure) (s : Sys) :
  ∃ rest, (report verbose num x res errors).exec s = (.ok (), { s with out := s.out ++
    (if errors.isEmpty then Report.passed num x.name else .failed num x.name) :: rest })
  := by
  have hv' : ¬ verbose > 1 := by omega
  cases errors <;> simp [report, hv', forM_print_exec]
  split_ifs <;> simp

/-- One iteration of the loop of `run_batch_tests`. -/
def runBatchTest (runTime t : Nat) : Harness Unit := do
  BasicTest.setup t
  BasicTest.run t
  let (res, errors) ← BasicTest.results runTime t
  BasicTest.shutdown
  print (.status errors.isEmpty)
  (← BasicTest.getTestElements t).forM fun e =>
    match res.lookup e with
    | some v => print (.element e v)
    | none => pure ()

/-- `run_batch_tests(testList)` with `RUN_TIME = runTime`. -/
def runBatchTests (runTime : Nat) (tests : List Nat) : Harness Unit :=
  tests.forM (runBatchTest runTime)

/-! ### A basic workload outlives its test -/

/-- One `PerfStatsTest` of one basic workload; starting it creates world 2 beside world 1. -/
def basicSys : Sys where
  worlds := fun _ => BasicWorld 10 0
  tests := fun _ => BasicTest.init [0] 1 "cpu-bound basic VM" .perfStats
  vmDirs := [vmListing [1], vmListing [1, 2]]
  cpuVerbose := [rowsDump [1], rowsDump [1, 2], perfDumpOf 2]
  random := []
  writes := []
  out := []

/-- `run_tests` returns normally, every `shutdown` has returned, and the basic world its
test created is still live. -/
theorem runTests_leaves_basic_world :
  ((runTests 50 0 [0]).exec basicSys).1 = .ok () ∧
    liveWorlds BasicWorld.path ((runTests 50 0 [0]).exec basicSys).2.writes = 1
  := ⟨by with_unfolding_all rfl, by with_unfolding_all rfl⟩

/-! ### A bare-string error at verbosity 2 -/

/-- The snapshot of a torture round: world 2's vcpu runs on pcpu 1. -/
def pinnedDump : List String :=
  ["cpus", "1", "", "cell", "", "cpu", "0", "", "vm vcpu name cpu usedsec", "2 2 w2 1 5.0"]

/-- What `loadData` makes of `pinnedDump`. -/
def pinnedSched : SchedData :=
  ⟨zipRows "vm vcpu name cpu usedsec" ["2 2 w2 1 5.0"], zipRows "cpu" ["0"], ["2 2 w2 1 5.0"],
    some (LineData.zip ["cpus"] ["1"])⟩

/-- An affinity torture test of one round over a timer workload pinned to pcpu 0, which
starts as world 2 and runs on pcpu 1, followed by a test of a basic workload. -/
def pinnedSys : Sys where
  worlds := fun r => if r = 0 then TimerWorld 5 5 1000 1 0 0 (.pcpu 0) else BasicWorld 10 0
  tests := fun t => if t = 0 then BasicTest.init [0] 1 "torture" (.affinityTorture 1 (2, 2) [])
    else BasicTest.init [1] 1 "cpu-bound basic VM" .perfStats
  vmDirs := [vmListing [1], vmListing [1, 2]]
  cpuVerbose := [rowsDump [1], rowsDump [1, 2], pinnedDump]
  random := [0, 1, 0]
  writes := []
  out := []

/-- At verbosity 2 `run_tests` reports the torture test `FAILED` with its affinity error, then
raises reading that error's snapshot; the second test is never started. -/
theorem runTests_verbose_string_error :
  (fun x : Except String Unit × Sys => (x.1, x.2.out, x.2.writes))
      ((runTests 50 2 [0, 1]).exec pinnedSys)
    = (.error "AttributeError: 'str' object has no attribute 'sched'",
      [.failed 0 "torture",
        .error "torture" (.text "affinity=0, affinlist[i]=0, vcpu=0, running on pcpu: 1\n")],
      [⟨TimerWorld.path, "start 1 1000 5 5"⟩, ⟨"/proc/vmware/vm/2/cpu/affinity", "0"⟩,
        ⟨"/proc/vmware/sched/reset-stats", "reset"⟩, ⟨"/proc/vmware/vm/2/cpu/affinity", "0:0;"⟩,
        ⟨TimerWorld.path, "stop"⟩])
  := by
  have hload : loadData pinnedDump true = .ok pinnedSched := rfl
  have hsetup : (BasicTest.setup 0).exec pinnedSys
      = (.ok (), ((BasicTest.setup 0).exec pinnedSys).2) := Prod.ext rfl rfl
  have hcpu : ((BasicTest.setup 0).exec pinnedSys).2.cpuVerbose = [pinnedDump] := rfl
  have hrand : ((BasicTest.setup 0).exec pinnedSys).2.random = [0, 1, 0] := rfl
  have htest : ((BasicTest.setup 0).exec pinnedSys).2.tests 0
      = BasicTest.init [0] 1 "torture" (.affinityTorture 1 (2, 2) []) := rfl
  rw [runTests, runTestsFrom, runTest, bind_assoc, Harness.exec_bind_of_ok hsetup]
  simp only [BasicTest.run, bind_assoc, Harness.exec_bind, getTest_exec, htest, BasicTest.init,
    tortureRun, tortureRound, resetStats, writeFile_exec, randomDraw_exec, hrand, List.headD_cons,
    List.tail_cons, loadSched_exec, hcpu, hload]
  with_unfolding_all rfl

end SchedTest
