import SchedTest.Start

/-!
# What the tests measure

Each kind of test reads one snapshot at the end of its run and returns a result map and an
error list.  `FairnessTest` compares each workload's share of the used time with its share
of the configured shares; `MinMaxTest` compares each workload's used time with its `min` and
`max`; `PerfStatsTest` reports the context switches, migrations, yields and idle time per
second of the run.  The result maps are dictionaries, kept as association lists filled with
`dictSet`; their keys name a workload by `shortFormat` and a position.
-/

namespace SchedTest

/-! ### Naming workloads -/

/-- `"%0*d" % (width, n)`: `n` padded with zeros to `width` characters, its sign included. -/
def zeroPad (width : Nat) (n : Int) : String :=
  let sign := if n < 0 then "-" else ""
  let digits := toString n.natAbs
  sign ++ String.mk (List.replicate (width - sign.length - digits.length) '0') ++ digits

/-- `shortFormat()`: the kind's prefix, then
`"%05d-%1d-%02dr-%02dw" % (shares, numvcpus, run, wait)`. -/
def TestWorld.shortFormat (w : TestWorld) : String :=
  let kind :=
    if w.path = TimerWorld.path then "timer-" else if w.path = BasicWorld.path then "basic-" else ""
  kind ++ zeroPad 5 w.shares ++ "-" ++ zeroPad 1 w.numvcpus ++ "-" ++ zeroPad 2 w.run ++ "r-" ++
    zeroPad 2 w.wait ++ "w"

/-- Reading a snapshot changes no configured parameter, so neither a workload's shares nor
its name. -/
theorem setSchedData_shortFormat {w w' : TestWorld} {sched : SchedData}
    (h : w.setSchedData sched = .ok w') :
  w'.shares = w.shares ∧ w'.shortFormat = w.shortFormat
  := by
  obtain ⟨_, _, _, rfl⟩ := setSchedData_eq h
  exact ⟨rfl, rfl⟩

/-! ### Reading the snapshot -/

/-- The loop `for v in self.vms: v.setSchedData(sched); ...` that each test's `results`
opens with: every workload reads the snapshot, then `step` adds what it measures to the
totals. -/
def readLoop {β : Type} (sched : SchedData) (step : TestWorld → β → Except String β) :
    List Nat → β → Harness β
  | [], acc => pure acc
  | r :: rs, acc => do
    let v ← Harness.ofExcept ((← getWorld r).setSchedData sched)
    setWorld r v
    readLoop sched step rs (← Harness.ofExcept (step v acc))

private theorem foldlM_congr {β : Type} {step : TestWorld → β → Except String β}
    {W W' : Nat → TestWorld} {l : List Nat} (h : ∀ r ∈ l, W r = W' r) (acc : β) :
  l.foldlM (fun a r => step (W r) a) acc = l.foldlM (fun a r => step (W' r) a) acc
  := by
  induction l generalizing acc with
  | nil => rfl
  | cons r rs ih =>
    simp only [List.foldlM_cons, h r (List.mem_cons_self r rs)]
    cases step (W' r) acc with
    | error e => rfl
    | ok a => exact ih (fun r' hr' => h r' (List.mem_cons_of_mem r hr')) a

/-- When every workload of `vms` reads `sched` into `W`, `readLoop` returns what the steps
compute over `W` in order, and leaves the workloads of `vms` as `W` has them. -/
theorem readLoop_exec_of {β : Type} {sched : SchedData} {step : TestWorld → β → Except String β}
    {W : Nat → TestWorld} {vms : List Nat} {s : Sys}
    (hW : ∀ r ∈ vms, (s.worlds r).setSchedData sched = .ok (W r)) {acc acc' : β}
    (hstep : vms.foldlM (fun a r => step (W r) a) acc = .ok acc') :
  (readLoop sched step vms acc).exec s
    = (.ok acc', { s with worlds := fun r => if r ∈ vms then W r else s.worlds r })
  := by
  induction vms generalizing s acc with
  | nil =>
    simp only [List.foldlM_nil, except_pure, Except.ok.injEq] at hstep
    subst hstep
    simp [readLoop]
  | cons r rs ih =>
    have hr := hW r (List.mem_cons_self r rs)
    simp only [List.foldlM_cons] at hstep
    rcases hs : step (W r) acc with _ | a₁ <;> rw [hs] at hstep
    · cases hstep
    simp only [readLoop, Harness.exec_bind, getWorld_exec, hr, Harness.exec_ofExcept,
      setWorld_exec, hs]
    rw [ih (fun r' hr' => ?_) hstep]
    · congr 2
      funext r'
      by_cases h : r' = r <;> simp [Function.update, h]
    · by_cases h : r' = r
      · subst h
        simpa [Function.update] using setSchedData_idem hr
      · simpa [Function.update, h] using hW r' (List.mem_cons_of_mem r hr')

/-- If `readLoop` returns, every workload of `vms` has read `sched` into some `W`, and the
steps over `W` gave what it returns. -/
theorem readLoop_exec_ok {β : Type} {sched : SchedData} {step : TestWorld → β → Except String β}
    {vms : List Nat} {s s' : Sys} {acc acc' : β}
    (h : (readLoop sched step vms acc).exec s = (.ok acc', s')) :
  ∃ W : Nat → TestWorld, (∀ r ∈ vms, (s.worlds r).setSchedData sched = .ok (W r)) ∧
    vms.foldlM (fun a r => step (W r) a) acc = .ok acc'
  := by
  induction vms generalizing s acc with
  | nil =>
    simp only [readLoop, Harness.exec_pure, Prod.mk.injEq, Except.ok.injEq] at h
    exact ⟨s.worlds, by simp, by simp [h.1]⟩
  | cons r rs ih =>
    simp only [readLoop, Harness.exec_bind, getWorld_exec] at h
    rcases hv : (s.worlds r).setSchedData sched with _ | v <;>
      simp only [hv, Harness.exec_ofExcept] at h
    · cases h
    simp only [setWorld_exec] at h
    rcases ha : step v acc with _ | a₁ <;> simp only [ha, Harness.exec_ofExcept] at h
    · cases h
    obtain ⟨W', hW', hstep⟩ := ih h
    have hagree : ∀ r' ∈ rs, Function.update W' r v r' = W' r' := fun r' hr' => by
      by_cases h' : r' = r
      · subst h'
        have := hW' r' hr'
        simp only [Function.update_same, setSchedData_idem hv, Except.ok.injEq] at this
        simp [this]
      · simp [h']
    refine ⟨Function.update W' r v, fun r' hr' => ?_, ?_⟩
    · by_cases h' : r' = r
      · subst h'
        simpa using hv
      · rw [Function.update_noteq h', ← hW' r' ((List.mem_cons.1 hr').resolve_left h')]
        simp [Function.update_noteq h']
    · simp only [List.foldlM_cons, Function.update_same, ha, except_ok_bind]
      rw [foldlM_congr hagree, hstep]

/-! ### `FairnessTest` -/

/-- The body of the first loop of `FairnessTest.results` once workload `v` has read the
snapshot: `totalShares += v.shares; totalUsed += v.getUsedSec()`. -/
def fairnessStep (v : TestWorld) (totals : Int × ℚ) : Except String (Int × ℚ) := do
  pure (totals.1 + v.shares, totals.2 + (← v.getUsedSec))

/-- The first loop of `FairnessTest.results`: each workload reads the snapshot, and its
shares and used time are added to the totals. -/
def fairnessTotals (sched : SchedData) (vms : List Nat) : Harness (Int × ℚ) :=
  readLoop sched fairnessStep vms (0, 0)

/-- The fairness of one workload: its share of the used time over its share of the shares,
after `assert v.shares > 0`. -/
def fairnessOf (v : TestWorld) (totalShares : Int) (totalUsed : ℚ) : Except String ℚ := do
  if ¬ v.shares > 0 then throw "AssertionError"
  let shareFraction : ℚ := v.shares / totalShares
  pure ((← v.getUsedSec) / totalUsed / shareFraction)

/-- The key under which `FairnessTest.results` reports workload `r` of `vms`:
`v.shortFormat() + "#" + str(self.vms.index(v))`. -/
def fairnessKey (vms : List Nat) (worlds : Nat → TestWorld) (r : Nat) : String :=
  (worlds r).shortFormat ++ "#" ++ toString (vms.indexOf r)

/-- The second loop of `FairnessTest.results`: each workload's fairness is reported under
its key, and one beyond `maxUnfairness` of `1` adds a `FairnessError`. -/
def fairnessRatios (vms : List Nat) (worlds : Nat → TestWorld) (sched : SchedData)
    (maxUnfairness : ℚ) (totalShares : Int) (totalUsed : ℚ) :
    List Nat → List (String × ℚ) × List Failure →
      Except String (List (String × ℚ) × List Failure)
  | [], acc => pure acc
  | r :: rs, (resmap, errors) => do
    let fairness ← fairnessOf (worlds r) totalShares totalUsed
    let errors := if |fairness - 1| > maxUnfairness then
      errors ++ [.fairnessError "unfairness limit exceeded" r fairness sched] else errors
    fairnessRatios vms worlds sched maxUnfairness totalShares totalUsed rs
      (dictSet resmap (fairnessKey vms worlds r) fairness, errors)

/-- `FairnessTest.results()` for the workloads `vms`. -/
def fairnessResults (vms : List Nat) (maxUnfairness : ℚ) :
    Harness (List (String × ℚ) × List Failure) := do
  let sched ← loadSched
  let (totalShares, totalUsed) ← fairnessTotals sched vms
  if ¬ totalUsed > 0 then throw "AssertionError"
  if ¬ totalShares > 0 then throw "AssertionError"
  Harness.ofExcept (fairnessRatios vms (← get).worlds sched maxUnfairness totalShares totalUsed
    vms ([], []))

/-! ### `MinMaxTest` -/

/-- The body of the loop of `MinMaxTest.results` for the `i`-th workload `v`, once it has
read the snapshot: its used time against `uptime * min / 100` and `uptime * max / 100`. -/
def minMaxEntry (sched : SchedData) (maxErr : ℚ) (i : Nat) (v : TestWorld)
    (resmap : List (String × ℚ)) (err : List Failure) :
    Except String (List (String × ℚ) × List Failure) := do
  let amin ← v.getVMVal "min" pyInt
  let amax ← v.getVMVal "max" pyInt
  let uptime ← v.getVMVal "uptime" pyFloat
  let minUsage : ℚ := uptime * amin / 100
  let maxUsage : ℚ := uptime * amax / 100
  let usedsec ← v.getVcpuVal "usedsec" pyFloat
  let err := if amin ≠ 0 ∧ usedsec < minUsage * (1 - maxErr) then
    err ++ [.testError "below min usage: %-3.3f used / %-3.3f min" [usedsec, minUsage] sched]
    else err
  let err := if amax ≠ 0 ∧ usedsec > maxUsage * (1 + maxErr) then
    err ++ [.testError "exeeded max usage: %-3.3f used / %-3.3f max" [usedsec, maxUsage] sched]
    else err
  let minRatio := if minUsage = 0 then 0 else usedsec / minUsage
  let maxRatio := if maxUsage = 0 then 0 else usedsec / maxUsage
  let resmap := dictSet resmap ("minratio-" ++ v.shortFormat ++ "#" ++ toString i) minRatio
  pure (dictSet resmap ("maxratio-" ++ v.shortFormat ++ "#" ++ toString i) maxRatio, err)

/-- `MinMaxTest.results()` for the workloads `vms`: its loop counts positions from `0`. -/
def minMaxResults (vms : List Nat) (maxErr : ℚ) :
    Harness (List (String × ℚ) × List Failure) := do
  let sched ← loadSched
  let (_, resmap, err) ← readLoop sched (fun v (i, resmap, err) => do
    let (resmap, err) ← minMaxEntry sched maxErr i v resmap err
    pure (i + 1, resmap, err)) vms (0, [], [])
  pure (resmap, err)

/-! ### `PerfStatsTest` -/

/-- `reduce(operator.add, xs)`, which raises on an empty list. -/
def pyReduceAdd : List Int → Except String Int
  | [] => throw "TypeError: reduce() of empty sequence with no initial value"
  | x :: xs => pure (xs.foldl (· + ·) x)

/-- `x / RUN_TIME` for a float `x`. -/
def pyFloatDiv (x : ℚ) (b : Nat) : Except String ℚ :=
  if b = 0 then throw "ZeroDivisionError: float division" else pure (x / b)

/-- The first loop of `PerfStatsTest.results`: each workload reads the snapshot, and its
migrations and context switches are added to the totals. -/
def perfStatsTotals (sched : SchedData) (vms : List Nat) : Harness (Int × Int) :=
  readLoop sched (fun v (totalMigs, totalSwitch) => do
    let migs ← v.getMigs
    pure (totalMigs + migs, totalSwitch + (← v.getSwitch))) vms (0, 0)

/-- The loop over the snapshot's vcpu rows: the rows whose name contains `idle`, counted,
and their used times, summed. -/
def idleTotals : List LineData → Nat → ℚ → Except String (Nat × ℚ)
  | [], nidle, idleTotal => pure (nidle, idleTotal)
  | v :: vs, nidle, idleTotal => do
    if ← (v.getattr "name").find "idle" then
      idleTotals vs (nidle + 1) (idleTotal + (← (v.getattr "usedsec").float))
    else idleTotals vs nidle idleTotal

/-- The rest of `PerfStatsTest.results()`, after a run of `RUN_TIME` seconds, once the loop
over the workloads has summed their migrations and switches: it reads only the snapshot.
The totals of migrations, switches and yields are integers, and Python 2 divides them by
`RUN_TIME` with floor division. -/
def perfStatsOf (runTime : Nat) (sched : SchedData) (totalMigs totalSwitch : Int) :
    Except String (List (String × ℚ) × List Failure) := do
  let totalYields ← sched.pcpuList.mapM (fun p => do pyInt (← p.get "yield")) >>= pyReduceAdd
  let (nidle, idleTotal) ← idleTotals sched.vcpuList 0 0
  if nidle ≠ sched.pcpuList.length then throw "AssertionError"
  let switch ← pyIntDiv totalSwitch runTime
  let pmigs ← pyIntDiv totalMigs runTime
  let yields ← pyIntDiv totalYields runTime
  let idle ← pyFloatDiv idleTotal runTime
  pure ([("switch", switch), ("pmigs", pmigs), ("yields", yields), ("idle", idle)], [])

/-- `PerfStatsTest.results()` for the workloads `vms`, after a run of `RUN_TIME` seconds. -/
def perfStatsResults (runTime : Nat) (vms : List Nat) :
    Harness (List (String × ℚ) × List Failure) := do
  let sched ← loadSched
  let (totalMigs, totalSwitch) ← perfStatsTotals sched vms
  Harness.ofExcept (perfStatsOf runTime sched totalMigs totalSwitch)

/-! ### `results()` keeps each workload's identity -/

/-- The reading loop changes the workloads' observed state and nothing else, whether it
returns or raises. -/
theorem readLoop_keeps {β : Type} (sched : SchedData) (step : TestWorld → β → Except String β)
    (vms : List Nat) (acc : β) :
  (readLoop sched step vms acc).Keeps
  := by
  induction vms generalizing acc with
  | nil => exact Harness.keeps_pure acc
  | cons r rs ih =>
    intro s
    simp only [readLoop, Harness.exec_bind, getWorld_exec]
    rcases hv : (s.worlds r).setSchedData sched with _ | v <;>
      simp only [Harness.exec_ofExcept, setWorld_exec]
    · exact Sys.Frame.refl s
    have hset : s.Frame { s with worlds := Function.update s.worlds r v } :=
      ⟨fun r' => by by_cases h : r' = r <;> simp [Function.update, h, setSchedData_identity hv],
        rfl, rfl, rfl⟩
    rcases step v acc with _ | a
    · exact hset
    · exact hset.trans (ih a _)

theorem fairnessResults_keeps (vms : List Nat) (maxUnfairness : ℚ) :
  (fairnessResults vms maxUnfairness).Keeps
  := Harness.keeps_bind Harness.keeps_loadSched fun _ =>
    Harness.keeps_bind (readLoop_keeps _ _ _ _) fun ⟨_, _⟩ s => by
      simp only [Harness.exec_bind]
      repeat' split
      all_goals simp [Sys.Frame.refl]

theorem minMaxResults_keeps (vms : List Nat) (maxErr : ℚ) : (minMaxResults vms maxErr).Keeps
  := Harness.keeps_bind Harness.keeps_loadSched fun _ =>
    Harness.keeps_bind (readLoop_keeps _ _ _ _) fun ⟨_, _, _⟩ => Harness.keeps_pure _

theorem perfStatsResults_keeps (runTime : Nat) (vms : List Nat) :
  (perfStatsResults runTime vms).Keeps
  := Harness.keeps_bind Harness.keeps_loadSched fun _ =>
    Harness.keeps_bind (readLoop_keeps _ _ _ _) fun ⟨_, _⟩ => Harness.keeps_ofExcept _

/-! ### Rates are floored -/

/-- A dump with one pcpu, which yielded 3 times, the idle world 1 with one vcpu, which ran
49 seconds, and world `id` with one vcpu, which migrated twice and switched once. -/
def perfDumpOf (id : Nat) : List String :=
  ["cpus", "1", "", "cell", "", "cpu yield", "0 3", "", "vm vcpu name usedsec pmigs switch",
    "1 1 idle0 49.0 0 0", toString id ++ " " ++ toString id ++ " w 1.0 2 1"]

/-- A `PerfStatsTest` of `world5` whose snapshot is `perfDumpOf 5`. -/
def perfSys : Sys where
  worlds := fun _ => world5
  tests := fun _ => BasicTest.init [0] 1 "perf" .perfStats
  vmDirs := []
  cpuVerbose := [perfDumpOf 5]
  random := []
  writes := []
  out := []

/-- After a run of 50 seconds, `results` reports 0 switches, migrations and yields per
second where the counts are 1, 2 and 3, and the idle time exactly. -/
theorem perfStatsResults_floors :
  ((perfStatsResults 50 [0]).exec perfSys).1
    = .ok ([("switch", 0), ("pmigs", 0), ("yields", 0), ("idle", 49 / 50)], [])
  := by with_unfolding_all rfl

end SchedTest
