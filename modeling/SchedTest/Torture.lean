import SchedTest.Results

/-!
# The affinity torture test

`AffinityTortureTest.run` samples the scheduler `numreps` times.  In each round it resets
the statistics, reads one snapshot, and for each workload checks that every vcpu runs where
its affinity allows, checks that the workload is not stuck, draws a new random affinity and
writes it.  Affinity violations are added to the test's error list, which `results`
returns.

The stuck check compares the workload's used time summed over its vcpus with `0.01`, in
doubles: `stuckCheck_eq_sum` says it fires exactly when that sum, each used time read by
`float()` and added as Python adds floats, is below the double `0.01`.  So one starved vcpu
beside a busy one goes unnoticed (`tortureRound_starvedVcpu`), while two vcpus of `0.001`
and `0.009` seconds, whose exact sum is `0.01`, are found stuck.
-/

namespace SchedTest

/-! ### Random affinities -/

/-- `random.choice(r)` with `r` as remaining: it reads one draw, and raises on an empty
list. -/
def randomChoice (r : List Nat) : Harness Nat := do
  let d ← randomDraw
  match r[d % r.length]? with
  | some c => pure c
  | none => throw "IndexError: list index out of range"

/-- The loop of `randAffinity` that draws a distinct pcpu for each of `k` vcpus from the
pcpus `r` not drawn yet. -/
def drawPcpus (r : List Nat) : Nat → Harness (List Nat)
  | 0 => pure []
  | k + 1 => do
    let c ← randomChoice r
    let res ← drawPcpus (r.erase c) k
    pure (c :: res)

/-- `randAffinity(numvcpus)` with `ncpus[1] = n` logical pcpus: every pcpu, one time in
four (`random.randrange(0,4) == 0`), and otherwise a distinct random pcpu for each vcpu. -/
def randAffinity (n numvcpus : Nat) : Harness Affinity := do
  if (← randomDraw) % 4 = 0 then pure (.spec (pcpuString (List.range n)))
  else .list <$> drawPcpus (List.range n) numvcpus

/-- `random.choice(r)` on a non-empty list returns one of its members, whatever the draw. -/
theorem randomChoice_exec {r : List Nat} (hr : r ≠ []) (s : Sys) :
  ∃ c ∈ r, (randomChoice r).exec s = (.ok c, { s with random := s.random.tail })
  := by
  have hlt : s.random.headD 0 % r.length < r.length :=
    Nat.mod_lt _ (List.length_pos.2 hr)
  refine ⟨r[s.random.headD 0 % r.length], List.getElem_mem hlt, ?_⟩
  simp only [randomChoice, Harness.exec_bind, randomDraw_exec, List.getElem?_eq_getElem hlt]
  rfl

/-- Drawing `k` pcpus from `r`, which holds at least `k` and no repeats, returns `k` distinct
members of `r`, whatever the draws. -/
theorem drawPcpus_exec {k : Nat} {r : List Nat} (hk : k ≤ r.length) (hr : r.Nodup) (s : Sys) :
  ∃ xs s', (drawPcpus r k).exec s = (.ok xs, s') ∧ xs.length = k ∧ xs.Nodup ∧ ∀ x ∈ xs, x ∈ r
  := by
  induction k generalizing r s with
  | zero => exact ⟨[], s, rfl, rfl, List.nodup_nil, by simp⟩
  | succ k ih =>
    have hne : r ≠ [] := List.ne_nil_of_length_pos (by omega)
    obtain ⟨c, hc, hchoice⟩ := randomChoice_exec hne s
    have hlen : k ≤ (r.erase c).length := by rw [List.length_erase_of_mem hc]; omega
    obtain ⟨xs, s', hdraw, hxs, hnd, hmem⟩ := ih hlen (hr.erase c) { s with random := s.random.tail }
    refine ⟨c :: xs, s', ?_, by simp [hxs], ?_, ?_⟩
    · simp only [drawPcpus, Harness.exec_bind, hchoice, hdraw, Harness.exec_pure]
    · exact List.nodup_cons.2 ⟨fun h => (hr.not_mem_erase) (hmem c h), hnd⟩
    · simpa [hc] using fun x hx => List.mem_of_mem_erase (hmem x hx)

/-- For `n` logical pcpus and a workload of at most `n` vcpus, whatever the random draws,
`randAffinity` returns the string of every pcpu `"0,1,...,n-1"`, or a list of `numvcpus`
distinct pcpus below `n`. -/
theorem randAffinity_legal {n numvcpus : Nat} (hvn : numvcpus ≤ n) (s : Sys) :
  ∃ a s', (randAffinity n numvcpus).exec s = (.ok a, s') ∧
    (a = .spec (pcpuString (List.range n)) ∨
      ∃ ps, a = .list ps ∧ ps.length = numvcpus ∧ ps.Nodup ∧ ∀ p ∈ ps, p < n)
  := by
  by_cases hall : s.random.headD 0 % 4 = 0
  · refine ⟨_, { s with random := s.random.tail }, ?_, .inl rfl⟩
    simp only [randAffinity, Harness.exec_bind, randomDraw_exec, hall, if_true, Harness.exec_pure]
  · obtain ⟨ps, s', hdraw, hlen, hnd, hmem⟩ :=
      drawPcpus_exec (by simpa using hvn) (List.nodup_range n) { s with random := s.random.tail }
    refine ⟨.list ps, s', ?_, .inr ⟨ps, rfl, hlen, hnd, fun p hp => by simpa using hmem p hp⟩⟩
    simp only [randAffinity, Harness.exec_bind, randomDraw_exec, hall, if_false, map_eq_pure_bind,
      hdraw, Harness.exec_pure]

/-- The draws `[1, 1, 0]` take the list branch, drawing pcpu 1 for vcpu 0 and then the one
left, pcpu 0, for vcpu 1. -/
theorem randAffinity_legal_twoPcpus :
  2 ≤ 2 ∧ ((randAffinity 2 2).exec { perfSys with random := [1, 1, 0] }).1 = .ok (.list [1, 0]) ∧
    ∃ a s', (randAffinity 2 2).exec { perfSys with random := [1, 1, 0] } = (.ok a, s') ∧
    (a = .spec (pcpuString (List.range 2)) ∨
      ∃ ps, a = .list ps ∧ ps.length = 2 ∧ ps.Nodup ∧ ∀ p ∈ ps, p < 2)
  := ⟨le_refl 2, rfl, randAffinity_legal (le_refl 2) _⟩

/-! ### A round -/

/-- The stuck test of a round, `v.getVcpuVal("usedsec", float) < 0.01`, on doubles. -/
def stuckCheck (v : TestWorld) : Except String Bool := do
  return decide ((← v.getVcpuVal "usedsec" pyDouble).val < roundDouble (1 / 100))

/-- The name of a workload's class, as Python's messages print it. -/
def TestWorld.className (w : TestWorld) : String :=
  if w.path = TimerWorld.path then "TimerWorld"
  else if w.path = BasicWorld.path then "BasicWorld" else "TestWorld"

/-- `self.errs.extend(xs)` on the torture test `t`. -/
def extendErrs (t : Nat) (xs : List Failure) : Harness Unit := do
  let x ← getTest t
  match x.kind with
  | .affinityTorture numreps ncpus errs =>
    setTest t { x with kind := .affinityTorture numreps ncpus (errs ++ xs) }
  | _ => pure ()

/-- The body of a round for workload `r`, with `n` logical pcpus.  The message of the stuck
error reads `v.vcpu`, which a workload does not have, so the round raises there. -/
def tortureVm (t n : Nat) (data : SchedData) (r : Nat) : Harness Unit := do
  let v ← Harness.ofExcept ((← getWorld r).setSchedData data)
  setWorld r v
  let (res, newerrs) ← Harness.ofExcept (checkAffinity v)
  if !res then extendErrs t (newerrs.map .text)
  if ← Harness.ofExcept (stuckCheck v) then
    throw ("AttributeError: " ++ v.className ++ " instance has no attribute 'vcpu'")
  let v := { v with affinity := ← randAffinity n v.numvcpus }
  setWorld r v
  writeOf v.configAffinity

/-- One round of `AffinityTortureTest.run`: `random.random()` picks the sleep time, which is
not modelled. -/
def tortureRound (t n : Nat) (vms : List Nat) : Harness Unit := do
  resetStats
  let _ ← randomDraw
  let data ← loadSched
  vms.forM (tortureVm t n data)

/-- `AffinityTortureTest.run()`: `numreps` rounds. -/
def tortureRun (t n : Nat) (vms : List Nat) : Nat → Harness Unit
  | 0 => pure ()
  | k + 1 => do
    tortureRound t n vms
    tortureRun t n vms k

/-! ### The stuck check sums over the vcpus -/

/-- The vcpu rows of world `id`. -/
def worldRows (id : Int) (rows : List LineData) : List LineData :=
  rows.filter fun v => (v.getattr "vm").int.toOption = some id

/-- The used time of a vcpu row, `float(v.data["usedsec"])`. -/
def usedOf (v : LineData) : Except String ℚ := do
  pyFloat (← v.get "usedsec")

/-- The rows `setSchedData` keeps for a world are exactly the snapshot's rows of that world,
in order. -/
theorem collectVcpus_rows {id : Int} {rows : List LineData} {leader leader' : Option LineData}
    {vcpus : List LineData} (h : collectVcpus (some id) rows leader = .ok (vcpus, leader')) :
  vcpus = worldRows id rows
  := by
  induction rows generalizing leader leader' vcpus with
  | nil =>
    simp only [collectVcpus, except_pure, Except.ok.injEq, Prod.mk.injEq] at h
    simp [worldRows, ← h.1]
  | cons v vs ih =>
    simp only [collectVcpus, vmidAttr, except_pure, except_ok_bind] at h
    rcases hvm : (v.getattr "vm").int with _ | vm <;> simp only [hvm, except_ok_bind] at h
    · cases h
    by_cases hm : vm = id
    · simp only [hm, if_true] at h
      rcases hv : (v.getattr "vcpu").int with _ | vcpu <;> simp only [hv, except_ok_bind] at h
      · cases h
      rcases hc : collectVcpus (some id) vs (if id = vcpu then some v else leader) with
        _ | ⟨rest, l⟩ <;> rw [hc] at h
      · cases h
      simp only [except_ok_bind, except_pure, Except.ok.injEq, Prod.mk.injEq] at h
      rw [← h.1, ih hc]
      simp [worldRows, List.filter_cons, hvm, hm, Except.toOption]
    · simp only [hm, if_false] at h
      rw [ih h]
      simp [worldRows, List.filter_cons, hvm, hm, Except.toOption]

/-- `reduce(operator.add, [float(x) for x in xs])` for the decimals `u :: us`: each read as
the nearest double, and added from the left, every partial sum rounded. -/
def floatSum (u : ℚ) (us : List ℚ) : ℚ :=
  ((us.map Binary64.ofRat).foldl (· + ·) (Binary64.ofRat u)).val

/-- Reading a column by `float` on the machine rounds what `pyFloat` reads. -/
private theorem mapM_pyDouble (rows : List LineData) :
  rows.mapM (fun x => do pyDouble (← x.get "usedsec"))
    = List.map Binary64.ofRat <$> rows.mapM usedOf
  := by
  induction rows with
  | nil => rfl
  | cons v vs ih =>
    rw [List.mapM_cons, List.mapM_cons, ih]
    simp only [usedOf, pyDouble]
    rcases v.get "usedsec" with _ | x
    · rfl
    simp only [except_ok_bind]
    rcases pyFloat x with _ | q <;> rcases vs.mapM usedOf with _ | qs <;> rfl

/-- For a workload that has read a snapshot, the stuck check fires exactly when the used
times of its vcpu rows in that snapshot, read and added in doubles, are below the double
`0.01`. -/
theorem stuckCheck_eq_sum {w w' : TestWorld} {sched : SchedData} {id : Int}
    (hid : w.vmid = some id) (h : w.setSchedData sched = .ok w') {u : ℚ} {us : List ℚ}
    (hus : (worldRows id sched.vcpuList).mapM usedOf = .ok (u :: us)) :
  stuckCheck w' = .ok (decide (floatSum u us < roundDouble (1 / 100)))
  := by
  obtain ⟨vcpus, leader, hc, rfl⟩ := setSchedData_eq h
  rw [hid] at hc
  obtain rfl := collectVcpus_rows hc
  simp only [stuckCheck, TestWorld.getVcpuVal, Option.isNone_some, Bool.false_eq_true, if_false,
    mapM_pyDouble, hus]
  rfl

/-! ### A starved vcpu beside a busy one -/

/-- A two-vcpu timer workload started as world 6, with no affinity. -/
def pairWorld : TestWorld :=
  { TimerWorld 5 5 1000 2 with vmid := some 6 }

/-- The vcpu rows of a snapshot in which world 6's vcpu 6 has used no time and its vcpu 7
ten seconds. -/
def starvedLines : List String :=
  ["6 6 w6 0 0.0", "6 7 w6 1 10.0"]

/-- A verbose dump with those vcpu rows. -/
def starvedDump : List String :=
  ["cpus", "1", "", "cell", "", "cpu", "0", "", "vm vcpu name cpu usedsec"] ++ starvedLines

/-- The records of those rows. -/
def starvedRows : List LineData :=
  zipRows "vm vcpu name cpu usedsec" starvedLines

/-- `pairWorld` once it has read them. -/
def starvedWorld : TestWorld :=
  { pairWorld with
    schedData := some (snapshotOf starvedRows), vcpus := starvedRows, leader := starvedRows.head? }

/-- Two rows of world 6 whose used times, `0.001` and `0.009` seconds, add up to exactly
`0.01`. -/
def nearRows : List LineData :=
  zipRows "vm vcpu name cpu usedsec" ["6 6 w6 0 0.001", "6 7 w6 1 0.009"]

/-- `pairWorld` once it has read them. -/
def nearWorld : TestWorld :=
  { pairWorld with
    schedData := some (snapshotOf nearRows), vcpus := nearRows, leader := nearRows.head? }

set_option maxRecDepth 2000 in
/-- The starved vcpu beside a busy one is not found stuck; the two vcpus of `0.001` and
`0.009` seconds are, their double sum falling below `0.01`. -/
theorem stuckCheck_eq_sum_starved_rounded :
  (pairWorld.vmid = some 6 ∧ pairWorld.setSchedData (snapshotOf starvedRows) = .ok starvedWorld ∧
    (worldRows 6 (snapshotOf starvedRows).vcpuList).mapM usedOf = .ok [0, 10] ∧
    stuckCheck starvedWorld = .ok (decide (floatSum 0 [10] < roundDouble (1 / 100))) ∧
    ¬ floatSum 0 [10] < roundDouble (1 / 100)) ∧
  (pairWorld.setSchedData (snapshotOf nearRows) = .ok nearWorld ∧
    (worldRows 6 (snapshotOf nearRows).vcpuList).mapM usedOf = .ok [1 / 1000, 9 / 1000] ∧
    stuckCheck nearWorld = .ok (decide (floatSum (1 / 1000) [9 / 1000] < roundDouble (1 / 100))) ∧
    floatSum (1 / 1000) [9 / 1000] < roundDouble (1 / 100) ∧ ¬ (1 / 1000 + 9 / 1000 : ℚ) < 1 / 100)
  := by
  have hid : pairWorld.vmid = some 6 := rfl
  have h : pairWorld.setSchedData (snapshotOf starvedRows) = .ok starvedWorld := rfl
  have hus : (worldRows 6 (snapshotOf starvedRows).vcpuList).mapM usedOf = .ok [0, 10] := by
    with_unfolding_all rfl
  have h' : pairWorld.setSchedData (snapshotOf nearRows) = .ok nearWorld := rfl
  have hus' : (worldRows 6 (snapshotOf nearRows).vcpuList).mapM usedOf
      = .ok [1 / 1000, 9 / 1000] := by
    with_unfolding_all rfl
  exact ⟨⟨hid, h, hus, stuckCheck_eq_sum hid h hus, by with_unfolding_all decide⟩,
    ⟨h', hus', stuckCheck_eq_sum hid h' hus', by with_unfolding_all decide,
      by with_unfolding_all decide⟩⟩

/-- What `loadData` makes of `starvedDump`. -/
def starvedSched : SchedData :=
  ⟨starvedRows, zipRows "cpu" ["0"], starvedLines, some (LineData.zip ["cpus"] ["1"])⟩

/-- A torture test of one round over workload 0 on two pcpus, whose snapshot is
`starvedDump`; the draws give the workload the affinity `[0, 1]`. -/
def starvedSys : Sys where
  worlds := fun _ => pairWorld
  tests := fun _ => BasicTest.init [0] 1 "torture" (.affinityTorture 1 (2, 2) [])
  vmDirs := []
  cpuVerbose := [starvedDump]
  random := [0, 1, 0, 0]
  writes := []
  out := []

/-- In that round vcpu 6 of the workload has used no time, and the round returns with the
test's error list still empty. -/
theorem tortureRound_starvedVcpu :
  (do (worldRows 6 (← loadData starvedDump true).vcpuList).mapM usedOf) = .ok [0, 10] ∧
    ((tortureRound 0 2 [0]).exec starvedSys).1 = .ok () ∧
    ((tortureRound 0 2 [0]).exec starvedSys).2.tests 0 = starvedSys.tests 0
  := by
  have hload : loadData starvedDump true = .ok starvedSched := rfl
  refine ⟨by rw [hload]; with_unfolding_all rfl, ?_, ?_⟩ <;>
    simp only [tortureRound, resetStats, starvedSys, Harness.exec_bind, writeFile_exec,
      randomDraw_exec, loadSched_exec, List.headD_cons, hload] <;>
    with_unfolding_all rfl

end SchedTest
