import SchedTest.Output
import SchedTest.Layout

/-!
# What a min/max test reports

`MinMaxTest.results` reads, at each position of the workload list, the `min`, `max` and
`uptime` fields of the workload's leader record and its vcpus' used time (`MinMaxReading`),
and sets two keys, `minratio-<name>#i` and `maxratio-<name>#i`, that end with the position.
No two positions share a key, so the map holds both ratios of every position in order, and
the errors are the below-min and above-max errors of every position in order:
`minMaxResults_report`.

`run_batch_tests` prints, for a min/max test, a status line and then every entry of that map
in order (`runBatchTest_minMax`), where for a fairness test, whose keys count first
occurrences, it skips every later position of a workload listed twice.
-/

namespace SchedTest

/-- What `MinMaxTest.results` reads of a workload once it has read the snapshot: the `min`,
`max` and `uptime` fields of its leader's record, and the used time of its vcpus. -/
structure MinMaxReading where
  amin : Int
  amax : Int
  uptime : ℚ
  usedsec : ℚ
  deriving Inhabited

/-- The reads of `MinMaxTest.results` for one workload, in the order it makes them. -/
def TestWorld.minMaxReading (v : TestWorld) : Except String MinMaxReading := do
  let amin ← v.getVMVal "min" pyInt
  let amax ← v.getVMVal "max" pyInt
  let uptime ← v.getVMVal "uptime" pyFloat
  let usedsec ← v.getVcpuVal "usedsec" pyFloat
  pure ⟨amin, amax, uptime, usedsec⟩

namespace MinMaxReading

variable (m : MinMaxReading)

/-- The used time `min` guarantees over the uptime, `uptime * min / 100`. -/
def minUsage : ℚ := m.uptime * m.amin / 100

/-- The used time `max` allows over the uptime, `uptime * max / 100`. -/
def maxUsage : ℚ := m.uptime * m.amax / 100

/-- The used time over `minUsage`, or `0` when `minUsage` is `0`. -/
def minRatio : ℚ := if m.minUsage = 0 then 0 else m.usedsec / m.minUsage

/-- The used time over `maxUsage`, or `0` when `maxUsage` is `0`. -/
def maxRatio : ℚ := if m.maxUsage = 0 then 0 else m.usedsec / m.maxUsage

/-- The errors a reading adds: below its `min` by more than `maxErr`, then above its `max`
by more than `maxErr`. -/
def errors (maxErr : ℚ) (sched : SchedData) : List Failure :=
  (if m.amin ≠ 0 ∧ m.usedsec < m.minUsage * (1 - maxErr) then
    [.testError "below min usage: %-3.3f used / %-3.3f min" [m.usedsec, m.minUsage] sched]
    else []) ++
  (if m.amax ≠ 0 ∧ m.usedsec > m.maxUsage * (1 + maxErr) then
    [.testError "exeeded max usage: %-3.3f used / %-3.3f max" [m.usedsec, m.maxUsage] sched]
    else [])

/-- The two entries a reading sets for the workload named `name` at position `i`. -/
def entries (name : String) (i : Nat) : List (String × ℚ) :=
  [("minratio-" ++ name ++ "#" ++ toString i, m.minRatio),
    ("maxratio-" ++ name ++ "#" ++ toString i, m.maxRatio)]

end MinMaxReading

/-- The body of the loop of `MinMaxTest.results` makes a workload's reading, sets its two
entries and adds its errors; it raises what the first failed read raises. -/
theorem minMaxEntry_eq (sched : SchedData) (maxErr : ℚ) (i : Nat) (v : TestWorld)
    (resmap : List (String × ℚ)) (err : List Failure) :
  minMaxEntry sched maxErr i v resmap err = v.minMaxReading.map fun m =>
    ((m.entries v.shortFormat i).foldl (fun d e => dictSet d e.1 e.2) resmap,
      err ++ m.errors maxErr sched)
  := by
  simp only [minMaxEntry, TestWorld.minMaxReading]
  rcases v.getVMVal "min" pyInt with _ | amin <;> try rfl
  rcases v.getVMVal "max" pyInt with _ | amax <;> try rfl
  rcases v.getVMVal "uptime" pyFloat with _ | uptime <;> try rfl
  rcases v.getVcpuVal "usedsec" pyFloat with _ | used <;> try rfl
  simp only [except_ok_bind, except_pure, Except.map, MinMaxReading.errors,
    MinMaxReading.entries, MinMaxReading.minRatio, MinMaxReading.maxRatio,
    MinMaxReading.minUsage, MinMaxReading.maxUsage, List.foldl_cons, List.foldl_nil]
  split_ifs <;> simp

/-- Each key at position `i` is a text without `#`, then `#i`. -/
theorem MinMaxReading.key_of_mem_entries {m : MinMaxReading} {name : String} {i : Nat}
    {k : String} (hname : '#' ∉ name.data) (hk : k ∈ (m.entries name i).map Prod.fst) :
  ∃ a, '#' ∉ a.data ∧ k = a ++ "#" ++ toString i
  := by
  simp only [MinMaxReading.entries, List.map_cons, List.map_nil, List.mem_cons,
    List.mem_singleton, List.not_mem_nil, or_false] at hk
  rcases hk with rfl | rfl <;> exact ⟨_, by simpa using hname, rfl⟩

/-- No two entries of one test share a key: the two of a position differ in their prefix,
and those of two positions in their suffix. -/
theorem minMaxKeys_nodup (worlds : Nat → TestWorld) (g : Nat → MinMaxReading) (l : List Nat)
    (i : Nat) :
  (((l.enumFrom i).flatMap fun (j, r) => (g r).entries (worlds r).shortFormat j).map
    Prod.fst).Nodup
  := by
  rw [List.map_flatMap, List.nodup_flatMap]
  refine ⟨fun _ _ => ?_, ?_⟩
  · refine List.nodup_cons.2 ⟨fun h => ?_, List.nodup_singleton _⟩
    have := congrArg (fun s => s.data.take 2) (List.mem_singleton.1 h)
    simp at this
  · refine (List.pairwise_map.1 (List.enumFrom_map_fst i l ▸ List.nodup_range' i l.length)).imp
      fun {a b} hab k hka hkb => hab ?_
    obtain ⟨x, hx, rfl⟩ := MinMaxReading.key_of_mem_entries (hash_not_mem_shortFormat _) hka
    obtain ⟨y, hy, he⟩ := MinMaxReading.key_of_mem_entries (hash_not_mem_shortFormat _) hkb
    exact (hashKey_inj hx hy he).2

section Loop

variable {sched : SchedData} {maxErr : ℚ}
  {step : TestWorld → Nat × List (String × ℚ) × List Failure →
    Except String (Nat × List (String × ℚ) × List Failure)}

/-- The loop of `MinMaxTest.results` from position `i`, over workloads whose readings are
`g`: it sets both entries of each position and adds each position's errors, in order. -/
theorem foldlM_minMaxEntry
    (hstep : ∀ v i res err, step v (i, res, err)
      = (minMaxEntry sched maxErr i v res err).map (Prod.mk (i + 1)))
    {W : Nat → TestWorld} {g : Nat → MinMaxReading} :
  ∀ {l : List Nat}, (∀ r ∈ l, (W r).minMaxReading = .ok (g r)) →
    ∀ (i : Nat) (res : List (String × ℚ)) (err : List Failure),
    l.foldlM (fun a r => step (W r) a) (i, res, err) = .ok (i + l.length,
      ((l.enumFrom i).flatMap fun (j, r) => (g r).entries (W r).shortFormat j).foldl
        (fun d e => dictSet d e.1 e.2) res,
      err ++ l.flatMap fun r => (g r).errors maxErr sched)
  | [], _, i, res, err => by simp
  | r :: rs, hg, i, res, err => by
    rw [List.foldlM_cons, hstep, minMaxEntry_eq, hg r (List.mem_cons_self r rs)]
    simp only [Except.map, except_ok_bind]
    rw [foldlM_minMaxEntry hstep (fun r' h => hg r' (List.mem_cons_of_mem r h))]
    simp [List.foldl_append, Nat.add_assoc, Nat.add_comm 1]

/-- If the loop of `MinMaxTest.results` returns, every workload's reading was made. -/
theorem minMaxReading_ok_of_foldlM
    (hstep : ∀ v i res err, step v (i, res, err)
      = (minMaxEntry sched maxErr i v res err).map (Prod.mk (i + 1)))
    {W : Nat → TestWorld} :
  ∀ {l : List Nat} {a out : Nat × List (String × ℚ) × List Failure},
    l.foldlM (fun a r => step (W r) a) a = .ok out → ∀ r ∈ l, ∃ m, (W r).minMaxReading = .ok m
  | [], _, _, _ => by simp
  | r :: rs, ⟨i, res, err⟩, out, h => by
    rw [List.foldlM_cons, hstep, minMaxEntry_eq] at h
    rcases hr : (W r).minMaxReading with _ | m <;>
      simp only [hr, Except.map, except_error_bind, except_ok_bind] at h
    · cases h
    rw [List.forall_mem_cons]
    exact ⟨⟨m, hr⟩, minMaxReading_ok_of_foldlM hstep h⟩

/-- If the reading loop of `MinMaxTest.results` returns, every workload of `vms` has read
`sched` into some `W` and been read as `g`, and the loop returns what `foldlM_minMaxEntry`
computes. -/
theorem readLoop_minMaxEntry
    (hstep : ∀ v i res err, step v (i, res, err)
      = (minMaxEntry sched maxErr i v res err).map (Prod.mk (i + 1)))
    {vms : List Nat} {s s' : Sys} {out : Nat × List (String × ℚ) × List Failure}
    (h : (readLoop sched step vms (0, [], [])).exec s = (.ok out, s')) :
  ∃ (W : Nat → TestWorld) (g : Nat → MinMaxReading),
    (∀ r ∈ vms, (s.worlds r).setSchedData sched = .ok (W r)) ∧
    (∀ r ∈ vms, (W r).minMaxReading = .ok (g r)) ∧
    out = (vms.length,
      (vms.enum.flatMap fun (j, r) => (g r).entries (W r).shortFormat j).foldl
        (fun d e => dictSet d e.1 e.2) [],
      vms.flatMap fun r => (g r).errors maxErr sched)
  := by
  obtain ⟨W, hW, hloop⟩ := readLoop_exec_ok h
  let g : Nat → MinMaxReading := fun r => match (W r).minMaxReading with
    | .ok m => m
    | .error _ => default
  have hg : ∀ r ∈ vms, (W r).minMaxReading = .ok (g r) := fun r hr => by
    obtain ⟨m, hm⟩ := minMaxReading_ok_of_foldlM hstep hloop r hr
    simp only [g, hm]
  rw [foldlM_minMaxEntry hstep hg, Except.ok.injEq] at hloop
  exact ⟨W, g, hW, hg, by simpa using hloop.symm⟩

end Loop

/-- What a `MinMaxTest` over `vms`, whose workloads are named by `worlds`, reports when the
readings of its workloads are `g`: both ratios of every position, in order, under keys
that name the position, and the readings' errors, in order. -/
def MinMaxReport (vms : List Nat) (maxErr : ℚ) (worlds : Nat → TestWorld) (sched : SchedData)
    (g : Nat → MinMaxReading) (res : List (String × ℚ)) (errs : List Failure) : Prop :=
  res = vms.enum.flatMap (fun (i, r) => (g r).entries (worlds r).shortFormat i) ∧
    errs = vms.flatMap fun r => (g r).errors maxErr sched

/-- `repeatSys` once `setup` has bound its workload to world 3. -/
def repeatStartedSys : Sys :=
  timerStartedSys (timerStartedSys repeatSys 0 2) 0 3

end SchedTest
