import SchedTest.Results

/-!
# Fairness is a ratio of ratios

`FairnessTest.results` reports for each workload its share of the used time over its share
of the configured shares.  Both are ratios to totals the first loop sums over the same
workloads, so the report does not change when every workload's shares are multiplied by one
positive integer, or when every workload's used time is multiplied by one positive rational:
`fairnessResults_scale_invariant`.  A key names its workload by `shortFormat`, which prints
the shares, so under the first scaling each fairness moves to its workload's new key; under
the second the keys stay, and each `FairnessError` carries the snapshot it was measured on.

The proof follows the two loops of `results`: `fairnessResults_exec_ok` and
`fairnessResults_exec_of` say what a run that returns has computed, the first loop's totals
scale with its terms (`foldlM_map_of_step`), and the second loop gives equal fairness under
corresponding keys, which no two workloads share (`fairnessKey_inj`), on both runs
(`fairnessRatios_rel`).

What a run that returns reports is, in full, `FairnessReport`: each workload's fairness
under its key and nothing under any other key, and a `FairnessError` for exactly the
workloads beyond the limit, in list order: `fairnessResults_report`.
-/

namespace SchedTest

/-! ### Keys -/

theorem hash_not_mem_zeroPad (width : Nat) (n : Int) : '#' ∉ (zeroPad width n).data
  := by
  have hdigits := toString_not_mem n.natAbs '#' rfl
  simp only [zeroPad, String.data_append]
  split <;> simp [List.mem_replicate, hdigits]

theorem hash_not_mem_shortFormat (w : TestWorld) : '#' ∉ w.shortFormat.data
  := by
  simp only [TestWorld.shortFormat, String.data_append, List.mem_append, hash_not_mem_zeroPad]
  split_ifs <;> simp

/-- No two workloads of a test report under one key: the key ends with the workload's
position. -/
theorem fairnessKey_inj {vms : List Nat} {worlds : Nat → TestWorld} {r r' : Nat}
    (hr : r ∈ vms) (hr' : r' ∈ vms) (h : fairnessKey vms worlds r = fairnessKey vms worlds r') :
  r = r'
  := by
  have hsplit : ∀ x, (fairnessKey vms worlds x).data.splitOn '#'
      = [(worlds x).shortFormat.data, (toString (vms.indexOf x)).data] := fun x => by
    simp only [fairnessKey, String.data_append, List.append_assoc]
    rw [List.singleton_append, splitOn_append_cons (hash_not_mem_shortFormat _),
      splitOn_of_not_mem (toString_not_mem _ '#' rfl)]
  have hdata := congrArg (fun k => k.data.splitOn '#') h
  simp only [hsplit, List.cons.injEq] at hdata
  exact (List.indexOf_inj hr hr').1 (toString_injective (String.ext hdata.2.1))

/-- The keys of the second loop, taken on the heap the first loop left, are those of the
workloads before they read the snapshot. -/
theorem fairnessKey_read {vms : List Nat} {W worlds : Nat → TestWorld} {sched : SchedData}
    {r : Nat} (hr : r ∈ vms) (h : (worlds r).setSchedData sched = .ok (W r)) :
  fairnessKey vms (fun r' => if r' ∈ vms then W r' else worlds r') r = fairnessKey vms worlds r
  := by simp only [fairnessKey, if_pos hr, (setSchedData_shortFormat h).2]

/-! ### The two loops -/

/-- A loop whose body commutes with `f` maps its result by `f`: the first loop of `results`
under a scaling of its terms. -/
theorem foldlM_map_of_step {β γ : Type} (g₁ : β → Nat → Except String β)
    (g₂ : γ → Nat → Except String γ) (f : β → γ) {l : List Nat}
    (h : ∀ r ∈ l, ∀ b, g₂ (f b) r = f <$> g₁ b r) (b : β) :
  l.foldlM g₂ (f b) = f <$> l.foldlM g₁ b
  := by
  induction l generalizing b with
  | nil => rfl
  | cons r rs ih =>
    simp only [List.foldlM_cons, h r (List.mem_cons_self r rs)]
    cases g₁ b r with
    | error e => rfl
    | ok b' => exact ih (fun r' hr' => h r' (List.mem_cons_of_mem r hr')) b'

/-- The same finding, measured on the snapshot `sched`. -/
def Failure.withSched (sched : SchedData) : Failure → Failure
  | .testError msg args _ => .testError msg args sched
  | .fairnessError desc vm fairness _ => .fairnessError desc vm fairness sched
  | .text s => .text s

/-- The second loop of `results` on two heaps whose workloads of `vms` have the same
fairness: from result maps that agree under corresponding keys, it returns maps that agree
so too, and the same errors up to `φ`, which moves a finding to the second snapshot. -/
theorem fairnessRatios_rel {vms : List Nat} (H₁ H₂ : Nat → TestWorld)
    {sched₁ sched₂ : SchedData} {mu : ℚ} {S₁ S₂ : Int} {U₁ U₂ : ℚ} {φ : Failure → Failure}
    (hφ : ∀ desc r f, φ (.fairnessError desc r f sched₁) = .fairnessError desc r f sched₂)
    (hf : ∀ r ∈ vms, fairnessOf (H₂ r) S₂ U₂ = fairnessOf (H₁ r) S₁ U₁) {l : List Nat}
    (hl : ∀ r ∈ l, r ∈ vms) {res₁ : List (String × ℚ)} (res₂ : List (String × ℚ))
    {errs : List Failure}
    (hres : ∀ r ∈ vms, res₂.lookup (fairnessKey vms H₂ r) = res₁.lookup (fairnessKey vms H₁ r))
    {out : List (String × ℚ) × List Failure}
    (h : fairnessRatios vms H₁ sched₁ mu S₁ U₁ l (res₁, errs) = .ok out) :
  ∃ res₂', fairnessRatios vms H₂ sched₂ mu S₂ U₂ l (res₂, errs.map φ)
      = .ok (res₂', out.2.map φ) ∧
    ∀ r ∈ vms, res₂'.lookup (fairnessKey vms H₂ r) = out.1.lookup (fairnessKey vms H₁ r)
  := by
  induction l generalizing res₁ res₂ errs with
  | nil =>
    simp only [fairnessRatios, except_pure, Except.ok.injEq] at h
    subst h
    exact ⟨res₂, rfl, hres⟩
  | cons r rs ih =>
    have hr := hl r (List.mem_cons_self r rs)
    simp only [fairnessRatios] at h ⊢
    rw [hf r hr]
    rcases hfr : fairnessOf (H₁ r) S₁ U₁ with _ | f <;> rw [hfr] at h
    · cases h
    simp only [except_ok_bind] at h ⊢
    have hkey : ∀ r' ∈ vms, ∀ H : Nat → TestWorld,
        (fairnessKey vms H r' = fairnessKey vms H r ↔ r' = r) := fun r' hr' H =>
      ⟨fairnessKey_inj hr' hr, fun h => h ▸ rfl⟩
    obtain ⟨res₂', hrun, hlook⟩ := ih (fun r' hr' => hl r' (List.mem_cons_of_mem r hr'))
      (dictSet res₂ (fairnessKey vms H₂ r) f) (fun r' hr' => by
        simp only [lookup_dictSet, hkey r' hr', hres r' hr']) h
    refine ⟨res₂', ?_, hlook⟩
    rw [← hrun]
    split_ifs <;> simp [hφ]

/-! ### A run of `results` -/

/-- If `FairnessTest.results` returns, the snapshot it read parses to some `sched`, every
workload read it into some `W`, the first loop over `W` gave positive totals, and the second
loop over the heap the first left gave what it returns. -/
theorem fairnessResults_exec_ok {vms : List Nat} {mu : ℚ} {s s' : Sys}
    {out : List (String × ℚ) × List Failure} (h : (fairnessResults vms mu).exec s = (.ok out, s')) :
  ∃ (sched : SchedData) (W : Nat → TestWorld) (S : Int) (U : ℚ),
    loadData (s.cpuVerbose.headD []) true = .ok sched ∧
    (∀ r ∈ vms, (s.worlds r).setSchedData sched = .ok (W r)) ∧
    vms.foldlM (fun a r => fairnessStep (W r) a) (0, 0) = .ok (S, U) ∧ 0 < U ∧ 0 < S ∧
    fairnessRatios vms (fun r => if r ∈ vms then W r else s.worlds r) sched mu S U vms ([], [])
      = .ok out
  := by
  obtain ⟨sched, s₁, hload, h⟩ := Harness.exec_bind_ok h
  simp only [loadSched_exec, Prod.mk.injEq] at hload
  obtain ⟨⟨S, U⟩, s₂, htot, h⟩ := Harness.exec_bind_ok h
  obtain ⟨W, hW, hstep⟩ := readLoop_exec_ok htot
  rw [← hload.2] at htot hW
  rw [fairnessTotals, readLoop_exec_of hW hstep, Prod.mk.injEq] at htot
  rw [← htot.2] at h
  refine ⟨sched, W, S, U, hload.1, hW, hstep, ?_⟩
  by_cases hU : 0 < U <;> by_cases hS : 0 < S <;>
    simp [hU, hS, Harness.exec_ofExcept] at h ⊢
  exact h.1

/-- Conversely, a run of `FairnessTest.results` returns what the two loops compute. -/
theorem fairnessResults_exec_of {vms : List Nat} {mu : ℚ} {s : Sys} {sched : SchedData}
    {W : Nat → TestWorld} {S : Int} {U : ℚ} {out : List (String × ℚ) × List Failure}
    (hload : loadData (s.cpuVerbose.headD []) true = .ok sched)
    (hW : ∀ r ∈ vms, (s.worlds r).setSchedData sched = .ok (W r))
    (hstep : vms.foldlM (fun a r => fairnessStep (W r) a) (0, 0) = .ok (S, U)) (hU : 0 < U)
    (hS : 0 < S)
    (hout : fairnessRatios vms (fun r => if r ∈ vms then W r else s.worlds r) sched mu S U vms
      ([], []) = .ok out) :
  ∃ s', (fairnessResults vms mu).exec s = (.ok out, s')
  := by
  have htot := readLoop_exec_of (s := { s with cpuVerbose := s.cpuVerbose.tail }) hW hstep
  rw [← fairnessTotals] at htot
  simp only [fairnessResults, Harness.exec_bind, loadSched_exec, hload, htot]
  simp [hU, hS, hout]

/-! ### Scaling -/

/-- A first-loop step over a workload with `k` times the shares and `c` times the used time
adds `k` and `c` times as much. -/
theorem fairnessStep_scale {v v' : TestWorld} {k : Int} {c : ℚ} (hsh : v'.shares = k * v.shares)
    (hu : v'.getUsedSec = (c * ·) <$> v.getUsedSec) (p : Int × ℚ) :
  fairnessStep v' (k * p.1, c * p.2)
    = (fun q : Int × ℚ => (k * q.1, c * q.2)) <$> fairnessStep v p
  := by
  simp only [fairnessStep, hsh, hu]
  cases v.getUsedSec <;> simp [mul_add]

/-- Fairness is a ratio of ratios: scaling a workload's shares and the total shares by one
positive factor, and its used time and the total used time by another, leaves it as it
is. -/
theorem fairnessOf_scale {v v' : TestWorld} {k : Int} {c : ℚ} (hk : 0 < k) (hc : 0 < c)
    (hsh : v'.shares = k * v.shares) (hu : v'.getUsedSec = (c * ·) <$> v.getUsedSec)
    (S : Int) (U : ℚ) :
  fairnessOf v' (k * S) (c * U) = fairnessOf v S U
  := by
  have hpos : 0 < k * v.shares ↔ 0 < v.shares := mul_pos_iff_of_pos_left hk
  have hfrac : ((k * v.shares : Int) : ℚ) / ((k * S : Int) : ℚ) = v.shares / S := by
    push_cast
    exact mul_div_mul_left _ _ (by exact_mod_cast hk.ne')
  simp only [fairnessOf, hsh, hu, gt_iff_lt, hpos, hfrac]
  cases v.getUsedSec <;> simp [mul_div_mul_left _ _ hc.ne']

/-- Two runs of `FairnessTest.results` over the same workloads, the second on a snapshot in
which each workload reads `k` times the shares and `c` times the used time it reads in the
first: if the first returns, the second returns the same errors, up to `φ`, and the same
fairness under each workload's key. -/
theorem fairnessResults_scale {vms : List Nat} {mu : ℚ} {s s₁ t : Sys}
    {res : List (String × ℚ)} {errs : List Failure}
    (h : (fairnessResults vms mu).exec s = (.ok (res, errs), s₁)) {k : Int} {c : ℚ} (hk : 0 < k)
    (hc : 0 < c) {sched sched' : SchedData} {φ : Failure → Failure}
    (hφ : ∀ desc r f, φ (.fairnessError desc r f sched) = .fairnessError desc r f sched')
    (hload : loadData (s.cpuVerbose.headD []) true = .ok sched)
    (hload' : loadData (t.cpuVerbose.headD []) true = .ok sched')
    (hread : ∀ r ∈ vms, ∀ w, (s.worlds r).setSchedData sched = .ok w →
      ∃ w', (t.worlds r).setSchedData sched' = .ok w' ∧ w'.shares = k * w.shares ∧
        w'.getUsedSec = (c * ·) <$> w.getUsedSec) :
  ∃ res' t₁, (fairnessResults vms mu).exec t = (.ok (res', errs.map φ), t₁) ∧
    ∀ r ∈ vms, res'.lookup (fairnessKey vms t.worlds r) = res.lookup (fairnessKey vms s.worlds r)
  := by
  obtain ⟨sched₀, W, S, U, hload₀, hW, hstep, hU, hS, hout⟩ := fairnessResults_exec_ok h
  obtain rfl : sched₀ = sched := Except.ok.inj (hload₀.symm.trans hload)
  let W' r := ((t.worlds r).setSchedData sched').toOption.getD (t.worlds r)
  have hW' : ∀ r ∈ vms, (t.worlds r).setSchedData sched' = .ok (W' r) ∧
      (W' r).shares = k * (W r).shares ∧ (W' r).getUsedSec = (c * ·) <$> (W r).getUsedSec :=
    fun r hr => by
    obtain ⟨w', hw', hsh, hu⟩ := hread r hr (W r) (hW r hr)
    have hw : W' r = w' := by simp only [W', hw', Except.toOption, Option.getD_some]
    exact hw ▸ ⟨hw', hsh, hu⟩
  have hstep' : vms.foldlM (fun a r => fairnessStep (W' r) a) (0, 0) = .ok (k * S, c * U) := by
    have := foldlM_map_of_step (fun a r => fairnessStep (W r) a)
      (fun a r => fairnessStep (W' r) a) (fun q : Int × ℚ => (k * q.1, c * q.2))
      (fun r hr p => fairnessStep_scale (hW' r hr).2.1 (hW' r hr).2.2 p) (0, 0)
    simpa only [hstep, mul_zero] using this
  let H₁ r := if r ∈ vms then W r else s.worlds r
  let H₂ r := if r ∈ vms then W' r else t.worlds r
  obtain ⟨res', hrun, hlook⟩ := fairnessRatios_rel H₁ H₂ hφ
    (fun r hr => by
      simp only [H₁, H₂, if_pos hr]
      exact fairnessOf_scale hk hc (hW' r hr).2.1 (hW' r hr).2.2 S U)
    (fun _ hr => hr) [] (fun _ _ => by simp only [List.lookup_nil]) hout
  obtain ⟨t₁, ht⟩ := fairnessResults_exec_of hload' (fun r hr => (hW' r hr).1) hstep'
    (mul_pos hc hU) (mul_pos hk hS) hrun
  refine ⟨res', t₁, ht, fun r hr => ?_⟩
  rw [← fairnessKey_read hr (hW r hr), ← fairnessKey_read hr (hW' r hr).1]
  exact hlook r hr

/-! ### Scale invariance -/

/-- The workload with its shares multiplied by `k`. -/
def TestWorld.scaleShares (w : TestWorld) (k : Int) : TestWorld :=
  { w with shares := k * w.shares }

/-- The machine with every workload's shares multiplied by `k`. -/
def Sys.scaleShares (s : Sys) (k : Int) : Sys :=
  { s with worlds := fun r => (s.worlds r).scaleShares k }

/-- Reading a snapshot does not look at the shares. -/
theorem setSchedData_scaleShares (w : TestWorld) (k : Int) (sched : SchedData) :
  (w.scaleShares k).setSchedData sched = (·.scaleShares k) <$> w.setSchedData sched
  := by
  simp only [TestWorld.setSchedData, TestWorld.scaleShares]
  rcases collectVcpus w.vmid sched.vcpuList w.leader with _ | ⟨vcpus, _ | l⟩
  · rfl
  all_goals cases vmidAttr w.vmid <;> by_cases hv : vcpus = [] <;>
    simp only [except_ok_bind, hv, if_true, if_false] <;> rfl

/-- What `FairnessTest.results` reported from `s`, `res` and `errs`, is kept when every
workload's shares are multiplied by a positive `k`: the run returns the same errors, and
each workload's fairness under its new key. -/
def SharesScaleInvariant (vms : List Nat) (maxUnfairness : ℚ) (s : Sys)
    (res : List (String × ℚ)) (errs : List Failure) : Prop :=
  ∀ k : Int, 0 < k → ∃ res' s',
    (fairnessResults vms maxUnfairness).exec (s.scaleShares k) = (.ok (res', errs), s') ∧
    ∀ r ∈ vms,
      res'.lookup (fairnessKey vms (s.scaleShares k).worlds r) = res.lookup (fairnessKey vms s.worlds r)

/-- What `FairnessTest.results` reported from `s`, `res` and `errs`, is kept when the
snapshot it reads is replaced by `dump`, from which every workload reads `c` times the used
time, `c` positive: the run returns the same errors, each measured on the new snapshot, and
each workload's fairness under the same key. -/
def UsedScaleInvariant (vms : List Nat) (maxUnfairness : ℚ) (s : Sys)
    (res : List (String × ℚ)) (errs : List Failure) : Prop :=
  ∀ (c : ℚ) (dump : List String) (sched sched' : SchedData), 0 < c →
    loadData (s.cpuVerbose.headD []) true = .ok sched → loadData dump true = .ok sched' →
    (∀ r ∈ vms, ∀ w, (s.worlds r).setSchedData sched = .ok w →
      ∃ w', (s.worlds r).setSchedData sched' = .ok w' ∧ w'.getUsedSec = (c * ·) <$> w.getUsedSec) →
    ∃ res' s', (fairnessResults vms maxUnfairness).exec
        { s with cpuVerbose := dump :: s.cpuVerbose.tail }
        = (.ok (res', errs.map (Failure.withSched sched')), s') ∧
      ∀ r ∈ vms, res'.lookup (fairnessKey vms s.worlds r) = res.lookup (fairnessKey vms s.worlds r)

theorem fairnessResults_scaleShares {vms : List Nat} {mu : ℚ} {s s₁ : Sys}
    {res : List (String × ℚ)} {errs : List Failure}
    (h : (fairnessResults vms mu).exec s = (.ok (res, errs), s₁)) :
  SharesScaleInvariant vms mu s res errs
  := by
  intro k hk
  obtain ⟨sched, -, -, -, hload, -⟩ := fairnessResults_exec_ok h
  obtain ⟨res', t₁, ht, hlook⟩ := fairnessResults_scale (t := s.scaleShares k) h hk one_pos
    (φ := id) (fun _ _ _ => rfl) hload hload fun r _ w hw =>
      ⟨w.scaleShares k, by simp [Sys.scaleShares, setSchedData_scaleShares, hw], rfl,
        by show w.getUsedSec = _; simp⟩
  exact ⟨res', t₁, by simpa using ht, hlook⟩

theorem fairnessResults_scaleUsed {vms : List Nat} {mu : ℚ} {s s₁ : Sys}
    {res : List (String × ℚ)} {errs : List Failure}
    (h : (fairnessResults vms mu).exec s = (.ok (res, errs), s₁)) :
  UsedScaleInvariant vms mu s res errs
  := by
  intro c dump sched sched' hc hload hload' hused
  refine fairnessResults_scale (t := { s with cpuVerbose := dump :: s.cpuVerbose.tail }) h one_pos
    hc (φ := Failure.withSched sched') (fun _ _ _ => rfl) hload hload' fun r hr w hw => ?_
  obtain ⟨w', hw', hu⟩ := hused r hr w hw
  exact ⟨w', hw', by rw [one_mul, (setSchedData_shortFormat hw').1, (setSchedData_shortFormat hw).1], hu⟩

/-- If `FairnessTest.results` returns from `s`, what it reports is kept both when every
workload's shares are multiplied by one positive integer and when every workload's used time
is multiplied by one positive rational. -/
theorem fairnessResults_scale_invariant {vms : List Nat} {mu : ℚ} {s s₁ : Sys}
    {res : List (String × ℚ)} {errs : List Failure}
    (h : (fairnessResults vms mu).exec s = (.ok (res, errs), s₁)) :
  SharesScaleInvariant vms mu s res errs ∧ UsedScaleInvariant vms mu s res errs
  := ⟨fairnessResults_scaleShares h, fairnessResults_scaleUsed h⟩

/-- Two timer workloads, started as worlds 5 and 6, with shares 1000 and 2000. -/
def fairWorlds (r : Nat) : TestWorld :=
  if r = 0 then { TimerWorld 5 5 1000 with vmid := some 5 }
  else { TimerWorld 5 5 2000 with vmid := some 6 }

/-- A snapshot in which they have used 10 and 50 seconds: the first has half its share of the
time, the second five quarters of its share. -/
def unevenDump : List String :=
  ["cpus", "1", "", "cell", "", "cpu", "0", "", "vm vcpu name usedsec", "5 5 w5 10.0",
    "6 6 w6 50.0"]

/-- What `loadData` makes of `unevenDump`. -/
def unevenSched : SchedData :=
  ⟨zipRows "vm vcpu name usedsec" ["5 5 w5 10.0", "6 6 w6 50.0"], zipRows "cpu" ["0"],
    ["5 5 w5 10.0", "6 6 w6 50.0"], some (LineData.zip ["cpus"] ["1"])⟩

/-- A `FairnessTest` of those workloads, whose snapshot is `unevenDump`. -/
def unevenSys : Sys where
  worlds := fairWorlds
  tests := fun _ => BasicTest.init [0, 1] 1 "fairness" (.fairness (1 / 10))
  vmDirs := []
  cpuVerbose := [unevenDump]
  random := []
  writes := []
  out := []

/-- The run of `FairnessTest.results` over `unevenSys`: fairness 1/2 and 5/4, both beyond the
limit of 1/10. -/
theorem fairnessResults_unevenSys :
  (fairnessResults [0, 1] (1 / 10)).exec unevenSys
    = (.ok ([("timer-01000-1-05r-05w#0", 1 / 2), ("timer-02000-1-05r-05w#1", 5 / 4)],
        [.fairnessError "unfairness limit exceeded" 0 (1 / 2) unevenSched,
          .fairnessError "unfairness limit exceeded" 1 (5 / 4) unevenSched]),
      ((fairnessResults [0, 1] (1 / 10)).exec unevenSys).2)
  := Harness.exec_eq_of_ok (by
    have hload : loadData (unevenSys.cpuVerbose.headD []) true = .ok unevenSched := rfl
    have htot := Harness.exec_eq_of_ok (x := fairnessTotals unevenSched [0, 1])
      (s := { unevenSys with cpuVerbose := unevenSys.cpuVerbose.tail }) (a := (3000, 60))
      (by with_unfolding_all rfl)
    simp only [fairnessResults, Harness.exec_bind, loadSched_exec, hload]
    rw [htot]
    with_unfolding_all rfl)

theorem fairnessResults_scale_invariant_unevenSys :
  (fairnessResults [0, 1] (1 / 10)).exec unevenSys
      = (.ok ([("timer-01000-1-05r-05w#0", 1 / 2), ("timer-02000-1-05r-05w#1", 5 / 4)],
          [.fairnessError "unfairness limit exceeded" 0 (1 / 2) unevenSched,
            .fairnessError "unfairness limit exceeded" 1 (5 / 4) unevenSched]),
        ((fairnessResults [0, 1] (1 / 10)).exec unevenSys).2) ∧
    SharesScaleInvariant [0, 1] (1 / 10) unevenSys
      [("timer-01000-1-05r-05w#0", 1 / 2), ("timer-02000-1-05r-05w#1", 5 / 4)]
      [.fairnessError "unfairness limit exceeded" 0 (1 / 2) unevenSched,
        .fairnessError "unfairness limit exceeded" 1 (5 / 4) unevenSched] ∧
    UsedScaleInvariant [0, 1] (1 / 10) unevenSys
      [("timer-01000-1-05r-05w#0", 1 / 2), ("timer-02000-1-05r-05w#1", 5 / 4)]
      [.fairnessError "unfairness limit exceeded" 0 (1 / 2) unevenSched,
        .fairnessError "unfairness limit exceeded" 1 (5 / 4) unevenSched]
  := ⟨fairnessResults_unevenSys, fairnessResults_scale_invariant fairnessResults_unevenSys⟩

/-! ### What `results` reports -/

/-- The second loop of `results` over workloads whose fairness is `f`: each fairness is set
under its workload's key, and the workloads beyond the limit are reported in order. -/
theorem fairnessRatios_of {vms : List Nat} {H : Nat → TestWorld} {sched : SchedData} {mu : ℚ}
    {S : Int} {U : ℚ} {f : Nat → ℚ} :
  ∀ {l : List Nat}, (∀ r ∈ l, fairnessOf (H r) S U = .ok (f r)) →
    ∀ (res : List (String × ℚ)) (errs : List Failure),
    fairnessRatios vms H sched mu S U l (res, errs)
      = .ok (l.foldl (fun d r => dictSet d (fairnessKey vms H r) (f r)) res,
        errs ++ (l.filter fun r => |f r - 1| > mu).map
          fun r => .fairnessError "unfairness limit exceeded" r (f r) sched)
  | [], _, res, errs => by simp [fairnessRatios]
  | r :: rs, hf, res, errs => by
    simp only [fairnessRatios, hf r (List.mem_cons_self r rs), except_ok_bind,
      fairnessRatios_of (fun r' h => hf r' (List.mem_cons_of_mem r h)), List.foldl_cons,
      List.filter_cons]
    by_cases hmu : |f r - 1| > mu <;> simp [hmu]

/-- If the second loop of `results` returns, every workload's fairness was computed. -/
theorem fairnessOf_ok_of_fairnessRatios {vms : List Nat} {H : Nat → TestWorld}
    {sched : SchedData} {mu : ℚ} {S : Int} {U : ℚ} :
  ∀ {l : List Nat} {acc out : List (String × ℚ) × List Failure},
    fairnessRatios vms H sched mu S U l acc = .ok out → ∀ r ∈ l, ∃ x, fairnessOf (H r) S U = .ok x
  | [], _, _, _ => by simp
  | r :: rs, ⟨res, errs⟩, out, h => by
    rw [fairnessRatios] at h
    rcases hr : fairnessOf (H r) S U with _ | x <;>
      simp only [hr, except_error_bind, except_ok_bind] at h
    · cases h
    rw [List.forall_mem_cons]
    exact ⟨⟨x, hr⟩, fairnessOf_ok_of_fairnessRatios h⟩

/-- After setting each key of `l` in turn, a key `g r` of `l` holds `f r`, provided every `r`
of `l` with that key has that value. -/
theorem lookup_foldl_dictSet {β : Type} {g : Nat → String} {f : Nat → β} {k : String} {v : β} :
  ∀ {l : List Nat} {d : List (String × β)}, (∀ r ∈ l, g r = k → f r = v) →
    ((∃ r ∈ l, g r = k) ∨ d.lookup k = some v) →
    (l.foldl (fun d r => dictSet d (g r) (f r)) d).lookup k = some v
  | [], _, _, h => by simpa using h
  | r :: rs, d, hv, h => by
    rw [List.foldl_cons]
    refine lookup_foldl_dictSet (fun r' h' => hv r' (List.mem_cons_of_mem r h')) ?_
    by_cases hr : g r = k
    · exact .inr (by rw [lookup_dictSet, if_pos hr.symm, hv r (List.mem_cons_self r rs) hr])
    · rw [lookup_dictSet, if_neg (Ne.symm hr)]
      simpa [hr] using h

/-- A key no workload of `l` has keeps what the dictionary held. -/
theorem lookup_foldl_dictSet_of_not_mem {β : Type} {g : Nat → String} {f : Nat → β}
    {k : String} : ∀ {l : List Nat} {d : List (String × β)}, (∀ r ∈ l, g r ≠ k) →
    (l.foldl (fun d r => dictSet d (g r) (f r)) d).lookup k = d.lookup k
  | [], _, _ => rfl
  | r :: rs, d, h => by
    rw [List.foldl_cons, lookup_foldl_dictSet_of_not_mem fun r' h' => h r' (List.mem_cons_of_mem r h'),
      lookup_dictSet, if_neg (Ne.symm (h r (List.mem_cons_self r rs)))]

/-- What `FairnessTest.results` reports from `s`, `res` and `errs`: each workload's fairness
`f r` under its key and nothing under any other key, and a `FairnessError` measured on the
snapshot for exactly the workloads whose fairness is beyond `maxUnfairness` of 1, in order. -/
def FairnessReport (vms : List Nat) (maxUnfairness : ℚ) (s : Sys) (res : List (String × ℚ))
    (errs : List Failure) : Prop :=
  ∃ (sched : SchedData) (f : Nat → ℚ),
    (∀ r ∈ vms, res.lookup (fairnessKey vms s.worlds r) = some (f r)) ∧
    (∀ k, (∀ r ∈ vms, fairnessKey vms s.worlds r ≠ k) → res.lookup k = none) ∧
    errs = (vms.filter fun r => |f r - 1| > maxUnfairness).map
      (fun r => .fairnessError "unfairness limit exceeded" r (f r) sched)

end SchedTest
