import SchedTest.Closed
import SchedTest.Output

/-!
# The two runners agree

`run_tests` and `run_batch_tests` run each test the same way, `setup`, `run`, `results` and
`shutdown`, and differ only in what they print once the test has shut down.  None of that
code reads or changes the output (`Harness.OutFree`, a property every harness function
inherits), so at verbosity at most 1, where reporting a test never raises, the two runners
return or raise alike, leave the machine in the same state but for what they printed, and
print the same sequence of verdicts, `PASSED` where the other prints `STATUS=PASS` and
`FAILED` where it prints `STATUS=FAIL`: `runTests_agree`.
-/

namespace SchedTest

/-! ### Code that never reads the output -/

/-- `x` neither reads nor changes the output: from `s` with any output `o` in place of its
own, it returns what it returns from `s` and leaves the state it leaves from `s`, with `o`. -/
def Harness.OutFree {α : Type} (x : Harness α) : Prop :=
  ∀ s o, x.exec { s with out := o } = ((x.exec s).1, { (x.exec s).2 with out := o })

theorem Harness.outFree_bind {α β : Type} {x : Harness α} {f : α → Harness β}
    (hx : x.OutFree) (hf : ∀ a, (f a).OutFree) : (x >>= f).OutFree
  := fun s o => by
  rw [Harness.exec_bind, hx, Harness.exec_bind]
  rcases x.exec s with ⟨_ | a, s₁⟩
  · rfl
  · exact hf a s₁ o

theorem Harness.outFree_tryCatch {α : Type} {x : Harness α} {handle : String → Harness α}
    (hx : x.OutFree) (hh : ∀ msg, (handle msg).OutFree) : (tryCatch x handle).OutFree
  := fun s o => by
  rw [Harness.exec_tryCatch, hx, Harness.exec_tryCatch]
  rcases x.exec s with ⟨_ | a, s₁⟩
  · exact hh _ s₁ o
  · rfl

/-- Not reading the output is a property every harness function inherits. -/
theorem Harness.closed_outFree : Harness.Closed Harness.OutFree where
  of_pure _ _ _ := rfl
  of_throw _ _ _ := rfl
  of_bind := Harness.outFree_bind
  of_tryCatch := Harness.outFree_tryCatch
  of_getWorld _ _ _ := rfl
  of_getTest _ _ _ := rfl
  of_worlds {_ f} hcong hf s o := by
    simp only [Harness.exec_bind, Harness.exec_get]
    rw [hcong { s with out := o } s rfl]
    exact hf s s o

theorem outFree_setWorld (r : Nat) (w : TestWorld) : (setWorld r w).OutFree
  := fun _ _ => rfl

theorem outFree_setTest (t : Nat) (x : BasicTest) : (setTest t x).OutFree
  := fun _ _ => rfl

theorem outFree_writeFile (path data : String) : (writeFile path data).OutFree
  := fun _ _ => rfl

theorem outFree_globVmDirs : globVmDirs.OutFree
  := fun _ _ => rfl

theorem outFree_randomDraw : randomDraw.OutFree
  := fun _ _ => rfl

theorem outFree_loadSched : loadSched.OutFree
  := Harness.closed_outFree.of_bind (fun _ _ => rfl) fun _ => Harness.closed_outFree.of_ofExcept _

theorem outFree_writeOf (x : Except String Write) : (writeOf x).OutFree
  := Harness.closed_outFree.of_bind (Harness.closed_outFree.of_ofExcept x) fun _ =>
    outFree_writeFile _ _

theorem outFree_setup (t : Nat) : (BasicTest.setup t).OutFree
  := have hc := Harness.closed_outFree
  have hmax := hc.of_getMaxVmid outFree_globVmDirs outFree_loadSched
  hc.of_setup (fun r => hc.of_start hmax (hc.of_refreshVmid hmax (outFree_setWorld r))
    (fun _ => outFree_writeFile _ _) fun _ x _ => outFree_writeOf x) (outFree_writeFile _ _) t

theorem outFree_run (t : Nat) : (BasicTest.run t).OutFree
  := have hc := Harness.closed_outFree
  hc.of_run t (outFree_writeFile _ _) fun n vms => hc.of_tortureRun
    (hc.of_tortureRound vms (outFree_writeFile _ _) outFree_randomDraw outFree_loadSched
      fun data r => hc.of_tortureVm data (outFree_setWorld r) (hc.of_extendErrs (outFree_setTest t))
        (hc.of_randAffinity outFree_randomDraw n) fun v => outFree_writeOf v.configAffinity)

theorem outFree_results (runTime t : Nat) : (BasicTest.results runTime t).OutFree
  := Harness.closed_outFree.of_results outFree_loadSched outFree_setWorld runTime t

/-! ### Runs that agree -/

/-- The verdict a line reports: `PASSED` and `STATUS=PASS` pass, `FAILED` and `STATUS=FAIL`
fail. -/
def Report.outcome : Report → Option Bool
  | .passed _ _ => some true
  | .failed _ _ => some false
  | .status pass => some pass
  | _ => none

/-- Two runs, from outputs `o₁` and `o₂`, agree: they return or raise alike, leave states
that differ only in their outputs, and extend the outputs with lines that report the same
verdicts. -/
def RunsAgree {α : Type} (o₁ : List Report) (x₁ : Except String α × Sys) (o₂ : List Report)
    (x₂ : Except String α × Sys) : Prop :=
  x₁.1 = x₂.1 ∧ x₂.2 = { x₁.2 with out := x₂.2.out } ∧
    ∃ d₁ d₂, x₁.2.out = o₁ ++ d₁ ∧ x₂.2.out = o₂ ++ d₂ ∧
      d₁.filterMap Report.outcome = d₂.filterMap Report.outcome

/-- Code that neither reads nor changes the output agrees with itself run with another
output. -/
theorem RunsAgree.of_outFree {α : Type} {x : Harness α} (hx : x.OutFree) (hq : x.Within .quiet)
    (s : Sys) (o : List Report) : RunsAgree s.out (x.exec s) o (x.exec { s with out := o })
  := by
  rw [hx s o]
  exact ⟨rfl, rfl, [], [], by rw [(hq s).1, List.append_nil], by simp, rfl⟩

/-- Runs that agree, each followed by code that agrees with the other's from any two states
that differ only in their outputs, agree. -/
theorem RunsAgree.bind {α β : Type} {x₁ x₂ : Harness α} {f₁ f₂ : α → Harness β} {s₁ s₂ : Sys}
    {o₁ o₂ : List Report} (h : RunsAgree o₁ (x₁.exec s₁) o₂ (x₂.exec s₂))
    (hf : ∀ a s o, RunsAgree s.out ((f₁ a).exec s) o ((f₂ a).exec { s with out := o })) :
  RunsAgree o₁ ((x₁ >>= f₁).exec s₁) o₂ ((x₂ >>= f₂).exec s₂)
  := by
  obtain ⟨hr, hs, d₁, d₂, h₁, h₂, hd⟩ := h
  rw [Harness.exec_bind, Harness.exec_bind]
  revert hr hs h₁ h₂
  rcases x₁.exec s₁ with ⟨r, t₁⟩
  rcases x₂.exec s₂ with ⟨r', t₂⟩
  rintro (rfl : r = r') (hs : t₂ = _) (h₁ : t₁.out = _) (h₂ : t₂.out = _)
  rcases r with _ | a
  · exact ⟨rfl, hs, d₁, d₂, h₁, h₂, hd⟩
  · obtain ⟨hr', hs', d₁', d₂', h₁', h₂', hd'⟩ := hf a t₁ t₂.out
    rw [← hs] at hr' hs' h₂'
    refine ⟨hr', hs', d₁ ++ d₁', d₂ ++ d₂', by rw [h₁', h₁, List.append_assoc],
      by rw [h₂', h₂, List.append_assoc], ?_⟩
    rw [List.filterMap_append, List.filterMap_append, hd, hd']

/-! ### One test -/

/-- What either runner prints once a test has shut down reports one verdict, that of its
errors. -/
theorem reports_agree {verbose : Nat} (hv : verbose ≤ 1) (num t : Nat)
    (res : List (String × ℚ)) (errors : List Failure) (s : Sys) (o : List Report) :
  RunsAgree s.out ((getTest t >>= fun x => report verbose num x res errors).exec s) o
    ((do print (.status errors.isEmpty)
         (← BasicTest.getTestElements t).forM fun e =>
           match res.lookup e with
           | some v => print (.element e v)
           | none => pure () : Harness Unit).exec { s with out := o })
  := by
  obtain ⟨rest, hrep⟩ := report_ok hv num (s.tests t) res errors s
  obtain ⟨d₁, hd₁, ho₁⟩ := @report_prints Bool Report.outcome (fun _ _ => rfl) (fun _ => rfl)
    (fun _ => rfl) rfl verbose num (s.tests t) res errors s _ () hrep
  obtain ⟨es, hes⟩ : ∃ es, (BasicTest.getTestElements t).exec
      { s with out := o ++ [.status errors.isEmpty] }
      = (.ok es, { s with out := o ++ [.status errors.isEmpty] }) := ⟨_, rfl⟩
  have hels : (es.filterMap fun e => (res.lookup e).map (Report.element e)).filterMap
      Report.outcome = [] := List.filterMap_eq_nil_iff.2 fun r hr => by
    obtain ⟨e, -, he⟩ := List.mem_filterMap.1 hr
    cases h : res.lookup e <;> simp only [h, Option.map_none', Option.map_some'] at he
    · cases he
    · rw [← Option.some.inj he]
      rfl
  have hout : d₁.filterMap Report.outcome = (Report.status errors.isEmpty ::
      es.filterMap fun e => (res.lookup e).map (Report.element e)).filterMap Report.outcome := by
    rw [ho₁, List.filterMap_cons, hels]
    cases errors.isEmpty <;> rfl
  simp only [Harness.exec_bind, getTest_exec, hrep, print_exec, hes]
  exact (congrArg (RunsAgree s.out _ o) (forM_element_exec res es _)).mpr
    ⟨rfl, rfl, d₁, _, hd₁, by simp, hout⟩

/-- At verbosity at most 1 an iteration of `run_tests` and one of `run_batch_tests` over the
same test agree. -/
theorem runTest_agrees {verbose : Nat} (hv : verbose ≤ 1) (runTime num t : Nat) (s : Sys)
    (o : List Report) :
  RunsAgree s.out ((runTest runTime verbose num t).exec s) o
    ((runBatchTest runTime t).exec { s with out := o })
  := RunsAgree.bind (RunsAgree.of_outFree (outFree_setup t) (quiet_setup t) s o) fun _ s o =>
    RunsAgree.bind (RunsAgree.of_outFree (outFree_run t) (quiet_run t) s o) fun _ s o =>
    RunsAgree.bind (RunsAgree.of_outFree (outFree_results runTime t)
      (quiet_of_keeps (results_keeps runTime t)) s o) fun ⟨res, errors⟩ s o =>
    RunsAgree.bind (RunsAgree.of_outFree (outFree_writeFile _ _) quiet_shutdown s o) fun _ s o =>
    reports_agree hv num t res errors s o

/-! ### Whole runs -/

theorem runTestsFrom_agrees {verbose : Nat} (hv : verbose ≤ 1) (runTime : Nat) :
  ∀ (tests : List Nat) (num : Nat) (s : Sys) (o : List Report),
    RunsAgree s.out ((runTestsFrom runTime verbose num tests).exec s) o
      ((tests.forM (runBatchTest runTime)).exec { s with out := o })
  | [], _, _, _ => ⟨rfl, rfl, [], [], (List.append_nil _).symm, (List.append_nil _).symm, rfl⟩
  | t :: ts, num, s, o => RunsAgree.bind (runTest_agrees hv runTime num t s o) fun _ s o =>
    runTestsFrom_agrees hv runTime ts (num + 1) s o

/-- At verbosity at most 1, `run_tests` and `run_batch_tests` over the same tests from the
same machine return or raise alike, leave the machine in the same state but for what they
printed, and print the same sequence of verdicts. -/
theorem runTests_agree {verbose : Nat} (hv : verbose ≤ 1) (runTime : Nat) (tests : List Nat)
    (s : Sys) :
  RunsAgree s.out ((runTests runTime verbose tests).exec s) s.out
    ((runBatchTests runTime tests).exec s)
  := runTestsFrom_agrees hv runTime tests 0 s s.out

theorem runTests_agree_basicSys :
  1 ≤ 1 ∧ RunsAgree basicSys.out ((runTests 50 1 [0]).exec basicSys) basicSys.out
    ((runBatchTests 50 [0]).exec basicSys)
  := ⟨le_refl 1, runTests_agree (le_refl 1) 50 [0] basicSys⟩

end SchedTest
