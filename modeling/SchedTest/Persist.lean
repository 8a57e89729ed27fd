import SchedTest.Output

/-!
# Test objects outlive their runs

The tests that `run_tests` and `run_batch_tests` are given are objects built once, by the
suites of `schedtests.py`; running a test never builds it again.  `AffinityTortureTest` sets
`self.errs = []` in `__init__` only, and every round of its `run()` extends that list.  So
from any state, over every run of either runner, each test object keeps its name, its
workloads and its kind, save that a torture test's errors only grow: `runTests_errs_grow`.

Once a torture test holds an error it therefore fails every later iteration over it, and a
batch iteration over it prints nothing but that status line: `runBatchTest_torture_fails`.
-/

namespace SchedTest

/-- `self.errs.extend(xs)` on a test object: only an `AffinityTortureTest` keeps errors, every
other test is left as it is. -/
def BasicTest.errsExtended (x : BasicTest) (xs : List Failure) : BasicTest :=
  match x.kind with
  | .affinityTorture numreps ncpus errs =>
    { x with kind := .affinityTorture numreps ncpus (errs ++ xs) }
  | _ => x

namespace BasicTest

@[simp] theorem errsExtended_nil (x : BasicTest) : x.errsExtended [] = x
  := by
  rcases x with ⟨_, _, _, _ | _ | _ | _⟩ <;> simp [errsExtended]

theorem errsExtended_append (x : BasicTest) (xs ys : List Failure) :
  (x.errsExtended xs).errsExtended ys = x.errsExtended (xs ++ ys)
  := by
  cases hk : x.kind <;> simp [errsExtended, hk]

theorem kind_errsExtended {x : BasicTest} {numreps : Nat} {ncpus : Nat × Nat}
    {errs : List Failure} (hk : x.kind = .affinityTorture numreps ncpus errs) (xs : List Failure) :
  (x.errsExtended xs).kind = .affinityTorture numreps ncpus (errs ++ xs)
  := by
  simp [errsExtended, hk]

end BasicTest

/-- `extendErrs` is `errsExtended` on the test it names. -/
theorem extendErrs_exec (t : Nat) (xs : List Failure) (s : Sys) :
  (extendErrs t xs).exec s
    = (.ok (), { s with tests := Function.update s.tests t ((s.tests t).errsExtended xs) })
  := by
  simp only [extendErrs, Harness.exec_bind, getTest_exec, BasicTest.errsExtended]
  split <;> simp_all

/-- Every test is kept, save that a torture test may have recorded more errors. -/
def Effect.errsGrow : Effect where
  holds s s' := ∀ t, ∃ xs, s'.tests t = (s.tests t).errsExtended xs
  refl _ _ := ⟨[], (BasicTest.errsExtended_nil _).symm⟩
  trans h₁ h₂ t :=
    let ⟨xs, hxs⟩ := h₁ t
    let ⟨ys, hys⟩ := h₂ t
    ⟨xs ++ ys, by rw [hys, hxs, BasicTest.errsExtended_append]⟩

theorem Harness.errsGrow_of_tests {α : Type} {x : Harness α}
    (h : ∀ s, (x.exec s).2.tests = s.tests) : x.Within .errsGrow
  := fun s t => ⟨[], by rw [h, BasicTest.errsExtended_nil]⟩

theorem Harness.Within.errsGrow_of_named {α : Type} {x : Harness α} (hx : x.Within .named) :
  x.Within .errsGrow
  := Harness.errsGrow_of_tests fun s => (hx s).1

theorem errsGrow_extendErrs (t : Nat) (xs : List Failure) : (extendErrs t xs).Within .errsGrow
  := fun s t' => by
  rw [extendErrs_exec]
  dsimp only
  by_cases h : t' = t
  · subst h
    exact ⟨xs, Function.update_same _ _ _⟩
  · exact ⟨[], by rw [Function.update_noteq h, BasicTest.errsExtended_nil]⟩

/-! ### Every step of a test -/

theorem errsGrow_print (r : Report) : (print r).Within .errsGrow
  := Harness.errsGrow_of_tests fun _ => rfl

theorem errsGrow_run (t : Nat) : (BasicTest.run t).Within .errsGrow
  := have hc := Harness.closed_within .errsGrow
  have hdraw : randomDraw.Within .errsGrow := Harness.errsGrow_of_tests fun _ => rfl
  hc.of_run t (named_writeFile _ _).errsGrow_of_named fun n vms => hc.of_tortureRun
    (hc.of_tortureRound vms (named_writeFile _ _).errsGrow_of_named hdraw
      (Harness.errsGrow_of_tests fun s => by rw [loadSched_exec])
      fun data _ => hc.of_tortureVm data (fun _ => Harness.errsGrow_of_tests fun _ => rfl)
        (errsGrow_extendErrs t) (hc.of_randAffinity hdraw n)
        fun _ => hc.of_bind (hc.of_ofExcept _) fun _ => (named_writeFile _ _).errsGrow_of_named)

theorem errsGrow_runTest (runTime verbose num t : Nat) :
  (runTest runTime verbose num t).Within .errsGrow
  := Harness.within_bind (named_setup t).errsGrow_of_named fun _ =>
    Harness.within_bind (errsGrow_run t) fun _ =>
    Harness.within_bind (named_of_keeps (results_keeps runTime t)).errsGrow_of_named fun _ =>
    Harness.within_bind (named_writeFile _ _).errsGrow_of_named fun _ =>
    Harness.within_bind (Harness.within_getTest t) fun _ =>
    Harness.within_report errsGrow_print _ _ _ _ _

theorem errsGrow_runTestsFrom (runTime verbose : Nat) :
  ∀ (num : Nat) (tests : List Nat), (runTestsFrom runTime verbose num tests).Within .errsGrow
  | _, [] => Harness.within_pure _
  | num, t :: ts => Harness.within_bind (errsGrow_runTest runTime verbose num t) fun _ =>
    errsGrow_runTestsFrom runTime verbose (num + 1) ts

theorem errsGrow_runBatchTest (runTime t : Nat) : (runBatchTest runTime t).Within .errsGrow
  := Harness.within_bind (named_setup t).errsGrow_of_named fun _ =>
    Harness.within_bind (errsGrow_run t) fun _ =>
    Harness.within_bind (named_of_keeps (results_keeps runTime t)).errsGrow_of_named fun p =>
    Harness.within_bind (named_writeFile _ _).errsGrow_of_named fun _ =>
    Harness.within_batchReport errsGrow_print t p.1 p.2

/-! ### Whole runs -/

/-- Every run of `run_tests` and of `run_batch_tests`, whether it returns or raises, keeps
each test object as it was, save that an affinity torture test's errors may have grown:
nothing resets them. -/
theorem runTests_errs_grow (runTime verbose : Nat) (tests : List Nat) (s : Sys) :
  (∀ t, ∃ xs, ((runTests runTime verbose tests).exec s).2.tests t = (s.tests t).errsExtended xs) ∧
    ∀ t, ∃ xs, ((runBatchTests runTime tests).exec s).2.tests t = (s.tests t).errsExtended xs
  := ⟨errsGrow_runTestsFrom runTime verbose 0 tests s,
    Harness.within_forM (fun t _ => errsGrow_runBatchTest runTime t) s⟩

/-- A returning iteration of `run_batch_tests` over a torture test that already holds an error
prints exactly one line, `STATUS=FAIL`, whatever its rounds find. -/
theorem runBatchTest_torture_fails {runTime t numreps : Nat} {ncpus : Nat × Nat}
    {errs : List Failure} {s s' : Sys} (hk : (s.tests t).kind = .affinityTorture numreps ncpus errs)
    (he : errs ≠ []) (h : (runBatchTest runTime t).exec s = (.ok (), s')) :
  s'.out = s.out ++ [.status false]
  := by
  obtain ⟨s₁, s₂, res, errs', s₃, es, hsetup, hrun, hres, hes, hout⟩ := runBatchTest_exec_ok h
  obtain ⟨xs, hxs⟩ := Effect.errsGrow.trans ((named_setup t).errsGrow_of_named.of_exec hsetup)
    ((errsGrow_run t).of_exec hrun) t
  have hk₂ := hxs ▸ BasicTest.kind_errsExtended hk xs
  simp only [BasicTest.results, Harness.exec_bind, getTest_exec, hk₂, Harness.exec_pure,
    Prod.mk.injEq, Except.ok.injEq] at hres
  obtain ⟨⟨-, rfl⟩, rfl⟩ := hres
  simp only [BasicTest.getTestElements, Harness.exec_bind, getTest_exec, Harness.exec_get,
    Harness.exec_pure, Prod.mk.injEq, Except.ok.injEq, hk₂] at hes
  rw [hout, ← hes.1, ((quiet_run t).of_exec hrun).1, ((quiet_setup t).of_exec hsetup).1]
  simp [he]

/-- A torture test of no rounds that holds a stale error: a test object run once before. -/
def staleSys : Sys :=
  { basicSys with
    tests := fun _ => BasicTest.init [0] 1 "torture" (.affinityTorture 0 (2, 2) [.text "stuck"]) }

/-- The batch iteration over the stale torture test of `staleSys` returns and fails. -/
theorem runBatchTest_torture_fails_staleSys :
  (staleSys.tests 0).kind = .affinityTorture 0 (2, 2) [.text "stuck"] ∧
  [Failure.text "stuck"] ≠ [] ∧
  ∃ s', (runBatchTest 50 0).exec staleSys = (.ok (), s') ∧ s'.out = staleSys.out ++ [.status false]
  := by
  have h := Harness.exec_eq_of_ok (x := runBatchTest 50 0) (s := staleSys)
    (by with_unfolding_all rfl)
  exact ⟨rfl, List.cons_ne_nil _ _, _, h, runBatchTest_torture_fails rfl (List.cons_ne_nil _ _) h⟩

end SchedTest
