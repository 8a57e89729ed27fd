import SchedTest.Effects
import SchedTest.Fairness

/-!
# What a run prints

`Harness.Prints obs x ns` says that whenever `x` returns, the lines it printed, seen through
the observation `obs`, are exactly `ns`.  Its rules for sequencing, branching and loops are
proved once; code that prints nothing `obs` sees (`Effect.unseen`) prints `[]`.

Seen through its verdict lines, `run_tests` prints `Test [0]`, `Test [1]`, ... in order,
one for each test; `run_batch_tests` prints one status line for each test:
`runTests_verdicts`.

For a `FairnessTest`, `run_batch_tests` prints a status line that passes exactly when every
workload's fairness is within the limit, and then an element line for exactly the positions
of the workload list where a workload occurs first: the result map keys a workload by
`self.vms.index(v)` while the elements count positions, so a workload listed twice, as
`vms * TEST_SIZE_FACTOR` lists each one, has its later positions silently skipped:
`runBatchTest_fairness`.
-/

namespace SchedTest

/-! ### Observing the output -/

/-- Output `obs` does not see: lines appended, none of them seen. -/
def Effect.unseen {β : Type} (obs : Report → Option β) : Effect where
  holds s s' := ∃ rest, s'.out = s.out ++ rest ∧ rest.filterMap obs = []
  refl s := ⟨[], by simp, rfl⟩
  trans := by
    rintro _ _ _ ⟨r₁, h₁, o₁⟩ ⟨r₂, h₂, o₂⟩
    exact ⟨r₁ ++ r₂, by rw [h₂, h₁, List.append_assoc], by simp [o₁, o₂]⟩

/-- Whenever `x` returns, the lines it printed, seen through `obs`, are `ns`. -/
def Harness.Prints {β : Type} (obs : Report → Option β) {α : Type} (x : Harness α)
    (ns : List β) : Prop :=
  ∀ s s' a, x.exec s = (.ok a, s') → ∃ rest, s'.out = s.out ++ rest ∧ rest.filterMap obs = ns

section Prints

variable {β : Type} {obs : Report → Option β}

theorem Harness.Within.prints_nil {α : Type} {x : Harness α} (hx : x.Within (.unseen obs)) :
  x.Prints obs []
  := fun s s' a h => by
  have hs := hx s
  rwa [h] at hs

theorem Harness.Within.unseen_of_quiet {α : Type} {x : Harness α} (hx : x.Within .quiet) :
  x.Within (.unseen obs)
  := fun s => ⟨[], by simpa using (hx s).1, rfl⟩

theorem Harness.prints_print (r : Report) : (print r).Prints obs (obs r).toList
  := fun s s' _ h => ⟨[r], by simp [← (Prod.mk.inj h).2], by cases hr : obs r <;> simp [hr]⟩

theorem Harness.unseen_print {r : Report} (hr : obs r = none) : (print r).Within (.unseen obs)
  := fun _ => ⟨[r], rfl, by simp [hr]⟩

/-- What a sequence prints is what its first part prints, then what the rest prints. -/
theorem Harness.prints_bind {α γ : Type} {x : Harness α} {f : α → Harness γ} {ns₁ ns₂ : List β}
    (hx : x.Prints obs ns₁) (hf : ∀ a, (f a).Prints obs ns₂) {ns : List β}
    (hns : ns₁ ++ ns₂ = ns) : (x >>= f).Prints obs ns
  := fun s s' b h => by
  obtain ⟨a, s₁, h₁, h₂⟩ := Harness.exec_bind_ok h
  obtain ⟨r₁, hr₁, o₁⟩ := hx s s₁ a h₁
  obtain ⟨r₂, hr₂, o₂⟩ := hf a s₁ s' b h₂
  exact ⟨r₁ ++ r₂, by rw [hr₂, hr₁, List.append_assoc], by rw [List.filterMap_append, o₁, o₂, hns]⟩

theorem Harness.prints_ite {α : Type} {c : Prop} [Decidable c] {x y : Harness α}
    {ns₁ ns₂ : List β} (hx : x.Prints obs ns₁) (hy : y.Prints obs ns₂) :
  (if c then x else y).Prints obs (if c then ns₁ else ns₂)
  := by split_ifs <;> assumption

end Prints

/-! ### Verdicts -/

/-- The test number a verdict line is about: `Test [num]: name PASSED` or `FAILED`. -/
def Report.verdict : Report → Option Nat
  | .passed num _ => some num
  | .failed num _ => some num
  | _ => none

/-- A status line of `run_batch_tests`, `STATUS=PASS` or `STATUS=FAIL`. -/
def Report.statusLine : Report → Option Unit
  | .status _ => some ()
  | _ => none

/-- Reporting test number `num` prints its verdict line first; an observation that sees no
error, snapshot, results or separator line sees nothing else. -/
theorem report_prints {β : Type} {obs : Report → Option β}
    (herr : ∀ name err, obs (.error name err) = none) (hsched : ∀ text, obs (.sched text) = none)
    (hres : ∀ res, obs (.results res) = none) (hsep : obs .separator = none)
    (verbose num : Nat) (x : BasicTest) (res : List (String × ℚ)) (errors : List Failure) :
  (report verbose num x res errors).Prints obs
    (if errors.isEmpty then (obs (.passed num x.name)).toList
      else (obs (.failed num x.name)).toList)
  := by
  have hrest : ∀ {α : Type} {y : Harness α}, y.Within (.unseen obs) → y.Prints obs [] :=
    Harness.Within.prints_nil
  refine Harness.prints_ite
    (Harness.prints_bind (Harness.prints_print _) (fun _ => hrest ?_) (List.append_nil _))
    (Harness.prints_bind (Harness.prints_print _)
      (fun _ => hrest (Harness.within_bind
        (Harness.within_forM fun _ _ => Harness.unseen_print (herr _ _)) fun _ => ?_))
      (List.append_nil _)) <;>
  refine (match errors with
    | _ :: _ => Harness.within_ite (Harness.within_bind (Harness.within_ofExcept _) fun _ =>
        Harness.within_bind (Harness.unseen_print (hsched _)) fun _ => ?_)
        (Harness.within_bind (Harness.within_pure _) fun _ => ?_)
    | [] => Harness.within_bind (Harness.within_pure _) fun _ => ?_) <;>
  exact Harness.within_ite
    (Harness.within_bind (Harness.unseen_print (hres _)) fun _ => Harness.unseen_print hsep)
    (Harness.within_bind (Harness.within_pure _) fun _ => Harness.unseen_print hsep)

/-- Reporting test number `num` prints one verdict, about `num`. -/
theorem report_verdicts (verbose num : Nat) (x : BasicTest) (res : List (String × ℚ))
    (errors : List Failure) : (report verbose num x res errors).Prints Report.verdict [num]
  := by
  have h := @report_prints Nat Report.verdict (fun _ _ => rfl) (fun _ => rfl) (fun _ => rfl) rfl
    verbose num x res errors
  split at h <;> exact h

/-- A test's `setup`, `run`, `results` and `shutdown` print nothing. -/
theorem Harness.prints_test_steps {β : Type} {obs : Report → Option β} {γ : Type} (runTime t : Nat)
    {f : List (String × ℚ) × List Failure → Harness γ} {ns : List β}
    (hf : ∀ p, (f p).Prints obs ns) :
  (do BasicTest.setup t; BasicTest.run t; f (← BasicTest.results runTime t)).Prints obs ns
  := Harness.prints_bind (quiet_setup t).unseen_of_quiet.prints_nil (fun _ =>
    Harness.prints_bind (quiet_run t).unseen_of_quiet.prints_nil (fun _ =>
    Harness.prints_bind (quiet_of_keeps (results_keeps runTime t)).unseen_of_quiet.prints_nil hf
      rfl) rfl) rfl

theorem runTest_verdicts (runTime verbose num t : Nat) :
  (runTest runTime verbose num t).Prints Report.verdict [num]
  := Harness.prints_test_steps runTime t fun _ =>
    Harness.prints_bind quiet_shutdown.unseen_of_quiet.prints_nil (fun _ =>
    Harness.prints_bind (Harness.within_getTest t).prints_nil (fun _ => report_verdicts _ _ _ _ _) rfl)
    rfl

theorem runTestsFrom_verdicts (runTime verbose : Nat) :
  ∀ (num : Nat) (tests : List Nat),
    (runTestsFrom runTime verbose num tests).Prints Report.verdict (List.range' num tests.length)
  | _, [] => (Harness.within_pure ()).prints_nil
  | num, t :: ts => Harness.prints_bind (runTest_verdicts runTime verbose num t)
    (fun _ => runTestsFrom_verdicts runTime verbose (num + 1) ts) rfl

theorem runBatchTest_statuses (runTime t : Nat) :
  (runBatchTest runTime t).Prints Report.statusLine [()]
  := Harness.prints_test_steps runTime t fun _ =>
    Harness.prints_bind quiet_shutdown.unseen_of_quiet.prints_nil (fun _ =>
    Harness.prints_bind (Harness.prints_print (.status _)) (fun _ =>
      (Harness.within_bind ((Harness.closed_within _).of_getTestElements t) fun _ =>
        Harness.within_forM fun _ _ => by
          split
          exacts [Harness.unseen_print rfl, Harness.within_pure _]).prints_nil) rfl) rfl

theorem forM_runBatchTest_statuses (runTime : Nat) :
  ∀ tests : List Nat,
    (tests.forM (runBatchTest runTime)).Prints Report.statusLine (List.replicate tests.length ())
  | [] => (Harness.within_pure ()).prints_nil
  | t :: ts => Harness.prints_bind (runBatchTest_statuses runTime t)
    (fun _ => forM_runBatchTest_statuses runTime ts) rfl

/-- Whenever `run_tests` returns, it has printed one verdict for each test, numbered from 0
in the order of the list; whenever `run_batch_tests` returns, one status line for each
test. -/
theorem runTests_verdicts (runTime verbose : Nat) (tests : List Nat) :
  (runTests runTime verbose tests).Prints Report.verdict (List.range tests.length) ∧
    (runBatchTests runTime tests).Prints Report.statusLine (List.replicate tests.length ())
  := ⟨List.range_eq_range' (n := tests.length) ▸ runTestsFrom_verdicts runTime verbose 0 tests,
    forM_runBatchTest_statuses runTime tests⟩

/-! ### The elements of a fairness test -/

/-- Every test as it was, and every workload with its name and its shares. -/
def Effect.named : Effect where
  holds s s' := s'.tests = s.tests ∧ ∀ r,
    (s'.worlds r).shortFormat = (s.worlds r).shortFormat ∧ (s'.worlds r).shares = (s.worlds r).shares
  refl _ := ⟨rfl, fun _ => ⟨rfl, rfl⟩⟩
  trans h₁ h₂ := ⟨h₂.1.trans h₁.1,
    fun r => ⟨(h₂.2 r).1.trans (h₁.2 r).1, (h₂.2 r).2.trans (h₁.2 r).2⟩⟩

theorem Effect.named_of_eq {s s' : Sys} (ht : s'.tests = s.tests) (hw : s'.worlds = s.worlds) :
  Effect.named.holds s s'
  := ⟨ht, fun _ => by rw [hw]; exact ⟨rfl, rfl⟩⟩

theorem named_writeFile (path data : String) : (writeFile path data).Within .named
  := fun _ => Effect.named_of_eq rfl rfl

theorem named_print (r : Report) : (print r).Within .named
  := fun _ => Effect.named_of_eq rfl rfl

theorem named_of_keeps {α : Type} {x : Harness α} (hx : x.Keeps) : x.Within .named
  := fun s => ⟨(hx s).2.1, fun r => ⟨(congrArg TestWorld.shortFormat ((hx s).1 r) :),
    (congrArg TestWorld.shares ((hx s).1 r) :)⟩⟩

theorem named_getMaxVmid : getMaxVmid.Within .named
  := (Harness.closed_within _).of_getMaxVmid (fun _ => Effect.named_of_eq rfl rfl)
    fun s => by rw [loadSched_exec]; exact Effect.named_of_eq rfl rfl

/-- Binding a workload to a world keeps its name and its shares. -/
theorem named_refreshVmid (r : Nat) : (TestWorld.refreshVmid r).Within .named
  := Harness.within_bind named_getMaxVmid fun _ s => ⟨rfl, fun r' => by
      by_cases h : r' = r
      · subst h
        simp [TestWorld.shortFormat]
      · simp [Function.update_noteq h]⟩

theorem named_setup (t : Nat) : (BasicTest.setup t).Within .named
  := have hc := Harness.closed_within .named
  hc.of_setup (fun r => hc.of_start named_getMaxVmid (named_refreshVmid r)
      (fun _ => named_writeFile _ _)
      fun _ x _ => Harness.within_bind (Harness.within_ofExcept x) fun _ => named_writeFile _ _)
    (named_writeFile _ _) t

/-- The element loop of `run_batch_tests` prints the elements the result map holds, in
order. -/
theorem forM_element_exec (res : List (String × ℚ)) (es : List String) (s : Sys) :
  (es.forM fun e => match res.lookup e with
      | some v => print (.element e v)
      | none => pure ()).exec s
    = (.ok (), { s with out := s.out ++ es.filterMap fun e => (res.lookup e).map (.element e) })
  := by
  induction es generalizing s with
  | nil => simp
  | cons e es ih => cases h : res.lookup e <;> simp [h, ih]

/-- A name and a number joined by `#` give back both, when the name has no `#`. -/
theorem hashKey_inj {a b : String} {i j : Nat} (ha : '#' ∉ a.data) (hb : '#' ∉ b.data)
    (h : a ++ "#" ++ toString i = b ++ "#" ++ toString j) :
  a = b ∧ i = j
  := by
  have hsplit : ∀ (x : String) (n : Nat), '#' ∉ x.data →
      (x ++ "#" ++ toString n).data.splitOn '#' = [x.data, (toString n).data] := fun x n hx => by
    simp only [String.data_append, List.append_assoc]
    rw [List.singleton_append, splitOn_append_cons hx,
      splitOn_of_not_mem (toString_not_mem _ '#' rfl)]
  have hdata := congrArg (fun k => k.data.splitOn '#') h
  simp only [hsplit a i ha, hsplit b j hb, List.cons.injEq] at hdata
  exact ⟨String.ext hdata.1, toString_injective (String.ext hdata.2.1)⟩

theorem fairnessKey_congr {vms : List Nat} {w₁ w₂ : Nat → TestWorld}
    (h : ∀ r, (w₁ r).shortFormat = (w₂ r).shortFormat) : fairnessKey vms w₁ = fairnessKey vms w₂
  := funext fun r => by simp only [fairnessKey, h r]

/-- Under the keys of `FairnessTest.results`, the element at position `i` of the workload
list holds its workload's fairness exactly when `i` is where that workload first occurs. -/
theorem lookup_fairnessElement {vms : List Nat} {worlds : Nat → TestWorld}
    {res : List (String × ℚ)} {f : Nat → ℚ}
    (hkey : ∀ r ∈ vms, res.lookup (fairnessKey vms worlds r) = some (f r))
    (hnone : ∀ k, (∀ r ∈ vms, fairnessKey vms worlds r ≠ k) → res.lookup k = none)
    {i r : Nat} (hir : (i, r) ∈ vms.enum) :
  res.lookup ((worlds r).shortFormat ++ "#" ++ toString i)
    = if vms.indexOf r = i then some (f r) else none
  := by
  have hget : vms[i]? = some r := List.mk_mem_enum_iff_getElem?.1 hir
  split_ifs with hi
  · rw [← hi]
    exact hkey r (List.getElem?_mem hget)
  · refine hnone _ fun r' hr' he => hi ?_
    obtain ⟨-, hidx⟩ := hashKey_inj (hash_not_mem_shortFormat _) (hash_not_mem_shortFormat _) he
    have hr'get : vms[vms.indexOf r']? = some r' := List.getElem?_indexOf hr'
    rw [hidx, hget, Option.some.injEq] at hr'get
    rwa [hr'get]

/-- The element lines a fairness test's result map gives: those of the positions where a
workload first occurs, each with its fairness. -/
theorem filterMap_fairnessElements {vms : List Nat} {worlds : Nat → TestWorld}
    {res : List (String × ℚ)} {f : Nat → ℚ}
    (hkey : ∀ r ∈ vms, res.lookup (fairnessKey vms worlds r) = some (f r))
    (hnone : ∀ k, (∀ r ∈ vms, fairnessKey vms worlds r ≠ k) → res.lookup k = none) :
  (vms.enum.map fun (i, r) => (worlds r).shortFormat ++ "#" ++ toString i).filterMap
      (fun e => (res.lookup e).map (Report.element e))
    = vms.enum.filterMap fun (i, r) => if vms.indexOf r = i then
        some (Report.element ((worlds r).shortFormat ++ "#" ++ toString i) (f r)) else none
  := by
  rw [List.filterMap_map]
  refine List.filterMap_congr fun ⟨i, r⟩ hir => ?_
  simp only [Function.comp, lookup_fairnessElement hkey hnone hir]
  split_ifs <;> rfl

theorem getTestElements_state (t : Nat) (s : Sys) : ((BasicTest.getTestElements t).exec s).2 = s
  := rfl

/-- If an iteration of `run_batch_tests` returns, `setup` and `run` returned, `results`
returned a map and errors, and after them the iteration printed the status line and then
each element the map holds, in the order of `getTestElements()`. -/
theorem runBatchTest_exec_ok {runTime t : Nat} {s s' : Sys}
    (h : (runBatchTest runTime t).exec s = (.ok (), s')) :
  ∃ s₁ s₂ res errs s₃ es, (BasicTest.setup t).exec s = (.ok (), s₁) ∧
    (BasicTest.run t).exec s₁ = (.ok (), s₂) ∧
    (BasicTest.results runTime t).exec s₂ = (.ok (res, errs), s₃) ∧
    (BasicTest.getTestElements t).exec s₃ = (.ok es, s₃) ∧
    s'.out = s₃.out ++ .status errs.isEmpty :: es.filterMap fun e => (res.lookup e).map (.element e)
  := by
  obtain ⟨_, s₁, hsetup, h⟩ := Harness.exec_bind_ok h
  obtain ⟨_, s₂, hrun, h⟩ := Harness.exec_bind_ok h
  obtain ⟨⟨res, errs⟩, s₃, hres, h⟩ := Harness.exec_bind_ok h
  obtain ⟨_, s₄, hshut, h⟩ := Harness.exec_bind_ok h
  obtain ⟨_, s₅, hstat, h⟩ := Harness.exec_bind_ok h
  obtain ⟨es, s₆, hel, h⟩ := Harness.exec_bind_ok h
  simp only [BasicTest.shutdown, stopTimerWorlds, writeFile_exec, Prod.mk.injEq] at hshut
  simp only [print_exec, Prod.mk.injEq] at hstat
  obtain ⟨-, rfl⟩ := hshut
  obtain ⟨-, rfl⟩ := hstat
  have hes : (BasicTest.getTestElements t).exec s₃ = (.ok es, s₃) :=
    Prod.ext ((congrArg Prod.fst hel).symm.trans rfl).symm rfl
  have hs₆ : s₆ = _ := (congrArg Prod.snd hel).symm.trans (getTestElements_state t _)
  subst hs₆
  obtain ⟨-, rfl⟩ := Prod.mk.inj ((forM_element_exec res es _).symm.trans h)
  exact ⟨s₁, s₂, res, errs, s₃, es, hsetup, hrun, hres, hes, by simp⟩

/-- In a map of distinct keys, each entry is found under its key. -/
theorem lookup_of_mem_of_nodup {β : Type} :
  ∀ {res : List (String × β)}, (res.map Prod.fst).Nodup → ∀ {e}, e ∈ res → res.lookup e.1 = some e.2
  | [], _, _, he => absurd he (List.not_mem_nil _)
  | (k, v) :: rest, hn, e, he => by
    rw [List.map_cons, List.nodup_cons] at hn
    rcases List.mem_cons.1 he with rfl | he
    · simp [List.lookup_cons]
    have hk : e.1 ≠ k := fun h => hn.1 (List.mem_map.2 ⟨e, he, h⟩)
    rw [List.lookup_cons, beq_eq_false_iff_ne.2 hk]
    exact lookup_of_mem_of_nodup hn.2 he

/-- The element loop of `run_batch_tests` over the keys of a map of distinct keys prints the
whole map, in order. -/
theorem filterMap_elements_of_nodup {res : List (String × ℚ)} (h : (res.map Prod.fst).Nodup) :
  (res.map Prod.fst).filterMap (fun e => (res.lookup e).map (Report.element e))
    = res.map fun e => Report.element e.1 e.2
  := by
  rw [List.filterMap_map, ← List.filterMap_eq_map]
  exact List.filterMap_congr fun e he => by simp [lookup_of_mem_of_nodup h he]

/-- The lines `run_batch_tests` prints for a fairness test over `vms` whose workloads are
`worlds`: for some fairness values `f`, a status line that passes exactly when every
workload's fairness is within `maxUnfairness` of 1, then an element line for exactly the
positions of `vms` where a workload occurs first, with its fairness. -/
def FairnessLines (vms : List Nat) (maxUnfairness : ℚ) (worlds : Nat → TestWorld)
    (lines : List Report) : Prop :=
  ∃ f : Nat → ℚ,
    lines = .status (vms.all fun r => |f r - 1| ≤ maxUnfairness) ::
      vms.enum.filterMap (fun (i, r) => if vms.indexOf r = i then
        some (.element ((worlds r).shortFormat ++ "#" ++ toString i) (f r)) else none)

/-- A snapshot in which world 3, whose leader shows a `min` of 10, a `max` of 100 and an
uptime of 50 seconds, has used 10 seconds. -/
def repeatDump : List String :=
  ["cpus", "1", "", "cell", "", "cpu", "0", "", "vm vcpu name usedsec min max uptime",
    "3 3 w3 10.0 10 100 50.0"]

/-- Test 0 is a `FairnessTest` and test 1 a `MinMaxTest`, each of the timer workload `0`
with factor 2, so that each lists that workload twice; the workload starts as world 2 and
again as world 3, and the snapshot `results` reads is `repeatDump`. -/
def repeatSys : Sys where
  worlds := fun _ => TimerWorld 5 5
  tests := fun t => if t = 0 then BasicTest.init [0] 2 "repeat" (.fairness (1 / 10))
    else BasicTest.init [0] 2 "repeat" (.minMax (1 / 10))
  vmDirs := [vmListing [1], vmListing [1, 2], vmListing [1, 2], vmListing [1, 2, 3]]
  cpuVerbose := [rowsDump [1], rowsDump [1, 2], rowsDump [1, 2], rowsDump [1, 2, 3], repeatDump]
  random := []
  writes := []
  out := []

/-- The machine `s` once a `start` of the workload `r`, which has no configuration to write,
has read two observations and bound it to world `id`, having written its start command. -/
def timerStartedSys (s : Sys) (r : Nat) (id : Int) : Sys :=
  { (s.drop 2).setVmid r id with
    writes := s.writes ++ [⟨(s.worlds r).path, (s.worlds r).startCommand⟩] }

/-- `setup` of either test of `repeatSys` starts the workload twice, as world 2 and then as
world 3. -/
theorem setup_repeatSys (t : Nat) :
  (BasicTest.setup t).exec repeatSys
    = (.ok (), timerStartedSys (timerStartedSys repeatSys 0 2) 0 3)
  := by
  have h₁ : (TestWorld.start 0).exec repeatSys = (.ok (), timerStartedSys repeatSys 0 2) :=
    Prod.ext rfl rfl
  have h₂ : (TestWorld.start 0).exec (timerStartedSys repeatSys 0 2)
      = (.ok (), timerStartedSys (timerStartedSys repeatSys 0 2) 0 3) :=
    Prod.ext rfl rfl
  have hvms : (repeatSys.tests t).vms = [0, 0] := by
    by_cases ht : t = 0 <;> simp only [repeatSys, ht, if_true, if_false] <;> rfl
  rw [BasicTest.setup, Harness.exec_bind_of_ok (getTest_exec t _)]
  dsimp only
  rw [Harness.exec_tryCatch, hvms]
  simp only [List.forM_cons', List.forM_nil', Harness.exec_bind, h₁, h₂, Harness.exec_pure]

end SchedTest
