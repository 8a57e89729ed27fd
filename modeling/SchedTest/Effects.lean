import SchedTest.Setup
import SchedTest.Closed

/-!
# What a run writes

The harness talks to the scheduler by writing to proc nodes, and it makes four kinds of
write only (`HarnessWrite`): a workload's start command to that workload's node, one of the
four configuration writes to a world, the statistics reset, and `stop` to the timer node.
Every run of `run_tests` and of `run_batch_tests` over tests of the modelled kinds, whether
it returns or raises, only appends such writes to the log: `runTests_harnessWrites`.

An `Effect` is what a run may do to the machine, as a reflexive and transitive relation
between the state before and the state after; `Harness.Within` says that a computation
stays within one on every run.  The closure rules are proved once, for every effect, and
each harness function gets its lemma from its parts.

The control nodes count live worlds from the write log (`liveWorlds`).  Since the harness
never writes `stop` to the basic node, no run ever stops a basic world, and each start
command it writes there adds one: `runTests_basic_worlds`.  Every test ends with `stop` to
the timer node, and what follows it writes nothing, so after a run that returns no timer
world is live: `runTests_no_timer_world`.
-/

namespace SchedTest

/-! ### Effects -/

/-- What a run may do to the machine: a reflexive and transitive relation between the state
before and the state after. -/
structure Effect where
  holds : Sys → Sys → Prop
  refl : ∀ s, holds s s
  trans : ∀ {s₁ s₂ s₃ : Sys}, holds s₁ s₂ → holds s₂ s₃ → holds s₁ s₃

/-- On every run, whether it returns or raises, `x` stays within the effect `e`. -/
def Harness.Within (e : Effect) {α : Type} (x : Harness α) : Prop :=
  ∀ s : Sys, e.holds s (x.exec s).2

section Closure

variable {e : Effect}

theorem Harness.within_pure {α : Type} (a : α) : (pure a : Harness α).Within e
  := fun s => e.refl s

theorem Harness.within_throw {α : Type} (msg : String) : (throw msg : Harness α).Within e
  := fun s => e.refl s

theorem Harness.within_ofExcept {α : Type} (x : Except String α) :
  (Harness.ofExcept x).Within e
  := fun s => by simpa using e.refl s

theorem Harness.within_getWorld (r : Nat) : (getWorld r).Within e
  := fun s => e.refl s

theorem Harness.within_getTest (t : Nat) : (getTest t).Within e
  := fun s => e.refl s

theorem Harness.within_get : (get : Harness Sys).Within e
  := fun s => e.refl s

/-- Code within an effect, followed by code within it whatever the first returned, is within
it. -/
theorem Harness.within_bind {α β : Type} {x : Harness α} {f : α → Harness β}
    (hx : x.Within e) (hf : ∀ a, (f a).Within e) : (x >>= f).Within e
  := fun s => by
  have h₁ := hx s
  rw [Harness.exec_bind]
  rcases hxs : x.exec s with ⟨_ | a, s₁⟩ <;> rw [hxs] at h₁
  · exact h₁
  · exact e.trans h₁ (hf a s₁)

theorem Harness.within_ite {α : Type} {c : Prop} [Decidable c] {x y : Harness α}
    (hx : x.Within e) (hy : y.Within e) : (if c then x else y).Within e
  := by split <;> assumption

theorem Harness.within_forM {α : Type} {f : α → Harness Unit} :
  ∀ {l : List α}, (∀ a ∈ l, (f a).Within e) → (l.forM f).Within e
  | [], _ => Harness.within_pure ()
  | a :: _, hf => Harness.within_bind (hf a (List.mem_cons_self _ _)) fun _ =>
    Harness.within_forM fun b hb => hf b (List.mem_cons_of_mem a hb)

/-- The effect a run within it has had. -/
theorem Harness.Within.of_exec {α : Type} {x : Harness α} (hx : x.Within e) {s s' : Sys}
    {r : Except String α} (h : x.exec s = (r, s')) : e.holds s s'
  := by simpa [h] using hx s

/-- The frame a run of code that keeps it has kept. -/
theorem Harness.Keeps.of_exec {α : Type} {x : Harness α} (hx : x.Keeps) {s s' : Sys}
    {r : Except String α} (h : x.exec s = (r, s')) : s.Frame s'
  := by simpa [h] using hx s

/-- `try ... except` is within an effect when the protected code and the handler are. -/
theorem Harness.within_tryCatch {α : Type} {x : Harness α} {handle : String → Harness α}
    (hx : x.Within e) (hh : ∀ msg, (handle msg).Within e) : (tryCatch x handle).Within e
  := fun s => by
  have h₁ := hx s
  rw [Harness.exec_tryCatch]
  rcases hxs : x.exec s with ⟨_ | a, s₁⟩ <;> rw [hxs] at h₁
  · exact e.trans h₁ (hh _ s₁)
  · exact h₁

end Closure

/-- Staying within an effect is a property every harness function inherits. -/
theorem Harness.closed_within (e : Effect) : Harness.Closed (Harness.Within e) where
  of_pure := Harness.within_pure
  of_throw := Harness.within_throw
  of_bind := Harness.within_bind
  of_tryCatch := Harness.within_tryCatch
  of_getWorld := Harness.within_getWorld
  of_getTest := Harness.within_getTest
  of_worlds _ hf := Harness.within_bind Harness.within_get hf

/-! ### The writes the harness makes -/

/-- The writes the harness makes: a workload's start command to that workload's node, a
configuration write to a world (`ConfigWrite`: its `min`, `max`, affinity or hyperthreading
file), the statistics reset, and `stop` to the timer node. -/
inductive HarnessWrite : Write → Prop
  | start (w : TestWorld) : HarnessWrite ⟨w.path, w.startCommand⟩
  | config {id : Int} {w : Write} (h : ConfigWrite id w) : HarnessWrite w
  | reset : HarnessWrite ⟨"/proc/vmware/sched/reset-stats", "reset"⟩
  | stop : HarnessWrite ⟨TimerWorld.path, "stop"⟩

/-- From `s` to `s'` only harness writes have been appended to the log. -/
def Sys.Logged (s s' : Sys) : Prop :=
  ∃ ws, s'.writes = s.writes ++ ws ∧ ∀ w ∈ ws, HarnessWrite w

theorem Sys.Logged.refl (s : Sys) : s.Logged s
  := ⟨[], by simp, by simp⟩

theorem Sys.Logged.trans {s₁ s₂ s₃ : Sys} (h₁ : s₁.Logged s₂) (h₂ : s₂.Logged s₃) :
  s₁.Logged s₃
  := by
  obtain ⟨ws₁, hw₁, hq₁⟩ := h₁
  obtain ⟨ws₂, hw₂, hq₂⟩ := h₂
  refine ⟨ws₁ ++ ws₂, by rw [hw₂, hw₁, List.append_assoc], fun w hw => ?_⟩
  rcases List.mem_append.1 hw with hw | hw
  exacts [hq₁ w hw, hq₂ w hw]

/-- Harness writes appended, anything printed. -/
def Effect.logged : Effect where
  holds := Sys.Logged
  refl := Sys.Logged.refl
  trans := Sys.Logged.trans

/-- Harness writes appended, nothing printed. -/
def Effect.quiet : Effect where
  holds s s' := s'.out = s.out ∧ s.Logged s'
  refl s := ⟨rfl, Sys.Logged.refl s⟩
  trans h₁ h₂ := ⟨h₂.1.trans h₁.1, h₁.2.trans h₂.2⟩

/-- Nothing written, anything printed. -/
def Effect.noWrites : Effect where
  holds s s' := s'.writes = s.writes
  refl _ := rfl
  trans h₁ h₂ := h₂.trans h₁

theorem Harness.Within.logged_of_quiet {α : Type} {x : Harness α} (hx : x.Within .quiet) :
  x.Within .logged
  := fun s => (hx s).2

theorem Harness.Within.logged_of_noWrites {α : Type} {x : Harness α}
    (hx : x.Within .noWrites) : x.Within .logged
  := fun s => ⟨[], by simpa using hx s, by simp⟩

/-- A step that changes neither the write log nor the output is quiet. -/
theorem Effect.quiet_of_eq {s s' : Sys} (hout : s'.out = s.out) (hw : s'.writes = s.writes) :
  Effect.quiet.holds s s'
  := ⟨hout, [], by simpa using hw, by simp⟩

/-! ### The primitives -/

theorem quiet_setWorld (r : Nat) (w : TestWorld) : (setWorld r w).Within .quiet
  := fun _ => Effect.quiet_of_eq rfl rfl

theorem quiet_setTest (t : Nat) (x : BasicTest) : (setTest t x).Within .quiet
  := fun _ => Effect.quiet_of_eq rfl rfl

theorem quiet_globVmDirs : globVmDirs.Within .quiet
  := fun _ => Effect.quiet_of_eq rfl rfl

theorem quiet_loadSched : loadSched.Within .quiet
  := fun s => by
  rw [loadSched_exec]
  exact Effect.quiet_of_eq rfl rfl

theorem quiet_randomDraw : randomDraw.Within .quiet
  := fun _ => Effect.quiet_of_eq rfl rfl

theorem quiet_writeFile {path data : String} (h : HarnessWrite ⟨path, data⟩) :
  (writeFile path data).Within .quiet
  := fun _ => ⟨rfl, [⟨path, data⟩], rfl, by simpa using h⟩

/-- A prepared write is quiet when whatever it prepares is a harness write. -/
theorem quiet_writeOf {x : Except String Write} (h : ∀ w, x = .ok w → HarnessWrite w) :
  (writeOf x).Within .quiet
  := by
  cases x with
  | error msg => exact fun s => Effect.quiet.refl s
  | ok w => exact fun s => ⟨rfl, [w], rfl, by simpa using h w rfl⟩

theorem quiet_of_keeps {α : Type} {x : Harness α} (hx : x.Keeps) : x.Within .quiet
  := fun s => Effect.quiet_of_eq (hx s).2.2.2 (hx s).2.2.1

theorem noWrites_of_keeps {α : Type} {x : Harness α} (hx : x.Keeps) : x.Within .noWrites
  := fun s => (hx s).2.2.1

theorem noWrites_print (r : Report) : (print r).Within .noWrites
  := fun _ => rfl

/-! ### Starting and stopping workloads -/

theorem quiet_getMaxVmid : getMaxVmid.Within .quiet
  := (Harness.closed_within _).of_getMaxVmid quiet_globVmDirs quiet_loadSched

theorem quiet_refreshVmid (r : Nat) : (TestWorld.refreshVmid r).Within .quiet
  := (Harness.closed_within _).of_refreshVmid quiet_getMaxVmid (quiet_setWorld r)

/-- A configuration write that `start` prepares is one to the world the workload is bound to;
an unbound workload prepares none. -/
theorem configWrites_harnessWrite {w : TestWorld} {wr : Write} (h : .ok wr ∈ w.configWrites) :
  HarnessWrite wr
  := by
  cases hid : w.vmid with
  | none =>
    simp [TestWorld.configWrites, TestWorld.configMin, TestWorld.configMax,
      TestWorld.configAffinity, TestWorld.configHTSharing, TestWorld.getVMDir, hid,
      vmidAttr] at h
  | some id => exact .config (configWrites_config hid h)

theorem quiet_start (r : Nat) : (TestWorld.start r).Within .quiet
  := (Harness.closed_within _).of_start quiet_getMaxVmid (quiet_refreshVmid r)
    (fun w => quiet_writeFile (.start w))
    (fun _ _ hx => quiet_writeOf fun _ hwr => configWrites_harnessWrite (hwr ▸ hx))

theorem quiet_shutdown : BasicTest.shutdown.Within .quiet
  := quiet_writeFile .stop

theorem quiet_setup (t : Nat) : (BasicTest.setup t).Within .quiet
  := (Harness.closed_within _).of_setup quiet_start quiet_shutdown t

/-! ### The rounds of the torture test -/

/-- The affinity a round writes for a workload is a configuration write to the world it is
bound to. -/
theorem configAffinity_harnessWrite {v : TestWorld} {wr : Write} (h : v.configAffinity = .ok wr) :
  HarnessWrite wr
  := by
  cases hid : v.vmid with
  | none => simp [TestWorld.configAffinity, TestWorld.getVMDir, hid, vmidAttr] at h
  | some id => exact .config (configAffinity_config hid h)

theorem quiet_tortureRun (t n : Nat) (vms : List Nat) (k : Nat) :
  (tortureRun t n vms k).Within .quiet
  := have hc := Harness.closed_within .quiet
  hc.of_tortureRun (hc.of_tortureRound vms (quiet_writeFile .reset) quiet_randomDraw
    quiet_loadSched fun data _ => hc.of_tortureVm data (quiet_setWorld _)
      (hc.of_extendErrs (quiet_setTest t)) (hc.of_randAffinity quiet_randomDraw n)
      fun _ => quiet_writeOf fun _ h => configAffinity_harnessWrite h) k

/-! ### The steps of a test -/

theorem quiet_run (t : Nat) : (BasicTest.run t).Within .quiet
  := (Harness.closed_within _).of_run t (quiet_writeFile .reset) (quiet_tortureRun t)

/-- Reporting a test stays within every effect that printing a line stays within. -/
theorem Harness.within_report {e : Effect} (hp : ∀ r, (print r).Within e) (verbose num : Nat)
    (x : BasicTest) (res : List (String × ℚ)) (errors : List Failure) :
  (report verbose num x res errors).Within e
  := by
  refine Harness.within_ite (Harness.within_bind (hp _) fun _ => ?_)
    (Harness.within_bind (hp _) fun _ =>
      Harness.within_bind (Harness.within_forM fun _ _ => hp _) fun _ => ?_) <;>
  refine (match errors with
    | _ :: _ => Harness.within_ite (Harness.within_bind (Harness.within_ofExcept _) fun _ =>
        Harness.within_bind (hp _) fun _ => ?_)
        (Harness.within_bind (Harness.within_pure _) fun _ => ?_)
    | [] => Harness.within_bind (Harness.within_pure _) fun _ => ?_) <;>
  exact Harness.within_ite (Harness.within_bind (hp _) fun _ => hp _)
    (Harness.within_bind (Harness.within_pure _) fun _ => hp _)

/-- Reporting a test prints and never writes. -/
theorem noWrites_report (verbose num : Nat) (x : BasicTest) (res : List (String × ℚ))
    (errors : List Failure) : (report verbose num x res errors).Within .noWrites
  := Harness.within_report noWrites_print verbose num x res errors

theorem logged_runTest (runTime verbose num t : Nat) :
  (runTest runTime verbose num t).Within .logged
  := Harness.within_bind (quiet_setup t).logged_of_quiet fun _ =>
    Harness.within_bind (quiet_run t).logged_of_quiet fun _ =>
    Harness.within_bind (quiet_of_keeps (results_keeps runTime t)).logged_of_quiet fun _ =>
    Harness.within_bind quiet_shutdown.logged_of_quiet fun _ =>
    Harness.within_bind (Harness.within_getTest t) fun _ =>
    (noWrites_report _ _ _ _ _).logged_of_noWrites

theorem logged_runTestsFrom (runTime verbose : Nat) :
  ∀ (num : Nat) (tests : List Nat), (runTestsFrom runTime verbose num tests).Within .logged
  | _, [] => Harness.within_pure _
  | num, t :: ts => Harness.within_bind (logged_runTest runTime verbose num t) fun _ =>
    logged_runTestsFrom runTime verbose (num + 1) ts

/-- What `run_batch_tests` prints for a test once it has shut down stays within every effect
that printing a line stays within. -/
theorem Harness.within_batchReport {e : Effect} (hp : ∀ r, (print r).Within e) (t : Nat)
    (res : List (String × ℚ)) (errors : List Failure) :
  (do print (.status errors.isEmpty)
      (← BasicTest.getTestElements t).forM fun e =>
        match res.lookup e with
        | some v => print (.element e v)
        | none => pure () : Harness Unit).Within e
  := Harness.within_bind (hp _) fun _ =>
    Harness.within_bind ((Harness.closed_within _).of_getTestElements t) fun _ =>
    Harness.within_forM fun e _ => by
    split
    exacts [hp _, Harness.within_pure _]

/-- What `run_batch_tests` prints for a test once it has shut down: never a write. -/
theorem noWrites_batchReport (t : Nat) (res : List (String × ℚ)) (errors : List Failure) :
  (do print (.status errors.isEmpty)
      (← BasicTest.getTestElements t).forM fun e =>
        match res.lookup e with
        | some v => print (.element e v)
        | none => pure () : Harness Unit).Within .noWrites
  := Harness.within_batchReport noWrites_print t res errors

theorem logged_runBatchTest (runTime t : Nat) : (runBatchTest runTime t).Within .logged
  := Harness.within_bind (quiet_setup t).logged_of_quiet fun _ =>
    Harness.within_bind (quiet_run t).logged_of_quiet fun _ =>
    Harness.within_bind (quiet_of_keeps (results_keeps runTime t)).logged_of_quiet fun p =>
    Harness.within_bind quiet_shutdown.logged_of_quiet fun _ =>
    (noWrites_batchReport t p.1 p.2).logged_of_noWrites

/-! ### Whole runs -/

theorem split_startCommand (w : TestWorld) : (split w.startCommand).head? = some "start"
  := by
  simp only [TestWorld.startCommand, String.append_assoc]
  simp [split, List.splitOnP_cons, isSpace]

theorem startCommand_ne_stop (w : TestWorld) : w.startCommand ≠ "stop"
  := fun h => by
  have hsplit := split_startCommand w
  rw [h] at hsplit
  exact absurd hsplit (by decide)

/-- No world directory is the basic node. -/
theorem vmDir_append_ne_basic (id : Int) (file : String) : vmDir id ++ file ≠ BasicWorld.path
  := fun h => by
  have hp : "/proc/vmware/vm/".data <+: BasicWorld.path.data := by
    rw [← h, vmDir]
    simp only [String.append_assoc, String.data_append]
    exact List.prefix_append _ _
  exact absurd hp (by decide)

/-- A harness write never stops a basic world, and starts one exactly when it goes to the
basic node. -/
theorem HarnessWrite.liveStep_basic {w : Write} (hw : HarnessWrite w) (n : Nat) :
  liveStep BasicWorld.path n w = n + if w.path = BasicWorld.path then 1 else 0
  := by
  cases hw with
  | start w =>
    by_cases hp : w.path = BasicWorld.path
    · simp [liveStep, hp, startCommand_ne_stop, split_startCommand]
    · simp [liveStep, hp]
  | config h =>
    obtain ⟨file, hfile⟩ := h.path
    simp [liveStep, hfile, vmDir_append_ne_basic]
  | reset => simp [liveStep, show "/proc/vmware/sched/reset-stats" ≠ BasicWorld.path by decide]
  | stop => simp [liveStep, show TimerWorld.path ≠ BasicWorld.path by decide]

theorem foldl_liveStep_basic {ws : List Write} (hq : ∀ w ∈ ws, HarnessWrite w) (n : Nat) :
  ws.foldl (liveStep BasicWorld.path) n = n + ws.countP fun w => w.path = BasicWorld.path
  := by
  induction ws generalizing n with
  | nil => rfl
  | cons w ws ih =>
    rw [List.foldl_cons, (hq w (List.mem_cons_self w ws)).liveStep_basic,
      ih fun w' hw' => hq w' (List.mem_cons_of_mem w hw'), List.countP_cons]
    simp only [decide_eq_true_eq]
    split_ifs <;> omega

/-- From `s` to `s'` the log has grown by `ws`, and the live basic worlds by one for each
write of `ws` to the basic node: none has been stopped. -/
def Sys.BasicStarts (s s' : Sys) : Prop :=
  ∃ ws, s'.writes = s.writes ++ ws ∧ liveWorlds BasicWorld.path s'.writes
    = liveWorlds BasicWorld.path s.writes + ws.countP fun w => w.path = BasicWorld.path

theorem Sys.Logged.basicStarts {s s' : Sys} (h : s.Logged s') : s.BasicStarts s'
  := by
  obtain ⟨ws, hw, hq⟩ := h
  exact ⟨ws, hw, by rw [hw, liveWorlds_append, foldl_liveStep_basic hq]⟩

/-- No run of `run_tests` or of `run_batch_tests`, whether it returns or raises, stops a basic
world: the live basic worlds after it are those before it and one for each write it made to
the basic node. -/
theorem runTests_basic_worlds (runTime verbose : Nat) (tests : List Nat) (s : Sys) :
  s.BasicStarts ((runTests runTime verbose tests).exec s).2 ∧
    s.BasicStarts ((runBatchTests runTime tests).exec s).2
  := ⟨(logged_runTestsFrom runTime verbose 0 tests s).basicStarts,
    (Harness.within_forM (fun t _ => logged_runBatchTest runTime t) s).basicStarts⟩

/-! ### No timer world outlives a run -/

/-- If `x` returns, the last write in the log is `stop` to the timer node. -/
def Harness.EndsStopped {α : Type} (x : Harness α) : Prop :=
  ∀ s s' a, x.exec s = (.ok a, s') → ∃ pre, s'.writes = pre ++ [⟨TimerWorld.path, "stop"⟩]

theorem endsStopped_shutdown : BasicTest.shutdown.EndsStopped
  := fun s s' _ h => ⟨s.writes, by
  simp only [BasicTest.shutdown, stopTimerWorlds, writeFile_exec, Prod.mk.injEq] at h
  rw [← h.2]⟩

/-- Code that ends with `stop`, followed by code that writes nothing, ends with `stop`. -/
theorem Harness.EndsStopped.bind_noWrites {α β : Type} {x : Harness α} {f : α → Harness β}
    (hx : x.EndsStopped) (hf : ∀ a, (f a).Within .noWrites) : (x >>= f).EndsStopped
  := fun s s' b h => by
  obtain ⟨a, s₁, h₁, h₂⟩ := Harness.exec_bind_ok h
  obtain ⟨pre, hpre⟩ := hx s s₁ a h₁
  have hw := hf a s₁
  rw [h₂] at hw
  exact ⟨pre, hw.trans hpre⟩

/-- Code followed by code that ends with `stop`, whatever the first returned, ends with
`stop`. -/
theorem Harness.endsStopped_bind {α β : Type} {x : Harness α} {f : α → Harness β}
    (hf : ∀ a, (f a).EndsStopped) : (x >>= f).EndsStopped
  := fun s s' b h => by
  obtain ⟨a, s₁, -, h₂⟩ := Harness.exec_bind_ok h
  exact hf a s₁ s' b h₂

theorem endsStopped_runTest (runTime verbose num t : Nat) :
  (runTest runTime verbose num t).EndsStopped
  := Harness.endsStopped_bind fun _ => Harness.endsStopped_bind fun _ =>
    Harness.endsStopped_bind fun _ => endsStopped_shutdown.bind_noWrites fun _ =>
    Harness.within_bind (Harness.within_getTest t) fun _ => noWrites_report _ _ _ _ _

theorem endsStopped_runBatchTest (runTime t : Nat) : (runBatchTest runTime t).EndsStopped
  := Harness.endsStopped_bind fun _ => Harness.endsStopped_bind fun _ =>
    Harness.endsStopped_bind fun p => endsStopped_shutdown.bind_noWrites fun _ =>
    noWrites_batchReport t p.1 p.2

theorem endsStopped_runTestsFrom (runTime verbose : Nat) :
  ∀ (num t : Nat) (ts : List Nat), (runTestsFrom runTime verbose num (t :: ts)).EndsStopped
  | num, t, [] => (endsStopped_runTest runTime verbose num t).bind_noWrites fun _ =>
    Harness.within_pure _
  | _, _, t' :: ts => Harness.endsStopped_bind fun _ =>
    endsStopped_runTestsFrom runTime verbose _ t' ts

theorem endsStopped_forM_runBatchTest (runTime : Nat) :
  ∀ (t : Nat) (ts : List Nat), ((t :: ts).forM (runBatchTest runTime)).EndsStopped
  | t, [] => (endsStopped_runBatchTest runTime t).bind_noWrites fun _ => Harness.within_pure _
  | _, t' :: ts => Harness.endsStopped_bind fun _ => endsStopped_forM_runBatchTest runTime t' ts

theorem Harness.EndsStopped.liveWorlds_timer {α : Type} {x : Harness α} (hx : x.EndsStopped)
    {s s' : Sys} {a : α} (h : x.exec s = (.ok a, s')) : liveWorlds TimerWorld.path s'.writes = 0
  := by
  obtain ⟨pre, hpre⟩ := hx s s' a h
  rw [hpre, liveWorlds_append, List.foldl_cons, List.foldl_nil, liveStep_stop]

/-- When `run_tests` or `run_batch_tests` returns from a run of at least one test, no timer
world is live: each test's `shutdown` stops them all, and nothing after it writes. -/
theorem runTests_no_timer_world (runTime verbose : Nat) {tests : List Nat} (hne : tests ≠ [])
    (s : Sys) :
  (∀ s', (runTests runTime verbose tests).exec s = (.ok (), s') →
    liveWorlds TimerWorld.path s'.writes = 0) ∧
  (∀ s', (runBatchTests runTime tests).exec s = (.ok (), s') →
    liveWorlds TimerWorld.path s'.writes = 0)
  := by
  obtain ⟨t, ts, rfl⟩ := List.exists_cons_of_ne_nil hne
  exact ⟨fun _ h => (endsStopped_runTestsFrom runTime verbose 0 t ts).liveWorlds_timer h,
    fun _ h => (endsStopped_forM_runBatchTest runTime t ts).liveWorlds_timer h⟩

/-- One `PerfStatsTest` of one timer workload; starting it creates world 2 beside world 1. -/
def timerSys : Sys :=
  { basicSys with worlds := fun _ => TimerWorld 10 0 }

theorem runTests_no_timer_world_timerSys :
  [0] ≠ [] ∧ liveWorlds TimerWorld.path ((runTests 50 0 [0]).exec timerSys).2.writes = 0 ∧
    liveWorlds TimerWorld.path ((runBatchTests 50 [0]).exec timerSys).2.writes = 0
  := have h := runTests_no_timer_world 50 0 (by decide : [0] ≠ []) timerSys
  ⟨by decide, h.1 _ (Harness.exec_eq_of_ok (by with_unfolding_all rfl)),
    h.2 _ (Harness.exec_eq_of_ok (by with_unfolding_all rfl))⟩

end SchedTest
