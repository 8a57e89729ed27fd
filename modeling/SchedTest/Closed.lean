import SchedTest.Runner

/-!
# Properties every harness function inherits

Many facts about the harness say that every run of some code does, or does not do, one kind
of thing: it appends only harness writes, it prints nothing, it never reads the output.
Such a property holds of returning, raising and reading a workload, a test or the workload
table, and sequencing and `try ... except` keep it (`Harness.Closed`).  Each harness
function then has the property as soon as the primitives it calls that change the machine
have it; the lemmas below say which primitives, once for every such property, so that an
instance only proves its primitives.
-/

namespace SchedTest

/-- A property of harness computations that returning, raising and reading a workload, a
test or the workload table have, and that sequencing and `try ... except` keep. -/
structure Harness.Closed (P : {α : Type} → Harness α → Prop) : Prop where
  of_pure : ∀ {α : Type} (a : α), P (pure a : Harness α)
  of_throw : ∀ {α : Type} (msg : String), P (throw msg : Harness α)
  of_bind : ∀ {α β : Type} {x : Harness α} {f : α → Harness β}, P x → (∀ a, P (f a)) →
    P (x >>= f)
  of_tryCatch : ∀ {α : Type} {x : Harness α} {handle : String → Harness α}, P x →
    (∀ msg, P (handle msg)) → P (tryCatch x handle)
  of_getWorld : ∀ r, P (getWorld r)
  of_getTest : ∀ t, P (getTest t)
  of_worlds : ∀ {β : Type} {f : Sys → Harness β}, (∀ s s', s.worlds = s'.worlds → f s = f s') →
    (∀ s, P (f s)) → P (get >>= f)

section Inherited

variable {P : {α : Type} → Harness α → Prop}

theorem Harness.of_ite {α : Type} {c : Prop} [Decidable c] {x y : Harness α} (hx : P x)
    (hy : P y) : P (if c then x else y)
  := by split <;> assumption

theorem Harness.Closed.of_ofExcept (hP : Harness.Closed P) {α : Type} (x : Except String α) :
  P (Harness.ofExcept x)
  := by
  cases x with
  | error msg => exact hP.of_throw msg
  | ok a => exact hP.of_pure a

theorem Harness.Closed.of_forM (hP : Harness.Closed P) {α : Type} {f : α → Harness Unit} :
  ∀ {l : List α}, (∀ a ∈ l, P (f a)) → P (l.forM f)
  | [], _ => hP.of_pure ()
  | a :: _, hf => hP.of_bind (hf a (List.mem_cons_self _ _)) fun _ =>
    hP.of_forM fun b hb => hf b (List.mem_cons_of_mem a hb)

/-! ### Starting and stopping workloads -/

/-- `get_max_vmid()` has a property its two reads have. -/
theorem Harness.Closed.of_getMaxVmid (hP : Harness.Closed P) (hglob : P globVmDirs)
    (hload : P loadSched) : P getMaxVmid
  := hP.of_bind hglob fun _ => hP.of_bind (hP.of_ofExcept _) fun _ =>
    hP.of_bind hload fun _ => hP.of_bind (hP.of_ofExcept _) fun _ => hP.of_pure _

theorem Harness.Closed.of_refreshVmid (hP : Harness.Closed P) {r : Nat} (hmax : P getMaxVmid)
    (hset : ∀ w, P (setWorld r w)) : P (TestWorld.refreshVmid r)
  := hP.of_bind hmax fun _ => hP.of_bind (hP.of_getWorld r) fun _ => hset _

theorem Harness.Closed.of_spin (hP : Harness.Closed P) {r : Nat}
    (hrefresh : P (TestWorld.refreshVmid r)) (oldmax : Int) :
  ∀ left, P (TestWorld.spin r oldmax left)
  | 0 => hP.of_bind (hP.of_getWorld r) fun _ => Harness.of_ite
    (hP.of_bind hrefresh fun _ => hP.of_throw _) (hP.of_pure _)
  | left + 1 => hP.of_bind (hP.of_getWorld r) fun _ => Harness.of_ite
    (hP.of_bind hrefresh fun _ => hP.of_spin hrefresh oldmax left) (hP.of_pure _)

/-- `start()` has a property that its reads of the maximum id, its binding of the workload's
id, its start command and its configuration writes have. -/
theorem Harness.Closed.of_start (hP : Harness.Closed P) {r : Nat} (hmax : P getMaxVmid)
    (hrefresh : P (TestWorld.refreshVmid r))
    (hcmd : ∀ w : TestWorld, P (writeFile w.path w.startCommand))
    (hconf : ∀ (w : TestWorld) (x : Except String Write), x ∈ w.configWrites → P (writeOf x)) :
  P (TestWorld.start r)
  := hP.of_bind (hP.of_getWorld r) fun w => by
  refine Harness.of_ite (hP.of_bind (hP.of_throw _) fun _ => ?_)
    (hP.of_bind (hP.of_pure _) fun _ => ?_) <;>
  exact hP.of_bind hmax fun oldmax =>
    hP.of_bind (hcmd w) fun _ =>
    hP.of_bind hrefresh fun _ =>
    hP.of_bind (hP.of_spin hrefresh oldmax 5) fun _ =>
    hP.of_bind (hP.of_getWorld r) fun w' =>
    hP.of_bind (hP.of_forM (hconf w')) fun _ =>
    Harness.of_ite (hP.of_throw _) (hP.of_pure _)

/-- `setup()` has a property `start()` and `shutdown()` have, whether its first attempt
returns or raises. -/
theorem Harness.Closed.of_setup (hP : Harness.Closed P) (hstart : ∀ r, P (TestWorld.start r))
    (hshut : P BasicTest.shutdown) (t : Nat) : P (BasicTest.setup t)
  := hP.of_bind (hP.of_getTest t) fun _ =>
    hP.of_tryCatch (hP.of_forM fun r _ => hstart r) fun _ =>
    hP.of_bind hshut fun _ => hP.of_forM fun r _ => hstart r

/-! ### The rounds of the torture test -/

theorem Harness.Closed.of_randomChoice (hP : Harness.Closed P) (hdraw : P randomDraw)
    (r : List Nat) : P (randomChoice r)
  := hP.of_bind hdraw fun _ => by
  split
  exacts [hP.of_pure _, hP.of_throw _]

theorem Harness.Closed.of_drawPcpus (hP : Harness.Closed P) (hdraw : P randomDraw) :
  ∀ (r : List Nat) (k : Nat), P (drawPcpus r k)
  | _, 0 => hP.of_pure _
  | r, k + 1 => hP.of_bind (hP.of_randomChoice hdraw r) fun c =>
    hP.of_bind (hP.of_drawPcpus hdraw (r.erase c) k) fun _ => hP.of_pure _

theorem Harness.Closed.of_randAffinity (hP : Harness.Closed P) (hdraw : P randomDraw)
    (n numvcpus : Nat) : P (randAffinity n numvcpus)
  := hP.of_bind hdraw fun _ => Harness.of_ite (hP.of_pure _)
    (hP.of_bind (hP.of_drawPcpus hdraw _ _) fun _ => hP.of_pure _)

theorem Harness.Closed.of_extendErrs (hP : Harness.Closed P) {t : Nat}
    (hset : ∀ x, P (setTest t x)) (xs : List Failure) : P (extendErrs t xs)
  := hP.of_bind (hP.of_getTest t) fun _ => by
  split
  exacts [hset _, hP.of_pure _]

/-- The body of a round has a property that rebinding the workload, recording errors,
drawing an affinity and writing it have. -/
theorem Harness.Closed.of_tortureVm (hP : Harness.Closed P) {t n : Nat} (data : SchedData)
    {r : Nat} (hset : ∀ w, P (setWorld r w)) (hext : ∀ xs, P (extendErrs t xs))
    (hrand : ∀ k, P (randAffinity n k)) (hconf : ∀ v : TestWorld, P (writeOf v.configAffinity)) :
  P (tortureVm t n data r)
  := hP.of_bind (hP.of_getWorld r) fun _ =>
    hP.of_bind (hP.of_ofExcept _) fun v =>
    hP.of_bind (hset v) fun _ =>
    hP.of_bind (hP.of_ofExcept _) fun _ => by
  refine Harness.of_ite (hP.of_bind (hext _) fun _ => ?_)
    (hP.of_bind (hP.of_pure _) fun _ => ?_) <;>
  refine hP.of_bind (hP.of_ofExcept _) fun _ => Harness.of_ite
    (hP.of_bind (hP.of_throw _) fun _ => ?_) (hP.of_bind (hP.of_pure _) fun _ => ?_) <;>
  exact hP.of_bind (hrand v.numvcpus) fun _ => hP.of_bind (hset _) fun _ => hconf _

theorem Harness.Closed.of_tortureRound (hP : Harness.Closed P) {t n : Nat} (vms : List Nat)
    (hreset : P resetStats) (hdraw : P randomDraw) (hload : P loadSched)
    (hvm : ∀ data r, P (tortureVm t n data r)) : P (tortureRound t n vms)
  := hP.of_bind hreset fun _ => hP.of_bind hdraw fun _ =>
    hP.of_bind hload fun data => hP.of_forM fun r _ => hvm data r

theorem Harness.Closed.of_tortureRun (hP : Harness.Closed P) {t n : Nat} {vms : List Nat}
    (hround : P (tortureRound t n vms)) : ∀ k, P (tortureRun t n vms k)
  | 0 => hP.of_pure _
  | k + 1 => hP.of_bind hround fun _ => hP.of_tortureRun hround k

/-! ### The steps of a test -/

theorem Harness.Closed.of_run (hP : Harness.Closed P) (t : Nat) (hreset : P resetStats)
    (htorture : ∀ n vms k, P (tortureRun t n vms k)) : P (BasicTest.run t)
  := hP.of_bind (hP.of_getTest t) fun x => by
  cases x.kind with
  | affinityTorture numreps ncpus _ => exact htorture _ _ _
  | _ => exact hreset

theorem Harness.Closed.of_readLoop (hP : Harness.Closed P) {β : Type} (sched : SchedData)
    (step : TestWorld → β → Except String β) (hset : ∀ r w, P (setWorld r w)) :
  ∀ (vms : List Nat) (acc : β), P (readLoop sched step vms acc)
  | [], acc => hP.of_pure acc
  | r :: rs, _ => hP.of_bind (hP.of_getWorld r) fun _ =>
    hP.of_bind (hP.of_ofExcept _) fun v => hP.of_bind (hset r v) fun _ =>
    hP.of_bind (hP.of_ofExcept _) fun a => hP.of_readLoop sched step hset rs a

theorem Harness.Closed.of_fairnessResults (hP : Harness.Closed P) (hload : P loadSched)
    (hset : ∀ r w, P (setWorld r w)) (vms : List Nat) (mu : ℚ) : P (fairnessResults vms mu)
  := hP.of_bind hload fun sched => hP.of_bind (hP.of_readLoop sched _ hset _ _) fun ⟨_, _⟩ => by
  refine Harness.of_ite (hP.of_bind (hP.of_throw _) fun _ => ?_)
    (hP.of_bind (hP.of_pure _) fun _ => ?_) <;>
  refine Harness.of_ite (hP.of_bind (hP.of_throw _) fun _ => ?_)
    (hP.of_bind (hP.of_pure _) fun _ => ?_) <;>
  exact hP.of_worlds (fun _ _ h => by simp only [h]) fun _ => hP.of_ofExcept _

/-- Whatever kind of test, `results()` has a property that reading a snapshot and rebinding
a workload have. -/
theorem Harness.Closed.of_results (hP : Harness.Closed P) (hload : P loadSched)
    (hset : ∀ r w, P (setWorld r w)) (runTime t : Nat) : P (BasicTest.results runTime t)
  := hP.of_bind (hP.of_getTest t) fun x => by
  cases x.kind with
  | fairness mu => exact hP.of_fairnessResults hload hset _ _
  | minMax maxErr =>
    exact hP.of_bind hload fun sched =>
      hP.of_bind (hP.of_readLoop sched _ hset _ _) fun _ => hP.of_pure _
  | perfStats =>
    exact hP.of_bind hload fun sched =>
      hP.of_bind (hP.of_readLoop sched _ hset _ _) fun _ => hP.of_ofExcept _
  | affinityTorture _ _ errs => exact hP.of_pure _

theorem Harness.Closed.of_getTestElements (hP : Harness.Closed P) (t : Nat) :
  P (BasicTest.getTestElements t)
  := hP.of_bind (hP.of_getTest t) fun _ =>
    hP.of_worlds (fun _ _ h => by simp only [h]) fun _ => hP.of_pure _

end Inherited

end SchedTest
