import SchedTest.Machine

/-!
# Starting a workload

`TestWorld.start` writes a start command to its kind's node and finds the id of the world
it created by comparing `get_max_vmid()` before and after: it polls until the observed
maximum differs from the one taken before the command, binds `vmid` to it, and then writes
the workload's `min`, `max`, affinity and hyperthreading settings under that world's
directory.

`start_exec_ok` and `start_exec_error` say what a run of `start` that returns, or raises, has
done to the machine, and `start_binds_first_change` what that gives for every machine: if
`start` returns, the id it binds is the first observation after the command that differs
from the one before, and its writes are the command followed by exactly the workload's
configuration writes to that id's directory; if it raises from its poll, the six
observations after the command all showed the old maximum.  The seventh is read and never
compared.  So when the old maximum world vanishes from a source before the new world is
visible in both, the bound id is an old world's, and when the new world shows only at the
seventh observation, `start` raises: `start_binds_vanished_or_raises_late`.
-/

namespace SchedTest

/-! ### Observing the maximum world id -/

/-- `os.path.split(x)[-1]`: what follows the last `/`. -/
def pathTail (x : String) : String :=
  ((splitBy x '/').getLast?).getD ""

/-- `max(xs)`, which raises on an empty sequence. -/
def pyMax : List Int → Except String Int
  | [] => throw "ValueError: max() arg is an empty sequence"
  | x :: xs => pure (xs.foldl max x)

/-- `max([int(os.path.split(x)[-1]) for x in g])`. -/
def maxNodeOf (g : List String) : Except String Int :=
  g.mapM (fun x => pyInt (pathTail x)) >>= pyMax

/-- `max([int(v.vm) for v in sched.vcpu_list])`. -/
def maxVMOf (sched : SchedData) : Except String Int :=
  sched.vcpuList.mapM (fun v => (v.getattr "vm").int) >>= pyMax

/-- `get_max_vmid()`: the least of the highest id listed under `/proc/vmware/vm` and the
highest world id of a vcpu row of the snapshot. -/
def getMaxVmid : Harness Int := do
  let maxNode ← Harness.ofExcept (maxNodeOf (← globVmDirs))
  let maxVM ← Harness.ofExcept (maxVMOf (← loadSched))
  pure (min maxVM maxNode)

/-- What `get_max_vmid()` returns when it reads the listing `g` and the dump `dump`. -/
def maxVmidOf (g dump : List String) : Except String Int := do
  let maxNode ← maxNodeOf g
  let maxVM ← maxVMOf (← loadData dump true)
  pure (min maxVM maxNode)

/-- The machine once its first `n` listings and dumps have been read. -/
def Sys.drop (s : Sys) (n : Nat) : Sys :=
  { s with vmDirs := s.vmDirs.drop n, cpuVerbose := s.cpuVerbose.drop n }

/-- The `i`-th `get_max_vmid()` observation from `s`, counting from `0`. -/
def Sys.observe (s : Sys) (i : Nat) : Except String Int :=
  maxVmidOf ((s.vmDirs.drop i).headD []) ((s.cpuVerbose.drop i).headD [])

/-- Workload `r` bound to world `id`. -/
def Sys.setVmid (s : Sys) (r : Nat) (id : Int) : Sys :=
  { s with worlds := Function.update s.worlds r { s.worlds r with vmid := some id } }

@[simp] theorem Sys.drop_worlds (s : Sys) (n : Nat) :
  (s.drop n).worlds = s.worlds
  := rfl

@[simp] theorem Sys.drop_writes (s : Sys) (n : Nat) :
  (s.drop n).writes = s.writes
  := rfl

@[simp] theorem Sys.setVmid_writes (s : Sys) (r : Nat) (id : Int) :
  (s.setVmid r id).writes = s.writes
  := rfl

@[simp] theorem Sys.observe_setVmid (s : Sys) (r : Nat) (id : Int) (i : Nat) :
  (s.setVmid r id).observe i = s.observe i
  := rfl

@[simp] theorem Sys.observe_writes (s : Sys) (ws : List Write) (i : Nat) :
  { s with writes := ws }.observe i = s.observe i
  := rfl

theorem Sys.setVmid_drop (s : Sys) (r : Nat) (id : Int) (n : Nat) :
  (s.setVmid r id).drop n = (s.drop n).setVmid r id
  := rfl

@[simp] theorem Sys.drop_drop (s : Sys) (m n : Nat) :
  (s.drop m).drop n = s.drop (m + n)
  := by simp [Sys.drop, Nat.add_comm]

@[simp] theorem Sys.observe_drop (s : Sys) (m i : Nat) :
  (s.drop m).observe i = s.observe (m + i)
  := by simp [Sys.observe, Sys.drop]

@[simp] theorem Sys.setVmid_worlds_self (s : Sys) (r : Nat) (id : Int) :
  (s.setVmid r id).worlds r = { s.worlds r with vmid := some id }
  := by simp [Sys.setVmid]

@[simp] theorem Sys.setVmid_setVmid (s : Sys) (r : Nat) (a b : Int) :
  (s.setVmid r a).setVmid r b = s.setVmid r b
  := by simp [Sys.setVmid]

/-- A successful `get_max_vmid()` returns the next observation and reads one listing and
one dump. -/
theorem getMaxVmid_exec_ok {s s' : Sys} {v : Int} (h : getMaxVmid.exec s = (.ok v, s')) :
  s.observe 0 = .ok v ∧ s' = s.drop 1
  := by
  simp only [getMaxVmid, Harness.exec_bind, globVmDirs_exec, Harness.exec_ofExcept,
    loadSched_exec] at h
  rcases hn : maxNodeOf (s.vmDirs.headD []) with _ | n <;> simp only [hn] at h
  · cases h
  rcases hd : loadData (s.cpuVerbose.headD []) true with _ | sched <;> simp only [hd] at h
  · cases h
  rcases hm : maxVMOf sched with _ | m <;> simp only [hm, Harness.exec_pure] at h <;> cases h
  exact ⟨by simp only [Sys.observe, maxVmidOf, List.drop_zero, hn, hd, except_ok_bind, hm,
    except_pure], by simp only [Sys.drop, List.drop_one]⟩

/-- What `get_max_vmid()` returns, or raises, is the next observation. -/
theorem getMaxVmid_exec_fst (s : Sys) : (getMaxVmid.exec s).1 = s.observe 0
  := by
  simp only [getMaxVmid, Harness.exec_bind, globVmDirs_exec, Harness.exec_ofExcept,
    loadSched_exec, Sys.observe, maxVmidOf, List.drop_zero]
  rcases maxNodeOf (s.vmDirs.headD []) with _ | n
  · rfl
  dsimp only
  rcases loadData (s.cpuVerbose.headD []) true with _ | sched
  · rfl
  simp only [except_ok_bind]
  rcases maxVMOf sched with _ | m <;> rfl

theorem getMaxVmid_exec_error {s s' : Sys} {e : String}
    (h : getMaxVmid.exec s = (.error e, s')) :
  s.observe 0 = .error e
  := by rw [← getMaxVmid_exec_fst, h]

theorem getMaxVmid_exec_of_observe {s : Sys} {v : Int} (h : s.observe 0 = .ok v) :
  getMaxVmid.exec s = (.ok v, s.drop 1)
  := by
  have h₁ : getMaxVmid.exec s = (.ok v, (getMaxVmid.exec s).2) :=
    Prod.ext (by rw [getMaxVmid_exec_fst, h]) rfl
  rw [h₁, (getMaxVmid_exec_ok h₁).2]

/-! ### `start` -/

/-- The command `start` writes to its kind's node,
`"start %d %d %d %d" % (numvcpus, shares, run, wait)`. -/
def TestWorld.startCommand (w : TestWorld) : String :=
  "start " ++ toString w.numvcpus ++ " " ++ toString w.shares ++ " " ++ toString w.run ++ " " ++
    toString w.wait

/-- The configuration writes of `start` once the world id is bound, in order: `min` unless
`0`, `max` unless `numvcpus * 100`, the affinity unless `None`, hyperthreading unless
`None`. -/
def TestWorld.configWrites (w : TestWorld) : List (Except String Write) :=
  (if w.min ≠ 0 then [w.configMin w.min] else []) ++
  (if w.max ≠ w.numvcpus * 100 then [w.configMax w.max] else []) ++
  (if w.affinity ≠ .none then [w.configAffinity] else []) ++
  (if w.htsharing.isSome then [w.configHTSharing] else [])

/-- `self.vmid = get_max_vmid()` for workload `r`. -/
def TestWorld.refreshVmid (r : Nat) : Harness Unit := do
  let id ← getMaxVmid
  setWorld r { (← getWorld r) with vmid := some id }

/-- The polling loop of `start`: while `self.vmid == oldmax`, read the maximum id again.
The loop raises after the read that takes `spincount` past 5; `left` counts the reads
before that one. -/
def TestWorld.spin (r : Nat) (oldmax : Int) : Nat → Harness Unit
  | 0 => do
    if (← getWorld r).vmid = some oldmax then
      TestWorld.refreshVmid r
      throw "Failed to create new testworld: "
  | left + 1 => do
    if (← getWorld r).vmid = some oldmax then
      TestWorld.refreshVmid r
      TestWorld.spin r oldmax left

/-- `start()` of workload `r`. -/
def TestWorld.start (r : Nat) : Harness Unit := do
  let w ← getWorld r
  if w.path = "" then throw "AssertionError: Must subclass TestWorld"
  let oldmax ← getMaxVmid
  writeFile w.path w.startCommand
  TestWorld.refreshVmid r
  TestWorld.spin r oldmax 5
  let w ← getWorld r
  w.configWrites.forM writeOf
  if w.vmid = some oldmax then throw "AssertionError: couldn't create new world"

/-- A successful `self.vmid = get_max_vmid()` binds the next observation. -/
theorem refreshVmid_exec_ok {r : Nat} {s s' : Sys}
    (h : (TestWorld.refreshVmid r).exec s = (.ok (), s')) :
  ∃ id, s.observe 0 = .ok id ∧ s' = (s.drop 1).setVmid r id
  := by
  simp only [TestWorld.refreshVmid, Harness.exec_bind] at h
  rcases hg : getMaxVmid.exec s with ⟨_ | id, s₁⟩ <;> simp only [hg] at h
  · cases h
  obtain ⟨hid, rfl⟩ := getMaxVmid_exec_ok hg
  simp only [getWorld_exec, setWorld_exec, Prod.mk.injEq] at h
  exact ⟨id, hid, h.2.symm⟩

/-- `self.vmid = get_max_vmid()` when the next observation is an id. -/
theorem refreshVmid_exec_of_observe {r : Nat} {s : Sys} {id : Int} (h : s.observe 0 = .ok id) :
  (TestWorld.refreshVmid r).exec s = (.ok (), (s.drop 1).setVmid r id)
  := by
  simp only [TestWorld.refreshVmid, Harness.exec_bind, getMaxVmid_exec_of_observe h,
    getWorld_exec, setWorld_exec]
  rfl

/-- A `self.vmid = get_max_vmid()` that raises raises what the next observation does. -/
theorem refreshVmid_exec_error {r : Nat} {s s' : Sys} {e : String}
    (h : (TestWorld.refreshVmid r).exec s = (.error e, s')) :
  s.observe 0 = .error e
  := by
  simp only [TestWorld.refreshVmid, Harness.exec_bind] at h
  rcases hg : getMaxVmid.exec s with ⟨_ | id, s₁⟩ <;> simp only [hg] at h
  · cases h
    exact getMaxVmid_exec_error hg
  · simp [getWorld_exec, setWorld_exec] at h

/-- Observations equal to `oldmax` from the second on, and the first too, make a longer
run of them. -/
private theorem observe_cons {s : Sys} {oldmax : Int} {j : Nat} (h₀ : s.observe 0 = .ok oldmax)
    (hpre : ∀ i < j, (s.drop 1).observe i = .ok oldmax) :
  ∀ i < j + 1, s.observe i = .ok oldmax
  | 0, _ => h₀
  | i + 1, hi => by simpa [Nat.add_comm] using hpre i (by omega)

/-- If the polling loop returns, either the workload was not bound to `oldmax`, and the loop
read nothing, or it was, and the loop bound it to the first observation that differs from
`oldmax`. -/
theorem spin_exec_ok {r : Nat} {oldmax : Int} {left : Nat} {s s' : Sys}
    (h : (TestWorld.spin r oldmax left).exec s = (.ok (), s')) :
  (s.worlds r).vmid ≠ some oldmax ∧ s' = s ∨
  (s.worlds r).vmid = some oldmax ∧ ∃ j id, (∀ i < j, s.observe i = .ok oldmax) ∧
    s.observe j = .ok id ∧ id ≠ oldmax ∧ s' = (s.drop (j + 1)).setVmid r id
  := by
  induction left generalizing s with
  | zero =>
    simp only [TestWorld.spin, Harness.exec_bind, getWorld_exec] at h
    by_cases hv : (s.worlds r).vmid = some oldmax <;> simp only [hv, if_true, if_false] at h
    · rcases hr : (TestWorld.refreshVmid r).exec s with ⟨_ | _, _⟩ <;> simp [hr] at h
    · simp only [Harness.exec_pure, Prod.mk.injEq] at h
      exact .inl ⟨hv, h.2.symm⟩
  | succ left ih =>
    simp only [TestWorld.spin, Harness.exec_bind, getWorld_exec] at h
    by_cases hv : (s.worlds r).vmid = some oldmax <;>
      simp only [hv, if_true, if_false, Harness.exec_bind] at h
    · refine .inr ⟨hv, ?_⟩
      rcases hr : (TestWorld.refreshVmid r).exec s with ⟨_ | _, s₁⟩ <;> simp only [hr] at h
      · cases h
      obtain ⟨id₀, hid₀, rfl⟩ := refreshVmid_exec_ok hr
      rcases ih h with ⟨hne, rfl⟩ | ⟨hv₁, j, id, hpre, hj, hne, rfl⟩
      · refine ⟨0, id₀, by simp, by simpa using hid₀, fun he => hne (by simp [he]), rfl⟩
      · have h₀ : id₀ = oldmax := by simpa using hv₁
        refine ⟨j + 1, id, observe_cons (h₀ ▸ hid₀) (by simpa using hpre),
          by simpa [Nat.add_comm] using hj, hne, ?_⟩
        simp [Sys.setVmid_drop, Nat.add_comm]
    · simp only [Harness.exec_pure, Prod.mk.injEq] at h
      exact .inl ⟨hv, h.2.symm⟩

/-- The read and the polling loop of `start` after its command: if they return, they have
read up to the first observation that differs from `oldmax` and bound the workload to it. -/
theorem refreshVmid_spin_exec_eq {r : Nat} {oldmax : Int} {left : Nat} {s s₁ s₂ : Sys}
    (h₁ : (TestWorld.refreshVmid r).exec s = (.ok (), s₁))
    (h₂ : (TestWorld.spin r oldmax left).exec s₁ = (.ok (), s₂)) :
  ∃ k id, (∀ i < k, s.observe i = .ok oldmax) ∧ s.observe k = .ok id ∧ id ≠ oldmax ∧
    s₂ = (s.drop (k + 1)).setVmid r id
  := by
  obtain ⟨id₁, hid₁, rfl⟩ := refreshVmid_exec_ok h₁
  rcases spin_exec_ok h₂ with ⟨hne, rfl⟩ | ⟨hv₁, j, id, hpre, hj, hne, rfl⟩
  · exact ⟨0, id₁, by simp, hid₁, fun he => hne (by simp [he]), rfl⟩
  · have h₀ : id₁ = oldmax := by simpa using hv₁
    refine ⟨j + 1, id, observe_cons (h₀ ▸ hid₁) (by simpa using hpre),
      by simpa [Nat.add_comm] using hj, hne, ?_⟩
    simp [Sys.setVmid_drop, Nat.add_comm]

/-- How the reads of a polling loop that starts at observation `0` and reads at most `n + 1`
ids can end in the error `e`: an observation raised, every one before it `oldmax`; or the first
`n` were all `oldmax`, the next one was read, and the loop gave up. -/
def PollFailed (s : Sys) (oldmax : Int) (n : Nat) (e : String) : Prop :=
  (∃ i ≤ n, (∀ j < i, s.observe j = .ok oldmax) ∧ s.observe i = .error e) ∨
    (∀ j < n, s.observe j = .ok oldmax) ∧ (∃ v, s.observe n = .ok v) ∧
      e = "Failed to create new testworld: "

theorem PollFailed.observe {s : Sys} {oldmax : Int} {n : Nat} {e : String}
    (h : s.observe 0 = .error e) : PollFailed s oldmax n e
  := .inl ⟨0, Nat.zero_le _, fun _ hj => absurd hj (Nat.not_lt_zero _), h⟩

/-- A failed poll after a read of `oldmax` is a failed poll one read longer. -/
theorem PollFailed.cons {s : Sys} {oldmax : Int} {n : Nat} {e : String}
    (h₀ : s.observe 0 = .ok oldmax) (h : PollFailed (s.drop 1) oldmax n e) :
  PollFailed s oldmax (n + 1) e
  := by
  rcases h with ⟨i, hi, hpre, herr⟩ | ⟨hpre, ⟨v, hlast⟩, rfl⟩
  · exact .inl ⟨i + 1, by omega, observe_cons h₀ hpre, by simpa [Nat.add_comm] using herr⟩
  · exact .inr ⟨observe_cons h₀ hpre, ⟨v, by simpa [Nat.add_comm] using hlast⟩, rfl⟩

/-- A read that leaves the workload bound to `oldmax`, followed by a failed poll. -/
theorem refreshVmid_pollFailed {r : Nat} {oldmax : Int} {n : Nat} {s s₁ : Sys} {e : String}
    (hr : (TestWorld.refreshVmid r).exec s = (.ok (), s₁)) (hv : (s₁.worlds r).vmid = some oldmax)
    (h : PollFailed s₁ oldmax n e) :
  PollFailed s oldmax (n + 1) e
  := by
  obtain ⟨id₀, hid₀, rfl⟩ := refreshVmid_exec_ok hr
  obtain rfl : id₀ = oldmax := by simpa using hv
  exact PollFailed.cons hid₀ (by simpa only [PollFailed, Sys.observe_setVmid] using h)

/-- The polling loop raises only from the workload bound to `oldmax`, and only as a failed
poll of at most `left + 1` reads. -/
theorem spin_exec_error {r : Nat} {oldmax : Int} {left : Nat} {s s' : Sys} {e : String}
    (h : (TestWorld.spin r oldmax left).exec s = (.error e, s')) :
  (s.worlds r).vmid = some oldmax ∧ PollFailed s oldmax left e
  := by
  induction left generalizing s with
  | zero =>
    simp only [TestWorld.spin, Harness.exec_bind, getWorld_exec] at h
    by_cases hv : (s.worlds r).vmid = some oldmax <;>
      simp only [hv, if_true, if_false, Harness.exec_bind] at h
    · refine ⟨hv, ?_⟩
      rcases hr : (TestWorld.refreshVmid r).exec s with ⟨_ | _, s₁⟩ <;> simp only [hr] at h
      · cases h
        exact .observe (refreshVmid_exec_error hr)
      · obtain ⟨v, hv₁, -⟩ := refreshVmid_exec_ok hr
        simp only [Harness.exec_throw, Prod.mk.injEq, Except.error.injEq] at h
        exact .inr ⟨fun _ hj => absurd hj (Nat.not_lt_zero _), ⟨v, hv₁⟩, h.1.symm⟩
    · simp at h
  | succ left ih =>
    simp only [TestWorld.spin, Harness.exec_bind, getWorld_exec] at h
    by_cases hv : (s.worlds r).vmid = some oldmax <;>
      simp only [hv, if_true, if_false, Harness.exec_bind] at h
    · refine ⟨hv, ?_⟩
      rcases hr : (TestWorld.refreshVmid r).exec s with ⟨_ | _, s₁⟩ <;> simp only [hr] at h
      · cases h
        exact .observe (refreshVmid_exec_error hr)
      · exact refreshVmid_pollFailed hr (ih h).1 (ih h).2
    · simp at h

/-- The polling loop gives up when every read it makes but the last shows `oldmax`. -/
theorem spin_exec_giveUp {r : Nat} {oldmax v : Int} {left : Nat} {s : Sys}
    (hv : (s.worlds r).vmid = some oldmax) (hpre : ∀ j < left, s.observe j = .ok oldmax)
    (hlast : s.observe left = .ok v) :
  ((TestWorld.spin r oldmax left).exec s).1 = .error "Failed to create new testworld: "
  := by
  induction left generalizing s with
  | zero =>
    simp only [TestWorld.spin, Harness.exec_bind, getWorld_exec, hv, if_true,
      refreshVmid_exec_of_observe hlast, Harness.exec_throw]
  | succ left ih =>
    simp only [TestWorld.spin, Harness.exec_bind, getWorld_exec, hv, if_true,
      refreshVmid_exec_of_observe (hpre 0 (Nat.succ_pos _))]
    exact ih (by simp) (fun j hj => by simpa [Nat.add_comm] using hpre (j + 1) (by omega))
      (by simpa [Nat.add_comm] using hlast)

/-- Writes prepared in order: if all of them are made, every one was prepared without error
and the log grows by exactly them. -/
theorem forM_writeOf_exec_ok {xs : List (Except String Write)} {s s' : Sys}
    (h : (xs.forM writeOf).exec s = (.ok (), s')) :
  ∃ ws, xs = ws.map .ok ∧ s' = { s with writes := s.writes ++ ws }
  := by
  induction xs generalizing s with
  | nil =>
    simp only [List.forM_nil', Harness.exec_pure, Prod.mk.injEq] at h
    exact ⟨[], rfl, by simp [← h.2]⟩
  | cons x xs ih =>
    cases x with
    | error e => simp [writeOf] at h
    | ok w =>
      simp only [List.forM_cons', Harness.exec_bind, writeOf, Harness.exec_ofExcept,
        writeFile_exec] at h
      obtain ⟨ws, rfl, rfl⟩ := ih h
      exact ⟨w :: ws, rfl, by simp⟩

/-- Writes prepared in order: if making them raises, one of them was prepared with that
error. -/
theorem forM_writeOf_exec_error {xs : List (Except String Write)} {s s' : Sys} {e : String}
    (h : (xs.forM writeOf).exec s = (.error e, s')) :
  .error e ∈ xs
  := by
  induction xs generalizing s with
  | nil => simp at h
  | cons x xs ih =>
    cases x with
    | error e' =>
      simp only [List.forM_cons', Harness.exec_bind, writeOf, Harness.exec_ofExcept,
        Prod.mk.injEq, Except.error.injEq] at h
      simp [h.1]
    | ok w =>
      simp only [List.forM_cons', Harness.exec_bind, writeOf, Harness.exec_ofExcept,
        writeFile_exec] at h
      exact List.mem_cons_of_mem _ (ih h)

/-- A configuration write to world `id`, as `start` and the torture rounds make them: its
`min` or `max`, an integer, to `cpu/min` or `cpu/max`; a string `configAffinity` builds for
an affinity, to `cpu/affinity`; or a hyperthreading mode, to `cpu/hyperthreading`. -/
inductive ConfigWrite (id : Int) : Write → Prop
  | min (v : Int) : ConfigWrite id ⟨vmDir id ++ "cpu/min", toString v⟩
  | max (v : Int) : ConfigWrite id ⟨vmDir id ++ "cpu/max", toString v⟩
  | affinity {a : Affinity} {n : Nat} {data : String} (h : affinityString a n = .ok data) :
      ConfigWrite id ⟨vmDir id ++ "cpu/affinity", data⟩
  | hyperthreading (mode : String) : ConfigWrite id ⟨vmDir id ++ "cpu/hyperthreading", mode⟩

theorem ConfigWrite.path {id : Int} {wr : Write} (h : ConfigWrite id wr) :
  ∃ file, wr.path = vmDir id ++ file
  := by cases h <;> exact ⟨_, rfl⟩

/-- The affinity write of a workload bound to world `id` is a configuration write to it. -/
theorem configAffinity_config {w : TestWorld} {id : Int} (hid : w.vmid = some id) {wr : Write}
    (h : w.configAffinity = .ok wr) :
  ConfigWrite id wr
  := by
  rw [configAffinity_eq hid] at h
  cases ha : affinityString w.affinity w.numvcpus <;> simp only [ha, Except.map] at h
  · cases h
  · cases h
    exact .affinity ha

/-- Every configuration write of a workload bound to world `id` is a configuration write to
that world. -/
theorem configWrites_config {w : TestWorld} {id : Int} (hid : w.vmid = some id) {wr : Write}
    (h : .ok wr ∈ w.configWrites) :
  ConfigWrite id wr
  := by
  have hdir : w.getVMDir = .ok (vmDir id) := by simp [TestWorld.getVMDir, hid, vmidAttr]
  simp only [TestWorld.configWrites, List.mem_append] at h
  rcases h with ((h | h) | h) | h <;> split at h <;>
    simp only [List.mem_singleton, List.not_mem_nil] at h
  · simp only [TestWorld.configMin, hdir, except_ok_bind, except_pure, Except.ok.injEq] at h
    exact h ▸ .min _
  · simp only [TestWorld.configMax, hdir, except_ok_bind, except_pure, Except.ok.injEq] at h
    exact h ▸ .max _
  · exact configAffinity_config hid h.symm
  · simp only [TestWorld.configHTSharing, hdir, except_ok_bind] at h
    split at h
    · simp only [except_pure, Except.ok.injEq] at h
      exact h ▸ .hyperthreading _
    · cases h

/-- What a run of `start` that returns has done: read the observation `oldmax` before its
command, then observations up to the first that differs from it, `id`; bound the workload
to `id`; and written the start command followed by configuration writes under that world's
directory. -/
theorem start_exec_ok {r : Nat} {s s' : Sys} (h : (TestWorld.start r).exec s = (.ok (), s')) :
  ∃ oldmax k id ws, s.observe 0 = .ok oldmax ∧ (∀ i < k, s.observe (i + 1) = .ok oldmax) ∧
    s.observe (k + 1) = .ok id ∧ id ≠ oldmax ∧
    { s.worlds r with vmid := some id }.configWrites = ws.map .ok ∧
    s' = { (s.drop (k + 2)).setVmid r id with
      writes := s.writes ++ ⟨(s.worlds r).path, (s.worlds r).startCommand⟩ :: ws }
  := by
  rw [TestWorld.start, Harness.exec_bind_of_ok (getWorld_exec r s)] at h
  dsimp only at h
  split at h
  · rw [Harness.exec_bind, Harness.exec_throw] at h
    cases h
  rw [pure_bind] at h
  obtain ⟨oldmax, s₂, hmax, h⟩ := Harness.exec_bind_ok h
  obtain ⟨hold, rfl⟩ := getMaxVmid_exec_ok hmax
  rw [Harness.exec_bind_of_ok (writeFile_exec _ _ _)] at h
  obtain ⟨_, s₃, hr, h⟩ := Harness.exec_bind_ok h
  obtain ⟨_, s₄, hs, h⟩ := Harness.exec_bind_ok h
  obtain ⟨k, id, hpre, hk, hne, rfl⟩ := refreshVmid_spin_exec_eq hr hs
  rw [Harness.exec_bind_of_ok (getWorld_exec r _)] at h
  obtain ⟨_, s₅, hf, h⟩ := Harness.exec_bind_ok h
  obtain ⟨ws, hws, rfl⟩ := forM_writeOf_exec_ok hf
  rw [if_neg (by simpa using hne), Harness.exec_pure] at h
  cases h
  refine ⟨oldmax, k, id, ws, hold, fun i hi => ?_, ?_, hne, by simpa using hws, ?_⟩
  · simpa [Sys.observe, Sys.drop, Nat.add_comm] using hpre i hi
  · simpa [Sys.observe, Sys.drop, Nat.add_comm] using hk
  · simp [Sys.setVmid, Sys.drop, show 1 + (k + 1) = k + 2 by omega]

/-- What a run of `start` that raises has hit: the workload has no node, the observation
before the command raised, the poll after it failed, or a configuration write of the bound
workload did. -/
theorem start_exec_error {r : Nat} {s s' : Sys} {e : String}
    (h : (TestWorld.start r).exec s = (.error e, s')) :
  (s.worlds r).path = "" ∧ e = "AssertionError: Must subclass TestWorld" ∨
    s.observe 0 = .error e ∨
    (∃ oldmax, s.observe 0 = .ok oldmax ∧ PollFailed (s.drop 1) oldmax 6 e) ∨
    ∃ id, .error e ∈ { s.worlds r with vmid := some id }.configWrites
  := by
  rw [TestWorld.start, Harness.exec_bind_of_ok (getWorld_exec r s)] at h
  dsimp only at h
  split at h
  · rw [Harness.exec_bind, Harness.exec_throw] at h
    cases h
    exact .inl ⟨by assumption, rfl⟩
  rw [pure_bind] at h
  rcases Harness.exec_bind_error h with hmax | ⟨oldmax, s₂, hmax, h⟩
  · exact .inr (.inl (getMaxVmid_exec_error hmax))
  obtain ⟨hold, rfl⟩ := getMaxVmid_exec_ok hmax
  rw [Harness.exec_bind_of_ok (writeFile_exec _ _ _)] at h
  rcases Harness.exec_bind_error h with hr | ⟨_, s₃, hr, h⟩
  · exact .inr (.inr (.inl ⟨oldmax, hold, .observe (refreshVmid_exec_error hr :)⟩))
  rcases Harness.exec_bind_error h with hs | ⟨_, s₄, hs, h⟩
  · exact .inr (.inr (.inl ⟨oldmax, hold,
      (refreshVmid_pollFailed hr (spin_exec_error hs).1 (spin_exec_error hs).2 :)⟩))
  obtain ⟨k, id, -, -, hne, rfl⟩ := refreshVmid_spin_exec_eq hr hs
  rw [Harness.exec_bind_of_ok (getWorld_exec r _)] at h
  rcases Harness.exec_bind_error h with hf | ⟨_, s₅, -, h⟩
  · exact .inr (.inr (.inr ⟨id, by simpa using forM_writeOf_exec_error hf⟩))
  rw [if_neg (by simpa using hne), Harness.exec_pure] at h
  cases h

/-- The read and the polling loop of `start` after its command give up when every read but the
last shows `oldmax`. -/
theorem refreshVmid_spin_giveUp {r : Nat} {oldmax v : Int} {left : Nat} {s : Sys} {β : Type}
    {f : Unit → Harness β} (hpre : ∀ j ≤ left, s.observe j = .ok oldmax)
    (hlast : s.observe (left + 1) = .ok v) :
  ((TestWorld.refreshVmid r >>= fun _ => TestWorld.spin r oldmax left >>= f).exec s).1
    = .error "Failed to create new testworld: "
  := by
  have hspin : ((TestWorld.spin r oldmax left).exec ((s.drop 1).setVmid r oldmax)).1
      = .error "Failed to create new testworld: " :=
    spin_exec_giveUp (by rw [Sys.setVmid_worlds_self])
      (fun j hj => by simpa [Nat.add_comm] using hpre (j + 1) hj)
      (by simpa [Nat.add_comm] using hlast)
  rw [Harness.exec_bind_of_ok (refreshVmid_exec_of_observe (hpre 0 (Nat.zero_le _))),
    Harness.exec_bind, Harness.exec_eq_of_error hspin]

/-- `start` gives up when the six observations after its command all equal the one before
it, whatever the seventh shows. -/
theorem start_exec_giveUp {r : Nat} {oldmax v : Int} {s : Sys} (hp : (s.worlds r).path ≠ "")
    (hold : s.observe 0 = .ok oldmax) (hpre : ∀ i, 0 < i → i ≤ 6 → s.observe i = .ok oldmax)
    (hlast : s.observe 7 = .ok v) :
  ((TestWorld.start r).exec s).1 = .error "Failed to create new testworld: "
  := by
  rw [TestWorld.start, Harness.exec_bind_of_ok (getWorld_exec r s)]
  dsimp only
  rw [if_neg hp, pure_bind, Harness.exec_bind_of_ok (getMaxVmid_exec_of_observe hold),
    Harness.exec_bind_of_ok (writeFile_exec _ _ _)]
  exact refreshVmid_spin_giveUp
    (fun j hj => by simpa [Sys.observe, Sys.drop, Nat.add_comm] using hpre (j + 1) (by omega) (by omega))
    (by simpa [Sys.observe, Sys.drop] using hlast)

/-- If `start` returns, it has bound the workload to the first observation after its start
command that differs from the one before it, and its writes are the start command followed
by exactly the configuration writes of the workload bound to that world.  If it raises, the
workload has no node, or an observation raised, the ones after the command before it all
equal to the one before, or a configuration write of the bound workload raised, or the poll
gave up: observations 1 to 6 all equal the one before the command, and the seventh was read
and never compared. -/
theorem start_binds_first_change (r : Nat) (s : Sys) :
  (∀ s', (TestWorld.start r).exec s = (.ok (), s') →
    ∃ oldmax k id ws, s.observe 0 = .ok oldmax ∧ 0 < k ∧
      (∀ i, 0 < i → i < k → s.observe i = .ok oldmax) ∧ s.observe k = .ok id ∧ id ≠ oldmax ∧
      (s'.worlds r).vmid = some id ∧
      { s.worlds r with vmid := some id }.configWrites = ws.map .ok ∧
      (∀ w ∈ ws, ConfigWrite id w) ∧
      s'.writes = s.writes ++ ⟨(s.worlds r).path, (s.worlds r).startCommand⟩ :: ws) ∧
  ∀ e s', (TestWorld.start r).exec s = (.error e, s') →
    (s.worlds r).path = "" ∧ e = "AssertionError: Must subclass TestWorld" ∨
    s.observe 0 = .error e ∨
    (∃ oldmax i, s.observe 0 = .ok oldmax ∧ 0 < i ∧ i ≤ 7 ∧
      (∀ j, 0 < j → j < i → s.observe j = .ok oldmax) ∧ s.observe i = .error e) ∨
    (∃ oldmax, s.observe 0 = .ok oldmax ∧ (∀ i, 0 < i → i ≤ 6 → s.observe i = .ok oldmax) ∧
      (∃ v, s.observe 7 = .ok v) ∧ e = "Failed to create new testworld: ") ∨
    ∃ id, .error e ∈ { s.worlds r with vmid := some id }.configWrites
  := by
  constructor
  · intro s' h
    obtain ⟨oldmax, k, id, ws, hold, hpre, hk, hne, hws, rfl⟩ := start_exec_ok h
    refine ⟨oldmax, k + 1, id, ws, hold, by omega, fun i hi hik => ?_, hk, hne, by simp, hws,
      fun w hw => configWrites_config rfl (hws ▸ List.mem_map_of_mem _ hw), rfl⟩
    obtain ⟨j, rfl⟩ : ∃ j, i = j + 1 := ⟨i - 1, by omega⟩
    exact hpre j (by omega)
  · intro e s' h
    rcases start_exec_error h with hp | h₀ | ⟨oldmax, hold, hpoll⟩ | hc
    · exact .inl hp
    · exact .inr (.inl h₀)
    · rcases hpoll.cons hold with ⟨i, hi, hpre, herr⟩ | ⟨hpre, hlast, rfl⟩
      · have hi₀ : i ≠ 0 := by
          rintro rfl
          rw [hold] at herr
          cases herr
        exact .inr (.inr (.inl ⟨oldmax, i, hold, Nat.pos_of_ne_zero hi₀, hi,
          fun j _ hj => hpre j hj, herr⟩))
      · exact .inr (.inr (.inr (.inl ⟨oldmax, hold, fun i _ hi => hpre i (by omega), hlast, rfl⟩)))
    · exact .inr (.inr (.inr (.inr hc)))

/-! ### Interleavings with the new world's appearance -/

/-- Modelled from the spec: what one `get_max_vmid()` call sees, the ids with a directory
under `/proc/vmware/vm` and the world ids of the snapshot's vcpu rows. -/
structure Sighting where
  dirs : List Nat
  rows : List Nat

/-- Modelled from the spec: one source's successive listings, the first taken before the
start command, as they may be when the command creates world `new` among the existing
worlds `old`: only those are listed, `new` not at first; an old world the source has
stopped listing never comes back; and `new`, once listed, stays. -/
def legalSource (old : List Nat) (new : Nat) (xs : List (List Nat)) : Bool :=
  xs.all (·.all fun i => i ∈ old || i = new) &&
  xs.head?.all (fun x => new ∉ x) &&
  (xs.zip xs.tail).all fun (a, b) => b.all (fun i => i = new || i ∈ a) && (new ∉ a || new ∈ b)

/-- Modelled from the spec: the sightings `ss` interleave the observations of `start` with
the appearance of world `new`, whose id exceeds every existing one, and the disappearance of
existing worlds `old`, in each source on its own. -/
def Interleaving (old : List Nat) (new : Nat) (ss : List Sighting) : Bool :=
  old.all (· < new) && legalSource old new (ss.map (·.dirs)) &&
    legalSource old new (ss.map (·.rows))

/-- The listing of `/proc/vmware/vm/*` with a directory for each world of `ids`. -/
def vmListing (ids : List Nat) : List String :=
  ids.map fun i => "/proc/vmware/vm/" ++ toString i

/-- A verbose dump with one vcpu row, the leader's, for each world of `ids`. -/
def rowsDump (ids : List Nat) : List String :=
  ["cpus", "1", "", "cell", "", "cpu", "0", "", "vm vcpu"] ++
    ids.map fun i => toString i ++ " " ++ toString i

/-- The machine whose successive `get_max_vmid()` calls see `ss`, every workload being `w`. -/
def sightingSys (w : TestWorld) (ss : List Sighting) : Sys where
  worlds := fun _ => w
  tests := fun _ => BasicTest.init [] 1 "" .perfStats
  vmDirs := ss.map (vmListing ·.dirs)
  cpuVerbose := ss.map (rowsDump ·.rows)
  random := []
  writes := []
  out := []

/-- A single-vcpu basic workload with a `min` of 10. -/
def minWorld : TestWorld :=
  BasicWorld 10 0 1000 1 10

/-- Worlds 1 and 5 exist; world 6 appears in both sources at the third observation. -/
def appearing : List Sighting :=
  [⟨[1, 5], [1, 5]⟩, ⟨[1, 5], [1, 5]⟩, ⟨[1, 5, 6], [1, 5, 6]⟩]

/-- Worlds 1 and 5 exist; world 6 appears in both sources at the seventh observation after
the command, the last that `start` reads. -/
def lateAppearing : List Sighting :=
  List.replicate 7 ⟨[1, 5], [1, 5]⟩ ++ [⟨[1, 5, 6], [1, 5, 6]⟩]

theorem lateAppearing_observe_old :
  ∀ i < 7, (sightingSys minWorld lateAppearing).observe i = .ok 5
  | 0, _ | 1, _ | 2, _ | 3, _ | 4, _ | 5, _ | 6, _ => rfl
  | _ + 7, h => absurd h (by omega)

/-- On the first interleaving `start` returns, on the second it gives up. -/
theorem start_binds_first_change_appearing :
  (∃ s', (TestWorld.start 0).exec (sightingSys minWorld appearing) = (.ok (), s') ∧
    ∃ oldmax k id ws, (sightingSys minWorld appearing).observe 0 = .ok oldmax ∧ 0 < k ∧
      (∀ i, 0 < i → i < k → (sightingSys minWorld appearing).observe i = .ok oldmax) ∧
      (sightingSys minWorld appearing).observe k = .ok id ∧ id ≠ oldmax ∧
      (s'.worlds 0).vmid = some id ∧
      { minWorld with vmid := some id }.configWrites = ws.map .ok ∧
      (∀ w ∈ ws, ConfigWrite id w) ∧
      s'.writes = [] ++ ⟨minWorld.path, minWorld.startCommand⟩ :: ws) ∧
  ∃ s', (TestWorld.start 0).exec (sightingSys minWorld lateAppearing)
      = (.error "Failed to create new testworld: ", s') ∧
    let s := sightingSys minWorld lateAppearing
    let e := "Failed to create new testworld: "
    (minWorld.path = "" ∧ e = "AssertionError: Must subclass TestWorld" ∨
      s.observe 0 = .error e ∨
      (∃ oldmax i, s.observe 0 = .ok oldmax ∧ 0 < i ∧ i ≤ 7 ∧
        (∀ j, 0 < j → j < i → s.observe j = .ok oldmax) ∧ s.observe i = .error e) ∨
      (∃ oldmax, s.observe 0 = .ok oldmax ∧ (∀ i, 0 < i → i ≤ 6 → s.observe i = .ok oldmax) ∧
        (∃ v, s.observe 7 = .ok v) ∧ e = "Failed to create new testworld: ") ∨
      ∃ id, .error e ∈ { minWorld with vmid := some id }.configWrites)
  :=
  have h := Harness.exec_eq_of_ok (x := TestWorld.start 0) (s := sightingSys minWorld appearing)
    (by with_unfolding_all rfl)
  have h' := Harness.exec_eq_of_error (start_exec_giveUp (r := 0)
    (s := sightingSys minWorld lateAppearing) (v := 6) (by decide)
    (lateAppearing_observe_old 0 (by omega)) (fun i _ hi => lateAppearing_observe_old i (by omega))
    rfl)
  ⟨⟨_, h, (start_binds_first_change 0 _).1 _ h⟩,
    ⟨_, h', (start_binds_first_change 0 _).2 _ _ h'⟩⟩

/-- Worlds 1 and 5 exist; world 5 vanishes from both sources before world 6, which the
command creates, is visible in either. -/
def vanishing : List Sighting :=
  [⟨[1, 5], [1, 5]⟩, ⟨[1], [1]⟩]

/-- On the first interleaving `start` returns with the workload bound to world 1, and writes
the workload's `min` to world 1.  On the second the new world is visible in both sources at
the seventh observation after the command, which `start` reads, and `start` raises. -/
theorem start_binds_vanished_or_raises_late :
  (Interleaving [1, 5] 6 vanishing = true ∧
    (fun x : Except String Unit × Sys => (x.1.toOption, (x.2.worlds 0).vmid, x.2.writes))
        ((TestWorld.start 0).exec (sightingSys minWorld vanishing))
      = (some (), some 1,
        [⟨BasicWorld.path, "start 1 1000 10 0"⟩, ⟨"/proc/vmware/vm/1/cpu/min", "10"⟩])) ∧
  Interleaving [1, 5] 6 lateAppearing = true ∧
    (sightingSys minWorld lateAppearing).observe 7 = .ok 6 ∧
    ((TestWorld.start 0).exec (sightingSys minWorld lateAppearing)).1
      = .error "Failed to create new testworld: "
  := ⟨⟨by decide, rfl⟩, by decide, rfl,
    start_exec_giveUp (v := 6) (by decide) rfl (fun i _ hi => lateAppearing_observe_old i (by omega))
      rfl⟩

end SchedTest
