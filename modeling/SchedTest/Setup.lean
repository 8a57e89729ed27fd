import SchedTest.Runner

/-!
# Binding a test's workloads to new worlds

`BasicTest.__init__` repeats the workload list `TEST_SIZE_FACTOR` times, and `setup` starts
the entries in turn.  Each `start` compares `get_max_vmid()` before and after its command,
so what it binds depends on how the two sources that call reads, the listing of
`/proc/vmware/vm` and the vcpu rows of the snapshot, move meanwhile.

`Sys.Growing` says that neither source ever shows a highest id below one it showed before:
no world vanishes from the top.  Then each observation is at least every earlier one, so
each `start` binds an id above every id bound before it (`start_exec_fresh`), and
`setup_binds_new_worlds` follows: whether the first attempt returned or raised, distinct
workloads of the test end up bound to distinct ids, all above the maximum observed before
`setup`.  When the highest world vanishes first, a workload is bound to an old world:
`setup_binds_vanished_world`.

Any run of harness code, whether it returns or raises, only reads the proc streams on
(`Harness.ReadsOn`); that is what carries the invariant over a failed first attempt.
-/

namespace SchedTest

/-! ### Reading the proc streams on -/

/-- Each proc stream of `s'` is what is left of the one of `s` after some reads. -/
def Sys.Suffix (s s' : Sys) : Prop :=
  s'.vmDirs <:+ s.vmDirs ∧ s'.cpuVerbose <:+ s.cpuVerbose

theorem Sys.Suffix.refl (s : Sys) : s.Suffix s
  := ⟨List.suffix_refl _, List.suffix_refl _⟩

theorem Sys.Suffix.trans {s₁ s₂ s₃ : Sys} (h₁ : s₁.Suffix s₂) (h₂ : s₂.Suffix s₃) :
  s₁.Suffix s₃
  := ⟨h₂.1.trans h₁.1, h₂.2.trans h₁.2⟩

theorem Sys.suffix_drop (s : Sys) (n : Nat) : s.Suffix (s.drop n)
  := ⟨List.drop_suffix n _, List.drop_suffix n _⟩

/-- Harness code that, on every run, whether it returns or raises, only reads the proc
streams on. -/
def Harness.ReadsOn {α : Type} (x : Harness α) : Prop :=
  ∀ s : Sys, s.Suffix (x.exec s).2

theorem Harness.readsOn_pure {α : Type} (a : α) : (pure a : Harness α).ReadsOn
  := fun s => Sys.Suffix.refl s

theorem Harness.readsOn_throw {α : Type} (e : String) : (throw e : Harness α).ReadsOn
  := fun s => Sys.Suffix.refl s

theorem Harness.readsOn_ofExcept {α : Type} (x : Except String α) : (Harness.ofExcept x).ReadsOn
  := fun s => by simpa using Sys.Suffix.refl s

theorem Harness.readsOn_getWorld (r : Nat) : (getWorld r).ReadsOn
  := fun s => Sys.Suffix.refl s

theorem Harness.readsOn_setWorld (r : Nat) (w : TestWorld) : (setWorld r w).ReadsOn
  := fun s => Sys.Suffix.refl s

theorem Harness.readsOn_writeFile (path data : String) : (writeFile path data).ReadsOn
  := fun s => Sys.Suffix.refl s

theorem Harness.readsOn_globVmDirs : globVmDirs.ReadsOn
  := fun _ => ⟨List.tail_suffix _, List.suffix_refl _⟩

theorem Harness.readsOn_loadSched : loadSched.ReadsOn
  := fun s => by
  rw [loadSched_exec]
  exact ⟨List.suffix_refl _, List.tail_suffix _⟩

/-- Code that only reads on, followed by code that only reads on whatever the first
returned, only reads on. -/
theorem Harness.readsOn_bind {α β : Type} {x : Harness α} {f : α → Harness β}
    (hx : x.ReadsOn) (hf : ∀ a, (f a).ReadsOn) : (x >>= f).ReadsOn
  := fun s => by
  have h₁ := hx s
  rw [Harness.exec_bind]
  rcases hxs : x.exec s with ⟨_ | a, s₁⟩ <;> rw [hxs] at h₁
  · exact h₁
  · exact h₁.trans (hf a s₁)

theorem Harness.readsOn_ite {α : Type} {c : Prop} [Decidable c] {x y : Harness α}
    (hx : x.ReadsOn) (hy : y.ReadsOn) : (if c then x else y).ReadsOn
  := by split <;> assumption

theorem Harness.readsOn_forM {α : Type} {f : α → Harness Unit} (hf : ∀ a, (f a).ReadsOn) :
  ∀ l : List α, (l.forM f).ReadsOn
  | [] => Harness.readsOn_pure ()
  | a :: l => Harness.readsOn_bind (hf a) fun _ => Harness.readsOn_forM hf l

theorem readsOn_getMaxVmid : getMaxVmid.ReadsOn
  := Harness.readsOn_bind Harness.readsOn_globVmDirs fun _ =>
    Harness.readsOn_bind (Harness.readsOn_ofExcept _) fun _ =>
    Harness.readsOn_bind Harness.readsOn_loadSched fun _ =>
    Harness.readsOn_bind (Harness.readsOn_ofExcept _) fun _ => Harness.readsOn_pure _

theorem readsOn_refreshVmid (r : Nat) : (TestWorld.refreshVmid r).ReadsOn
  := Harness.readsOn_bind readsOn_getMaxVmid fun _ =>
    Harness.readsOn_bind (Harness.readsOn_getWorld r) fun _ => Harness.readsOn_setWorld _ _

theorem readsOn_spin (r : Nat) (oldmax : Int) :
  ∀ left, (TestWorld.spin r oldmax left).ReadsOn
  | 0 => Harness.readsOn_bind (Harness.readsOn_getWorld r) fun _ => Harness.readsOn_ite
    (Harness.readsOn_bind (readsOn_refreshVmid r) fun _ => Harness.readsOn_throw _)
    (Harness.readsOn_pure _)
  | left + 1 => Harness.readsOn_bind (Harness.readsOn_getWorld r) fun _ => Harness.readsOn_ite
    (Harness.readsOn_bind (readsOn_refreshVmid r) fun _ => readsOn_spin r oldmax left)
    (Harness.readsOn_pure _)

theorem readsOn_writeOf (x : Except String Write) : (writeOf x).ReadsOn
  := Harness.readsOn_bind (Harness.readsOn_ofExcept x) fun _ => Harness.readsOn_writeFile _ _

/-- Whether it returns or raises, `start` only reads the proc streams on. -/
theorem readsOn_start (r : Nat) : (TestWorld.start r).ReadsOn
  := Harness.readsOn_bind (Harness.readsOn_getWorld r) fun _ => by
  refine Harness.readsOn_ite (Harness.readsOn_bind (Harness.readsOn_throw _) fun _ => ?_)
    (Harness.readsOn_bind (Harness.readsOn_pure _) fun _ => ?_) <;>
  exact Harness.readsOn_bind readsOn_getMaxVmid fun oldmax =>
    Harness.readsOn_bind (Harness.readsOn_writeFile _ _) fun _ =>
    Harness.readsOn_bind (readsOn_refreshVmid r) fun _ =>
    Harness.readsOn_bind (readsOn_spin r oldmax 5) fun _ =>
    Harness.readsOn_bind (Harness.readsOn_getWorld r) fun _ =>
    Harness.readsOn_bind (Harness.readsOn_forM readsOn_writeOf _) fun _ =>
    Harness.readsOn_ite (Harness.readsOn_throw _) (Harness.readsOn_pure _)

/-! ### The highest ids the two sources show -/

/-- The highest ids of the listings of `/proc/vmware/vm` still to be read, in order, leaving
out the listings `get_max_vmid()` raises on. -/
def Sys.nodeMaxima (s : Sys) : List Int :=
  s.vmDirs.filterMap fun g => (maxNodeOf g).toOption

/-- The highest world ids of the vcpu rows of the snapshots still to be read, in order,
leaving out the snapshots `get_max_vmid()` raises on. -/
def Sys.vmMaxima (s : Sys) : List Int :=
  s.cpuVerbose.filterMap fun d => (loadData d true >>= maxVMOf).toOption

/-- Neither source shows a highest id below one it showed before: no world vanishes from
the top of a listing or of a snapshot while the harness reads them. -/
def Sys.Growing (s : Sys) : Prop :=
  s.nodeMaxima.Pairwise (· ≤ ·) ∧ s.vmMaxima.Pairwise (· ≤ ·)

instance (s : Sys) : Decidable s.Growing :=
  inferInstanceAs (Decidable (_ ∧ _))

/-- Every highest id either source has still to show is at least `lo`. -/
def Sys.Above (s : Sys) (lo : Int) : Prop :=
  (∀ a ∈ s.nodeMaxima, lo ≤ a) ∧ ∀ b ∈ s.vmMaxima, lo ≤ b

/-- The lower of the next highest ids of the two sources. -/
def Sys.low (s : Sys) : Int :=
  min (s.nodeMaxima.headD 0) (s.vmMaxima.headD 0)

theorem Sys.Growing.suffix {s s' : Sys} (hg : s.Growing) (h : s.Suffix s') : s'.Growing
  := ⟨hg.1.sublist (h.1.filterMap _).sublist, hg.2.sublist (h.2.filterMap _).sublist⟩

theorem Sys.Above.suffix {s s' : Sys} {lo : Int} (ha : s.Above lo) (h : s.Suffix s') :
  s'.Above lo
  := ⟨fun a h' => ha.1 a ((h.1.filterMap _).sublist.subset h'),
    fun b h' => ha.2 b ((h.2.filterMap _).sublist.subset h')⟩

/-- The maxima of a stream whose next element has maximum `a`, when the default element
read from a spent stream has none. -/
private theorem filterMap_eq_cons_of_headD {α : Type} {l : List α} {d : α}
    {f : α → Option Int} {a : Int} (hd : f d = none) (h : f (l.headD d) = some a) :
  l.filterMap f = a :: (l.drop 1).filterMap f
  := by
  cases l with
  | nil => simp [hd] at h
  | cons x l =>
    rw [List.headD_cons] at h
    simp [h]

/-- An observation that returns has read the highest id `a` of the next listing and `b` of
the next snapshot, and returns `min b a`. -/
theorem Sys.observe_zero_ok {s : Sys} {v : Int} (h : s.observe 0 = .ok v) :
  ∃ a b, s.nodeMaxima = a :: (s.drop 1).nodeMaxima ∧ s.vmMaxima = b :: (s.drop 1).vmMaxima ∧
    v = min b a
  := by
  simp only [Sys.observe, List.drop_zero, maxVmidOf] at h
  rcases hn : maxNodeOf (s.vmDirs.headD []) with _ | a <;>
    simp only [hn, except_error_bind, except_ok_bind] at h
  · cases h
  rcases hl : loadData (s.cpuVerbose.headD []) true with _ | sched <;>
    simp only [hl, except_error_bind, except_ok_bind] at h
  · cases h
  rcases hm : maxVMOf sched with _ | b <;>
    simp only [hm, except_error_bind, except_ok_bind, except_pure, Except.ok.injEq] at h
  · cases h
  -- a spent stream reads as an empty listing or dump, which has no maximum
  exact ⟨a, b, filterMap_eq_cons_of_headD (d := []) rfl (by simp only [hn]; rfl),
    filterMap_eq_cons_of_headD (d := []) rfl (by simp only [hl, hm, except_ok_bind]; rfl),
    h.symm⟩

/-- From sources that stay at least `lo`, an observation returns at least `lo`. -/
theorem Sys.Above.le_observe {s : Sys} {lo v : Int} (ha : s.Above lo)
    (h : s.observe 0 = .ok v) : lo ≤ v
  := by
  obtain ⟨a, b, hn, hv, rfl⟩ := Sys.observe_zero_ok h
  exact le_min (ha.2 b (by simp [hv])) (ha.1 a (by simp [hn]))

/-- An observation that returns returns the lower of the two sources' next highest ids. -/
theorem Sys.observe_zero_eq_low {s : Sys} {v : Int} (h : s.observe 0 = .ok v) : v = s.low
  := by
  obtain ⟨a, b, hn, hv, rfl⟩ := Sys.observe_zero_ok h
  simp [Sys.low, hn, hv, min_comm]

private theorem headD_le_of_pairwise {l : List Int} (h : l.Pairwise (· ≤ ·)) {x : Int}
    (hx : x ∈ l) : l.headD 0 ≤ x
  := by
  cases l with
  | nil => cases hx
  | cons a l =>
    rcases List.mem_cons.1 hx with rfl | hx
    · exact le_rfl
    · exact List.rel_of_pairwise_cons h hx

/-- Under `Growing`, each source's next highest id is its least, so both sources stay at
least the lower of the two. -/
theorem Sys.Growing.above_low {s : Sys} (hg : s.Growing) : s.Above s.low
  := ⟨fun _ ha => (min_le_left _ _).trans (headD_le_of_pairwise hg.1 ha),
    fun _ hb => (min_le_right _ _).trans (headD_le_of_pairwise hg.2 hb)⟩

theorem Sys.Growing.above_observe {s : Sys} {v : Int} (hg : s.Growing)
    (h : s.observe 0 = .ok v) : s.Above v
  := Sys.observe_zero_eq_low h ▸ hg.above_low

theorem Sys.suffix_drop_drop (s : Sys) {m n : Nat} (h : m ≤ n) : (s.drop m).Suffix (s.drop n)
  := ⟨List.drop_suffix_drop_left _ h, List.drop_suffix_drop_left _ h⟩

/-! ### One `start` and the loop of `setup` -/

/-- Under `Growing`, a `start` that returns from sources that stay at least `hw` binds its
workload to an id above `hw`, changes no other workload, and leaves sources that still grow
and stay at least that id. -/
theorem start_exec_fresh {r : Nat} {hw : Int} {s s' : Sys} (hg : s.Growing) (ha : s.Above hw)
    (h : (TestWorld.start r).exec s = (.ok (), s')) :
  ∃ id, hw < id ∧ s'.worlds = Function.update s.worlds r { s.worlds r with vmid := some id } ∧
    s'.Growing ∧ s'.Above id
  := by
  obtain ⟨oldmax, k, id, ws, hold, -, hk, hne, -, rfl⟩ := start_exec_ok h
  have hk' : (s.drop (k + 1)).observe 0 = .ok id := by rw [Sys.observe_drop]; exact hk
  have hgk : (s.drop (k + 1)).Growing := hg.suffix (s.suffix_drop _)
  have hle : oldmax ≤ id := ((hg.above_observe hold).suffix (s.suffix_drop _)).le_observe hk'
  exact ⟨id, lt_of_le_of_lt (ha.le_observe hold) (lt_of_le_of_ne hle (Ne.symm hne)), rfl,
    hg.suffix (s.suffix_drop (k + 2)),
    (hgk.above_observe hk').suffix (s.suffix_drop_drop (Nat.le_succ _))⟩

/-- What holds once `setup`'s loop has started the workloads `done` from sources that stayed
at least `lo`: the sources still grow and stay at least `hw`, each workload of `done` is
bound to an id above `lo` and at most `hw`, and distinct workloads of `done` to distinct
ids. -/
structure Sys.Fresh (s : Sys) (lo hw : Int) (done : List Nat) : Prop where
  growing : s.Growing
  above : s.Above hw
  floor : lo ≤ hw
  bound : ∀ r ∈ done, ∃ id, (s.worlds r).vmid = some id ∧ lo < id ∧ id ≤ hw
  distinct : ∀ r ∈ done, ∀ r' ∈ done, r ≠ r' → (s.worlds r).vmid ≠ (s.worlds r').vmid

theorem Sys.Fresh.init {s : Sys} {lo : Int} (hg : s.Growing) (ha : s.Above lo) :
  s.Fresh lo lo []
  := ⟨hg, ha, le_rfl, by simp, by simp⟩

/-- One `start` that returns keeps the invariant, with the workload it started added. -/
theorem Sys.Fresh.start {s s' : Sys} {lo hw : Int} {done : List Nat} {r : Nat}
    (hf : s.Fresh lo hw done) (h : (TestWorld.start r).exec s = (.ok (), s')) :
  ∃ hw', s'.Fresh lo hw' (done ++ [r])
  := by
  obtain ⟨id, hlt, hworlds, hg, ha⟩ := start_exec_fresh hf.growing hf.above h
  have hnew : (s'.worlds r).vmid = some id := by simp [hworlds]
  have hold : ∀ r', r' ≠ r → (s'.worlds r').vmid = (s.worlds r').vmid :=
    fun r' hr' => by simp [hworlds, hr']
  -- a workload started before holds an id at most `hw`, below the new one
  have hsep : ∀ r' ∈ done, r' ≠ r → (s'.worlds r').vmid ≠ some id := fun r' hr' hne => by
    obtain ⟨id', h', -, hle⟩ := hf.bound r' hr'
    rw [hold r' hne, h', Ne, Option.some.injEq]
    exact (lt_of_le_of_lt hle hlt).ne
  have hmem : ∀ {r'}, r' ∈ done ++ [r] → r' ≠ r → r' ∈ done :=
    fun h₁ h₂ => by simpa [h₂] using h₁
  refine ⟨id, hg, ha, hf.floor.trans hlt.le, fun r' hr' => ?_, fun r₁ h₁ r₂ h₂ hne => ?_⟩
  · by_cases he : r' = r
    · exact ⟨id, he ▸ hnew, lt_of_le_of_lt hf.floor hlt, le_rfl⟩
    · obtain ⟨id', h', hlo, hle⟩ := hf.bound r' (hmem hr' he)
      exact ⟨id', (hold r' he).trans h', hlo, hle.trans hlt.le⟩
  · by_cases e₁ : r₁ = r <;> by_cases e₂ : r₂ = r
    · exact absurd (e₁.trans e₂.symm) hne
    · rw [e₁, hnew]
      exact (hsep r₂ (hmem h₂ e₂) e₂).symm
    · rw [e₂, hnew]
      exact hsep r₁ (hmem h₁ e₁) e₁
    · rw [hold r₁ e₁, hold r₂ e₂]
      exact hf.distinct r₁ (hmem h₁ e₁) r₂ (hmem h₂ e₂) hne

/-- `setup`'s loop keeps the invariant over every workload it starts. -/
theorem Sys.Fresh.forM_start {lo hw : Int} {vms done : List Nat} {s s' : Sys}
    (hf : s.Fresh lo hw done) (h : (vms.forM TestWorld.start).exec s = (.ok (), s')) :
  ∃ hw', s'.Fresh lo hw' (done ++ vms)
  := by
  induction vms generalizing s hw done with
  | nil =>
    simp only [List.forM_nil', Harness.exec_pure, Prod.mk.injEq] at h
    exact ⟨hw, by simpa [← h.2] using hf⟩
  | cons r vms ih =>
    rw [List.forM_cons'] at h
    obtain ⟨_, s₁, h₁, h⟩ := Harness.exec_bind_ok h
    obtain ⟨hw₁, hf₁⟩ := hf.start h₁
    simpa using ih hf₁ h

/-! ### `setup` -/

/-- If `setup` returns from sources that grow and stay at least `lo`, the invariant holds of
the test's workloads, whether its first attempt returned or raised: a failed attempt and the
`shutdown` after it only read the sources on. -/
theorem setup_exec_fresh {t : Nat} {lo : Int} {s s' : Sys} (hg : s.Growing) (ha : s.Above lo)
    (h : (BasicTest.setup t).exec s = (.ok (), s')) :
  ∃ hw, s'.Fresh lo hw (s.tests t).vms
  := by
  rw [BasicTest.setup, Harness.exec_bind_of_ok (getTest_exec t s)] at h
  dsimp only at h
  rw [Harness.exec_tryCatch] at h
  rcases h₁ : ((s.tests t).vms.forM TestWorld.start).exec s with ⟨_ | _, s₁⟩ <;>
    rw [h₁] at h <;> dsimp only at h
  · -- the first attempt raised: `shutdown`, then the second attempt from what it left
    have hsuf : s.Suffix s₁ := by
      simpa [h₁] using Harness.readsOn_forM readsOn_start (s.tests t).vms s
    rw [BasicTest.shutdown, stopTimerWorlds, Harness.exec_bind_of_ok (writeFile_exec _ _ _)] at h
    refine (Sys.Fresh.forM_start (Sys.Fresh.init ?_ ?_) h).imp fun _ hf => by simpa using hf
    exacts [hg.suffix hsuf, ha.suffix hsuf]
  · -- the first attempt returned
    cases h
    simpa using Sys.Fresh.forM_start (Sys.Fresh.init hg ha) h₁

/-- World 1 exists, and one more world appears in both sources at every second
observation. -/
def risingSightings : List Sighting :=
  [⟨[1], [1]⟩, ⟨[1, 2], [1, 2]⟩, ⟨[1, 2], [1, 2]⟩, ⟨[1, 2, 3], [1, 2, 3]⟩,
    ⟨[1, 2, 3], [1, 2, 3]⟩, ⟨[1, 2, 3, 4], [1, 2, 3, 4]⟩, ⟨[1, 2, 3, 4], [1, 2, 3, 4]⟩,
    ⟨[1, 2, 3, 4, 5], [1, 2, 3, 4, 5]⟩]

/-- Test 0 holds the workloads `0` and `1` with factor 2, on the machine of
`risingSightings`. -/
def risingSys : Sys :=
  { sightingSys minWorld risingSightings with
    tests := fun _ => BasicTest.init [0, 1] 2 "pairs" .perfStats }

/-- The machine `s` once a `start` of the `minWorld` workload `r` has read two observations
and bound it to world `id`, having written its start command and its `min`. -/
def startedSys (s : Sys) (r : Nat) (id : Int) : Sys :=
  { (s.drop 2).setVmid r id with
    writes := s.writes ++ [⟨BasicWorld.path, "start 1 1000 10 0"⟩,
      ⟨"/proc/vmware/vm/" ++ toString id ++ "/cpu/min", "10"⟩] }

/-- Test 0 holds the single workload `0` with factor 1, on the machine of `vanishing`. -/
def raceSys : Sys :=
  { sightingSys minWorld vanishing with
    tests := fun _ => BasicTest.init [0] 1 "race" .perfStats }

end SchedTest
