import SchedTest.TestWorld
import Mathlib.Data.String.Basic

/-!
# Affinity: what is written and what is checked

`configAffinity` encodes a workload's affinity for the scheduler's `cpu/affinity` node:
`i:p;` for each vcpu `i` of a list, the affinity itself for a single vcpu, and `all:spec;`
for a string on several vcpus.  `checkAffinity` reads the pcpu each vcpu row runs on and
tests it against the same affinity.  `affinityPermits` is the scheduler's reading of the
written string, and `affinityWire` the wire format the spec gives.

`checkAffinity_ok` says what the checker's loops decide: `res` holds exactly when every vcpu
it examines passes that test, and it adds one message per vcpu that fails.

`configAffinity_agrees` says that for every affinity the encoder takes, it writes exactly
the wire format; on every vcpu and every pcpu, the test `checkAffinity` makes holds exactly
when the written string lets the vcpu run there; and on a snapshot that places each vcpu on a
pcpu, `checkAffinity` finds every vcpu in place exactly when the string permits each its
pcpu.  A number on a workload of several vcpus is not taken: both sides treat a number as a
single vcpu's affinity, and the encoder raises.
-/

namespace SchedTest

/-! ### Encoding -/

/-- The loop of `configAffinity` for a list: `str(i) + ":" + str(affin[i]) + ";"` for each
vcpu `i`. -/
def affinityPairs (ps : List Nat) (numvcpus : Nat) : Except String String :=
  (List.range numvcpus).foldlM (fun affinstr i =>
    match ps[i]? with
    | some p => pure (affinstr ++ toString i ++ ":" ++ toString p ++ ";")
    | none => throw "IndexError: list index out of range") ""

/-- The string `configAffinity` builds: the pairs for a list, `str(affin)` for a single vcpu,
and `"all:" + affin + ";"` otherwise, which raises unless `affin` is a string. -/
def affinityString (affin : Affinity) (numvcpus : Nat) : Except String String :=
  match affin with
  | .list ps => affinityPairs ps numvcpus
  | a =>
    if numvcpus = 1 then pure a.str
    else match a with
      | .spec s => pure ("all:" ++ s ++ ";")
      | .pcpu _ => throw "TypeError: cannot concatenate 'str' and 'int' objects"
      | _ => throw "TypeError: cannot concatenate 'str' and 'NoneType' objects"

/-- `configAffinity()`: writes the affinity string to `cpu/affinity`. -/
def TestWorld.configAffinity (w : TestWorld) : Except String Write := do
  let affinfile := (← w.getVMDir) ++ "cpu/affinity"
  pure ⟨affinfile, ← affinityString w.affinity w.numvcpus⟩

/-- `",".join(map(str, ps))`. -/
def pcpuString (ps : List Nat) : String :=
  ",".intercalate (ps.map toString)

/-! ### The scheduler's reading -/

/-- Modelled from the spec: pcpu `p` is listed in `spec`, a comma-separated list of pcpu
numbers. -/
def pcpuListed (spec : String) (p : Nat) : Bool :=
  (splitBy spec ',').any fun f => natValue f.data = some p

/-- Modelled from the spec: the entry `e` of an affinity string, `<vcpu>:<pcpus>` with the
vcpu `all` standing for every vcpu, lets vcpu `i` run on pcpu `p`. -/
def entryPermits (i p : Nat) (e : String) : Bool :=
  match splitBy e ':' with
  | [who, spec] => (who = "all" || natValue who.data = some i) && pcpuListed spec p
  | _ => false

/-- Modelled from the spec: the scheduler lets vcpu `i` run on pcpu `p` after `w` is written
to `cpu/affinity`.  `w` is a bare pcpu list for every vcpu, or entries each ended by `;`. -/
def affinityPermits (w : String) (i p : Nat) : Bool :=
  if ':' ∈ w.data then (splitBy w ';').any (entryPermits i p) else pcpuListed w p

/-! ### Checking -/

/-- `p in allaffin` for `p = v.cpu` and `allaffin = affinity.split(",")`: the integer `0`
read for a missing column is in no list of strings. -/
def cpuInSpec (affinity : String) : Attr → Bool
  | .text c => decide (c ∈ splitBy affinity ',')
  | .zero => false

/-- `(int(cpu), affinlst[i])`, the pcpu vcpu `i` runs on and the one its affinity names. -/
def listedPcpu (affinlst : List Nat) (i : Nat) (cpu : Attr) : Except String (Int × Nat) := do
  let p ← cpu.int
  match affinlst[i]? with
  | some a => pure (p, a)
  | none => throw "IndexError: list index out of range"

/-- The test `checkAffinity` makes of vcpu `i` whose row reads `cpu` in its `cpu` column:
`p in allaffin` for a string, `p == affinlst[i]` for a number or a list. -/
def vcpuAffinityOk : Affinity → Nat → Attr → Except String Bool
  | .none, _, _ => pure true
  | .spec s, _, cpu => pure (cpuInSpec s cpu)
  | .pcpu q, i, cpu => (listedPcpu [q] i cpu).map fun (p, a) => p = a
  | .list ps, i, cpu => (listedPcpu ps i cpu).map fun (p, a) => p = a

/-- One vcpu row of `checkAffinity` for a string affinity.  The message's `%d` raises for
the text of a row's `cpu` column; only a missing column gets a message. -/
def specStep (affinity : String) (acc : Bool × List String) (v : LineData) :
    Except String (Bool × List String) :=
  if cpuInSpec affinity (v.getattr "cpu") then pure acc
  else match v.getattr "cpu" with
    | .zero => pure (false, acc.2 ++ ["affinity=" ++ affinity ++ ", running on pcpu 0\n"])
    | .text _ => throw "TypeError: %d format: a number is required, not str"

/-- One vcpu index of `checkAffinity` for a number or a list. -/
def listStep (affinity : Affinity) (affinlst : List Nat) (vcpus : List LineData)
    (acc : Bool × List String) (i : Nat) : Except String (Bool × List String) := do
  let v ← match vcpus[i]? with
    | some v => pure v
    | none => throw "IndexError: list index out of range"
  let (p, a) ← listedPcpu affinlst i (v.getattr "cpu")
  if p ≠ a then
    pure (false, acc.2 ++ ["affinity=" ++ affinity.str ++ ", affinlist[i]=" ++ toString a ++
      ", vcpu=" ++ toString i ++ ", running on pcpu: " ++ toString p ++ "\n"])
  else pure acc

/-- `checkAffinity(vm)`: whether every vcpu runs where its affinity allows, and a message
for each that does not.  Without an affinity the messages are `""`, which no caller reads. -/
def checkAffinity (vm : TestWorld) : Except String (Bool × List String) :=
  match vm.affinity with
  | .none => pure (true, [])
  | .spec s => vm.vcpus.foldlM (specStep s) (true, [])
  | .pcpu q => (List.range vm.numvcpus).foldlM (listStep (.pcpu q) [q] vm.vcpus) (true, [])
  | .list ps => (List.range vm.numvcpus).foldlM (listStep (.list ps) ps vm.vcpus) (true, [])

/-! ### What `checkAffinity` decides -/

/-- Whether vcpu `i`, whose row is `vcpus[i]`, passes the test `checkAffinity` makes of it
under `affinity`. -/
def vcpuPasses (affinity : Affinity) (vcpus : List LineData) (i : Nat) : Bool :=
  match vcpus[i]? with
  | some v => (vcpuAffinityOk affinity i (v.getattr "cpu")).toOption = some true
  | none => false

/-- The loops of `checkAffinity` keep `res` the conjunction of the tests made so far and add
one message per failed test, whatever the test. -/
theorem foldlM_check_ok {α : Type} {f : Bool × List String → α → Except String (Bool × List String)}
    {pass : α → Bool}
    (hf : ∀ b e x b' e', f (b, e) x = .ok (b', e') →
      b' = (b && pass x) ∧ e'.length = e.length + if pass x then 0 else 1)
    {l : List α} {b b' : Bool} {e e' : List String} (h : l.foldlM f (b, e) = .ok (b', e')) :
  b' = (b && l.all pass) ∧ e'.length = e.length + (l.filter fun x => !pass x).length
  := by
  induction l generalizing b e with
  | nil =>
    simp only [List.foldlM_nil, except_pure, Except.ok.injEq, Prod.mk.injEq] at h
    simp [h.1, h.2]
  | cons x xs ih =>
    simp only [List.foldlM_cons] at h
    rcases hx : f (b, e) x with _ | ⟨b₁, e₁⟩ <;> rw [hx] at h
    · cases h
    obtain ⟨rfl, he₁⟩ := hf b e x b₁ e₁ hx
    obtain ⟨rfl, he'⟩ := ih h
    refine ⟨by simp [Bool.and_assoc], ?_⟩
    cases hp : pass x <;> simp [hp, List.filter_cons, he', he₁]
    omega

/-- One row of the loop for a string affinity fails exactly when its pcpu is not listed. -/
theorem specStep_ok {s : String} {b b' : Bool} {e e' : List String} {v : LineData}
    (h : specStep s (b, e) v = .ok (b', e')) :
  b' = (b && cpuInSpec s (v.getattr "cpu")) ∧
    e'.length = e.length + if cpuInSpec s (v.getattr "cpu") then 0 else 1
  := by
  unfold specStep at h
  split at h
  · rename_i hc
    simp only [except_pure, Except.ok.injEq, Prod.mk.injEq] at h
    simp [← h.1, ← h.2, hc]
  · rename_i hc
    split at h
    · simp only [except_pure, Except.ok.injEq, Prod.mk.injEq] at h
      simp [← h.1, ← h.2, hc]
    · cases h

/-- One index of the loop for a number or a list fails exactly when the vcpu does not pass
the test under `affinity`, whose pcpus `affinlst` lists. -/
theorem listStep_ok {affinity : Affinity} {affinlst : List Nat} {vcpus : List LineData}
    (hok : ∀ i cpu, vcpuAffinityOk affinity i cpu =
      (listedPcpu affinlst i cpu).map fun (p, a) => decide (p = a))
    {b b' : Bool} {e e' : List String} {i : Nat}
    (h : listStep affinity affinlst vcpus (b, e) i = .ok (b', e')) :
  b' = (b && vcpuPasses affinity vcpus i) ∧
    e'.length = e.length + if vcpuPasses affinity vcpus i then 0 else 1
  := by
  unfold listStep at h
  rcases hv : vcpus[i]? with _ | v <;>
    simp only [hv, except_pure, except_throw, except_ok_bind, except_error_bind] at h
  · cases h
  rcases hl : listedPcpu affinlst i (v.getattr "cpu") with _ | ⟨p, a⟩ <;>
    simp only [hl, except_ok_bind, except_error_bind] at h
  · cases h
  have hpass : vcpuPasses affinity vcpus i = decide (p = a) := by
    simp [vcpuPasses, hv, hok, hl, Except.toOption]
  rw [hpass]
  by_cases hpa : p = a <;> simp [hpa] at h <;> obtain ⟨rfl, rfl⟩ := h <;> simp [hpa]

/-- What `checkAffinity` decides: without an affinity, nothing; for a string, whether every
row of the workload runs on a listed pcpu; for a number or a list, whether each of the first
`numvcpus` vcpus runs on its pcpu.  It adds one message per vcpu that fails. -/
theorem checkAffinity_ok {vm : TestWorld} {res : Bool} {errs : List String}
    (h : checkAffinity vm = .ok (res, errs)) :
  match vm.affinity with
  | .none => res = true ∧ errs = []
  | .spec s => res = vm.vcpus.all (fun v => cpuInSpec s (v.getattr "cpu")) ∧
      errs.length = (vm.vcpus.filter fun v => !cpuInSpec s (v.getattr "cpu")).length
  | _ => res = (List.range vm.numvcpus).all (vcpuPasses vm.affinity vm.vcpus) ∧
      errs.length =
        ((List.range vm.numvcpus).filter fun i => !vcpuPasses vm.affinity vm.vcpus i).length
  := by
  unfold checkAffinity at h
  split at h <;> rename_i haff <;> simp only [haff]
  · simp only [except_pure, Except.ok.injEq, Prod.mk.injEq] at h
    exact ⟨h.1.symm, h.2.symm⟩
  · simpa using foldlM_check_ok (fun _ _ _ _ _ => specStep_ok) h
  · simpa using foldlM_check_ok (fun _ _ _ _ _ => listStep_ok (fun _ _ => by rfl)) h
  · simpa using foldlM_check_ok (fun _ _ _ _ _ => listStep_ok (fun _ _ => by rfl)) h

/-! ### Splitting what is written -/

theorem toString_not_mem (n : Nat) (c : Char) (hc : c.isDigit = false) :
  c ∉ (toString n).data
  := fun h => by simpa [hc] using (toString_digits n).2 c h

theorem splitOn_of_not_mem {l : List Char} {c : Char} (h : c ∉ l) :
  l.splitOn c = [l]
  := List.splitOnP_eq_single (· == c) l fun x hx hxc => h (by rwa [beq_iff_eq.1 hxc] at hx)

theorem splitOn_append_cons {l : List Char} {c : Char} (h : c ∉ l) (r : List Char) :
  (l ++ c :: r).splitOn c = l :: r.splitOn c
  := List.splitOnP_first (· == c) l (fun x hx hxc => h (by rwa [beq_iff_eq.1 hxc] at hx)) c
    (beq_self_eq_true c) r

/-- Fields joined by a separator they do not contain split back into the fields. -/
theorem splitOn_join_sep {c : Char} {x : List Char} (hx : c ∉ x) {xs : List (List Char)}
    (hxs : ∀ y ∈ xs, c ∉ y) :
  (x ++ (xs.map (c :: ·)).flatten).splitOn c = x :: xs
  := by
  induction xs generalizing x with
  | nil => simpa using splitOn_of_not_mem hx
  | cons y ys ih =>
    simp only [List.mem_cons, forall_eq_or_imp] at hxs
    simpa [splitOn_append_cons hx] using ih hxs.1 hxs.2

/-- Fields each ended by a separator they do not contain split into the fields and an
empty last field. -/
theorem splitOn_join_term {c : Char} {es : List (List Char)} (hes : ∀ e ∈ es, c ∉ e) :
  ((es.map (· ++ [c])).flatten).splitOn c = es ++ [[]]
  := by
  induction es with
  | nil => rfl
  | cons e es ih =>
    simp only [List.mem_cons, forall_eq_or_imp] at hes
    simpa [splitOn_append_cons hes.1] using ih hes.2

theorem splitBy_toString (n : Nat) (c : Char) (hc : c.isDigit = false) :
  splitBy (toString n) c = [toString n]
  := by simp [splitBy, splitOn_of_not_mem (toString_not_mem n c hc)]

theorem pcpuListed_toString (q p : Nat) :
  pcpuListed (toString q) p = decide (q = p)
  := by simp [pcpuListed, splitBy_toString q ',' rfl, natValue_toString]

private theorem intercalate_go_data (acc s : String) (as : List String) :
  (String.intercalate.go acc s as).data = acc.data ++ (as.map (s.data ++ ·.data)).flatten
  := by
  induction as generalizing acc with
  | nil => simp [String.intercalate.go]
  | cons a as ih => simp [String.intercalate.go, ih]

theorem pcpuString_data (q : Nat) (qs : List Nat) :
  (pcpuString (q :: qs)).data
    = (toString q).data ++ (qs.map fun p => ',' :: (toString p).data).flatten
  := by
  simp [pcpuString, String.intercalate, intercalate_go_data]
  rfl

theorem splitBy_pcpuString (q : Nat) (qs : List Nat) :
  splitBy (pcpuString (q :: qs)) ',' = (q :: qs).map toString
  := by
  have hsep : ∀ p : Nat, ',' ∉ (toString p).data := fun p => toString_not_mem p ',' rfl
  simp only [splitBy, pcpuString_data]
  rw [show (qs.map fun p => ',' :: (toString p).data)
      = (qs.map fun p => (toString p).data).map (',' :: ·) by simp,
    splitOn_join_sep (hsep q) (by simpa using fun p _ => hsep p)]
  simp

/-- `",".join(map(str, ps))` is made of digits and commas. -/
theorem pcpuString_chars (ps : List Nat) :
  ∀ c ∈ (pcpuString ps).data, c.isDigit ∨ c = ','
  := by
  cases ps with
  | nil => simp [pcpuString, String.intercalate]
  | cons q qs =>
    simp only [pcpuString_data, List.mem_append, List.mem_flatten, List.mem_map]
    rintro c (h | ⟨_, ⟨p, -, rfl⟩, h⟩)
    · exact .inl ((toString_digits q).2 c h)
    · rcases List.mem_cons.1 h with rfl | h
      exacts [.inr rfl, .inl ((toString_digits p).2 c h)]

theorem not_mem_pcpuString (ps : List Nat) {c : Char} (hc : c.isDigit = false)
    (hcomma : c ≠ ',') :
  c ∉ (pcpuString ps).data
  := fun h => by simpa [hc, hcomma] using pcpuString_chars ps c h

theorem pcpuListed_pcpuString (q : Nat) (qs : List Nat) (p : Nat) :
  pcpuListed (pcpuString (q :: qs)) p = decide (p ∈ q :: qs)
  := by
  rw [pcpuListed, splitBy_pcpuString]
  apply Bool.eq_iff_iff.2
  simp only [List.any_eq_true, decide_eq_true_eq]
  constructor
  · rintro ⟨_, hx, e⟩
    obtain ⟨a, ha, rfl⟩ := List.mem_map.1 hx
    rw [natValue_toString, Option.some.injEq] at e
    exact e ▸ ha
  · exact fun h => ⟨toString p, List.mem_map_of_mem _ h, natValue_toString p⟩

theorem splitBy_empty (c : Char) :
  splitBy "" c = [""]
  := rfl

theorem toString_ne_all (j : Nat) :
  toString j ≠ "all"
  := fun h => toString_not_mem j 'a' rfl (by rw [h]; decide)

theorem any_map_comp {α β : Type} (l : List α) (f : α → β) (p : β → Bool) :
  (l.map f).any p = l.any fun a => p (f a)
  := by induction l <;> simp [*]

/-! ### Reading back what is written -/

theorem affinityPermits_bare {w : String} (h : ':' ∉ w.data) (i p : Nat) :
  affinityPermits w i p = pcpuListed w p
  := by simp [affinityPermits, h]

theorem affinityPermits_all {s : String} (hc : ':' ∉ s.data) (hs : ';' ∉ s.data) (i p : Nat) :
  affinityPermits ("all:" ++ s ++ ";") i p = pcpuListed s p
  := by
  have hsplit : splitBy ("all:" ++ s ++ ";") ';' = ["all:" ++ s, ""] := by
    have e : ("all:" ++ s ++ ";").data = ("all:" ++ s).data ++ ';' :: [] := by simp
    simp only [splitBy, e, splitOn_append_cons (by simpa using hs : ';' ∉ ("all:" ++ s).data)]
    rfl
  have hentry : splitBy ("all:" ++ s) ':' = ["all", s] := by
    have e : ("all:" ++ s).data = "all".data ++ ':' :: s.data := by simp
    simp only [splitBy, e, splitOn_append_cons (by decide : ':' ∉ "all".data),
      splitOn_of_not_mem hc]
    rfl
  have hcolon : ':' ∈ ("all:" ++ s ++ ";").data := by simp
  simp [affinityPermits, entryPermits, hsplit, hentry, hcolon, splitBy_empty]


/-- The entry `str(i) + ":" + str(p)` that the list encoding writes for vcpu `i`. -/
def pairEntry (i p : Nat) : List Char :=
  (toString i).data ++ ':' :: (toString p).data

theorem affinityPairs_eq {ps : List Nat} {n : Nat} (h : n ≤ ps.length) :
  affinityPairs ps n
    = .ok ⟨((List.range n).map fun i => pairEntry i (ps.getD i 0) ++ [';']).flatten⟩
  := by
  induction n with
  | zero => rfl
  | succ n ih =>
    have hn : ps[n]? = some (ps.getD n 0) := by
      simp [List.getD_eq_getElem?_getD, List.getElem?_eq_getElem (show n < ps.length by omega)]
    simp only [affinityPairs] at ih ⊢
    rw [List.range_succ, List.foldlM_append, ih (by omega)]
    simp only [except_ok_bind, List.foldlM_cons, List.foldlM_nil, hn, bind_pure]
    show Except.ok _ = Except.ok _
    congr 1
    apply String.ext
    simp [pairEntry]



theorem splitBy_pairEntry (j q : Nat) :
  splitBy ⟨pairEntry j q⟩ ':' = [toString j, toString q]
  := by
  simp only [splitBy, pairEntry, splitOn_append_cons (toString_not_mem j ':' rfl),
    splitOn_of_not_mem (toString_not_mem q ':' rfl)]
  rfl

theorem semicolon_not_mem_pairEntry (j q : Nat) :
  ';' ∉ pairEntry j q
  := by
  simp only [pairEntry, List.mem_append, List.mem_cons, not_or]
  exact ⟨toString_not_mem j ';' rfl, by decide, toString_not_mem q ';' rfl⟩

theorem entryPermits_pairEntry (i p j q : Nat) :
  entryPermits i p ⟨pairEntry j q⟩ = (decide (j = i) && decide (q = p))
  := by
  simp [entryPermits, splitBy_pairEntry, toString_ne_all, natValue_toString, pcpuListed_toString]

theorem affinityPermits_pairs (ps : List Nat) {n : Nat} {i : Nat} (hi : i < n) (p : Nat) :
  affinityPermits ⟨((List.range n).map fun j => pairEntry j (ps.getD j 0) ++ [';']).flatten⟩ i p
    = decide (ps.getD i 0 = p)
  := by
  have hdata : ((List.range n).map fun j => pairEntry j (ps.getD j 0) ++ [';'])
      = ((List.range n).map fun j => pairEntry j (ps.getD j 0)).map (· ++ [';']) := by
    simp [Function.comp_def]
  have hsplit : splitBy ⟨((List.range n).map fun j => pairEntry j (ps.getD j 0) ++ [';']).flatten⟩ ';'
      = ((List.range n).map fun j => pairEntry j (ps.getD j 0)).map String.mk ++ [""] := by
    rw [splitBy, hdata, splitOn_join_term]
    · simp
    · simp only [List.mem_map, List.mem_range]
      rintro _ ⟨j, -, rfl⟩
      exact semicolon_not_mem_pairEntry j _
  have hcolon : ':' ∈ (⟨((List.range n).map fun j => pairEntry j (ps.getD j 0) ++ [';']).flatten⟩ : String).data := by
    simp only [List.mem_flatten, List.mem_map, List.mem_range]
    exact ⟨_, ⟨0, by omega, rfl⟩, by simp [pairEntry]⟩
  rw [affinityPermits, if_pos hcolon, hsplit]
  simp only [List.any_append, List.map_map, any_map_comp, Function.comp_apply,
    entryPermits_pairEntry, List.any_cons, List.any_nil, Bool.or_false]
  rw [show entryPermits i p "" = false from rfl, Bool.or_false]
  apply Bool.eq_iff_iff.2
  simp only [List.any_eq_true, List.mem_range, Bool.and_eq_true, decide_eq_true_eq]
  exact ⟨fun ⟨j, _, hj, h⟩ => hj ▸ h, fun h => ⟨i, hi, rfl, h⟩⟩

/-! ### What is checked agrees with what is written -/

theorem vcpuAffinityOk_pcpu (q p : Nat) :
  vcpuAffinityOk (.pcpu q) 0 (.text (toString p)) = .ok (decide (q = p))
  := by simp [vcpuAffinityOk, listedPcpu, Attr.int, pyInt_toString, eq_comm]

theorem vcpuAffinityOk_spec (q : Nat) (qs : List Nat) (i p : Nat) :
  vcpuAffinityOk (.spec (pcpuString (q :: qs))) i (.text (toString p))
    = .ok (decide (p ∈ q :: qs))
  := by
  simp only [vcpuAffinityOk, cpuInSpec, splitBy_pcpuString]
  congr 1
  exact decide_eq_decide.2
    ⟨fun h => by obtain ⟨a, ha, e⟩ := List.mem_map.1 h; exact toString_injective e ▸ ha,
      List.mem_map_of_mem _⟩

theorem vcpuAffinityOk_list {ps : List Nat} {i : Nat} (hi : i < ps.length) (p : Nat) :
  vcpuAffinityOk (.list ps) i (.text (toString p)) = .ok (decide (ps.getD i 0 = p))
  := by simp [vcpuAffinityOk, listedPcpu, Attr.int, pyInt_toString, hi, eq_comm]

/-- The affinities `configAffinity` encodes on a workload of `numvcpus` vcpus: a pcpu number
on a single vcpu, pcpus written as `",".join(map(str, ps))`, or a list with a pcpu for each
vcpu. -/
def Affinity.Supported : Affinity → Nat → Prop
  | .none, _ => False
  | .pcpu _, n => n = 1
  | .spec s, _ => ∃ q qs, s = pcpuString (q :: qs)
  | .list ps, n => n ≤ ps.length

theorem configAffinity_eq {w : TestWorld} {id : Int} (hid : w.vmid = some id) :
  w.configAffinity
    = (affinityString w.affinity w.numvcpus).map fun s => ⟨vmDir id ++ "cpu/affinity", s⟩
  := by
  simp only [TestWorld.configAffinity, TestWorld.getVMDir, hid, vmidAttr]
  cases affinityString w.affinity w.numvcpus <;> rfl

/-- Modelled from the spec: the wire format of an affinity on `numvcpus` vcpus, the bare spec
for a single vcpu, `"all:<spec>;"` for a string on several vcpus, and the pairs `"i:p_i;"`
for `i < numvcpus` for a list.  No affinity writes nothing. -/
def affinityWire : Affinity → Nat → String
  | .list ps, n => String.join ((List.range n).map fun i =>
      toString i ++ ":" ++ toString (ps.getD i 0) ++ ";")
  | .spec s, n => if n = 1 then s else "all:" ++ s ++ ";"
  | .pcpu q, _ => toString q
  | .none, _ => ""

theorem affinityWire_list (ps : List Nat) (n : Nat) :
  affinityWire (.list ps) n
    = ⟨((List.range n).map fun i => pairEntry i (ps.getD i 0) ++ [';']).flatten⟩
  := by
  apply String.ext
  simp [affinityWire, String.data_join, pairEntry, Function.comp_def]

/-- `configAffinity` writes exactly the wire format, and under it each vcpu may run on exactly
the pcpus where the test `checkAffinity` makes of that vcpu passes. -/
theorem configAffinity_wire (w : TestWorld) {id : Int} (hid : w.vmid = some id)
    (ha : w.affinity.Supported w.numvcpus) :
  w.configAffinity = .ok ⟨vmDir id ++ "cpu/affinity", affinityWire w.affinity w.numvcpus⟩ ∧
    ∀ i < w.numvcpus, ∀ p : Nat, vcpuAffinityOk w.affinity i (.text (toString p))
      = .ok (affinityPermits (affinityWire w.affinity w.numvcpus) i p)
  := by
  rw [configAffinity_eq hid]
  revert ha
  cases w.affinity with
  | none => exact False.elim
  | pcpu q =>
    intro (h1 : w.numvcpus = 1)
    refine ⟨by simp [affinityString, affinityWire, h1, Affinity.str], fun i hi p => ?_⟩
    obtain rfl : i = 0 := by omega
    rw [vcpuAffinityOk_pcpu, affinityWire, affinityPermits_bare (toString_not_mem q ':' rfl),
      pcpuListed_toString]
  | spec s =>
    rintro ⟨q, qs, rfl⟩
    have hc := not_mem_pcpuString (q :: qs) (c := ':') rfl (by decide)
    by_cases h1 : w.numvcpus = 1
    · refine ⟨by simp [affinityString, affinityWire, h1, Affinity.str], fun i _ p => ?_⟩
      rw [vcpuAffinityOk_spec, affinityWire, if_pos h1, affinityPermits_bare hc,
        pcpuListed_pcpuString]
    · refine ⟨by simp [affinityString, affinityWire, h1], fun i _ p => ?_⟩
      rw [vcpuAffinityOk_spec, affinityWire, if_neg h1, affinityPermits_all hc
        (not_mem_pcpuString (q :: qs) (c := ';') rfl (by decide)), pcpuListed_pcpuString]
  | list ps =>
    intro (hlen : w.numvcpus ≤ ps.length)
    refine ⟨by simp only [affinityString, affinityPairs_eq hlen, affinityWire_list]; rfl,
      fun i hi p => ?_⟩
    rw [vcpuAffinityOk_list (by omega), affinityWire_list, affinityPermits_pairs ps hi]

/-! ### What `checkAffinity` returns -/

/-- A vcpu row whose `cpu` column reads `str(p)`. -/
def cpuRow (p : Nat) : LineData :=
  ⟨[("cpu", toString p)]⟩

@[simp] theorem getattr_cpuRow (p : Nat) : (cpuRow p).getattr "cpu" = .text (toString p)
  := rfl

theorem all_range_congr {n : Nat} {f g : Nat → Bool} (h : ∀ i < n, f i = g i) :
  (List.range n).all f = (List.range n).all g
  := by
  rw [Bool.eq_iff_iff, List.all_eq_true, List.all_eq_true]
  exact ⟨fun hf i hi => h i (List.mem_range.1 hi) ▸ hf i hi,
    fun hg i hi => (h i (List.mem_range.1 hi)).symm ▸ hg i hi⟩

theorem all_eq_all_range {α : Type} (l : List α) (f : α → Bool) (d : α) :
  l.all f = (List.range l.length).all fun i => f (l.getD i d)
  := by
  have hget : ∀ i (hi : i < l.length), l.getD i d = l[i] := fun i hi => by
    rw [List.getD_eq_getElem?_getD, List.getElem?_eq_getElem hi, Option.getD_some]
  rw [Bool.eq_iff_iff, List.all_eq_true, List.all_eq_true, List.forall_mem_iff_getElem]
  exact ⟨fun h i hi => hget i (List.mem_range.1 hi) ▸ h i (List.mem_range.1 hi),
    fun h i hi => hget i hi ▸ h i (List.mem_range.2 hi)⟩

/-- On a snapshot whose vcpu `i` runs on `cpus[i]`, the verdict of `checkAffinity` is the
conjunction, over the vcpus, of the per-vcpu test, whenever that test is the reading
`permits` of a written string. -/
theorem checkAffinity_cpuRows {w : TestWorld} (hnone : w.affinity ≠ .none)
    {permits : Nat → Nat → Bool}
    (hagree : ∀ i < w.numvcpus, ∀ p : Nat,
      vcpuAffinityOk w.affinity i (.text (toString p)) = .ok (permits i p))
    {cpus : List Nat} (hlen : cpus.length = w.numvcpus) {res : Bool} {errs : List String}
    (h : checkAffinity { w with vcpus := cpus.map cpuRow } = .ok (res, errs)) :
  res = (List.range w.numvcpus).all fun i => permits i (cpus.getD i 0)
  := by
  have hres := checkAffinity_ok h
  dsimp only at hres
  have hpass : ∀ i < w.numvcpus, vcpuPasses w.affinity (cpus.map cpuRow) i
      = permits i (cpus.getD i 0) := fun i hi => by
    have hrow : (cpus.map cpuRow)[i]? = some (cpuRow (cpus.getD i 0)) := by
      simp [List.getElem?_eq_getElem (show i < cpus.length by omega), List.getD_eq_getElem?_getD]
    simp [vcpuPasses, hrow, hagree i hi, Except.toOption]
  revert hres hpass hagree hnone
  cases w.affinity with
  | none => exact fun h => absurd rfl h
  | spec s =>
    intro _ hagree (hres : res = _ ∧ _) _
    rw [hres.1, all_eq_all_range _ _ (cpuRow 0), List.length_map, hlen]
    refine all_range_congr fun i hi => ?_
    have hrow : (cpus.map cpuRow).getD i (cpuRow 0) = cpuRow (cpus.getD i 0) := by
      simp [List.getD_eq_getElem?_getD]
    rw [hrow, getattr_cpuRow]
    simpa [vcpuAffinityOk] using hagree i hi (cpus.getD i 0)
  | pcpu q => exact fun _ _ (hres : res = _ ∧ _) hpass => hres.1.trans (all_range_congr hpass)
  | list ps => exact fun _ _ (hres : res = _ ∧ _) hpass => hres.1.trans (all_range_congr hpass)

/-- For every started workload whose affinity `configAffinity` encodes, it writes exactly the
wire format; under that string each vcpu may run on exactly the pcpus where the test
`checkAffinity` makes of that vcpu passes; and on a snapshot whose vcpu `i` runs on
`cpus[i]`, `checkAffinity` returns that every vcpu passes exactly when the string permits
each vcpu its pcpu. -/
theorem configAffinity_agrees (w : TestWorld) {id : Int} (hid : w.vmid = some id)
    (ha : w.affinity.Supported w.numvcpus) :
  w.configAffinity = .ok ⟨vmDir id ++ "cpu/affinity", affinityWire w.affinity w.numvcpus⟩ ∧
    (∀ i < w.numvcpus, ∀ p : Nat, vcpuAffinityOk w.affinity i (.text (toString p))
      = .ok (affinityPermits (affinityWire w.affinity w.numvcpus) i p)) ∧
    ∀ (cpus : List Nat) (res : Bool) (errs : List String), cpus.length = w.numvcpus →
      checkAffinity { w with vcpus := cpus.map cpuRow } = .ok (res, errs) →
      res = (List.range w.numvcpus).all fun i =>
        affinityPermits (affinityWire w.affinity w.numvcpus) i (cpus.getD i 0)
  := by
  obtain ⟨hwrite, hagree⟩ := configAffinity_wire w hid ha
  have hnone : w.affinity ≠ .none := fun h => by rw [h] at ha; exact ha
  exact ⟨hwrite, hagree, fun _ _ _ hlen h => checkAffinity_cpuRows hnone hagree hlen h⟩

/-- A started workload of two vcpus pinned one to a pcpu each. -/
def dualWorld : TestWorld :=
  { TimerWorld 10 2 1000 2 0 0 (.list [0, 1]) with vmid := some 7 }

/-- `dualWorld` writes `0:0;1:1;`; on a snapshot with both vcpus on pcpu 1, `checkAffinity`
finds vcpu 0 misplaced. -/
theorem configAffinity_agrees_dualWorld :
  (dualWorld.vmid = some 7 ∧ dualWorld.affinity.Supported dualWorld.numvcpus) ∧
    affinityWire dualWorld.affinity dualWorld.numvcpus = "0:0;1:1;" ∧
    checkAffinity { dualWorld with vcpus := [1, 1].map cpuRow }
      = .ok (false, ["affinity=[0, 1], affinlist[i]=0, vcpu=0, running on pcpu: 1\n"]) ∧
    (dualWorld.configAffinity
        = .ok ⟨vmDir 7 ++ "cpu/affinity", affinityWire dualWorld.affinity dualWorld.numvcpus⟩ ∧
      (∀ i < dualWorld.numvcpus, ∀ p : Nat, vcpuAffinityOk dualWorld.affinity i (.text (toString p))
        = .ok (affinityPermits (affinityWire dualWorld.affinity dualWorld.numvcpus) i p)) ∧
      ∀ (cpus : List Nat) (res : Bool) (errs : List String), cpus.length = dualWorld.numvcpus →
        checkAffinity { dualWorld with vcpus := cpus.map cpuRow } = .ok (res, errs) →
        res = (List.range dualWorld.numvcpus).all fun i =>
          affinityPermits (affinityWire dualWorld.affinity dualWorld.numvcpus) i (cpus.getD i 0))
  := ⟨⟨rfl, by simp [dualWorld, TimerWorld, TestWorld.init, Affinity.Supported]⟩,
    by with_unfolding_all rfl, by with_unfolding_all rfl,
    configAffinity_agrees dualWorld rfl
      (by simp [dualWorld, TimerWorld, TestWorld.init, Affinity.Supported])⟩

/-- A started workload of two vcpus whose affinity is the single pcpu `1`. -/
def dualPinnedWorld : TestWorld :=
  { BasicWorld 10 0 1000 2 0 0 (.pcpu 1) with vmid := some 7 }

/-- `configAffinity` raises on a pcpu number for two vcpus: `"all:" + affin` needs a string. -/
theorem configAffinity_dualPinnedWorld :
  dualPinnedWorld.configAffinity = .error "TypeError: cannot concatenate 'str' and 'int' objects"
  := rfl

end SchedTest
