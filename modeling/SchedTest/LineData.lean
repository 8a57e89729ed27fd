import SchedTest.PyText

/-!
# Records of the scheduler dump

A `LineData` is one row of a table of `/proc/vmware/sched/cpu-verbose`: the dictionary that
maps each column header to the row's text in that column, filled by zipping a header line
against a data line.  Reading a column through attribute access (`v.vm`, `v.cpu`) gives the
integer `0` for a column the table lacks; reading it through `v.data[name]` raises.  A
`SchedData` is one parsed dump: its vcpu rows, its pcpu rows, the raw vcpu lines, and the
global row.
-/

namespace SchedTest

/-- `d[k] = v` on a dictionary kept as an association list: the entry for `k` is replaced
in place, or added at the end. -/
def dictSet {β : Type} : List (String × β) → String → β → List (String × β)
  | [], k, v => [(k, v)]
  | (a, b) :: es, k, v => if a = k then (k, v) :: es else (a, b) :: dictSet es k v

/-- Reading a key after `d[k] = v`: `v` for `k`, what `d` held for any other key. -/
theorem lookup_dictSet {β : Type} (d : List (String × β)) (k k' : String) (v : β) :
  (dictSet d k v).lookup k' = if k' = k then some v else d.lookup k'
  := by
  have beq_of_ne {x y : String} (h : x ≠ y) : (x == y) = false := by simpa using h
  induction d with
  | nil => by_cases hk : k' = k <;> simp [dictSet, List.lookup_cons, hk, beq_of_ne]
  | cons e es ih =>
    obtain ⟨a, b⟩ := e
    by_cases ha : a = k
    · subst ha
      by_cases hk : k' = a <;> simp [dictSet, List.lookup_cons, hk, beq_of_ne]
    · by_cases hk : k' = a
      · subst hk
        simp [dictSet, List.lookup_cons, ha, beq_of_ne]
      · simp [dictSet, List.lookup_cons, ha, hk, ih, beq_of_ne]

/-- One row of a table: `data` maps each column header to the row's text. -/
structure LineData where
  data : List (String × String)
  deriving DecidableEq, Repr

/-- The loop of `LineData.__init__`: `self.data[headers[i]] = cur_data[i]` for each `i`. -/
def LineData.zip (headers cur_data : List String) : LineData :=
  ⟨(headers.zip cur_data).foldl (fun d e => dictSet d e.1 e.2) []⟩

/-- `LineData(headers, cur_data)`: raises unless there are as many values as headers. -/
def LineData.init (headers cur_data : List String) : Except String LineData :=
  if headers.length ≠ cur_data.length then throw "Mismatched data and headers"
  else pure (LineData.zip headers cur_data)

theorem LineData.init_eq_ok {headers cur_data : List String}
    (h : cur_data.length = headers.length) :
  LineData.init headers cur_data = .ok (LineData.zip headers cur_data)
  := by
  simp [LineData.init, h]

theorem LineData.init_eq_error {headers cur_data : List String}
    (h : cur_data.length ≠ headers.length) :
  LineData.init headers cur_data = .error "Mismatched data and headers"
  := by
  simp [LineData.init, Ne.symm h]

/-- A column read by attribute access, `LineData.__getattr__`: the row's text, or the
integer `0` that stands in for a column the table lacks. -/
inductive Attr where
  | text (s : String)
  | zero
  deriving DecidableEq, Repr

/-- `LineData.__getattr__(attr)`. -/
def LineData.getattr (v : LineData) (attr : String) : Attr :=
  match v.data.lookup attr with
  | some s => .text s
  | none => .zero

/-- `v.data[name]`: raises `KeyError` for a column the table lacks. -/
def LineData.get (v : LineData) (name : String) : Except String String :=
  match v.data.lookup name with
  | some s => pure s
  | none => throw ("KeyError: " ++ name)

/-- `int(x)` of an attribute. -/
def Attr.int : Attr → Except String Int
  | .text s => pyInt s
  | .zero => pure 0

/-- `float(x)` of an attribute. -/
def Attr.float : Attr → Except String ℚ
  | .text s => pyFloat s
  | .zero => pure 0

/-- `x.find(sub) >= 0` of an attribute: the integer `0` has no `find`. -/
def Attr.find (a : Attr) (sub : String) : Except String Bool :=
  match a with
  | .text s => pure (contains s sub)
  | .zero => throw "AttributeError: 'int' object has no attribute 'find'"

/-- A parsed dump, `SchedData(vcpu_list, pcpu_list, vcpulines, global_data)`. -/
structure SchedData where
  vcpuList : List LineData
  pcpuList : List LineData
  vcpulines : List String
  globalData : Option LineData
  deriving DecidableEq, Repr

end SchedTest
