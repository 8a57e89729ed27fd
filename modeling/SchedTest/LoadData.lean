import SchedTest.LineData

/-!
# Parsing the scheduler dump

`loadData` is `parse_sched.load_data`: it reads the lines of `cpu-verbose` one at a time.
In verbose mode it reads the global header and row, skips a separator line and the cell
table, and reads the pcpu table; in every mode it then reads the vcpu table.  Each table is
read by a loop that runs while the current line matches `notblank` and so consumes its rows
and the first line after them.  A pcpu row that does not zip against its header aborts the
whole parse; a vcpu row that does not is dropped, though its text is kept in `vcpulines`.

A `VerboseDump` is a file laid out as the verbose reader expects, with the layout as fields.
Over it, `loadData_verbose` says what the parse returns, and `loadData_of_bad_pcpu_row` that a
single malformed pcpu row makes it raise.  Outside verbose mode the parse always raises:
`loadData_nonverbose_raises`.
-/

namespace SchedTest

/-! ### The reader -/

/-- `infile.readline()`: the next line and the lines after it, or `""` at the end. -/
def readline : List String → String × List String
  | [] => ("", [])
  | l :: rest => (l, rest)

/-- `while notblank.match(infile.readline()): pass`: reads up to and including the first
line that does not match. -/
def skipCells : List String → List String
  | [] => []
  | l :: rest => if notblank l then skipCells rest else rest

/-- The pcpu loop, `curline = infile.readline()` then, while `notblank.match(curline)`,
`pcpu_list.append(LineData(pcpu_headers, split(curline)))` and the next line: the rows read
and the lines after the first that does not match. -/
def readPcpus (headers : List String) : List String → Except String (List LineData × List String)
  | [] => pure ([], [])
  | l :: rest =>
    if notblank l then do
      let item ← LineData.init headers (split l)
      let (items, rest') ← readPcpus headers rest
      pure (item :: items, rest')
    else pure ([], rest)

/-- The vcpu loop: each matching line goes to `vcpulines`, and its `LineData` to `vcpu_list`
unless building it raises, which the `try` catches.  Returns `vcpulines`, `vcpu_list` and the
lines after the first that does not match. -/
def readVcpus (headers : List String) :
    List String → List String × List LineData × List String
  | [] => ([], [], [])
  | l :: rest =>
    if notblank l then
      let (ls, items, rest') := readVcpus headers rest
      let item := match LineData.init headers (split l) with
        | .ok item => [item]
        | .error _ => []
      (l :: ls, item ++ items, rest')
    else ([], [], rest)

/-- `load_data(filename, verbose)` on the lines of the file.  Outside verbose mode
`global_data` is never assigned, and the final `return` raises. -/
def loadData (file : List String) (verbose : Bool) : Except String SchedData := do
  let (globalData, pcpuList, rest) ← if verbose then do
      let (globalHeaders, r) := readline file
      let (globalLine, r) := readline r
      let globalData ← LineData.init (split globalHeaders) (split globalLine)
      let r := (readline (readline r).2).2
      let (pcpuHeaders, r) := readline (skipCells r)
      let (pcpuList, r) ← readPcpus (split pcpuHeaders) r
      pure (some globalData, pcpuList, r)
    else pure (none, [], file)
  let (vcpuHeaders, r) := readline rest
  let (vcpulines, vcpuList, _) := readVcpus (split vcpuHeaders) r
  match globalData with
  | some g => pure ⟨vcpuList, pcpuList, vcpulines, some g⟩
  | none => throw "UnboundLocalError: local variable 'global_data' referenced before assignment"

/-! ### Dumps in the verbose layout -/

/-- A table of the dump: a header line, the rows, each beginning with a digit, and the first
line after them, which does not. -/
structure Table where
  header : String
  rows : List String
  stop : String
  rows_notblank : ∀ l ∈ rows, notblank l
  stop_blank : notblank stop = false

/-- The lines of a table. -/
def Table.text (t : Table) : List String :=
  t.header :: (t.rows ++ [t.stop])

/-- The vcpu table, which ends at the end of the file or at a line that does not begin with
a digit. -/
structure VcpuTable where
  header : String
  rows : List String
  rest : List String
  rows_notblank : ∀ l ∈ rows, notblank l
  rest_blank : ∀ l ∈ rest.head?, notblank l = false

/-- The lines of the vcpu table, up to the end of the file. -/
def VcpuTable.text (t : VcpuTable) : List String :=
  t.header :: (t.rows ++ t.rest)

/-- A verbose dump: the global header and row, a separator, the cell table, the pcpu table
and the vcpu table. -/
structure VerboseDump where
  globalHeader : String
  globalLine : String
  separator : String
  cells : Table
  pcpus : Table
  vcpus : VcpuTable

/-- The lines of a verbose dump. -/
def VerboseDump.lines (d : VerboseDump) : List String :=
  d.globalHeader :: d.globalLine :: d.separator :: (d.cells.text ++ d.pcpus.text ++ d.vcpus.text)

theorem VerboseDump.lines_eq (d : VerboseDump) :
  d.lines = d.globalHeader :: d.globalLine :: d.separator :: d.cells.header ::
    (d.cells.rows ++ d.cells.stop :: d.pcpus.header ::
      (d.pcpus.rows ++ d.pcpus.stop :: d.vcpus.header :: (d.vcpus.rows ++ d.vcpus.rest)))
  := by
  simp [VerboseDump.lines, Table.text, VcpuTable.text]

/-- The rows of a table zipped against its header. -/
def zipRows (header : String) (rows : List String) : List LineData :=
  rows.map fun l => LineData.zip (split header) (split l)

/-- The rows that split into as many tokens as the header. -/
def wellFormed (header : String) (rows : List String) : List String :=
  rows.filter fun l => (split l).length = (split header).length

/-! ### Each loop reads its table and one line more -/

theorem skipCells_rows {rows : List String} (hrows : ∀ l ∈ rows, notblank l)
    {stop : String} (hstop : notblank stop = false) (rest : List String) :
  skipCells (rows ++ stop :: rest) = rest
  := by
  induction rows with
  | nil => simp [skipCells, hstop]
  | cons l rows ih =>
    simp only [List.mem_cons, forall_eq_or_imp] at hrows
    simp [skipCells, hrows.1, ih hrows.2]

theorem readPcpus_rows (headers : List String) {rows : List String}
    (hrows : ∀ l ∈ rows, notblank l) (hwf : ∀ l ∈ rows, (split l).length = headers.length)
    {stop : String} (hstop : notblank stop = false) (rest : List String) :
  readPcpus headers (rows ++ stop :: rest)
    = .ok (rows.map (fun l => LineData.zip headers (split l)), rest)
  := by
  induction rows with
  | nil => simp [readPcpus, hstop]
  | cons l rows ih =>
    simp only [List.mem_cons, forall_eq_or_imp] at hrows hwf
    rw [List.cons_append, readPcpus]
    simp only [hrows.1, if_true, LineData.init_eq_ok hwf.1, ih hrows.2 hwf.2]
    rfl

/-- A pcpu row that does not zip against its header makes the pcpu loop raise. -/
theorem readPcpus_of_bad_row (headers : List String) {rows : List String}
    (hrows : ∀ l ∈ rows, notblank l)
    (hbad : ∃ l ∈ rows, (split l).length ≠ headers.length) (rest : List String) :
  readPcpus headers (rows ++ rest) = .error "Mismatched data and headers"
  := by
  induction rows with
  | nil => simp at hbad
  | cons l rows ih =>
    simp only [List.mem_cons, forall_eq_or_imp, exists_eq_or_imp] at hrows hbad
    rw [List.cons_append, readPcpus]
    simp only [hrows.1, if_true]
    by_cases hl : (split l).length = headers.length
    · simp only [LineData.init_eq_ok hl, ih hrows.2 (hbad.resolve_left (not_not.2 hl))]
      rfl
    · simp only [LineData.init_eq_error hl]
      rfl

theorem readVcpus_rows (headers : List String) {rows : List String}
    (hrows : ∀ l ∈ rows, notblank l) {rest : List String}
    (hrest : ∀ l ∈ rest.head?, notblank l = false) :
  readVcpus headers (rows ++ rest)
    = (rows, (rows.filter fun l => (split l).length = headers.length).map
        (fun l => LineData.zip headers (split l)), rest.tail)
  := by
  induction rows with
  | nil =>
    cases rest with
    | nil => rfl
    | cons s rest => simp [readVcpus, hrest s rfl]
  | cons l rows ih =>
    simp only [List.mem_cons, forall_eq_or_imp] at hrows
    rw [List.cons_append, readVcpus]
    simp only [hrows.1, if_true, ih hrows.2]
    by_cases hl : (split l).length = headers.length
    · simp [LineData.init_eq_ok hl, List.filter_cons, hl]
    · simp [LineData.init_eq_error hl, List.filter_cons, hl]

/-! ### What the verbose parse returns -/

/-- On a verbose dump whose global row and pcpu rows zip against their headers,
`load_data(verbose=1)` returns the global row, every pcpu row in file order, every vcpu line
in file order, and, in file order, the vcpu rows that zip against their header. -/
theorem loadData_verbose (d : VerboseDump)
    (hglobal : (split d.globalLine).length = (split d.globalHeader).length)
    (hpcpus : ∀ l ∈ d.pcpus.rows, (split l).length = (split d.pcpus.header).length) :
  loadData d.lines true = .ok
    { vcpuList := zipRows d.vcpus.header (wellFormed d.vcpus.header d.vcpus.rows)
      pcpuList := zipRows d.pcpus.header d.pcpus.rows
      vcpulines := d.vcpus.rows
      globalData := some (LineData.zip (split d.globalHeader) (split d.globalLine)) }
  := by
  simp only [VerboseDump.lines_eq, loadData, readline, if_true, LineData.init_eq_ok hglobal,
    except_ok_bind, pure_bind,
    skipCells_rows d.cells.rows_notblank d.cells.stop_blank,
    readPcpus_rows _ d.pcpus.rows_notblank hpcpus d.pcpus.stop_blank,
    readVcpus_rows _ d.vcpus.rows_notblank d.vcpus.rest_blank]
  rfl

/-- A small verbose dump: two pcpus, and three worlds with one vcpu each. -/
def sampleDump : VerboseDump where
  globalHeader := "cpus  vms  worlds"
  globalLine := "2  3  5"
  separator := ""
  cells := ⟨"cell  cpus", ["   0  0,1"], "", by decide, by decide⟩
  pcpus := ⟨"cpu  used  idle  yield", ["   0  12.5  30.1  14", "   1  11.0  31.6  9"], "",
    by decide, by decide⟩
  vcpus := ⟨"vm  vcpu  cpu  affinity  usedsec  pmigs  switch  name",
    ["1  1  0  0,1  30.100  2  40  idle0", "2  2  1  0,1  31.600  1  35  idle1",
      "5  5  0  0,1  12.500  7  120  basic"], [], by decide, by decide⟩

theorem loadData_verbose_sampleDump :
  ((split sampleDump.globalLine).length = (split sampleDump.globalHeader).length
    ∧ ∀ l ∈ sampleDump.pcpus.rows,
        (split l).length = (split sampleDump.pcpus.header).length)
    ∧ loadData sampleDump.lines true = .ok
      { vcpuList := zipRows sampleDump.vcpus.header
          (wellFormed sampleDump.vcpus.header sampleDump.vcpus.rows)
        pcpuList := zipRows sampleDump.pcpus.header sampleDump.pcpus.rows
        vcpulines := sampleDump.vcpus.rows
        globalData :=
          some (LineData.zip (split sampleDump.globalHeader) (split sampleDump.globalLine)) }
  := ⟨⟨by decide, by decide⟩, loadData_verbose sampleDump (by decide) (by decide)⟩

/-! ### Outside verbose mode -/

/-- Outside verbose mode `load_data` never returns, whatever the file: it reads the vcpu
table, and then its `return` reads `global_data`, which only the verbose branch assigns. -/
theorem loadData_nonverbose_raises (file : List String) :
  loadData file false
    = .error "UnboundLocalError: local variable 'global_data' referenced before assignment"
  := rfl

/-! ### A malformed row -/

/-- On a verbose dump whose global row zips against its header, a pcpu row that does not
makes `load_data(verbose=1)` raise: the pcpu loop has no `try`. -/
theorem loadData_of_bad_pcpu_row (d : VerboseDump)
    (hglobal : (split d.globalLine).length = (split d.globalHeader).length)
    (hbad : ∃ l ∈ d.pcpus.rows, (split l).length ≠ (split d.pcpus.header).length) :
  loadData d.lines true = .error "Mismatched data and headers"
  := by
  simp only [VerboseDump.lines_eq, loadData, readline, if_true, LineData.init_eq_ok hglobal,
    except_ok_bind, pure_bind,
    skipCells_rows d.cells.rows_notblank d.cells.stop_blank,
    readPcpus_of_bad_row _ d.pcpus.rows_notblank hbad]
  rfl

/-- `sampleDump` with its second pcpu row cut short by one column. -/
def sampleDumpBadPcpu : VerboseDump :=
  { sampleDump with
    pcpus := ⟨"cpu  used  idle  yield", ["   0  12.5  30.1  14", "   1  11.0  31.6"], "",
      by decide, by decide⟩ }

theorem loadData_sampleDumpBadPcpu :
  (∃ s, loadData sampleDump.lines true = .ok s)
    ∧ loadData sampleDumpBadPcpu.lines true = .error "Mismatched data and headers"
  := ⟨⟨_, rfl⟩, rfl⟩

end SchedTest
