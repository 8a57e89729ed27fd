import SchedTest.LoadData

/-!
# The dump read back

The scheduler prints each table of `cpu-verbose` as a line of column names followed by one
line per row, every cell a token (a non-empty run of non-blank characters) aligned by
blanks: any number before the first cell of a line, at least one before every other.  A `Snapshot` describes such a dump: a global table of one row, a
separator, the cell table the parser skips, the pcpu table ended by a blank line, and the
vcpu table at the end of the file.

`split_renderRow` is the round trip of one line: `string.split` gives back the cells,
however the columns were aligned.  Over it, `loadData_snapshot` is the round trip of the
whole dump: `load_data(verbose=1)` returns one record per row of each table, in order, and
each record gives back every cell under its column's name.
-/

namespace SchedTest

/-! ### One line -/

/-- A token: a non-empty run of non-blank characters. -/
def IsToken (t : String) : Prop :=
  t.data ≠ [] ∧ ∀ c ∈ t.data, isSpace c = false

/-- A cell as the scheduler prints it: the token `text` after `pad` blanks, and one more
unless it begins its line. -/
structure Cell where
  pad : Nat
  text : String
  token : IsToken text

/-- The characters of a printed cell that follows another on its line. -/
def Cell.render (c : Cell) : List Char :=
  List.replicate (c.pad + 1) ' ' ++ c.text.data

/-- A printed line of cells: the first after its `pad` blanks, the others after theirs. -/
def renderRow : List Cell → String
  | [] => ""
  | c :: cells => ⟨List.replicate c.pad ' ' ++ c.text.data ++ (cells.map Cell.render).flatten⟩

/-- Leading blanks only add empty fields. -/
theorem splitOnP_blanks_append (k : Nat) (l : List Char) :
  (List.replicate k ' ' ++ l).splitOnP isSpace = List.replicate k [] ++ l.splitOnP isSpace
  := by
  induction k with
  | zero => rfl
  | succ k ih =>
    rw [List.replicate_succ, List.cons_append, List.splitOnP_cons, if_pos (by decide), ih]
    rfl

/-- A token followed by a blank, or by the end of the line, is one field. -/
theorem fields_token_append {t rest : List Char} (ht : t ≠ [])
    (hts : ∀ c ∈ t, isSpace c = false) (hrest : ∀ c ∈ rest.head?, isSpace c) :
  ((t ++ rest).splitOnP isSpace).filter (fun w => !w.isEmpty)
    = t :: (rest.splitOnP isSpace).filter (fun w => !w.isEmpty)
  := by
  have hne : (!t.isEmpty) = true := by simpa using ht
  cases rest with
  | nil =>
    rw [List.append_nil, List.splitOnP_eq_single _ _ fun c hc => by simp [hts c hc]]
    simp [hne]
  | cons c rest =>
    have hc : isSpace c := hrest c rfl
    rw [List.splitOnP_first _ _ (fun c hc => by simp [hts c hc]) c hc, List.splitOnP_cons,
      if_pos hc]
    simp [hne]

theorem render_flatten_head (cells : List Cell) :
  ∀ c ∈ (cells.map Cell.render).flatten.head?, isSpace c
  := by
  cases cells with
  | nil => simp
  | cons c cells => simp [Cell.render, List.replicate_succ]; decide

/-- The cells that follow the first on a line are its other fields. -/
theorem fields_render_flatten (cells : List Cell) :
  (((cells.map Cell.render).flatten).splitOnP isSpace).filter (fun w => !w.isEmpty)
    = cells.map fun c => c.text.data
  := by
  induction cells with
  | nil => rfl
  | cons c cells ih =>
    rw [List.map_cons, List.flatten_cons, Cell.render, List.append_assoc, splitOnP_blanks_append,
      List.filter_append, fields_token_append c.token.1 c.token.2 (render_flatten_head cells), ih]
    simp

/-- `string.split` gives back the cells of a printed line, however they were aligned. -/
theorem split_renderRow (cells : List Cell) : split (renderRow cells) = cells.map Cell.text
  := by
  suffices h : ((renderRow cells).data.splitOnP isSpace).filter (fun w => !w.isEmpty)
      = cells.map fun c => c.text.data by
    simp only [split, h, List.map_map]
    rfl
  cases cells with
  | nil => rfl
  | cons c cells =>
    rw [renderRow, List.append_assoc, splitOnP_blanks_append, List.filter_append,
      fields_token_append c.token.1 c.token.2 (render_flatten_head cells), fields_render_flatten]
    simp

/-- A printed line passes `notblank` exactly when its first cell does. -/
theorem notblank_renderRow (c : Cell) (cells : List Cell) :
  notblank (renderRow (c :: cells)) = notblank c.text
  := by
  obtain ⟨ht, hts⟩ := c.token
  obtain ⟨x, xs, hx⟩ := List.exists_cons_of_ne_nil ht
  have hdrop : ∀ (k : Nat) (l : List Char),
      (List.replicate k ' ' ++ l).dropWhile isSpace = l.dropWhile isSpace := by
    intro k l
    induction k with
    | zero => rfl
    | succ k ih => simpa [List.replicate_succ, List.dropWhile_cons] using ih
  have hx' : isSpace x = false := hts x (by simp [hx])
  simp only [notblank, renderRow, List.append_assoc, hdrop, hx, List.cons_append,
    List.dropWhile_cons, hx']
  rfl

/-! ### Records -/

/-- Setting a key the dictionary lacks adds its entry at the end. -/
theorem dictSet_of_not_mem {β : Type} {d : List (String × β)} {k : String}
    (hk : k ∉ d.map Prod.fst) (v : β) :
  dictSet d k v = d ++ [(k, v)]
  := by
  induction d with
  | nil => rfl
  | cons e d ih =>
    simp only [List.map_cons, List.mem_cons, not_or] at hk
    simp [dictSet, Ne.symm hk.1, ih hk.2]

/-- Setting distinct keys one after another lists them in order. -/
theorem foldl_dictSet_of_nodup {β : Type} :
  ∀ {d l : List (String × β)}, ((d ++ l).map Prod.fst).Nodup →
    l.foldl (fun d e => dictSet d e.1 e.2) d = d ++ l
  | _, [], _ => by simp
  | d, e :: l, h => by
    have hk : e.1 ∉ d.map Prod.fst := fun hk => by
      simp only [List.map_append, List.map_cons, List.nodup_append, List.nodup_cons] at h
      exact h.2.2 hk (List.mem_cons_self _ _)
    rw [List.foldl_cons, dictSet_of_not_mem hk, foldl_dictSet_of_nodup (by simpa using h)]
    simp

/-- `[v.data[name] for name in names]`: a record read back column by column. -/
def LineData.readBack (v : LineData) (names : List String) : List (Except String String) :=
  names.map v.get

/-- The record of distinct names zipped with values gives back each value under its name. -/
theorem LineData.readBack_of_nodup : ∀ {names vals : List String}, names.Nodup →
    vals.length = names.length → (⟨names.zip vals⟩ : LineData).readBack names = vals.map .ok
  | [], [], _, _ => rfl
  | n :: ns, v :: vs, hn, hlen => by
    rw [List.nodup_cons] at hn
    have hrest : ∀ m ∈ ns, (⟨(n, v) :: ns.zip vs⟩ : LineData).get m = (⟨ns.zip vs⟩ : LineData).get m :=
      fun m hm => by
      simp only [LineData.get, List.lookup_cons, beq_eq_false_iff_ne.2 fun h : m = n => hn.1 (h ▸ hm)]
    have ih := LineData.readBack_of_nodup hn.2 (by simpa using hlen)
    simp only [LineData.readBack, List.zip_cons_cons, List.map_cons] at ih ⊢
    rw [List.map_congr_left hrest, ih]
    simp [LineData.get, List.lookup_cons]

/-- A row zipped against distinct column names gives back each value under its name. -/
theorem LineData.readBack_zip {names vals : List String} (hn : names.Nodup)
    (hlen : vals.length = names.length) :
  (LineData.zip names vals).readBack names = vals.map .ok
  := by
  rw [LineData.zip, foldl_dictSet_of_nodup (by simp [List.map_fst_zip _ _ hlen.ge, hn])]
  exact LineData.readBack_of_nodup hn hlen

/-! ### The dump -/

/-- A table as the scheduler prints it: a line of distinct column names, and rows of one
cell per column, each beginning with a number. -/
structure Grid where
  header : List Cell
  rows : List (List Cell)
  width : ∀ row ∈ rows, row.length = header.length
  numbered : ∀ row ∈ rows, ∃ c ∈ row.head?, notblank c.text
  distinct : (header.map Cell.text).Nodup

/-- The column names of a table. -/
def Grid.names (g : Grid) : List String :=
  g.header.map Cell.text

/-- The records of a table: each row zipped against the column names. -/
def Grid.records (g : Grid) : List LineData :=
  g.rows.map fun row => LineData.zip g.names (row.map Cell.text)

theorem Grid.rows_notblank (g : Grid) : ∀ l ∈ g.rows.map renderRow, notblank l
  := by
  simp only [List.mem_map, forall_exists_index, and_imp, forall_apply_eq_imp_iff₂]
  intro row hrow
  obtain ⟨c, hc, hn⟩ := g.numbered row hrow
  obtain ⟨cells, rfl⟩ : ∃ cells, row = c :: cells := by
    cases row with
    | nil => cases hc
    | cons c' cells => exact ⟨cells, by simp_all⟩
  rwa [notblank_renderRow]

theorem Grid.split_rows (g : Grid) :
  ∀ l ∈ g.rows.map renderRow, (split l).length = (split (renderRow g.header)).length
  := by
  simp only [List.mem_map, forall_exists_index, and_imp, forall_apply_eq_imp_iff₂,
    split_renderRow, List.length_map]
  exact g.width

/-- A dump as the scheduler prints it: the global table of one row, a separator, the cell
table, the pcpu table ended by a blank line, and the vcpu table at the end of the file. -/
structure Snapshot where
  globalHeader : List Cell
  globalRow : List Cell
  separator : String
  cells : Table
  pcpus : Grid
  vcpus : Grid
  global_width : globalRow.length = globalHeader.length
  global_distinct : (globalHeader.map Cell.text).Nodup

/-- The lines of a dump. -/
def Snapshot.lines (d : Snapshot) : List String :=
  renderRow d.globalHeader :: renderRow d.globalRow :: d.separator :: (d.cells.text ++
    renderRow d.pcpus.header :: (d.pcpus.rows.map renderRow ++
      "" :: renderRow d.vcpus.header :: d.vcpus.rows.map renderRow))

/-- What `load_data(verbose=1)` returns on a dump: its global record, its pcpu records, its
vcpu lines and its vcpu records, every row of every table kept. -/
theorem loadData_snapshot_eq (d : Snapshot) :
  loadData d.lines true = .ok
    { vcpuList := d.vcpus.records
      pcpuList := d.pcpus.records
      vcpulines := d.vcpus.rows.map renderRow
      globalData := some (LineData.zip (d.globalHeader.map Cell.text)
        (d.globalRow.map Cell.text)) }
  := by
  have hglobal : (split (renderRow d.globalRow)).length
      = (split (renderRow d.globalHeader)).length := by
    simp [split_renderRow, d.global_width]
  have hvcpus := readVcpus_rows (split (renderRow d.vcpus.header)) d.vcpus.rows_notblank
    (by simp : ∀ l ∈ ([] : List String).head?, notblank l = false)
  rw [List.append_nil, List.filter_eq_self.2 fun l hl => by
    simpa using d.vcpus.split_rows l hl] at hvcpus
  simp only [Snapshot.lines, Table.text, List.cons_append, List.nil_append, List.append_assoc,
    loadData, readline, if_true, LineData.init_eq_ok hglobal, except_ok_bind, pure_bind,
    skipCells_rows d.cells.rows_notblank d.cells.stop_blank,
    readPcpus_rows _ d.pcpus.rows_notblank d.pcpus.split_rows (by decide : notblank "" = false),
    hvcpus]
  simp [Grid.records, Grid.names, split_renderRow]

/-- Every record of a table gives back its row's cells under the column names. -/
theorem Grid.readBack_records (g : Grid) :
  g.records.map (·.readBack g.names) = g.rows.map (·.map fun c => .ok c.text)
  := by
  simp only [Grid.records, List.map_map]
  refine List.map_congr_left fun row hrow => ?_
  have hlen : (row.map Cell.text).length = g.names.length := by
    simpa [Grid.names] using g.width row hrow
  have hn : g.names.Nodup := g.distinct
  simp only [Function.comp, LineData.readBack_zip hn hlen, List.map_map]
  rfl

/-- The round trip of the dump: `load_data(verbose=1)` returns one record per row of each
table, in file order, and every record gives back each cell of its row under the cell's
column name; `vcpulines` holds the vcpu lines as printed. -/
theorem loadData_snapshot (d : Snapshot) :
  ∃ sched, loadData d.lines true = .ok sched ∧
    sched.globalData.map (·.readBack (d.globalHeader.map Cell.text))
      = some (d.globalRow.map fun c => .ok c.text) ∧
    sched.pcpuList.map (·.readBack d.pcpus.names) = d.pcpus.rows.map (·.map fun c => .ok c.text) ∧
    sched.vcpuList.map (·.readBack d.vcpus.names) = d.vcpus.rows.map (·.map fun c => .ok c.text) ∧
    sched.vcpulines = d.vcpus.rows.map renderRow
  := ⟨_, loadData_snapshot_eq d, by
    have hlen : (d.globalRow.map Cell.text).length = (d.globalHeader.map Cell.text).length := by
      simpa using d.global_width
    simp [LineData.readBack_zip d.global_distinct hlen],
    d.pcpus.readBack_records, d.vcpus.readBack_records, rfl⟩

end SchedTest
