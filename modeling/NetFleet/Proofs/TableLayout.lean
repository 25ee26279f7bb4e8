import Mathlib
import NetFleet.Console.Table

/-!
# Tables in columns

A table's header, its divider and its rows are printed one line each, the
cells of a column starting at one visible offset on every line. Cells may be
colored: a color sequence `ESC [ digits-and-semicolons m` takes no room, so a
cell is as wide as its visible characters (`Shows`), and the widths of the
columns are taken from those.

The divider under a header is as many dashes as the header has bytes. It fits
its column as long as that is at most the column's width plus two; a header
with color sequences or characters of several bytes can be longer, and then
the padding after it would be negative (see `Console.negativeRepeat`). With
every divider fitting, and at least one row, the table prints its header, its
divider and each row in columns (`table_in_columns`).
-/

namespace NetFleet.Console

/-! ### Visible characters -/

/-- A control character: Unicode's general category `Cc`. -/
def isControl (c : Char) : Bool := c.toNat < 0x20 || (0x7f ≤ c.toNat && c.toNat ≤ 0x9f)

/-- `Shows cs v`: the text `cs` is made of characters that are no control
characters and of color sequences `ESC [ digits-and-semicolons m`; `v` are
its visible characters. -/
inductive Shows : List Char → List Char → Prop
  | nil : Shows [] []
  | plain {c : Char} {cs v : List Char} : isControl c = false → Shows cs v → Shows (c :: cs) (c :: v)
  | color {ps cs v : List Char} : (∀ p ∈ ps, p.isDigit ∨ p = ';') → Shows cs v →
      Shows ('\x1b' :: '[' :: (ps ++ 'm' :: cs)) v

/-- Text whose only control characters stand in color sequences. -/
def Colored (s : String) : Prop := ∃ v, Shows s.toList v

/-- Reads a text left to right: outside a color sequence (`false`) each
character is no control character, or `ESC [` opens a sequence; inside one
(`true`), digits and semicolons run to its `m`. -/
def colorsClose : Bool → List Char → Bool
  | false, [] => true
  | true, [] => false
  | false, c :: cs =>
    if c = '\x1b' then (match cs with | '[' :: rest => colorsClose true rest | _ => false)
    else !isControl c && colorsClose false cs
  | true, c :: cs => if c.isDigit || c = ';' then colorsClose true cs else c = 'm' && colorsClose false cs

/-- What `colorsClose` checks: outside a sequence, text that shows something;
inside one, the rest of its parameters, its `m`, and then such text. -/
def Closes : Bool → List Char → Prop
  | false, cs => ∃ v, Shows cs v
  | true, cs => ∃ ps rest v, cs = ps ++ 'm' :: rest ∧ (∀ p ∈ ps, p.isDigit ∨ p = ';') ∧ Shows rest v

theorem colorsClose_sound {b : Bool} {cs : List Char} (h : colorsClose b cs = true) : Closes b cs := by
  fun_induction colorsClose b cs with
  | case1 => exact ⟨[], .nil⟩
  | case2 => simp at h
  | case3 rest ih =>
    obtain ⟨ps, rest, v, rfl, hps, hv⟩ := ih h
    exact ⟨v, .color hps hv⟩
  | case4 => simp at h
  | case5 c cs _ ih =>
    simp only [Bool.and_eq_true, Bool.not_eq_true'] at h
    obtain ⟨v, hv⟩ := ih h.2
    exact ⟨c :: v, .plain h.1 hv⟩
  | case6 c cs hc ih =>
    obtain ⟨ps, rest, v, rfl, hps, hv⟩ := ih h
    refine ⟨c :: ps, rest, v, rfl, ?_, hv⟩
    rintro p (_ | ⟨_, hp⟩)
    · simpa using hc
    · exact hps p hp
  | case7 c cs _ ih =>
    simp only [Bool.and_eq_true, decide_eq_true_eq] at h
    obtain ⟨rfl, h⟩ := h
    obtain ⟨v, hv⟩ := ih h
    exact ⟨[], cs, v, rfl, by simp, hv⟩

theorem colored_of_check {s : String} (h : colorsClose false s.toList = true) : Colored s :=
  colorsClose_sound h

theorem Shows.append {a va b vb : List Char} (ha : Shows a va) (hb : Shows b vb) :
    Shows (a ++ b) (va ++ vb) := by
  induction ha with
  | nil => exact hb
  | plain hc _ ih => exact .plain hc ih
  | color hps _ ih => simpa using Shows.color hps ih

theorem shows_replicate {c : Char} (hc : isControl c = false) (n : Nat) :
    Shows (List.replicate n c) (List.replicate n c) := by
  induction n with
  | zero => exact .nil
  | succ n ih => exact .plain hc ih

/-- A text that shows anything holds no line end. -/
theorem Shows.newline_not_mem {cs v : List Char} (h : Shows cs v) : '\n' ∉ cs := by
  induction h with
  | nil => simp
  | plain hc _ ih =>
    rintro (_ | ⟨_, hmem⟩)
    · simp [isControl] at hc
    · exact ih hmem
  | color hps _ ih =>
    intro hmem
    simp only [List.mem_cons, List.mem_append] at hmem
    rcases hmem with h | h | hp | h | hmem
    · exact absurd h (by decide)
    · exact absurd h (by decide)
    · rcases hps _ hp with hd | h
      · exact absurd hd (by decide)
      · exact absurd h (by decide)
    · exact absurd h (by decide)
    · exact ih hmem

/-- The parameters of a color sequence and its closing `m` are dropped,
whatever follows. -/
theorem stripFrom_params (a b : Char) (more : List Char) {ps : List Char}
    (hps : ∀ p ∈ ps, p.isDigit ∨ p = ';') (rest : List Char) :
    stripFrom (a :: b :: more) (ps ++ 'm' :: rest) = stripFrom [] rest := by
  induction ps generalizing more with
  | nil => simp [stripFrom]
  | cons p ps ih =>
    have hp : (p.isDigit || p = ';') = true := by
      rcases hps p (by simp) with h | h <;> simp [h]
    simp only [List.cons_append, stripFrom, hp, if_true]
    exact ih (more ++ [p]) (fun q hq => hps q (by simp [hq]))

/-- Colors are stripped from a text that shows `v`, whatever follows it. -/
theorem stripFrom_shows {cs v : List Char} (h : Shows cs v) (rest : List Char) :
    stripFrom [] (cs ++ rest) = v ++ stripFrom [] rest := by
  induction h with
  | nil => rfl
  | @plain c _ _ hc _ ih =>
    have hesc : c ≠ '\x1b' := by
      rintro rfl
      simp [isControl] at hc
    simp [stripFrom, hesc, ih]
  | @color ps cs v hps _ ih =>
    have hopen : ∀ t, stripFrom [] ('\x1b' :: '[' :: t) = stripFrom ['\x1b', '['] t := by
      intro t
      simp [stripFrom]
    simp only [List.cons_append, List.append_assoc, hopen]
    rw [stripFrom_params _ _ [] hps, ih]

theorem visibleLength_of_shows {s : String} {v : List Char} (h : Shows s.toList v) :
    visibleLength s = v.length := by
  simpa [visibleLength, stripColors, stripFrom] using congrArg List.length (stripFrom_shows h [])

/-! ### One line in columns -/

/-- `n` spaces. -/
def spaces (n : Nat) : String := String.ofList (List.replicate n ' ')

/-- The cells of a line, each followed by its run of spaces. -/
def padCells (cells : List String) (gaps : List Nat) : List String :=
  List.zipWith (fun c g => c ++ spaces g) cells gaps

/-- `l` prints `cells` in columns of widths `ws`: it is the cells in order,
each followed by a run of spaces, less the spaces at its end, and cell `i`
starts after `(w₀ + 2) + … + (wᵢ₋₁ + 2)` visible characters. -/
def InColumns (ws : List Nat) (cells : List String) (l : String) : Prop :=
  ∃ gaps : List Nat, gaps.length = cells.length ∧
    l = trimSpaces (String.join (padCells cells gaps)) ∧
    ∀ i < cells.length, ∃ v, Shows (String.join ((padCells cells gaps).take i)).toList v ∧
      v.length = ((ws.take i).map (· + 2)).sum

/-- The spaces a line writes after each cell: up to its column's width plus
two, and none after the last. -/
def gapsOf : List Nat → List String → List Nat
  | _, [] => []
  | _, [_] => [0]
  | ws, c :: d :: cs => (ws.headD 0 + 2 - visibleLength c) :: gapsOf ws.tail (d :: cs)

theorem length_gapsOf (ws : List Nat) (cells : List String) : (gapsOf ws cells).length = cells.length := by
  induction cells generalizing ws with
  | nil => rfl
  | cons c cs ih =>
    cases cs with
    | nil => rfl
    | cons d cs => simp [gapsOf, ih]

section
variable {ws : List Nat} {cells : List String}

/-- Every cell but the last fits its column plus two. -/
def Fits (ws : List Nat) (cells : List String) : Prop :=
  ∀ i, i + 1 < cells.length → visibleLength (cells.getD i "") ≤ ws.getD i 0 + 2

theorem Fits.tail {w : Nat} {c : String} (h : Fits (w :: ws) (c :: cells)) : Fits ws cells :=
  fun i hi => by simpa using h (i + 1) (by simpa using hi)

theorem line_go_eq (h : Fits ws cells) :
    line.go ws cells = .ok (String.join (padCells cells (gapsOf ws cells))) := by
  induction cells generalizing ws with
  | nil => rfl
  | cons c cs ih =>
    cases cs with
    | nil => simp [line.go, padCells, gapsOf, spaces]
    | cons d cs =>
      -- the first cell fits, and so do the others in the other columns
      have hc : ¬ ws.headD 0 + 2 < visibleLength c := by
        have := h 0 (by simp)
        cases ws <;> simp_all
      have htail : Fits ws.tail (d :: cs) := fun i hi => by
        have := h (i + 1) (by simpa using hi)
        cases ws <;> simp_all
      rw [line.go, if_neg hc, ih htail]
      · show Except.ok _ = _
        simp [padCells, gapsOf, spaces, String.append_assoc]
      · simp

/-- With every cell colored and fitting, cell `i` of a line starts after the
columns before it, each as wide as its width plus two. -/
theorem offsets_of_fits (hlen : ws.length = cells.length) (hcol : ∀ c ∈ cells, Colored c)
    (h : Fits ws cells) (i : Nat) (hi : i < cells.length) :
    ∃ v, Shows (String.join ((padCells cells (gapsOf ws cells)).take i)).toList v ∧
      v.length = ((ws.take i).map (· + 2)).sum := by
  induction cells generalizing ws i with
  | nil => simp at hi
  | cons c cs ih =>
    obtain ⟨w, ws, rfl⟩ : ∃ w ws', ws = w :: ws' := List.exists_cons_of_length_eq_add_one hlen
    cases i with
    | zero => exact ⟨[], by simpa using Shows.nil, by simp⟩
    | succ k =>
      cases cs with
      | nil => simp at hi
      | cons d cs =>
        obtain ⟨vc, hvc⟩ := hcol c (by simp)
        obtain ⟨v, hv, hvlen⟩ := ih (by simpa using hlen) (fun x hx => hcol x (by simp [hx]))
          h.tail k (by simpa using hi)
        have hc : vc.length ≤ w + 2 := by
          simpa [visibleLength_of_shows hvc] using h 0 (by simp)
        refine ⟨vc ++ List.replicate (w + 2 - vc.length) ' ' ++ v, ?_, ?_⟩
        · have hsp := shows_replicate (c := ' ') (by decide) (w + 2 - vc.length)
          simpa [padCells, gapsOf, spaces, visibleLength_of_shows hvc] using (hvc.append hsp).append hv
        · simp [hvlen]
          omega

theorem newline_not_mem_padCells (hcol : ∀ c ∈ cells, Colored c) (gaps : List Nat) :
    '\n' ∉ (String.join (padCells cells gaps)).toList := by
  simp only [String.toList_join, List.mem_flatMap, padCells, not_exists, not_and]
  intro piece hpiece
  obtain ⟨k, hk, rfl⟩ := List.mem_iff_getElem.1 hpiece
  simp only [List.getElem_zipWith, String.toList_append, spaces, String.toList_ofList, List.mem_append,
    List.mem_replicate, not_or]
  have hk' : k < cells.length := by
    rw [List.length_zipWith] at hk
    omega
  obtain ⟨v, hv⟩ := hcol _ (List.getElem_mem hk')
  exact ⟨hv.newline_not_mem, by simp⟩

/-- The text `line` prints for `cells`, before the line end. -/
def lineText (ws : List Nat) (cells : List String) : String :=
  trimSpaces (String.join (padCells cells (gapsOf ws cells)))

theorem line_eq_lineText (h : Fits ws cells) : line ws cells = .ok (lineText ws cells ++ "\n") := by
  simp only [line, line_go_eq h]
  rfl

/-- A line of colored cells that fit is printed in columns. -/
theorem lineText_inColumns (hlen : ws.length = cells.length) (hcol : ∀ c ∈ cells, Colored c)
    (h : Fits ws cells) : InColumns ws cells (lineText ws cells) :=
  ⟨gapsOf ws cells, length_gapsOf ws cells, rfl, offsets_of_fits hlen hcol h⟩

theorem newline_not_mem_lineText (hcol : ∀ c ∈ cells, Colored c) : '\n' ∉ (lineText ws cells).toList := by
  intro hmem
  simp only [lineText, trimSpaces, String.toList_ofList, List.mem_reverse] at hmem
  exact newline_not_mem_padCells hcol _ (List.mem_reverse.1 (List.dropWhile_sublist _ |>.subset hmem))

end

/-! ### The table -/

/-- Row `r` as a line of `n` cells: missing cells are blank, extra cells
dropped. -/
def cellsOf (n : Nat) (r : List String) : List String := (List.range n).map fun j => r.getD j ""

/-- The width of column `j`: the widest of its header and its cells, in
visible characters. -/
def colWidth (H : List String) (R : List (List String)) (j : Nat) : Nat :=
  R.foldl (fun m r => max m (visibleLength (r.getD j ""))) (visibleLength (H.getD j ""))

/-- The divider under a header: a dash for each of its bytes. -/
def dividerOf (h : String) : String := String.ofList (List.replicate h.utf8ByteSize '-')

theorem fitRow_eq_cellsOf (n : Nat) (r : List String) : fitRow n r = cellsOf n r := by
  apply List.ext_getElem
  · simp [fitRow, cellsOf]
    omega
  · intro j h₁ h₂
    have hjn : j < n := by simpa [cellsOf] using h₂
    simp only [fitRow, cellsOf, List.getElem_map, List.getElem_range]
    by_cases hj : j < r.length
    · rw [List.getElem_append_left (by simp; omega)]
      simp [List.getD_eq_getElem?_getD, hj]
    · rw [List.getElem_append_right (by simp; omega)]
      simp [List.getD_eq_getElem?_getD, hj]

theorem foldl_addRow (H : List String) (e : String) (R : List (List String)) :
    R.foldl Table.addRow { headers := H, empty := e } =
      { headers := H, rows := R.map (cellsOf H.length), empty := e } := by
  suffices ∀ t : Table, t.headers = H → R.foldl Table.addRow t =
      { t with rows := t.rows ++ R.map (cellsOf H.length) } by
    simpa using this { headers := H, empty := e } rfl
  induction R with
  | nil => simp
  | cons r R ih =>
    intro t ht
    rw [List.foldl_cons, ih _ (by simpa [Table.addRow] using ht)]
    simp [Table.addRow, ht, fitRow_eq_cellsOf]

theorem le_foldl_max {α : Type} (g : α → Nat) (R : List α) (a : Nat) :
    a ≤ R.foldl (fun m r => max m (g r)) a ∧ ∀ r ∈ R, g r ≤ R.foldl (fun m r => max m (g r)) a := by
  induction R generalizing a with
  | nil => simp
  | cons r R ih =>
    obtain ⟨h₁, h₂⟩ := ih (max a (g r))
    refine ⟨le_trans (le_max_left _ _) h₁, ?_⟩
    rintro x (_ | ⟨_, hx⟩)
    · exact le_trans (le_max_right _ _) h₁
    · exact h₂ x hx

/-- Each row takes the larger width, column by column. -/
theorem foldl_widen (n : Nat) (f : Nat → Nat) (R : List (List String)) :
    (R.map (cellsOf n)).foldl (fun ws row => (ws.zip row).map fun p => max p.1 (visibleLength p.2))
      ((List.range n).map f) =
    (List.range n).map fun j => R.foldl (fun m r => max m (visibleLength (r.getD j ""))) (f j) := by
  induction R generalizing f with
  | nil => rfl
  | cons r R ih =>
    simp only [List.map_cons, List.foldl_cons, cellsOf, List.zip_map', List.map_map]
    exact ih _

/-- The widths a table computes are the widths of its columns. -/
theorem widths_eq_colWidth (H : List String) (R : List (List String)) (e : String) :
    ({ headers := H, rows := R.map (cellsOf H.length), empty := e } : Table).widths =
      (List.range H.length).map (colWidth H R) := by
  have hheaders : H.map visibleLength = (List.range H.length).map fun j => visibleLength (H.getD j "") := by
    apply List.ext_getElem
    · simp
    · intro j h₁ h₂
      simp [List.getD_eq_getElem?_getD, show j < H.length by simpa using h₁]
  simp only [Table.widths, hheaders]
  exact foldl_widen H.length _ R

theorem mapM_ok {α β ε : Type} {f : α → Except ε β} {g : α → β} {xs : List α}
    (h : ∀ x ∈ xs, f x = .ok (g x)) : xs.mapM f = .ok (xs.map g) := by
  induction xs with
  | nil => rfl
  | cons x xs ih =>
    simp only [List.mapM_cons, h x (by simp), ih (fun y hy => h y (by simp [hy]))]
    rfl

section
variable {H : List String} {R : List (List String)}

theorem getD_colWidths {i : Nat} (hi : i < H.length) :
    ((List.range H.length).map (colWidth H R)).getD i 0 = colWidth H R i := by
  simp [List.getD_eq_getElem?_getD, hi]

theorem colored_empty : Colored "" := ⟨[], .nil⟩

theorem colored_dividerOf (h : String) : Colored (dividerOf h) :=
  ⟨_, by simpa [dividerOf] using shows_replicate (c := '-') (by decide) h.utf8ByteSize⟩

theorem visibleLength_dividerOf (h : String) : visibleLength (dividerOf h) = h.utf8ByteSize := by
  rw [visibleLength_of_shows (by simpa [dividerOf] using shows_replicate (c := '-') (by decide) h.utf8ByteSize)]
  simp

theorem colored_cellsOf (hC : ∀ r ∈ R, ∀ c ∈ r, Colored c) {r : List String} (hr : r ∈ R) (n : Nat) :
    ∀ c ∈ cellsOf n r, Colored c := by
  simp only [cellsOf, List.mem_map, List.mem_range]
  rintro c ⟨j, -, rfl⟩
  by_cases hj : j < r.length
  · simpa [List.getD_eq_getElem?_getD, hj] using hC r hr _ (List.getElem_mem hj)
  · simpa [List.getD_eq_getElem?_getD, hj] using colored_empty

theorem fits_headers : Fits ((List.range H.length).map (colWidth H R)) H := by
  intro i hi
  rw [getD_colWidths (by omega)]
  have := (le_foldl_max (fun r : List String => visibleLength (r.getD i "")) R
    (visibleLength (H.getD i ""))).1
  unfold colWidth
  omega

theorem fits_dividers (hdiv : ∀ i, i + 1 < H.length → (H.getD i "").utf8ByteSize ≤ colWidth H R i + 2) :
    Fits ((List.range H.length).map (colWidth H R)) (H.map dividerOf) := by
  intro i hi
  rw [List.length_map] at hi
  rw [getD_colWidths (by omega)]
  simpa [List.getD_eq_getElem?_getD, show i < H.length by omega, visibleLength_dividerOf] using hdiv i hi

theorem fits_cellsOf {r : List String} (hr : r ∈ R) :
    Fits ((List.range H.length).map (colWidth H R)) (cellsOf H.length r) := by
  intro i hi
  have hi' : i < H.length := by simpa [cellsOf] using (show i < (cellsOf H.length r).length by omega)
  rw [getD_colWidths hi']
  have hcell : (cellsOf H.length r).getD i "" = r.getD i "" := by
    simp [cellsOf, List.getD_eq_getElem?_getD, hi']
  rw [hcell]
  have := (le_foldl_max (fun r : List String => visibleLength (r.getD i "")) R
    (visibleLength (H.getD i ""))).2 r hr
  unfold colWidth
  omega

end

/-- With headers and cells colored, and every divider but the last no wider than
its column plus two, a table without rows prints nothing, or only its empty line
when one is set; and a table with rows prints its header, its divider and each
row, one line each, in columns as wide as their widest cell, header included. -/
theorem table_in_columns (H : List String) (R : List (List String)) (e : String)
    (hH : ∀ h ∈ H, Colored h) (hC : ∀ r ∈ R, ∀ c ∈ r, Colored c)
    (hdiv : ∀ i, i + 1 < H.length → (H.getD i "").utf8ByteSize ≤ colWidth H R i + 2) :
    (R = [] → (R.foldl Table.addRow { headers := H, empty := e }).render =
      .ok (if e = "" then "" else e ++ "\n")) ∧
    (R ≠ [] → ∃ ls : List String,
      (R.foldl Table.addRow { headers := H, empty := e }).render = .ok (String.join (ls.map (· ++ "\n"))) ∧
      ls.length = R.length + 2 ∧ (∀ l ∈ ls, '\n' ∉ l.toList) ∧
      List.Forall₂ (InColumns ((List.range H.length).map (colWidth H R)))
        (H :: H.map dividerOf :: R.map (cellsOf H.length)) ls) := by
  refine ⟨?_, fun hR => ?_⟩
  · -- no rows: the empty line, if any
    rintro rfl
    by_cases he : e = "" <;> simp [Table.render, he]
  set ws := (List.range H.length).map (colWidth H R)
  set L := H :: H.map dividerOf :: R.map (cellsOf H.length)
  -- every line of the table has one cell per column, colored and fitting
  have hline : ∀ cells ∈ L, ws.length = cells.length ∧ (∀ c ∈ cells, Colored c) ∧ Fits ws cells := by
    intro cells hc
    simp only [L, List.mem_cons] at hc
    rcases hc with rfl | rfl | hrow
    · exact ⟨by simp [ws], hH, fits_headers⟩
    · exact ⟨by simp [ws], by simpa using fun h _ => colored_dividerOf h, fits_dividers hdiv⟩
    · obtain ⟨r, hr, rfl⟩ := List.mem_map.1 hrow
      exact ⟨by simp [ws, cellsOf], colored_cellsOf hC hr _, fits_cellsOf hr⟩
  refine ⟨L.map (lineText ws), ?_, by simp [L], ?_, ?_⟩
  · have hmap : L.mapM (line ws) = .ok (L.map fun cells => lineText ws cells ++ "\n") :=
      mapM_ok fun cells hc => line_eq_lineText (hline cells hc).2.2
    have hrows : (R.map (cellsOf H.length)).isEmpty = false := by simpa using hR
    rw [foldl_addRow]
    simp only [Table.render, hrows, Bool.false_eq_true, if_false, widths_eq_colWidth]
    change (do let lines ← L.mapM (line ws); pure (String.join lines)) = _
    rw [hmap]
    simp only [List.map_map]
    rfl
  · simp only [List.mem_map]
    rintro l ⟨cells, hc, rfl⟩
    exact newline_not_mem_lineText (hline cells hc).2.1
  · rw [List.forall₂_map_right_iff, List.forall₂_same]
    intro cells hc
    obtain ⟨hlen, hcol, hfit⟩ := hline cells hc
    exact lineText_inColumns hlen hcol hfit

/-- The headers of the package's own test of colored cells. -/
def statusHeaders : List String := ["STATUS", "TARGET"]

/-- Its rows, the first cell colored red. -/
def statusRows : List (List String) := [["\x1b[31mfailed\x1b[0m", "eth1"], ["ok", "eth2"]]

theorem status_table_in_columns :
    statusRows ≠ [] ∧ (∀ h ∈ statusHeaders, Colored h) ∧ (∀ r ∈ statusRows, ∀ c ∈ r, Colored c) ∧
    (∀ i, i + 1 < statusHeaders.length →
      (statusHeaders.getD i "").utf8ByteSize ≤ colWidth statusHeaders statusRows i + 2) ∧
    (∃ ls : List String,
      (statusRows.foldl Table.addRow { headers := statusHeaders, empty := "" }).render =
        .ok (String.join (ls.map (· ++ "\n"))) ∧
      ls.length = statusRows.length + 2 ∧ (∀ l ∈ ls, '\n' ∉ l.toList) ∧
      List.Forall₂ (InColumns ((List.range statusHeaders.length).map (colWidth statusHeaders statusRows)))
        (statusHeaders :: statusHeaders.map dividerOf :: statusRows.map (cellsOf statusHeaders.length)) ls) ∧
    (([] : List (List String)).foldl Table.addRow { headers := statusHeaders, empty := "no targets" }).render =
      .ok "no targets\n" := by
  have hH : ∀ h ∈ statusHeaders, Colored h := fun h hh =>
    colored_of_check ((by decide +kernel : ∀ h ∈ statusHeaders, colorsClose false h.toList = true) h hh)
  have hC : ∀ r ∈ statusRows, ∀ c ∈ r, Colored c := fun r hr c hc =>
    colored_of_check ((by decide +kernel : ∀ r ∈ statusRows, ∀ c ∈ r, colorsClose false c.toList = true) r hr c hc)
  have hdiv : ∀ i, i + 1 < statusHeaders.length →
      (statusHeaders.getD i "").utf8ByteSize ≤ colWidth statusHeaders statusRows i + 2 := by
    intro i hi
    obtain rfl : i = 0 := by
      simp [statusHeaders] at hi
      omega
    decide
  have hdiv₀ : ∀ i, i + 1 < statusHeaders.length →
      (statusHeaders.getD i "").utf8ByteSize ≤ colWidth statusHeaders [] i + 2 := by
    intro i hi
    obtain rfl : i = 0 := by
      simp [statusHeaders] at hi
      omega
    decide
  exact ⟨by decide, hH, hC, hdiv, (table_in_columns _ _ _ hH hC hdiv).2 (by decide),
    (table_in_columns statusHeaders [] "no targets" hH (by simp) hdiv₀).1 rfl⟩

/-- A table without rows prints nothing, not its header and divider; and the
divider of a colored header is wider than its column, so printing aborts. -/
theorem rowless_and_colored_header_tables :
    (([] : List (List String)).foldl Table.addRow { headers := ["KEY", "ENTRY"] }).render = .ok "" ∧
    ([["failed", "eth1"]].foldl Table.addRow { headers := ["\x1b[1mSTATUS\x1b[0m", "TARGET"] }).render =
      .error negativeRepeat := by
  constructor <;> decide

end NetFleet.Console
