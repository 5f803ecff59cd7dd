import Mathlib.Data.List.TakeWhile
import MiniGrc.ForStd.Except
import MiniGrc.ForStd.Stems
import MiniGrc.App.VendorRoster

/-!
# Roster imports

An import reads the whole file before it writes. Every reason for which the code itself
refuses a file is a `VendorRosterImportError`; a `csv.Error` of the reader and a refusal of the
database are not, and pass through.

## Key results

- `import_allOrNothing_iff`: which imports are stored completely or refused with that error
-/

namespace MiniGrc.VendorRosters

open Connectors (insertRow Person)
open FrameworkRequirements (cell)
open Imports (isUtf8)
open Users (normalizeEmail)

variable {DateTime : Type} (py : Python DateTime)

/-! ## Stripped text -/

/-- What is left begins with a character that is kept. -/
theorem exists_of_dropWhile_ne_nil {p : Char → Bool} {text : List Char}
    (h : text.dropWhile p ≠ []) : ∃ c ∈ text.dropWhile p, p c = false :=
  ⟨_, List.head_mem h, by simpa using List.head_dropWhile_not p h⟩

/-- What is left of a text has a character that is no space. -/
theorem exists_of_strip_ne_nil {text : List Char} (h : strip text ≠ []) :
    ∃ c ∈ strip text, isPySpace c = false := by
  have hne : (text.dropWhile isPySpace).reverse.dropWhile isPySpace ≠ [] :=
    fun hnil => h (List.reverse_eq_nil_iff.2 hnil)
  obtain ⟨c, hc, hspace⟩ := exists_of_dropWhile_ne_nil hne
  exact ⟨c, List.mem_reverse.2 hc, hspace⟩

/-- Text that has been stripped is not blank, unless nothing is left of it. -/
theorem strip_strip_ne_nil {text : List Char} (h : strip text ≠ []) : strip (strip text) ≠ [] := by
  obtain ⟨c, hc, hspace⟩ := exists_of_strip_ne_nil h
  intro hnil
  have hall : ∀ c ∈ (strip text).dropWhile isPySpace, isPySpace c = true := by
    intro c hc
    rw [strip, List.reverse_eq_nil_iff, List.dropWhile_eq_nil_iff] at hnil
    exact hnil c (List.mem_reverse.2 hc)
  have hdrop : (strip text).dropWhile isPySpace = [] := by
    by_contra hne
    obtain ⟨c, hc, hspace⟩ := exists_of_dropWhile_ne_nil hne
    exact absurd (hall c hc) (by simp [hspace])
  rw [List.dropWhile_eq_nil_iff] at hdrop
  exact absurd (hdrop c hc) (by simp [hspace])

/-! ## Rows of a file -/

/-- The normalized address of a row of a file. -/
def emailOf (row : CsvRow) : String := normalizeEmail py.lower (cell row "email")

/-- The entry of a row of a file. -/
def entryOf (row : CsvRow) : RosterEntry DateTime where
  normalizedEmail := emailOf py row
  importedEmail := cell row "email"
  importedName := cell row "name"
  importedRole := cell row "role"
  importedStatus := cell row "status"
  importedLastLoginAt :=
    if cell row "last_login_at" = "" then none
    else py.fromIsoFormat (replaceZ (cell row "last_login_at"))

/-- The row has an address, and a time that can be read if it has one. -/
def RowFits (row : CsvRow) : Prop :=
  cell row "email" ≠ "" ∧ (cell row "last_login_at" = "" ∨
    (py.fromIsoFormat (replaceZ (cell row "last_login_at"))).isSome)

/-- The rows pass the checks: they fit, are not too many, and have different addresses. -/
structure Acceptable (maxRows : Nat) (rows : List CsvRow) : Prop where
  length_le : rows.length ≤ maxRows
  fits : ∀ row ∈ rows, RowFits py row
  nodup : (rows.map (emailOf py)).Nodup

variable {py} {maxRows : Nat} {parsed parsed' : Parsed DateTime} {row : CsvRow} {n : Nat}
  {failure : Failure} {rows : List CsvRow}

/-- A normalized address is not empty. -/
theorem emailOf_ne (hlower : ∀ text, py.lower text = "" → text = "")
    (h : cell row "email" ≠ "") : emailOf py row ≠ "" := by
  intro hempty
  have hstrip : strip (cell row "email").toList = [] := by
    rw [← String.toList_ofList (l := strip (cell row "email").toList), strip]
    exact congrArg String.toList (hlower _ hempty)
  have hcell : (cell row "email").toList = strip ((row "email").getD "").toList :=
    String.toList_ofList
  rw [hcell] at hstrip
  refine strip_strip_ne_nil (fun hnil => h ?_) hstrip
  rw [cell, stripText, hnil]

/-- A login time is read when it is blank or an ISO time. -/
theorem parseLastLogin_eq_ok {value : String} {time : Option DateTime} :
    parseLastLogin py value = .ok time ↔
      (value = "" ∨ (py.fromIsoFormat (replaceZ value)).isSome) ∧
        time = if value = "" then none else py.fromIsoFormat (replaceZ value) := by
  unfold parseLastLogin
  by_cases hvalue : value = ""
  · rw [if_pos hvalue, if_pos hvalue, Except.ok.injEq, eq_comm]
    exact (and_iff_right (.inl hvalue)).symm
  · rw [if_neg hvalue, if_neg hvalue]
    cases hread : py.fromIsoFormat (replaceZ value) with
    | none => simp [hvalue]
    | some x => simp [hvalue, @eq_comm _ time]

/-- A login time that is no ISO time is refused. -/
theorem parseLastLogin_error {value : String} (h : parseLastLogin py value = .error failure) :
    ∃ message, failure = .vendorRosterImportError message := by
  unfold parseLastLogin at h
  split at h
  · cases h
  · split at h
    · cases h
    · exact ⟨_, (Except.error.inj h).symm⟩

/-- The turns of the loop that go on. -/
theorem parseRow_eq_ok :
    parseRow py maxRows parsed (n, row) = .ok parsed' ↔
      n - 1 ≤ maxRows ∧ RowFits py row ∧ emailOf py row ∉ parsed.seenEmails ∧
        parsed' = ⟨parsed.rows ++ [entryOf py row], emailOf py row :: parsed.seenEmails⟩ := by
  unfold parseRow RowFits
  simp only
  split_ifs with hmax hemail hseen
  · simp [show ¬ n - 1 ≤ maxRows by omega]
  · simp [hemail]
  · simp [emailOf, hseen]
  · rw [Except.bind_eq_ok]
    have hmax : n - 1 ≤ maxRows := by omega
    constructor
    · rintro ⟨time, htime, heq⟩
      obtain ⟨hread, rfl⟩ := parseLastLogin_eq_ok.1 htime
      exact ⟨hmax, ⟨hemail, hread⟩, hseen, (Except.ok.inj heq).symm⟩
    · rintro ⟨-, ⟨-, hread⟩, -, rfl⟩
      exact ⟨_, parseLastLogin_eq_ok.2 ⟨hread, rfl⟩, rfl⟩

/-- A turn of the loop that raises. -/
theorem parseRow_error {line : Nat × CsvRow}
    (h : parseRow py maxRows parsed line = .error failure) :
    ∃ message, failure = .vendorRosterImportError message := by
  unfold parseRow at h
  simp only at h
  split_ifs at h
  · exact ⟨_, (Except.error.inj h).symm⟩
  · exact ⟨_, (Except.error.inj h).symm⟩
  · exact ⟨_, (Except.error.inj h).symm⟩
  · rcases Except.bind_eq_error.1 h with h | ⟨time, -, h⟩
    · exact parseLastLogin_error h
    · cases h

/-- The loop goes through all rows exactly if they pass the checks. -/
theorem foldlM_parseRow_eq_ok (hn : 2 ≤ n) :
    ((rows.zipIdx n).map Prod.swap).foldlM (parseRow py maxRows) parsed = .ok parsed' ↔
      (rows = [] ∨ n + rows.length ≤ maxRows + 2) ∧ (∀ row ∈ rows, RowFits py row) ∧
        (rows.map (emailOf py)).Nodup ∧ (∀ row ∈ rows, emailOf py row ∉ parsed.seenEmails) ∧
        parsed' = ⟨parsed.rows ++ rows.map (entryOf py),
          (rows.map (emailOf py)).reverse ++ parsed.seenEmails⟩ := by
  -- Over the rows: the line number and the addresses seen go along.
  induction rows generalizing parsed n with
  | nil => simp [pure, Except.pure, @eq_comm _ parsed]
  | cons row rows ih =>
    have hn' : 2 ≤ n + 1 := by omega
    rw [List.zipIdx_cons, List.map_cons, List.foldlM_cons, Except.bind_eq_ok]
    constructor
    · rintro ⟨next, hrow, hrows⟩
      obtain ⟨hmax, hfits, hseen, rfl⟩ := parseRow_eq_ok.1 hrow
      obtain ⟨hlength, hall, hnodup, hseen', rfl⟩ := (ih hn').1 hrows
      refine ⟨.inr ?_, ?_, ?_, ?_, ?_⟩
      · rcases hlength with rfl | hlength
        · simp only [List.length_cons, List.length_nil]
          omega
        · simp only [List.length_cons]
          omega
      · exact List.forall_mem_cons.2 ⟨hfits, hall⟩
      · rw [List.map_cons, List.nodup_cons]
        refine ⟨fun hmem => ?_, hnodup⟩
        obtain ⟨row', hrow', heq⟩ := List.mem_map.1 hmem
        refine hseen' row' hrow' ?_
        rw [heq]
        exact List.mem_cons_self
      · exact List.forall_mem_cons.2
          ⟨hseen, fun row' hrow' hmem => hseen' row' hrow' (List.mem_cons_of_mem _ hmem)⟩
      · simp
    · rintro ⟨hlength, hall, hnodup, hseen, rfl⟩
      have hlength := hlength.resolve_left (List.cons_ne_nil row rows)
      rw [List.length_cons] at hlength
      rw [List.map_cons, List.nodup_cons] at hnodup
      rw [List.forall_mem_cons] at hall hseen
      refine ⟨_, parseRow_eq_ok.2 ⟨by omega, hall.1, hseen.1, rfl⟩,
        (ih hn').2 ⟨.inr (by omega), hall.2, hnodup.2, ?_, by simp⟩⟩
      intro row' hrow' hmem
      rcases List.mem_cons.1 hmem with heq | hmem
      · rw [← heq] at hnodup
        exact hnodup.1 (List.mem_map_of_mem hrow')
      · exact hseen.2 row' hrow' hmem

/-- A row that is refused refuses the file. -/
theorem foldlM_parseRow_error {lines : List (Nat × CsvRow)}
    (h : lines.foldlM (parseRow py maxRows) parsed = .error failure) :
    ∃ message, failure = .vendorRosterImportError message := by
  induction lines generalizing parsed with
  | nil => cases h
  | cons line lines ih =>
    rw [List.foldlM_cons] at h
    rcases Except.bind_eq_error.1 h with h | ⟨next, -, h⟩
    · exact parseRow_error h
    · exact ih h

/-! ## Files -/

variable (py maxRows) in
/-- The file has the columns, and the reader gets to its rows. -/
structure HasColumns (rawBytes : List UInt8) : Prop where
  utf8 : isUtf8 rawBytes
  columns : ∃ fieldnames, (py.readCsv rawBytes).fieldnames = .ok fieldnames ∧
    CsvReader.missing requiredColumns fieldnames = []

variable (py maxRows) in
/-- The file is one that can be imported. -/
structure Accepts (rawBytes : List UInt8) : Prop extends HasColumns py rawBytes where
  ends : (py.readCsv rawBytes).failure = none
  acceptable : Acceptable py maxRows (py.readCsv rawBytes).rows
  rows_ne : (py.readCsv rawBytes).rows ≠ []

variable (py maxRows) in
/-- The import comes to a `csv.Error`: in the line of the column names, or after rows that all
    pass the checks. -/
def RaisesCsvError (rawBytes : List UInt8) : Prop :=
  isUtf8 rawBytes ∧ (∃ message, (py.readCsv rawBytes).fieldnames = .error message) ∨
    HasColumns py rawBytes ∧ (py.readCsv rawBytes).failure ≠ none ∧
      Acceptable py maxRows (py.readCsv rawBytes).rows

variable {rawBytes : List UInt8} {entries : List (RosterEntry DateTime)}

/-- The loop over the rows of a file. -/
theorem foldlM_lines_eq_ok {reader : CsvReader} :
    reader.lines.foldlM (parseRow py maxRows) {} = .ok parsed ↔
      Acceptable py maxRows reader.rows ∧
        parsed = ⟨reader.rows.map (entryOf py), (reader.rows.map (emailOf py)).reverse⟩ := by
  rw [CsvReader.lines, foldlM_parseRow_eq_ok (le_refl 2)]
  constructor
  · rintro ⟨hlength, hfits, hnodup, -, rfl⟩
    refine ⟨⟨?_, hfits, hnodup⟩, by simp⟩
    rcases hlength with hnil | hlength
    · simp [hnil]
    · omega
  · rintro ⟨h, rfl⟩
    have hlength := h.length_le
    exact ⟨.inr (by omega), h.fits, h.nodup, by simp, by simp⟩

/-- With its columns there the file is read row by row. -/
theorem parseRosterCsv_of_columns (h : HasColumns py rawBytes) :
    parseRosterCsv py rawBytes maxRows = parseRows py (py.readCsv rawBytes) maxRows := by
  obtain ⟨fieldnames, hnames, hmissing⟩ := h.columns
  unfold parseRosterCsv
  simp [h.utf8, hnames, hmissing]

/-- A file without the columns is not parsed. -/
theorem parseRosterCsv_of_not_columns (h : ¬ HasColumns py rawBytes) :
    (∃ message, parseRosterCsv py rawBytes maxRows = .error (.vendorRosterImportError message)) ∧
        ¬ RaisesCsvError py maxRows rawBytes ∨
      (∃ message, parseRosterCsv py rawBytes maxRows = .error (.csvError message)) ∧
        RaisesCsvError py maxRows rawBytes := by
  have hiff : RaisesCsvError py maxRows rawBytes ↔
      isUtf8 rawBytes ∧ ∃ message, (py.readCsv rawBytes).fieldnames = .error message := by
    simp [RaisesCsvError, h]
  rw [hiff]
  unfold parseRosterCsv
  -- The bytes may be no text, the header no CSV, or a column may be missing.
  by_cases hutf8 : isUtf8 rawBytes
  · cases hnames : (py.readCsv rawBytes).fieldnames with
    | error message => exact .inr ⟨⟨message, by simp [hutf8, hnames]⟩, hutf8, message, rfl⟩
    | ok fieldnames =>
      have hmissing : CsvReader.missing requiredColumns fieldnames ≠ [] :=
        fun hmissing => h ⟨hutf8, fieldnames, hnames, hmissing⟩
      exact .inl ⟨⟨_, by simp only [hutf8, hnames, if_pos hmissing]; rfl⟩, by simp⟩
  · exact .inl ⟨⟨_, by simp only [hutf8]; rfl⟩, by simp [hutf8]⟩

/-- The files that are parsed. -/
theorem parseRosterCsv_eq_ok :
    parseRosterCsv py rawBytes maxRows = .ok entries ↔
      Accepts py maxRows rawBytes ∧ entries = (py.readCsv rawBytes).rows.map (entryOf py) := by
  constructor
  · intro h
    have hcolumns : HasColumns py rawBytes := by
      by_contra hnot
      rcases @parseRosterCsv_of_not_columns _ _ maxRows _ hnot with
        ⟨⟨message, herror⟩, -⟩ | ⟨⟨message, herror⟩, -⟩
      · cases herror.symm.trans h
      · cases herror.symm.trans h
    rw [parseRosterCsv_of_columns hcolumns, parseRows, Except.bind_eq_ok] at h
    obtain ⟨parsed, hparsed, h⟩ := h
    obtain ⟨hacceptable, rfl⟩ := foldlM_lines_eq_ok.1 hparsed
    split at h
    · cases h
    · next hends =>
      split at h
      · cases h
      · next hrows =>
        exact ⟨⟨hcolumns, hends, hacceptable, by simpa using hrows⟩, (Except.ok.inj h).symm⟩
  · rintro ⟨h, rfl⟩
    rw [parseRosterCsv_of_columns h.toHasColumns, parseRows,
      foldlM_lines_eq_ok.2 ⟨h.acceptable, rfl⟩]
    simp [bind, Except.bind, h.ends, h.rows_ne]

/-- Why a file is not parsed. -/
theorem parseRosterCsv_error (h : parseRosterCsv py rawBytes maxRows = .error failure) :
    (∃ message, failure = .vendorRosterImportError message) ∧
        ¬ RaisesCsvError py maxRows rawBytes ∨
      (∃ message, failure = .csvError message) ∧ RaisesCsvError py maxRows rawBytes := by
  -- With the columns there, a row is refused or the reader raises.
  by_cases hcolumns : HasColumns py rawBytes
  · obtain ⟨fieldnames, hnames, -⟩ := hcolumns.columns
    have hiff : RaisesCsvError py maxRows rawBytes ↔ (py.readCsv rawBytes).failure ≠ none ∧
        Acceptable py maxRows (py.readCsv rawBytes).rows := by
      simp [RaisesCsvError, hcolumns, hnames]
    rw [hiff]
    rw [parseRosterCsv_of_columns hcolumns, parseRows] at h
    rcases Except.bind_eq_error.1 h with hloop | ⟨parsed, hparsed, h⟩
    · refine .inl ⟨foldlM_parseRow_error hloop, fun hraises => ?_⟩
      rw [foldlM_lines_eq_ok.2 ⟨hraises.2, rfl⟩] at hloop
      cases hloop
    · obtain ⟨hacceptable, rfl⟩ := foldlM_lines_eq_ok.1 hparsed
      split at h
      · next message hfailure =>
        exact .inr ⟨⟨message, (Except.error.inj h).symm⟩, by simp [hfailure], hacceptable⟩
      · next hends =>
        split at h
        · exact .inl ⟨⟨_, (Except.error.inj h).symm⟩, by simp [hends]⟩
        · cases h
  · rcases @parseRosterCsv_of_not_columns _ _ maxRows _ hcolumns with
      ⟨⟨message, herror⟩, hnot⟩ | ⟨⟨message, herror⟩, hraises⟩
    · exact .inl ⟨⟨message, Except.error.inj (h.symm.trans herror)⟩, hnot⟩
    · exact .inr ⟨⟨message, Except.error.inj (h.symm.trans herror)⟩, hraises⟩

/-! ## Writing -/

/-- The rows of a snapshot. -/
def rowsOf (t : Tables DateTime) (id : Id) : List (VendorUserSnapshotRow DateTime) :=
  (t.rows.toList.map Prod.snd).filter fun r => r.snapshotId = id

variable {newId : Nat → Id} {db : Refusals DateTime} {t t' u : Tables DateTime} {id : Id}
  {r : VendorUserSnapshotRow DateTime} {new : List (VendorUserSnapshotRow DateTime)}

/-- The rows of a snapshot are those that name it. -/
theorem mem_rowsOf : r ∈ rowsOf t id ↔ r.snapshotId = id ∧ ∃ k : Nat, t.rows[k]? = some r := by
  simp only [rowsOf, List.mem_filter, List.mem_map, Prod.exists, exists_eq_right,
    Std.ExtTreeMap.mem_toList_iff_getElem?_eq_some, decide_eq_true_eq]
  exact and_comm

/-- The tables `t'` are `t` with the new rows of the snapshot. -/
structure Wrote (id : Id) (new : List (VendorUserSnapshotRow DateTime)) (t t' : Tables DateTime) :
    Prop where
  people : t'.people = t.people
  vendors : t'.vendors = t.vendors
  snapshots : t'.snapshots = t.snapshots
  rowsOf : (rowsOf t' id).Perm (new ++ rowsOf t id)
  others : ∀ (k : Nat) r, r.snapshotId ≠ id → (t'.rows[k]? = some r ↔ t.rows[k]? = some r)

/-- A row that the database takes, under a new id and with a new address, is written. -/
theorem flushRow_ok (hdb : db.row r = none) (hfresh : newId t.drawn ∉ t.rows)
    (hemail : ∀ r' ∈ rowsOf t r.snapshotId, r.normalizedEmail ≠ r'.normalizedEmail) :
    flushRow newId db r t =
      .ok () { t with rows := t.rows.insert (newId t.drawn) r, drawn := t.drawn + 1 } := by
  have hinsert : insertRow sameSnapshotEmail t.rows (newId t.drawn, r) =
      some (t.rows.insert (newId t.drawn) r) := by
    rw [insertRow, if_neg]
    rintro (hmem | hany)
    · exact hfresh hmem
    · refine Bool.eq_false_iff.1 (Table.any_toList_eq_false.2 fun k r' hr' => ?_) hany
      by_contra hsame
      obtain ⟨hid, hsame⟩ : r.snapshotId = r'.snapshotId ∧
        r.normalizedEmail = r'.normalizedEmail := by simpa [sameSnapshotEmail] using hsame
      exact hemail r' (mem_rowsOf.2 ⟨hid.symm, k, hr'⟩) hsame
  rw [flushRow, hdb, hinsert]

/-- What the flush of one row writes. -/
theorem wrote_insert (hfresh : newId t.drawn ∉ t.rows) (hid : r.snapshotId = id) :
    Wrote id [r] t { t with rows := t.rows.insert (newId t.drawn) r, drawn := t.drawn + 1 } where
  people := rfl
  vendors := rfl
  snapshots := rfl
  rowsOf := by
    have hperm := ((Table.toList_insert_perm (r := r) hfresh).map Prod.snd).filter
      fun r => r.snapshotId = id
    rw [List.map_cons, List.filter_cons_of_pos (by simpa using hid)] at hperm
    exact hperm
  others k r' hr' := by
    rw [Table.get_insert]
    split
    · next hk =>
      subst hk
      have hnone : t.rows[newId t.drawn]? = none := by simpa using hfresh
      rw [hnone, Option.some_inj]
      exact iff_of_false (fun heq => hr' (heq ▸ hid)) (by simp)
    · exact Iff.rfl

/-- Two stretches of rows, one after the other. -/
theorem Wrote.trans {new' : List (VendorUserSnapshotRow DateTime)} (h : Wrote id new t t')
    (h' : Wrote id new' t' u) : Wrote id (new ++ new') t u where
  people := h'.people.trans h.people
  vendors := h'.vendors.trans h.vendors
  snapshots := h'.snapshots.trans h.snapshots
  rowsOf := by
    refine h'.rowsOf.trans ((h.rowsOf.append_left new').trans ?_)
    rw [← List.append_assoc]
    exact List.perm_append_comm.append_right _
  others k r hr := (h'.others k r hr).trans (h.others k r hr)

/-- The flush of all rows of a new snapshot. -/
theorem forM_flushRow_ok (hinj : Function.Injective newId)
    (hfresh : ∀ n, t.drawn ≤ n → newId n ∉ t.rows) (hid : ∀ r ∈ new, r.snapshotId = id)
    (hnodup : (new.map (·.normalizedEmail)).Nodup)
    (hemail : ∀ r ∈ new, ∀ r' ∈ rowsOf t id, r.normalizedEmail ≠ r'.normalizedEmail)
    (hdb : ∀ r ∈ new, db.row r = none) :
    ∃ t', new.forM (flushRow newId db) t = .ok () t' ∧ Wrote id new t t' := by
  -- Over the rows: each has an address that those before it do not have.
  induction new generalizing t with
  | nil => exact ⟨t, rfl, ⟨rfl, rfl, rfl, .refl _, fun _ _ _ => Iff.rfl⟩⟩
  | cons r new ih =>
    rw [List.forall_mem_cons] at hid hemail hdb
    rw [List.map_cons, List.nodup_cons] at hnodup
    have hflush := flushRow_ok hdb.1 (hfresh _ le_rfl) (by rw [hid.1]; exact hemail.1)
    have hwrote := wrote_insert (hfresh _ le_rfl) hid.1
    have hfresh' : ∀ n, t.drawn + 1 ≤ n → newId n ∉ t.rows.insert (newId t.drawn) r := by
      intro n hn hmem
      rcases Std.ExtTreeMap.mem_insert.1 hmem with heq | hmem
      · have hsame : t.drawn = n := hinj (compare_eq_iff_eq.1 heq)
        omega
      · exact hfresh n (Nat.le_of_succ_le hn) hmem
    have hemail' : ∀ r₁ ∈ new, ∀ r₂ ∈ rowsOf { t with
        rows := t.rows.insert (newId t.drawn) r
        drawn := t.drawn + 1 } id, r₁.normalizedEmail ≠ r₂.normalizedEmail := by
      intro r₁ hr₁ r₂ hr₂
      rcases List.mem_cons.1 (hwrote.rowsOf.mem_iff.1 hr₂) with rfl | hr₂
      · exact fun heq => hnodup.1 (List.mem_map.2 ⟨r₁, hr₁, heq⟩)
      · exact hemail.2 r₁ hr₁ r₂ hr₂
    obtain ⟨t', hrun, hwrote'⟩ := ih hfresh' hid.2 hnodup.2 hemail' hdb.2
    refine ⟨t', ?_, hwrote.trans hwrote'⟩
    change EStateM.bind (flushRow newId db r) (fun _ => new.forM (flushRow newId db)) t = _
    rw [EStateM.bind, hflush]
    exact hrun

/-- The flush of rows, of which the database refuses one. -/
theorem forM_flushRow_refused (h : ∃ r ∈ new, db.row r ≠ none) :
    ∃ error t', new.forM (flushRow newId db) t = .error (.database error) t' := by
  -- Over the rows: the first refusal ends the loop.
  induction new generalizing t with
  | nil => simp at h
  | cons r new ih =>
    change ∃ error t', EStateM.bind (flushRow newId db r)
      (fun _ => new.forM (flushRow newId db)) t = .error (.database error) t'
    cases hdb : db.row r with
    | some error => exact ⟨error, t, by simp [EStateM.bind, flushRow, hdb]⟩
    | none =>
      have hrest : ∃ r ∈ new, db.row r ≠ none := by
        obtain ⟨r', hr', hne⟩ := h
        rcases List.mem_cons.1 hr' with rfl | hr'
        · exact absurd hdb hne
        · exact ⟨r', hr', hne⟩
      cases hinsert : insertRow sameSnapshotEmail t.rows (newId t.drawn, r) with
      | none => exact ⟨.integrityError, t, by simp [EStateM.bind, flushRow, hdb, hinsert]⟩
      | some rows =>
        obtain ⟨error, t', hrun⟩ := @ih { t with rows := rows, drawn := t.drawn + 1 } hrest
        refine ⟨error, t', ?_⟩
        rw [EStateM.bind, flushRow, hdb, hinsert]
        exact hrun

/-! ## A stored snapshot -/

/-- What the constraints of the tables keep: an address has one person, and a row a snapshot. -/
structure Consistent (t : Tables DateTime) : Prop where
  emails : ∀ (k k' : Nat) p p', t.people[k]? = some p → t.people[k']? = some p' →
    p.email = p'.email → k = k'
  snapshots : ∀ (k : Nat) r, t.rows[k]? = some r → r.snapshotId ∈ t.snapshots

/-- `new_id()` gives no id twice, and none that is in use. -/
structure FreshIds (newId : Nat → Id) (t : Tables DateTime) : Prop where
  injective : Function.Injective newId
  snapshots : ∀ n, t.drawn ≤ n → newId n ∉ t.snapshots
  rows : ∀ n, t.drawn ≤ n → newId n ∉ t.rows

/-- The time is the one that the text denotes; an empty text denotes none. -/
def Denotes (py : Python DateTime) (text : String) (time : Option DateTime) : Prop :=
  if text = "" then time = none else time ≠ none ∧ time = py.fromIsoFormat text

/-- The row of the file is stored in the row of the snapshot. -/
structure Stored (py : Python DateTime) (people : Table Person) (id : Id) (row : CsvRow)
    (stored : VendorUserSnapshotRow DateTime) : Prop where
  snapshotId : stored.snapshotId = id
  importedEmail : stored.importedEmail = cell row "email"
  importedName : stored.importedName = cell row "name"
  importedRole : stored.importedRole = cell row "role"
  importedStatus : stored.importedStatus = cell row "status"
  normalizedEmail : stored.normalizedEmail = emailOf py row
  normalizedEmail_ne : stored.normalizedEmail ≠ ""
  lastLogin : Denotes py (cell row "last_login_at") stored.importedLastLoginAt
  matched : ∀ personId, stored.matchedPersonId = some personId ↔
    ∃ p, people[personId]? = some p ∧ p.email = stored.normalizedEmail

/-- One snapshot has been stored, with one row for each row of the file. -/
structure Imported (py : Python DateTime) (args : ImportArgs) (t : Tables DateTime) (id : Id)
    (t' : Tables DateTime) : Prop where
  ends : (py.readCsv args.rawBytes).failure = none
  new : id ∉ t.snapshots
  snapshots : ∃ snapshot, t'.snapshots = t.snapshots.insert id snapshot ∧
    snapshot.vendorSystemId = args.vendorId ∧ snapshot.rowCount = (rowsOf t' id).length
  rows : ∃ stored, (rowsOf t' id).Perm stored ∧
    List.Forall₂ (Stored py t.people id) (py.readCsv args.rawBytes).rows stored
  unique : ((rowsOf t' id).map (·.normalizedEmail)).Nodup
  nonempty : 1 ≤ (rowsOf t' id).length
  length_le : (rowsOf t' id).length ≤ args.maxRows
  others : ∀ (k : Nat) r, t.rows[k]? = some r ↔ t'.rows[k]? = some r ∧ r.snapshotId ≠ id
  people : t'.people = t.people
  vendors : t'.vendors = t.vendors.alter args.vendorId
    (Option.map fun _ => { rosterLastConfirmedAt := some args.confirmedAt })

/-- The import raises `VendorRosterImportError` and has changed nothing, or it stores one
    snapshot. -/
def AllOrNothing (py : Python DateTime) (args : ImportArgs) (t : Tables DateTime) :
    EStateM.Result Failure (Tables DateTime) Id → Prop
  | .ok id t' => Imported py args t id t'
  | .error (.vendorRosterImportError _) t' => t' = t
  | .error _ _ => False

/-! ## When an import is all-or-nothing -/

/-- The snapshot that is stored for a file. -/
def snapshotOf (py : Python DateTime) (args : ImportArgs) : VendorUserSnapshot where
  vendorSystemId := args.vendorId
  importedAt := args.importedAt
  importedByUserId := args.importedByUserId
  originalFilename := args.originalFilename
  sha256 := py.sha256 args.rawBytes
  rowCount := (py.readCsv args.rawBytes).rows.length

/-- The row that is stored for a row of a file. -/
def storedRow (py : Python DateTime) (t : Tables DateTime) (rows : List CsvRow) (id : Id)
    (row : CsvRow) : VendorUserSnapshotRow DateTime :=
  snapshotRow id (peopleByEmail t.people (rows.map (emailOf py))) (entryOf py row)

/-- The database takes the query for the addresses, the snapshot and its rows. -/
structure Takes (py : Python DateTime) (newId : Nat → Id) (db : Refusals DateTime)
    (args : ImportArgs) (t : Tables DateTime) : Prop where
  query : db.query ((py.readCsv args.rawBytes).rows.map (emailOf py)) = none
  snapshot : db.snapshot (snapshotOf py args) = none
  rows : ∀ row ∈ (py.readCsv args.rawBytes).rows, db.row (storedRow py t
    (py.readCsv args.rawBytes).rows (newId t.drawn) row) = none

/-- The time is read alike with and without its `Z` spelled out. -/
def KeepsTime (py : Python DateTime) (row : CsvRow) : Prop :=
  cell row "last_login_at" = "" ∨
    py.fromIsoFormat (replaceZ (cell row "last_login_at")) =
      py.fromIsoFormat (cell row "last_login_at")

/-- No `csv.Error` is reached, and what is accepted fits into the database and has times that
    are read as they are written. -/
def Careful (py : Python DateTime) (newId : Nat → Id) (db : Refusals DateTime)
    (args : ImportArgs) (t : Tables DateTime) : Prop :=
  ¬ RaisesCsvError py args.maxRows args.rawBytes ∧
    (Accepts py args.maxRows args.rawBytes →
      Takes py newId db args t ∧ ∀ row ∈ (py.readCsv args.rawBytes).rows, KeepsTime py row)

variable {args : ImportArgs}

/-- Who the address belongs to. -/
theorem get?_peopleByEmail (ht : Consistent t) {emails : List String} {email : String}
    (hemail : email ∈ emails) {personId : Id} :
    (peopleByEmail t.people emails).get? email = some personId ↔
      ∃ p, t.people[personId]? = some p ∧ p.email = email := by
  have hkeys : (((t.people.toList.filter fun x => x.2.email ∈ emails).map
      fun x => (x.2.email, x.1)).map Prod.fst).Nodup := by
    rw [List.map_map]
    refine List.Nodup.map_on (fun x hx y hy heq => ?_) ((Table.nodup_toList _).filter _)
    have hx := Std.ExtTreeMap.mem_toList_iff_getElem?_eq_some.1 (List.mem_filter.1 hx).1
    have hy := Std.ExtTreeMap.mem_toList_iff_getElem?_eq_some.1 (List.mem_filter.1 hy).1
    have hid := ht.emails _ _ _ _ hx hy heq
    rw [hid, hy] at hx
    exact Prod.ext hid (Option.some.inj hx).symm
  rw [Dict.get?_eq_some_iff, peopleByEmail, Dict.ofList_items hkeys, List.mem_map]
  constructor
  · rintro ⟨⟨k, p⟩, hp, heq⟩
    obtain ⟨rfl, rfl⟩ := Prod.mk.inj heq
    exact ⟨p, Std.ExtTreeMap.mem_toList_iff_getElem?_eq_some.1 (List.mem_filter.1 hp).1, rfl⟩
  · rintro ⟨p, hp, rfl⟩
    exact ⟨(personId, p), List.mem_filter.2
      ⟨Std.ExtTreeMap.mem_toList_iff_getElem?_eq_some.2 hp, by simpa using hemail⟩, rfl⟩

/-- The time stored is the one of the file exactly when it is kept. -/
theorem denotes_entryOf (hfits : RowFits py row) :
    Denotes py (cell row "last_login_at") (entryOf py row).importedLastLoginAt ↔
      KeepsTime py row := by
  unfold Denotes KeepsTime entryOf
  simp only
  by_cases htext : cell row "last_login_at" = ""
  · simp [htext]
  · have hread := hfits.2.resolve_left htext
    rw [if_neg htext, if_neg htext, or_iff_right htext]
    exact and_iff_right (Option.isSome_iff_ne_none.1 hread)

/-- A row that is stored for a row of the file is as it should be, if its time is. -/
theorem stored_storedRow (hlower : ∀ text, py.lower text = "" → text = "") (ht : Consistent t)
    (hrow : row ∈ rows) (hfits : RowFits py row) :
    Stored py t.people id row (storedRow py t rows id row) ↔ KeepsTime py row := by
  rw [← denotes_entryOf hfits]
  have hmem : emailOf py row ∈ rows.map (emailOf py) := List.mem_map_of_mem hrow
  constructor
  · exact fun h => h.lastLogin
  · intro h
    exact {
      snapshotId := rfl
      importedEmail := rfl
      importedName := rfl
      importedRole := rfl
      importedStatus := rfl
      normalizedEmail := rfl
      normalizedEmail_ne := fun hempty => emailOf_ne hlower hfits.1 hempty
      lastLogin := h
      matched := fun personId => get?_peopleByEmail ht hmem }

/-! ## The run of an import -/

/-- The tables after the flush of a snapshot. -/
def withSnapshot (t : Tables DateTime) (id : Id) (snapshot : VendorUserSnapshot) :
    Tables DateTime :=
  { t with snapshots := t.snapshots.insert id snapshot, drawn := t.drawn + 1 }

/-- A snapshot the database takes gets the next identifier. -/
theorem flushSnapshot_ok (hids : FreshIds newId t) {snapshot : VendorUserSnapshot}
    (hdb : db.snapshot snapshot = none) :
    flushSnapshot newId db snapshot t =
      .ok (newId t.drawn) (withSnapshot t (newId t.drawn) snapshot) := by
  have hinsert : insertRow (fun _ _ => false) t.snapshots (newId t.drawn, snapshot) =
      some (t.snapshots.insert (newId t.drawn) snapshot) := by
    simp [insertRow, hids.snapshots]
  simp only [flushSnapshot, hdb, hinsert]
  rfl

/-- What is computed from the tables is computed from the tables as they are. -/
theorem get_bind {ε σ α : Type} (f : σ → EStateM ε σ α) (s : σ) : (get >>= f) s = f s s := rfl

/-- An import after the parsing, once the snapshot has been flushed. -/
theorem storeSnapshot_of_flush {snapshotId : Id}
    (h : flushSnapshot newId db (snapshotOf py args) t = .ok snapshotId t') :
    storeSnapshot py newId db args ((py.readCsv args.rawBytes).rows.map (entryOf py)) t =
      match ((py.readCsv args.rawBytes).rows.map
          (storedRow py t (py.readCsv args.rawBytes).rows snapshotId)).forM
            (flushRow newId db) t' with
      | .ok () u => .ok snapshotId { u with
          vendors := u.vendors.alter args.vendorId
            (Option.map fun _ => { rosterLastConfirmedAt := some args.confirmedAt }) }
      | .error failure u => .error failure u := by
  have hrows : (py.readCsv args.rawBytes).rows.map
        (storedRow py t (py.readCsv args.rawBytes).rows snapshotId) =
      ((py.readCsv args.rawBytes).rows.map (entryOf py)).map (snapshotRow snapshotId
        (peopleByEmail t.people
          (((py.readCsv args.rawBytes).rows.map (entryOf py)).map (·.normalizedEmail)))) := by
    rw [List.map_map, List.map_map]
    rfl
  unfold snapshotOf at h
  rw [hrows]
  rw [storeSnapshot, get_bind]
  simp only [bind, EStateM.bind, List.length_map, h]
  split
  · next u heq =>
    rw [heq]
    rfl
  · next failure u heq => rw [heq]

/-- The tables at the end of an import. -/
def confirmed (args : ImportArgs) (u : Tables DateTime) : Tables DateTime :=
  { u with
    vendors := u.vendors.alter args.vendorId
      (Option.map fun _ => { rosterLastConfirmedAt := some args.confirmedAt }) }

/-- A file that is accepted is stored. -/
theorem importVendorRosterSnapshot_of_accepts (h : Accepts py args.maxRows args.rawBytes) :
    importVendorRosterSnapshot py newId db args t =
      match db.query ((py.readCsv args.rawBytes).rows.map (emailOf py)) with
      | some error => .error (.database error) t
      | none =>
        storeSnapshot py newId db args ((py.readCsv args.rawBytes).rows.map (entryOf py)) t := by
  rw [importVendorRosterSnapshot, parseRosterCsv_eq_ok.2 ⟨h, rfl⟩]
  simp only [List.map_map]
  rfl

/-- A new snapshot has no rows yet. -/
theorem FreshIds.rowsOf_eq_nil (hids : FreshIds newId t) (ht : Consistent t)
    (snapshot : VendorUserSnapshot) :
    rowsOf (withSnapshot t (newId t.drawn) snapshot) (newId t.drawn) = [] := by
  rw [List.eq_nil_iff_forall_not_mem]
  intro r hr
  obtain ⟨hid, k, hk⟩ := mem_rowsOf.1 hr
  exact hids.snapshots _ le_rfl (hid ▸ ht.snapshots k r hk)

/-- An import of a file that can be imported, into a database that takes it. -/
theorem import_of_takes (ht : Consistent t) (hids : FreshIds newId t)
    (h : Accepts py args.maxRows args.rawBytes) (htakes : Takes py newId db args t) :
    ∃ u, importVendorRosterSnapshot py newId db args t = .ok (newId t.drawn) (confirmed args u) ∧
      Wrote (newId t.drawn) ((py.readCsv args.rawBytes).rows.map
          (storedRow py t (py.readCsv args.rawBytes).rows (newId t.drawn)))
        (withSnapshot t (newId t.drawn) (snapshotOf py args)) u := by
  have hflush := flushSnapshot_ok hids htakes.snapshot
  have hnil := hids.rowsOf_eq_nil ht (snapshotOf py args)
  obtain ⟨u, hrun, hwrote⟩ := @forM_flushRow_ok DateTime newId db
    (withSnapshot t (newId t.drawn) (snapshotOf py args)) (newId t.drawn)
    ((py.readCsv args.rawBytes).rows.map
      (storedRow py t (py.readCsv args.rawBytes).rows (newId t.drawn)))
    hids.injective (fun n hn => hids.rows n (Nat.le_of_succ_le hn))
    (by simp [storedRow, snapshotRow])
    (by rw [List.map_map]; exact h.acceptable.nodup)
    (fun r _ r' hr' => by rw [hnil] at hr'; cases hr')
    (List.forall_mem_map.2 htakes.rows)
  refine ⟨u, ?_, hwrote⟩
  rw [importVendorRosterSnapshot_of_accepts h, htakes.query]
  simp only [storeSnapshot_of_flush hflush, hrun]
  rfl

/-- An import of a file that can be imported, into a database that refuses it. -/
theorem import_of_not_takes (h : Accepts py args.maxRows args.rawBytes) (hids : FreshIds newId t)
    (hrefuses : ¬ Takes py newId db args t) :
    ∃ error u, importVendorRosterSnapshot py newId db args t = .error (.database error) u := by
  rw [importVendorRosterSnapshot_of_accepts h]
  -- The query, the snapshot or one of its rows is refused.
  cases hquery : db.query ((py.readCsv args.rawBytes).rows.map (emailOf py)) with
  | some error => exact ⟨error, t, rfl⟩
  | none =>
    simp only
    cases hsnapshot : db.snapshot (snapshotOf py args) with
    | some error =>
      have hflush : flushSnapshot newId db (snapshotOf py args) t = .error (.database error) t := by
        simp only [flushSnapshot, hsnapshot]
      refine ⟨error, t, ?_⟩
      unfold snapshotOf at hflush
      rw [storeSnapshot, get_bind]
      simp only [bind, EStateM.bind, List.length_map, hflush]
    | none =>
      have hrows : ∃ r ∈ (py.readCsv args.rawBytes).rows.map
          (storedRow py t (py.readCsv args.rawBytes).rows (newId t.drawn)), db.row r ≠ none := by
        by_contra hall
        push Not at hall
        exact hrefuses ⟨hquery, hsnapshot, List.forall_mem_map.1 hall⟩
      obtain ⟨error, u, hrun⟩ := @forM_flushRow_refused _ newId db
        (withSnapshot t (newId t.drawn) (snapshotOf py args)) _ hrows
      refine ⟨error, u, ?_⟩
      rw [storeSnapshot_of_flush (flushSnapshot_ok hids hsnapshot), hrun]

/-- What has been stored is as it should be if the times are. -/
theorem imported_iff (hlower : ∀ text, py.lower text = "" → text = "") (ht : Consistent t)
    (hids : FreshIds newId t) (h : Accepts py args.maxRows args.rawBytes)
    (hwrote : Wrote (newId t.drawn) ((py.readCsv args.rawBytes).rows.map
        (storedRow py t (py.readCsv args.rawBytes).rows (newId t.drawn)))
      (withSnapshot t (newId t.drawn) (snapshotOf py args)) u) :
    Imported py args t (newId t.drawn) (confirmed args u) ↔
      ∀ row ∈ (py.readCsv args.rawBytes).rows, KeepsTime py row := by
  have hperm : (rowsOf (confirmed args u) (newId t.drawn)).Perm ((py.readCsv args.rawBytes).rows.map
      (storedRow py t (py.readCsv args.rawBytes).rows (newId t.drawn))) := by
    have hperm := hwrote.rowsOf
    rw [hids.rowsOf_eq_nil ht, List.append_nil] at hperm
    exact hperm
  have hlength := hperm.length_eq
  rw [List.length_map] at hlength
  constructor
  · intro himported row hrow
    obtain ⟨stored, hstored, hall⟩ := himported.rows
    have hflip : List.Forall₂ (flip (Stored py t.people (newId t.drawn))) stored
      (py.readCsv args.rawBytes).rows := hall.flip
    obtain ⟨s, hs, hrows⟩ := hflip.exists_of_mem_right hrow
    obtain ⟨row', hrow', rfl⟩ := List.mem_map.1 (hperm.mem_iff.1 (hstored.mem_iff.2 hs))
    -- the address tells which row it is
    obtain rfl : row' = row :=
      List.inj_on_of_nodup_map h.acceptable.nodup hrow' hrow hrows.normalizedEmail
    exact (stored_storedRow hlower ht hrow (h.acceptable.fits _ hrow)).1 hrows
  · intro htimes
    exact {
      ends := h.ends
      new := hids.snapshots _ le_rfl
      snapshots := ⟨snapshotOf py args, hwrote.snapshots, rfl, hlength.symm⟩
      rows := by
        refine ⟨_, hperm, List.forall₂_map_right_iff.2 (List.forall₂_same.2 fun row hrow => ?_)⟩
        exact (stored_storedRow hlower ht hrow (h.acceptable.fits _ hrow)).2 (htimes row hrow)
      unique := by
        refine (hperm.map _).nodup_iff.2 ?_
        rw [List.map_map]
        exact h.acceptable.nodup
      nonempty := by
        rw [hlength]
        exact List.length_pos_iff.2 h.rows_ne
      length_le := hlength.le.trans h.acceptable.length_le
      others := fun k r => by
        constructor
        · intro hr
          have hne : r.snapshotId ≠ newId t.drawn :=
            fun heq => hids.snapshots _ le_rfl (heq ▸ ht.snapshots k r hr)
          exact ⟨(hwrote.others k r hne).2 hr, hne⟩
        · rintro ⟨hr, hne⟩
          exact (hwrote.others k r hne).1 hr
      people := hwrote.people
      vendors := by
        rw [confirmed, hwrote.vendors]
        rfl }

/-- For every file, every limit and every database: the import is all-or-nothing exactly if it is
    careful. -/
theorem import_allOrNothing_iff (py : Python DateTime) (newId : Nat → Id) (db : Refusals DateTime)
    (args : ImportArgs) (t : Tables DateTime) (hlower : ∀ text, py.lower text = "" → text = "")
    (ht : Consistent t) (hids : FreshIds newId t) :
    AllOrNothing py args t (importVendorRosterSnapshot py newId db args t) ↔
      Careful py newId db args t := by
  -- The file is refused before anything is written, or accepted.
  cases hparse : parseRosterCsv py args.rawBytes args.maxRows with
  | error failure =>
    have hnot : ¬ Accepts py args.maxRows args.rawBytes :=
      fun h => by cases (parseRosterCsv_eq_ok.2 ⟨h, rfl⟩).symm.trans hparse
    have hrun : importVendorRosterSnapshot py newId db args t = .error failure t := by
      simp [importVendorRosterSnapshot, hparse]
    rw [hrun, Careful]
    rcases parseRosterCsv_error hparse with ⟨⟨message, rfl⟩, hraises⟩ | ⟨⟨message, rfl⟩, hraises⟩
    · exact iff_of_true rfl ⟨hraises, fun h => absurd h hnot⟩
    · exact iff_of_false (fun h => h) fun h => h.1 hraises
  | ok entries =>
    obtain ⟨haccepts, -⟩ := parseRosterCsv_eq_ok.1 hparse
    have hraises : ¬ RaisesCsvError py args.maxRows args.rawBytes := by
      obtain ⟨fieldnames, hnames, -⟩ := haccepts.columns
      simp [RaisesCsvError, hnames, haccepts.ends]
    rw [Careful, and_iff_right hraises, forall_prop_of_true haccepts]
    by_cases htakes : Takes py newId db args t
    · obtain ⟨u, hrun, hwrote⟩ := import_of_takes ht hids haccepts htakes
      rw [hrun, and_iff_right htakes]
      exact imported_iff hlower ht hids haccepts hwrote
    · obtain ⟨error, u, hrun⟩ := import_of_not_takes haccepts hids htakes
      rw [hrun]
      exact iff_of_false (fun h => h) fun h => htakes h.1

/-! ## Two small files -/

/-- The standard library on plain files in lower case; a time is its ISO text, where `Z` is the
    offset of UTC. -/
def plainPython : Python String where
  readCsv := CsvReader.plain
  lower := fun text => text
  fromIsoFormat text := if 19 ≤ text.length then some (replaceZ text) else none
  sha256 := fun _ => ""

/-- A vendor, and a person. -/
def oneVendor : Tables String where
  people := (∅ : Table Person).insert 1 {
    email := "ada@example.org"
    displayName := .str "Ada"
    employmentStatus := "active"
    source := "manual"
    externalId := .null
    lastSyncedAt := none }
  vendors := (∅ : Table VendorSystem).insert 1 { rosterLastConfirmedAt := none }
  snapshots := ∅
  rows := ∅

/-- An upload of a file. -/
def uploadOf (text : String) : ImportArgs where
  vendorId := 1
  rawBytes := CsvReader.ascii text
  originalFilename := "roster.csv"
  importedByUserId := "1"
  maxRows := 10
  importedAt := 1
  confirmedAt := 2

/-- A database without limits. -/
def takesAll : Refusals String := {}

/-- Numbers as ids. -/
def nextId (n : Nat) : Id := n + 1

/-- The sample vendor's tables are consistent. -/
theorem consistent_oneVendor : Consistent oneVendor where
  emails k k' p p' hp hp' _ := by
    have hk : ∀ {a : Nat} {r : Person}, oneVendor.people[a]? = some r → a = 1 := by
      intro a r h
      rcases Table.of_get_insert h with ⟨rfl, -⟩ | h
      · rfl
      · exact absurd h Table.not_get_empty
    rw [hk hp, hk hp']
  snapshots k r hr := absurd hr Table.not_get_empty

/-- The next identifiers of the sample are unused. -/
theorem freshIds_oneVendor : FreshIds nextId oneVendor where
  injective _ _ := Nat.succ.inj
  snapshots _ _ := Std.ExtTreeMap.not_mem_empty
  rows _ _ := Std.ExtTreeMap.not_mem_empty

/-- A file with two rows: the person, and somebody who is unknown and has never logged in. -/
def twoRows : ImportArgs :=
  uploadOf ("email,name,role,status,last_login_at\n" ++
    "ada@example.org,Ada,admin,active,2026-03-01T09:30:00Z\neve@example.org,Eve,,active,\n")

/-- A file with carriage returns at the ends of its lines. -/
def carriageReturns : ImportArgs :=
  uploadOf "email,name,role,status,last_login_at\rada@example.org,Ada,admin,active,\r"

/-- The sample file is one the import is careful with. -/
theorem twoRows_careful : Careful plainPython nextId takesAll twoRows oneVendor := by
  obtain ⟨hnames, hfailure, htimes⟩ : (plainPython.readCsv twoRows.rawBytes).fieldnames =
        .ok ["email", "name", "role", "status", "last_login_at"] ∧
      (plainPython.readCsv twoRows.rawBytes).failure = none ∧
      ∀ row ∈ (plainPython.readCsv twoRows.rawBytes).rows, KeepsTime plainPython row := by
    unfold KeepsTime
    decide +kernel
  refine ⟨?_, fun _ => ⟨⟨rfl, rfl, fun _ _ => rfl⟩, htimes⟩⟩
  rintro (⟨-, message, herror⟩ | ⟨-, hends, -⟩)
  · rw [hnames] at herror
    cases herror
  · exact hends hfailure

/-- `import_allOrNothing_iff` for a file with two rows. -/
theorem import_allOrNothing_twoRows :
    AllOrNothing plainPython twoRows oneVendor
      (importVendorRosterSnapshot plainPython nextId takesAll twoRows oneVendor) := by
  rw [import_allOrNothing_iff plainPython nextId takesAll twoRows oneVendor (fun _ h => h)
    consistent_oneVendor freshIds_oneVendor]
  exact twoRows_careful

/-- A file whose lines end in carriage returns raises a `csv.Error`. -/
theorem import_allOrNothing_carriageReturns :
    ¬ AllOrNothing plainPython carriageReturns oneVendor
      (importVendorRosterSnapshot plainPython nextId takesAll carriageReturns oneVendor) := by
  have hutf8 : isUtf8 carriageReturns.rawBytes = true := by decide +kernel
  have hnames : (plainPython.readCsv carriageReturns.rawBytes).fieldnames =
      .error CsvReader.newLineError := rfl
  have hrun : importVendorRosterSnapshot plainPython nextId takesAll carriageReturns oneVendor =
      .error (.csvError CsvReader.newLineError) oneVendor := by
    rw [importVendorRosterSnapshot, parseRosterCsv]
    simp only [hutf8, hnames, Bool.not_true, Bool.false_eq_true, if_false]
  rw [hrun]
  exact fun h => h

end MiniGrc.VendorRosters
