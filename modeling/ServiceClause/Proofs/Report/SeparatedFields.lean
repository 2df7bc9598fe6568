import ServiceClause.Proofs.Names
import ServiceClause.Proofs.Rows
import ServiceClause.Report.Format

/-!
# Records of separated fields are read back

A field is read back from what is written for it, whatever characters it holds: if there is a comma,
a quote or a line break in it, it stands between quotes, and then only a quote that is not the first
of two can end it. So no character of a field is taken for the end of a field or of a record, and a
document is read as the records that it was written for, unless a record has no field at all: its
empty line would be read as one empty field.

## Main statements

* `ServiceClause.Csv.readFrom_field` — a field in front of a comma or a line feed.
* `ServiceClause.Csv.readFrom_record`, `ServiceClause.Csv.read_document` — records and documents.
* `ServiceClause.Report.csv_readBack` — a report of separated fields.
-/

set_option autoImplicit false

namespace ServiceClause

namespace Csv

variable {done : Record} {seen f : Field}

/-! ## Fields -/

/-- A field may end before a comma, and then the next one of its record starts. -/
theorem readFrom_comma {place : Place} (h : place ≠ .quoted) (rest : List Char) :
    readFrom place done seen (',' :: rest) = readFrom .start (done ++ [seen]) [] rest := by
  cases place with
  | quoted => exact absurd rfl h
  | start => cases done <;> simp [readFrom]
  | bare => simp [readFrom]
  | closed => simp [readFrom]

/-- Before a line feed its record ends as well. -/
theorem readFrom_lineFeed {place : Place} (h : place ≠ .quoted) (rest : List Char) :
    readFrom place done seen ('\n' :: rest) = (read rest).map ((done ++ [seen]) :: ·) := by
  cases place with
  | quoted => exact absurd rfl h
  | start => cases done <;> simp [readFrom, read]
  | bare => simp [readFrom, read]
  | closed => simp [readFrom, read]

/-- Characters that make no quotes necessary are read as they are. -/
theorem readFrom_bare (h : f.any isSpecial = false) (rest : List Char) :
    readFrom .bare done seen (f ++ rest) = readFrom .bare done (seen ++ f) rest := by
  induction f generalizing seen with
  | nil => rw [List.nil_append, List.append_nil]
  | cons c f ih =>
    rw [List.any_cons, Bool.or_eq_false_iff] at h
    obtain ⟨hc, hf⟩ := h
    have hstep : readFrom .bare done seen (c :: (f ++ rest)) =
        readFrom .bare done (seen ++ [c]) (f ++ rest) := by
      simp_all [readFrom, isSpecial]
    rw [List.cons_append, hstep, ih hf, List.append_assoc, List.singleton_append]

/-- Between quotes every character is read as it is, and two quotes as one.

**Proof sketch.** Induction on the field. The first of two quotes seems to end it, but the second
one leads back. -/
theorem readFrom_quoted (rest : List Char) :
    readFrom .quoted done seen (doubleQuotes f ++ '"' :: rest) =
      readFrom .closed done (seen ++ f) rest := by
  induction f generalizing seen with
  | nil => simp [doubleQuotes, readFrom]
  | cons c f ih =>
    have hstep : readFrom .quoted done seen (doubleQuotes (c :: f) ++ '"' :: rest) =
        readFrom .quoted done (seen ++ [c]) (doubleQuotes f ++ '"' :: rest) := by
      by_cases hc : c = '"' <;> simp [doubleQuotes, readFrom, hc]
    rw [hstep, ih, List.append_assoc, List.singleton_append]

/-- A field has been read when the comma or the line feed behind it is reached.

**Proof sketch.** A field between quotes is read up to its closing quote (`readFrom_quoted`). Of a
field without quotes the first character is no quote, and all of them are read as they are
(`readFrom_bare`). -/
theorem readFrom_field (done : Record) (f : Field) (rest : List Char) :
    ∃ place, place ≠ .quoted ∧ ∀ mark ∈ [',', '\n'],
      readFrom .start done [] (field f ++ mark :: rest) = readFrom place done f (mark :: rest) := by
  unfold field
  split
  · refine ⟨.closed, by decide, fun mark _ => ?_⟩
    have hopen : readFrom .start done [] ('"' :: (doubleQuotes f ++ '"' :: mark :: rest)) =
        readFrom .quoted done [] (doubleQuotes f ++ '"' :: mark :: rest) := by
      cases done <;> simp [readFrom]
    rw [List.cons_append, List.cons_append, List.append_assoc, List.singleton_append, hopen,
      readFrom_quoted, List.nil_append]
  · next hplain =>
    rw [Bool.not_eq_true] at hplain
    cases f with
    | nil => exact ⟨.start, by decide, fun mark _ => rfl⟩
    | cons c f =>
      refine ⟨.bare, by decide, fun mark _ => ?_⟩
      rw [List.any_cons, Bool.or_eq_false_iff] at hplain
      obtain ⟨hc, hf⟩ := hplain
      have hstep : readFrom .start done [] (c :: (f ++ mark :: rest)) =
          readFrom .bare done [c] (f ++ mark :: rest) := by
        cases done <;> simp_all [readFrom, isSpecial]
      rw [List.cons_append, hstep, readFrom_bare hf, List.singleton_append]

/-! ## Records and documents -/

/-- The rest of a record is read back, and then what follows it. -/
theorem readFrom_record {r : Record} (hr : r ≠ []) (rest : List Char) :
    readFrom .start done [] (record r ++ rest) = (read rest).map ((done ++ r) :: ·) := by
  induction r generalizing done with
  | nil => exact absurd rfl hr
  | cons f r ih =>
    cases r with
    | nil =>
      obtain ⟨place, hplace, hread⟩ := readFrom_field done f rest
      have hform : record [f] ++ rest = field f ++ '\n' :: rest := by simp [record]
      rw [hform, hread '\n' (by simp), readFrom_lineFeed hplace]
    | cons g r =>
      obtain ⟨place, hplace, hread⟩ := readFrom_field done f (record (g :: r) ++ rest)
      have hform : record (f :: g :: r) ++ rest = field f ++ ',' :: (record (g :: r) ++ rest) := by
        simp [record, List.intercalate]
      rw [hform, hread ',' (by simp), readFrom_comma hplace, ih (List.cons_ne_nil g r),
        List.append_assoc, List.singleton_append]

/-- **A document is read as the records that it was written for**, if each of them has a field. -/
theorem read_document {records : List Record} (h : ∀ r ∈ records, r ≠ []) :
    read (document records) = some records := by
  induction records with
  | nil => rfl
  | cons r records ih =>
    have hrest := ih fun s hs => h s (List.mem_cons_of_mem _ hs)
    have hform : document (r :: records) = record r ++ document records := rfl
    rw [hform, read, readFrom_record (h r List.mem_cons_self), hrest]
    rfl

end Csv

namespace Report

variable {r : Report}

/-! ## Columns -/

theorem mem_columns_iff {n : Name} : n ∈ r.columns ↔ ∃ row ∈ r.rows, n ∈ row.names := by
  rw [columns, List.mem_eraseDups, List.mem_flatMap]

/-- A report has a column if one of its rows binds a variable. -/
theorem columns_ne_nil (h : ∃ row ∈ r.rows, row ≠ .empty) : r.columns ≠ [] := by
  obtain ⟨row, hrow, hne⟩ := h
  intro hnone
  apply hne
  have hnames : row.names = [] := by
    apply List.eq_nil_iff_forall_not_mem.2
    intro n hn
    have hmem : n ∈ r.columns := mem_columns_iff.2 ⟨row, hrow, hn⟩
    rw [hnone] at hmem
    exact List.not_mem_nil hmem
  exact Row.ext (List.map_eq_nil_iff.1 hnames)

/-! ## Main result -/

/-- **Reports of separated fields are read back.** Let some row of a report bind a variable. Reading
the report gives a record of its variables and then one record for each row, in order. The record of
the variables has every variable that is bound in any row once, in the order of their first places
in the rows. The record of a row has a field for each of them, with the IRI, lexical form or label
that the row binds it to, and nothing if it does not bind it.

**Proof sketch.** Every record has as many fields as there are variables, so at least one, and
documents of such records are read back (`Csv.read_document`). -/
theorem csv_readBack (r : Report) (h : ∃ row ∈ r.rows, row ≠ .empty) :
    Csv.read (r.text .csv).toList = some (r.columns.map String.toList :: r.rows.map fun row =>
      r.columns.map fun n => (((row.get? n).map Term.value).getD "").toList) ∧
    (∀ n, n ∈ r.columns ↔ ∃ row ∈ r.rows, n ∈ row.names) ∧
    r.columns.Nodup ∧
    r.columns.Pairwise fun a b =>
      (r.rows.flatMap Row.names).idxOf a < (r.rows.flatMap Row.names).idxOf b := by
  refine ⟨?_, fun n => mem_columns_iff, nodup_eraseDups _, pairwise_eraseDups _⟩
  have hrecords : r.records = r.columns.map String.toList :: r.rows.map fun row =>
      r.columns.map fun n => (((row.get? n).map Term.value).getD "").toList := by
    simp [records, cells, Function.comp_def]
  have htext : (r.text .csv).toList = Csv.document r.records := String.toList_ofList
  have hfields : ∀ record ∈ r.records, record ≠ [] := by
    intro record hrecord
    rw [hrecords] at hrecord
    rcases List.mem_cons.1 hrecord with rfl | hrow
    · simpa using columns_ne_nil h
    · obtain ⟨row, -, rfl⟩ := List.mem_map.1 hrow
      simpa using columns_ne_nil h
  rw [htext, Csv.read_document hfields, hrecords]

/-- Two rows with different variables, the first of which is bound to a text with a comma, quotes
and line breaks. -/
def quotedReport : Report where
  endpoint := "http://example.org/sparql"
  rows := [(Row.empty.insert "a,b" (.literal (.plain "say \"hi\",\r\n\"you\""))).insert "c"
      (.iri "http://example.org/c"),
    (Row.empty.insert "d" (.blankNode "x")).insert "c" (.literal (.plain ""))]
  elapsed := .zero

/-- Neither the comma in a name nor the line break in a text ends a field. -/
theorem quoted_readBack :
    (∃ row ∈ quotedReport.rows, row ≠ .empty) ∧
      Csv.read (quotedReport.text .csv).toList = some
        [["a,b".toList, "c".toList, "d".toList],
          ["say \"hi\",\r\n\"you\"".toList, "http://example.org/c".toList, []],
          [[], [], "x".toList]] := by
  have hbinds : ∃ row ∈ quotedReport.rows, row ≠ .empty := ⟨_, List.mem_cons_self, by decide⟩
  obtain ⟨hread, -⟩ := csv_readBack quotedReport hbinds
  exact ⟨hbinds, hread.trans (by decide +kernel)⟩

end Report

end ServiceClause
