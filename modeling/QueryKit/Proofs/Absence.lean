import QueryKit.Proofs.Binding
import QueryKit.Record.Member

/-! The row that may be absent. Absence is told by the kind of an error, so a cursor or a reader that
fails with an error of this kind passes for the end of the rows. Exactly such errors are taken for
absence. The readers for columns, tuples and records have none of them, so over a set of rows their
failures are always told. -/

namespace QueryKit

open Check

namespace Cursor

variable {α : Type} {c : Cursor} {reader : RowReader α}

theorem fails_iff {h : Header} {read : Row h → Except Error α} {step : Except Error (Row h)}
    {e : Error} : Fails read step e ↔ step.bind read = .error e := by
  constructor
  · rintro (_ | unread)
    · rfl
    · exact unread
  · intro herror
    cases step with
    | error e' => exact Except.error.inj herror ▸ .step e'
    | ok row => exact .row herror

section Step

variable {step : Except Error (Row c.header)} {rest : List (Except Error (Row c.header))}
  (hs : c.steps = step :: rest)

include hs

theorem one_of_cons : (c.one reader).result = step.bind reader.read := by
  rw [one, hs]
  cases step <;> rfl

theorem oneOrNone_of_reads {x : α} (hread : step.bind reader.read = .ok x) :
    (c.oneOrNone reader).result = .ok (some x) := by
  simp only [oneOrNone, one_of_cons hs, hread]

/-- A failure is told as it is, but for the errors that say that there are no rows. -/
theorem oneOrNone_of_fails {e : Error} (hfails : Fails reader.read step e) :
    (c.oneOrNone reader).result = if e.isNotFound then .ok none else .error e := by
  simp only [oneOrNone, one_of_cons hs, fails_iff.mp hfails]

end Step

theorem oneOrNone_of_nil (hs : c.steps = []) : (c.oneOrNone reader).result = .ok none := by
  have hone : (c.one reader).result = .error .noRows := by
    simp only [one, hs]
  simp [oneOrNone, hone, Error.noRows, Error.isNotFound]

/-- The row is absent exactly if there are no more rows, and a failure is told as it is. -/
structure TellsAbsence (c : Cursor) (reader : RowReader α) : Prop where
  absent_iff : (c.oneOrNone reader).result = .ok none ↔ c.steps = []
  failure : ∀ step rest e, c.steps = step :: rest → Fails reader.read step e →
    (c.oneOrNone reader).result = .error e

theorem tellsAbsence_iff : c.TellsAbsence reader ↔
    ∀ step rest e, c.steps = step :: rest → Fails reader.read step e → e.isNotFound = false := by
  constructor
  · intro ht step rest e hs hfails
    by_contra hkind
    have hnone : (c.oneOrNone reader).result = .ok none := by
      simp [oneOrNone_of_fails hs hfails, hkind]
    exact absurd (ht.absent_iff.mp hnone) (by simp [hs])
  · intro hkinds
    have hfailure : ∀ step rest e, c.steps = step :: rest → Fails reader.read step e →
        (c.oneOrNone reader).result = .error e := by
      intro step rest e hs hfails
      simp [oneOrNone_of_fails hs hfails, hkinds step rest e hs hfails]
    refine ⟨⟨fun hnone => ?_, oneOrNone_of_nil⟩, hfailure⟩
    cases hs : c.steps with
    | nil => rfl
    | cons step rest =>
      cases hread : step.bind reader.read with
      | ok x =>
        rw [oneOrNone_of_reads hs hread] at hnone
        cases Except.ok.inj hnone
      | error e =>
        rw [hfailure step rest e hs (fails_iff.mpr hread)] at hnone
        contradiction

end Cursor

/-! ### Readers that only decode -/

/-- What fails, fails in decoding a column. -/
def Decodes {α : Type} (x : Except Error α) : Prop :=
  ∀ e, x = .error e → ∃ column cause, e = .decode column cause

section Decodes

variable {α β : Type} {x : Except Error α} {f : α → Except Error β}

theorem Decodes.ok (a : α) : Decodes (.ok a) :=
  nofun

theorem Decodes.decode (column : String) (cause : DecodeError) :
    Decodes (.error (.decode column cause) : Except Error α) := by
  rintro e ⟨⟩
  exact ⟨column, cause, rfl⟩

theorem Decodes.bind (hx : Decodes x) (hf : ∀ a, Decodes (f a)) : Decodes (x >>= f) := by
  intro e he
  obtain he | ⟨a, -, he⟩ := bind_error_iff.mp he
  · exact hx e he
  · exact hf a e he

variable {h : Header} (row : Row h)

theorem Row.decodes_readAt (t : ColumnType) (i : h.Place) (name : String) :
    Decodes (row.readAt t i name) := by
  intro e he
  obtain ⟨cause, -, rfl⟩ := mapError_error_iff.mp he
  exact ⟨name, cause, rfl⟩

theorem Row.decodes_column (t : ColumnType) (name : String) : Decodes (row.column t name) := by
  unfold column
  split
  · exact .decode _ _
  · exact row.decodes_readAt t _ name

theorem Row.decodes_index (t : ColumnType) (n : Nat) : Decodes (row.index t n) := by
  unfold index
  split
  · exact row.decodes_readAt t _ _
  · exact .decode _ _

theorem Row.decodes_tuple (ts : List ColumnType) (n : Nat) : Decodes (row.tuple ts n) := by
  induction ts, n using tuple.induct with
  | case1 => exact .ok ()
  | case2 t n => exact row.decodes_index t n
  | case3 t t' ts n ih =>
    exact (row.decodes_index t n).bind fun _ => ih.bind fun _ => .ok _

mutual

theorem Member.decodes_read (scope : String) : (m : Member) → Decodes (m.read row scope)
  | column _ _ type => (row.decodes_column type _).bind fun _ => .ok _
  | embedded _ _ members => (decodes_readAll _ members).bind fun _ => .ok _
  | inline _ members => (decodes_readAll _ members).bind fun _ => .ok _
  | skipped _ _ => .ok _

theorem Member.decodes_readAll (scope : String) : (ms : List Member) →
    Decodes (Member.readAll row scope ms)
  | [] => .ok []
  | m :: ms =>
    (Member.decodes_read scope m).bind fun _ => (decodes_readAll scope ms).bind fun _ => .ok _

end

end Decodes

/-- The reader fails in decoding only. -/
def RowReader.DecodesOnly {α : Type} (reader : RowReader α) : Prop :=
  ∀ {h : Header} (row : Row h), Decodes (reader.read row)

theorem RowReader.decodesOnly_scalar (t : ColumnType) : (RowReader.scalar t).DecodesOnly :=
  fun row => row.decodes_index t 0

theorem RowReader.decodesOnly_tuple (ts : List ColumnType) : (RowReader.tuple ts).DecodesOnly :=
  fun row => row.decodes_tuple ts 0

theorem RowReader.decodesOnly_record (ms : List Member) : (RowReader.record ms).DecodesOnly :=
  fun row => (Member.decodes_readAll row "" ms).bind fun _ => .ok _

theorem RowReader.DecodesOnly.tellsAbsence {α : Type} {reader : RowReader α}
    (hr : reader.DecodesOnly) (rows : RowSet) : (Cursor.ofRows rows).TellsAbsence reader := by
  refine Cursor.tellsAbsence_iff.mpr fun step rest e hs hfails => ?_
  obtain ⟨row, -, rfl⟩ : ∃ row ∈ rows.rows, Except.ok row = step :=
    List.mem_map.mp (hs ▸ List.mem_cons_self : step ∈ (Cursor.ofRows rows).steps)
  obtain ⟨column, cause, rfl⟩ := hr row e (Cursor.fails_iff.mp hfails)
  rfl

namespace Cursor

/-- Absence is told apart from failures exactly unless the first step fails with an error that says
that there are no rows. So it always is over a set of rows, for readers that only decode: those of
columns, of tuples and of records do. -/
theorem absence_is_told_apart_iff {α : Type} (reader : RowReader α) :
    (∀ c : Cursor, c.TellsAbsence reader ↔ ∀ step rest e, c.steps = step :: rest →
      Fails reader.read step e → e.isNotFound = false) ∧
    (reader.DecodesOnly → ∀ rows : RowSet, (ofRows rows).TellsAbsence reader) ∧
    (∀ t, (RowReader.scalar t).DecodesOnly) ∧ (∀ ts, (RowReader.tuple ts).DecodesOnly) ∧
      ∀ ms, (RowReader.record ms).DecodesOnly :=
  ⟨fun _ => tellsAbsence_iff, fun hr rows => hr.tellsAbsence rows, RowReader.decodesOnly_scalar,
    RowReader.decodesOnly_tuple, RowReader.decodesOnly_record⟩

/-- A cursor that fails by a query, and rows that a reader cannot decode. -/
theorem absence_is_told_apart_iff_pair :
    let reader := RowReader.tuple [.int .i64, .text]
    let failing : Cursor :=
      { header := { names := ["id"] }, steps := [.error (.query "cursor failed")] }
    let narrow : RowSet := ⟨{ names := ["id"] }, [⟨[.int 7], rfl⟩]⟩
    failing.TellsAbsence reader ∧ (ofRows narrow).TellsAbsence reader ∧
      ((ofRows narrow).oneOrNone reader).result = .error (.decode "#1" .indexOutOfRange) := by
  intro reader failing narrow
  obtain ⟨hiff, hrows, -, htuple, -⟩ := absence_is_told_apart_iff reader
  refine ⟨(hiff failing).mpr ?_, hrows (htuple _) narrow, rfl⟩
  rintro step rest e ⟨⟩ (_ | _)
  rfl

/-- A cursor that loses its place, and a reader that looks up what is not there: no row is absent, and
both failures pass for absence. -/
theorem failures_pass_for_absence :
    let lost : Cursor :=
      { header := { names := ["id"] }, steps := [.error (.notFound "cursor lost")] }
    let full : Cursor := { header := { names := ["id"] }, steps := [.ok ⟨[.int 7], rfl⟩] }
    let lookup : RowReader Unit := ⟨fun _ _ => .error (.notFound "no country 7")⟩
    (lost.oneOrNone (.scalar .value)).result = .ok none ∧ ¬lost.TellsAbsence (.scalar .value) ∧
      (full.oneOrNone lookup).result = .ok none ∧ ¬full.TellsAbsence lookup := by
  intro lost full lookup
  have hlost : (lost.oneOrNone (.scalar .value)).result = .ok none := rfl
  have hfull : (full.oneOrNone lookup).result = .ok none := rfl
  exact ⟨hlost, fun ht => absurd (ht.absent_iff.mp hlost) (List.cons_ne_nil _ _),
    hfull, fun ht => absurd (ht.absent_iff.mp hfull) (List.cons_ne_nil _ _)⟩

end Cursor

end QueryKit
