import QueryKit.Proofs.Binding

/-! Rows by their places, and sets of rows as queues. A row has one value for each name of its
header, whether it was made from values or from the columns of another row, so every lookup by a
name or by a number ends inside of it. The rows of a set come out in the order in which they went
in. A refused row leaves no trace in a set that it was pushed to, and takes a set with it that was
given away. -/

namespace QueryKit

/-! ### Lookups -/

/-- A name is found at the first place that bears it, by its number, or not at all. -/
structure Header.FindsFirst (h : Header) (name : String) : Prop where
  found (n : Nat) : (h.position? name).map Fin.val = some n ↔
    h.names[n]? = some name ∧ ∀ m < n, h.names[m]? ≠ some name
  missing : h.position? name = none ↔ name ∉ h.names

namespace Header

variable {h : Header} {name : String}

theorem isFirst_iff {i : h.Place} : h.IsFirst name i ↔
    h.names[i.val]? = some name ∧ ∀ m < i.val, h.names[m]? ≠ some name := by
  have hi : h.names[i.val]? = some (h.names.get i) := List.getElem?_eq_getElem i.isLt
  rw [hi, Option.some.injEq]
  refine and_congr_right fun _ => ⟨fun hbefore m hm => ?_, fun hbefore j hj => ?_⟩
  · have hinside : m < h.names.length := Nat.lt_trans hm i.isLt
    rw [List.getElem?_eq_getElem hinside, Ne, Option.some.injEq]
    exact hbefore ⟨m, hinside⟩ hm
  · have hne := hbefore j.val hj
    rwa [List.getElem?_eq_getElem j.isLt, Ne, Option.some.injEq] at hne

theorem findsFirst (h : Header) (name : String) : h.FindsFirst name where
  found n := by
    rw [Option.map_eq_some_iff]
    constructor
    · rintro ⟨i, hi, rfl⟩
      exact isFirst_iff.mp (position?_eq_some_iff.mp hi)
    · rintro ⟨hn, hbefore⟩
      obtain ⟨hinside, -⟩ := List.getElem?_eq_some_iff.mp hn
      exact ⟨⟨n, hinside⟩, position?_eq_some_iff.mpr (isFirst_iff.mpr ⟨hn, hbefore⟩), rfl⟩
  missing := position?_eq_none_iff

end Header

namespace Row

variable {h : Header}

/-- Every lookup in a row ends at a value that is there, or says that there is none. -/
structure Answers (r : Row h) : Prop where
  length_eq : r.values.length = h.names.length
  found (name : String) (i : h.Place) (hi : h.position? name = some i) :
    ∃ v, r.values[i.val]? = some v ∧ r.get? name = some v ∧
      ∀ t, r.column t name = (t.read v).mapError (.decode name)
  missing (name : String) (hnone : h.position? name = none) :
    r.get? name = none ∧ ∀ t, r.column t name = .error (.decode name .columnMissing)
  inside (n : Nat) (name : String) (hn : h.names[n]? = some name) :
    ∃ v, r.values[n]? = some v ∧ ∀ t, r.index t n = (t.read v).mapError (.decode name)
  outside (n : Nat) (hn : h.names.length ≤ n) (t : ColumnType) :
    r.index t n = .error (.decode s!"#{n}" .indexOutOfRange)

theorem getElem?_values (r : Row h) (i : h.Place) : r.values[i.val]? = some (r.valueAt i) :=
  List.getElem?_eq_getElem (r.length_eq.symm ▸ i.isLt)

theorem answers (r : Row h) : r.Answers where
  length_eq := r.length_eq
  found name i hi :=
    ⟨r.valueAt i, r.getElem?_values i, by simp [get?, hi], fun t => by simp [column, hi, readAt]⟩
  missing name hnone := ⟨by simp [get?, hnone], fun t => by simp [column, hnone]⟩
  inside n name hn := by
    obtain ⟨hinside, rfl⟩ := List.getElem?_eq_some_iff.mp hn
    exact ⟨r.valueAt ⟨n, hinside⟩, r.getElem?_values ⟨n, hinside⟩, fun t => by
      simp [index, hinside, readAt]⟩
  outside n hn t := by simp [index, Nat.not_lt.mpr hn]

/-- The error for values that make up no row. -/
def refusal (h : Header) (values : List Value) : Error :=
  .other s!"row has {values.length} values for {h.names.length} columns"

theorem ofValues_error (h : Header) {values : List Value}
    (hlength : values.length ≠ h.names.length) : ofValues h values = .error (refusal h values) :=
  dif_neg hlength

/-! ### Columns of a row as a row -/

/-- The columns at some places make up a row of their own, in the order of the places: each keeps
its name and its value. -/
structure Projects (r : Row h) (places : List h.Place) : Prop where
  length_eq : (h.select places).names.length = places.length
  keeps (n : Nat) (i : h.Place) (hn : places[n]? = some i) :
    (h.select places).names[n]? = h.names[i.val]? ∧
      (r.select places).values[n]? = r.values[i.val]?
  answers : (r.select places).Answers

theorem projects (r : Row h) (places : List h.Place) : r.Projects places where
  length_eq := by simp [Header.select]
  keeps n i hn := by
    rw [r.getElem?_values i]
    simp [Header.select, select, hn]
  answers := (r.select places).answers

end Row

/-- Key columns keep their names. Without names the key is the first column. -/
theorem Header.KeyedBy.names_eq {h : Header} {names : List String} {places : List h.Place}
    (hk : h.KeyedBy names places) :
    (h.select places).names = if names = [] then h.names.take 1 else names := by
  cases hk with
  | first unnamed inside =>
    rw [if_pos unnamed]
    obtain ⟨name, names, hnames⟩ := List.exists_cons_of_length_pos inside
    simp [select, hnames]
  | named given found =>
    have hsame : List.Forall₂ (· = ·) names (h.select places).names :=
      List.forall₂_map_right_iff.mpr (found.imp fun _ _ hi => hi.1.symm)
    rw [List.forall₂_eq_eq_eq] at hsame
    rw [if_neg given, hsame]

/-! ### Sets of rows -/

namespace RowSet

/-- A call on a set of rows. -/
inductive Call
  | push (values : List Value)
  | withRow (values : List Value)
  | withSeparator (separator : String)
  | pop
  | intoRows

/-- A row that was taken, with the header that it had then. -/
abbrev Taken := (h : Header) × Row h

/-- What comes of calls: their answers, the rows that they take, and the set, unless it is gone. -/
structure Outcome where
  answers : List (Except Error Unit)
  taken : List Taken := []
  left : Option RowSet

def apply (s : RowSet) : Call → Outcome
  | .push values =>
    let (answer, s') := s.push values
    { answers := [answer], left := some s' }
  | .withRow values =>
    match s.withRow values with
    | .ok s' => { answers := [.ok ()], left := some s' }
    | .error e => { answers := [.error e], left := none }
  | .withSeparator separator => { answers := [.ok ()], left := some (s.withSeparator separator) }
  | .pop =>
    match s.pop? with
    | some (row, s') => { answers := [.ok ()], taken := [⟨s.header, row⟩], left := some s' }
    | none => { answers := [.ok ()], left := some s }
  | .intoRows => { answers := [.ok ()], taken := s.intoRows.map (Sigma.mk s.header), left := none }

/-- Several calls one after the other, as long as there is a set. -/
def run (s : RowSet) : List Call → Outcome
  | [] => { answers := [], left := some s }
  | c :: calls =>
    let o := s.apply c
    match o.left with
    | none => o
    | some s' =>
      let more := s'.run calls
      ⟨o.answers ++ more.answers, o.taken ++ more.taken, more.left⟩

/-- The values of all rows, the next one in front. -/
def contents (s : RowSet) : List (List Value) :=
  s.rows.map Row.values

def Outcome.takenValues (o : Outcome) : List (List Value) :=
  o.taken.map fun row => row.2.values

/-- The row that a call adds to a set with a number of columns. -/
def Call.added? (width : Nat) : Call → Option (List Value)
  | push values | withRow values => if values.length = width then some values else none
  | _ => none

/-- The call gives a set with a number of columns away and gets none back. -/
inductive Call.Ends (width : Nat) : Call → Prop
  | refused {values : List Value} (hlength : values.length ≠ width) : Ends width (withRow values)
  | intoRows : Ends width intoRows

variable {s : RowSet} {values : List Value}

theorem push_ok (hlength : values.length = s.header.names.length) :
    s.push values = (.ok (), { s with rows := s.rows ++ [⟨values, hlength⟩] }) := by
  simp [push, Row.ofValues, hlength]

theorem push_error (hlength : values.length ≠ s.header.names.length) :
    s.push values = (.error (Row.refusal s.header values), s) := by
  rw [push, Row.ofValues_error s.header hlength]

theorem withRow_ok (hlength : values.length = s.header.names.length) :
    s.withRow values = .ok { s with rows := s.rows ++ [⟨values, hlength⟩] } := by
  rw [withRow, push_ok hlength]

theorem withRow_error (hlength : values.length ≠ s.header.names.length) :
    s.withRow values = .error (Row.refusal s.header values) := by
  rw [withRow, push_error hlength]

theorem pop?_eq_none_iff : s.pop? = none ↔ s.rows = [] := by
  unfold pop?
  split <;> simp_all

/-- A set becomes another one while rows go in and rows are taken: taken and remaining rows together
are the earlier ones with those that went in behind them, and the names stay. -/
structure Moves (s : RowSet) (added : List (List Value)) (taken : List Taken) (s' : RowSet) :
    Prop where
  order : (taken.map fun row => row.2.values) ++ s'.contents = s.contents ++ added
  names_eq : s'.header.names = s.header.names
  taken_names : ∀ row ∈ taken, row.1.names = s.header.names

theorem Moves.refl (s : RowSet) : s.Moves [] [] s where
  order := by simp
  names_eq := rfl
  taken_names := by simp

theorem Moves.trans {s' s'' : RowSet} {added added' : List (List Value)}
    {taken taken' : List Taken} (h : s.Moves added taken s') (h' : s'.Moves added' taken' s'') :
    s.Moves (added ++ added') (taken ++ taken') s'' where
  order := by
    rw [List.map_append, List.append_assoc, h'.order, ← List.append_assoc, h.order,
      List.append_assoc]
  names_eq := h'.names_eq.trans h.names_eq
  taken_names row hrow := by
    rcases List.mem_append.mp hrow with hrow | hrow
    · exact h.taken_names row hrow
    · exact (h'.taken_names row hrow).trans h.names_eq

theorem moves_added (s : RowSet) (hlength : values.length = s.header.names.length) :
    s.Moves [values] [] { s with rows := s.rows ++ [⟨values, hlength⟩] } where
  order := by simp [contents]
  names_eq := rfl
  taken_names := by simp

/-- A call that leaves a set moves rows. -/
theorem moves_apply {c : Call} {s' : RowSet} (hleft : (s.apply c).left = some s') :
    s.Moves (c.added? s.header.names.length).toList (s.apply c).taken s' := by
  cases c with
  | push values =>
    by_cases hlength : values.length = s.header.names.length
    · simp only [apply, push_ok hlength, Call.added?, if_pos hlength] at hleft ⊢
      obtain rfl := Option.some.inj hleft
      exact s.moves_added hlength
    · simp only [apply, push_error hlength, Call.added?, if_neg hlength] at hleft ⊢
      obtain rfl := Option.some.inj hleft
      exact .refl s
  | withRow values =>
    by_cases hlength : values.length = s.header.names.length
    · simp only [apply, withRow_ok hlength, Call.added?, if_pos hlength] at hleft ⊢
      obtain rfl := Option.some.inj hleft
      exact s.moves_added hlength
    · simp [apply, withRow_error hlength] at hleft
  | withSeparator separator =>
    obtain rfl := Option.some.inj hleft
    exact ⟨by simp [apply, withSeparator, contents, Call.added?, Function.comp_def,
      Row.withSeparator], rfl, by simp [apply]⟩
  | pop =>
    obtain ⟨header, rows⟩ := s
    cases rows with
    | nil =>
      obtain rfl := Option.some.inj hleft
      exact .refl _
    | cons row rows =>
      obtain rfl := Option.some.inj hleft
      exact ⟨by simp [apply, pop?, contents, Call.added?], rfl, by simp [apply, pop?]⟩
  | intoRows => contradiction

/-- Only a set that is given away is not left. -/
theorem apply_left_eq_none_iff (s : RowSet) (c : Call) :
    (s.apply c).left = none ↔ c.Ends s.header.names.length := by
  cases c with
  | push values => exact iff_of_false (Option.some_ne_none _) (by rintro ⟨⟩)
  | withRow values =>
    by_cases hlength : values.length = s.header.names.length
    · simp only [apply, withRow_ok hlength]
      exact iff_of_false (Option.some_ne_none _) (by rintro ⟨hne⟩; exact hne hlength)
    · simp only [apply, withRow_error hlength]
      exact iff_of_true trivial (.refused hlength)
  | withSeparator separator => exact iff_of_false (Option.some_ne_none _) (by rintro ⟨⟩)
  | pop =>
    refine iff_of_false ?_ (by rintro ⟨⟩)
    rw [apply]
    split <;> exact Option.some_ne_none _
  | intoRows => exact iff_of_true rfl .intoRows

theorem run_cons_of_some {c : Call} {s' : RowSet} (hleft : (s.apply c).left = some s')
    (calls : List Call) : s.run (c :: calls) =
      ⟨(s.apply c).answers ++ (s'.run calls).answers, (s.apply c).taken ++ (s'.run calls).taken,
        (s'.run calls).left⟩ := by
  simp only [run, hleft]

/-- Nothing is done to a set that is gone. -/
theorem run_cons_of_none {c : Call} (hleft : (s.apply c).left = none) (calls : List Call) :
    s.run (c :: calls) = s.apply c := by
  simp only [run, hleft]

/-- Calls go on with the set that earlier calls leave. -/
theorem run_append {front : List Call} {last : RowSet} (hleft : (s.run front).left = some last)
    (calls : List Call) : s.run (front ++ calls) =
      ⟨(s.run front).answers ++ (last.run calls).answers,
        (s.run front).taken ++ (last.run calls).taken, (last.run calls).left⟩ := by
  induction front generalizing s with
  | nil =>
    obtain rfl : s = last := Option.some.inj hleft
    rfl
  | cons c front ih =>
    cases hc : (s.apply c).left with
    | none =>
      rw [run_cons_of_none hc, hc] at hleft
      contradiction
    | some s' =>
      rw [run_cons_of_some hc] at hleft
      rw [List.cons_append, run_cons_of_some hc, run_cons_of_some hc, ih hleft, List.append_assoc,
        List.append_assoc]

/-- Calls that leave a set move rows. -/
theorem moves_run {calls : List Call} {last : RowSet} (hleft : (s.run calls).left = some last) :
    s.Moves (calls.filterMap (Call.added? s.header.names.length)) (s.run calls).taken last := by
  induction calls generalizing s with
  | nil =>
    obtain rfl : s = last := Option.some.inj hleft
    exact .refl s
  | cons c calls ih =>
    cases hc : (s.apply c).left with
    | none =>
      rw [run_cons_of_none hc, hc] at hleft
      contradiction
    | some s' =>
      rw [run_cons_of_some hc] at hleft ⊢
      have hstep := moves_apply hc
      have hrest := ih hleft
      -- Which rows may go in is decided by the names, and these stay.
      rw [hstep.names_eq] at hrest
      have hboth := hstep.trans hrest
      cases hadded : c.added? s.header.names.length <;> simpa [hadded] using hboth

/-- Calls that leave no set came to one that ends it. -/
theorem run_left_eq_none_iff {calls : List Call} : (s.run calls).left = none ↔
    ∃ front c rest last, calls = front ++ c :: rest ∧ (s.run front).left = some last ∧
      c.Ends s.header.names.length := by
  constructor
  · intro hnone
    induction calls generalizing s with
    | nil => contradiction
    | cons c calls ih =>
      cases hc : (s.apply c).left with
      | none => exact ⟨[], c, calls, s, rfl, rfl, (s.apply_left_eq_none_iff c).mp hc⟩
      | some s' =>
        rw [run_cons_of_some hc] at hnone
        obtain ⟨front, c', rest, last, rfl, hleft, hends⟩ := ih hnone
        rw [(moves_apply hc).names_eq] at hends
        exact ⟨c :: front, c', rest, last, rfl, by rw [run_cons_of_some hc, hleft], hends⟩
  · rintro ⟨front, c, rest, last, rfl, hleft, hends⟩
    rw [← (moves_run hleft).names_eq] at hends
    have hc := (last.apply_left_eq_none_iff c).mpr hends
    rw [run_append hleft, run_cons_of_none hc, hc]

/-- What is taken from a set and what stays in it are its rows, and behind them the rows of the
right length that went in, in their order. -/
structure Follows (s : RowSet) (calls : List Call) (last : RowSet) : Prop where
  order : (s.run calls).takenValues ++ last.contents =
    s.contents ++ calls.filterMap (Call.added? s.header.names.length)
  names_eq : last.header.names = s.header.names
  taken_length : ∀ row ∈ (s.run calls).taken, row.1.names = s.header.names ∧
    row.2.values.length = s.header.names.length
  left_length : ∀ values ∈ last.contents, values.length = s.header.names.length

theorem follows {calls : List Call} {last : RowSet} (hleft : (s.run calls).left = some last) :
    s.Follows calls last where
  order := (moves_run hleft).order
  names_eq := (moves_run hleft).names_eq
  taken_length row hrow := by
    have hnames := (moves_run hleft).taken_names row hrow
    exact ⟨hnames, by rw [row.2.length_eq, hnames]⟩
  left_length values hvalues := by
    obtain ⟨row, -, rfl⟩ := List.mem_map.mp hvalues
    rw [row.length_eq, (moves_run hleft).names_eq]

/-- How some calls come to the end of a set behind earlier ones that leave it: all its rows are taken
at once, or a row of a wrong length is refused and the rows that were not taken before are gone. -/
inductive Ended (s : RowSet) (calls front : List Call) : Call → Prop
  | emptied (answers : (s.run calls).answers = (s.run front).answers ++ [.ok ()])
      (taken : (s.run calls).takenValues =
        s.contents ++ front.filterMap (Call.added? s.header.names.length)) :
      Ended s calls front .intoRows
  | dropped {values : List Value} (hlength : values.length ≠ s.header.names.length)
      (answers : (s.run calls).answers =
        (s.run front).answers ++ [.error (Row.refusal s.header values)])
      (taken : (s.run calls).taken = (s.run front).taken) : Ended s calls front (.withRow values)

theorem ended_of_ends {front rest : List Call} {c : Call} {last : RowSet}
    (hleft : (s.run front).left = some last) (hends : c.Ends s.header.names.length) :
    s.Ended (front ++ c :: rest) front c := by
  have hmoves := moves_run hleft
  rw [← hmoves.names_eq] at hends
  have hrun : s.run (front ++ c :: rest) = ⟨(s.run front).answers ++ (last.apply c).answers,
      (s.run front).taken ++ (last.apply c).taken, (last.apply c).left⟩ := by
    rw [run_append hleft, run_cons_of_none ((last.apply_left_eq_none_iff c).mpr hends)]
  cases hends with
  | @refused values hlength =>
    have happly : last.apply (.withRow values) =
        { answers := [.error (Row.refusal last.header values)], left := none } := by
      rw [apply, withRow_error hlength]
    rw [happly] at hrun
    rw [hmoves.names_eq] at hlength
    refine .dropped hlength ?_ ?_
    · rw [hrun, Row.refusal, Row.refusal, hmoves.names_eq]
    · rw [hrun, List.append_nil]
  | intoRows =>
    refine .emptied (by rw [hrun]; rfl) ?_
    rw [← (follows hleft).order, hrun, Outcome.takenValues, List.map_append]
    simp [apply, intoRows, contents, Outcome.takenValues, Function.comp_def]

theorem ended_iff {calls : List Call} : (s.run calls).left = none ↔
    ∃ front c rest last, calls = front ++ c :: rest ∧ (s.run front).left = some last ∧
      s.Ended calls front c := by
  rw [run_left_eq_none_iff]
  constructor
  · rintro ⟨front, c, rest, last, rfl, hleft, hends⟩
    exact ⟨front, c, rest, last, rfl, hleft, ended_of_ends hleft hends⟩
  · rintro ⟨front, c, rest, last, hcalls, hleft, hended⟩
    refine ⟨front, c, rest, last, hcalls, hleft, ?_⟩
    cases hended with
    | emptied => exact .intoRows
    | dropped hlength => exact .refused hlength

end RowSet

/-- Names lead to their first place. Values make up a row exactly if there is one for each name, and
every lookup in a row, or in the key columns of a row or in the others, ends at a value that is
there or in an error. A set of rows takes a row exactly if it has one value for each name; a refused
row leaves a set as it is that it is pushed to, but none that was given away for it. A set bears
another separator without any other change. However rows are put in and taken, as long as there is a
set, the rows that were taken and those that remain are all that were there or went in, each once
and in their order; and the set ends only where all its rows are taken at once, or where a row is
refused and takes with it those that remained. -/
theorem rows_answer_and_come_out_in_order (h : Header) :
    (∀ name, h.FindsFirst name) ∧
    (∀ values,
      (values.length = h.names.length →
        ∃ row, Row.ofValues h values = .ok row ∧ row.values = values) ∧
      (values.length ≠ h.names.length → Row.ofValues h values = .error
        (.other s!"row has {values.length} values for {h.names.length} columns"))) ∧
    (∀ row : Row h, row.Answers ∧
      ∀ keyColumns places, h.keyPlaces keyColumns = .ok places →
        (h.select places).names = (if keyColumns = [] then h.names.take 1 else keyColumns) ∧
        h.Spares places (h.otherPlaces places) ∧
        row.Projects places ∧ row.Projects (h.otherPlaces places)) ∧
    ∀ rows : List (Row h),
      let s : RowSet := ⟨h, rows⟩
      (∀ values,
        (values.length = h.names.length → ∃ s', s.push values = (.ok (), s') ∧
          s.withRow values = .ok s' ∧ s'.header = h ∧ s'.contents = s.contents ++ [values]) ∧
        (values.length ≠ h.names.length →
          let e := .other s!"row has {values.length} values for {h.names.length} columns"
          s.push values = (.error e, s) ∧ s.withRow values = .error e ∧
            (s.apply (.withRow values)).left = none)) ∧
      (s.pop? = none ↔ rows = []) ∧ s.intoRows = rows ∧
      (∀ separator, (s.withSeparator separator).header = ⟨h.names, separator⟩ ∧
        (s.withSeparator separator).contents = s.contents ∧
        ∀ name, (s.withSeparator separator).header.position? name = h.position? name) ∧
      ∀ calls,
        (∀ last, (s.run calls).left = some last → s.Follows calls last) ∧
        ((s.run calls).left = none ↔ ∃ front c rest last, calls = front ++ c :: rest ∧
          (s.run front).left = some last ∧ s.Ended calls front c) := by
  refine ⟨h.findsFirst, fun values => ⟨fun hlength => ?_, Row.ofValues_error h⟩,
    fun row => ⟨row.answers, fun keyColumns places hplaces => ?_⟩,
    fun rows => ⟨fun values => ⟨fun hlength => ?_, fun hlength => ?_⟩, RowSet.pop?_eq_none_iff, rfl,
      fun separator => ⟨rfl, ?_, fun name => rfl⟩,
      fun calls => ⟨fun last => RowSet.follows, RowSet.ended_iff⟩⟩⟩
  · exact ⟨⟨values, hlength⟩, Row.ofValues_ok_iff.mpr rfl, rfl⟩
  · have hkeyed := Header.keyPlaces_ok_iff.mp hplaces
    exact ⟨hkeyed.names_eq, h.spares_otherPlaces places, row.projects places, row.projects _⟩
  · exact ⟨_, RowSet.push_ok hlength, RowSet.withRow_ok hlength, rfl, by simp [RowSet.contents]⟩
  · have hends : RowSet.Call.Ends h.names.length (.withRow values) := .refused hlength
    exact ⟨RowSet.push_error hlength, RowSet.withRow_error hlength,
      (RowSet.apply_left_eq_none_iff ⟨h, rows⟩ _).mpr hends⟩
  · simp [RowSet.withSeparator, RowSet.contents, Function.comp_def, Row.withSeparator]

/-- A name stands twice, a short row is refused between two others, and the separator changes before
the first row is taken. Then all rows are taken at once, or a refused row takes them with it. -/
theorem rows_answer_and_come_out_in_order_repeated :
    let h : Header := { names := ["k", "v", "k"] }
    let front : List Value := [.int 1, .int 2, .int 3]
    let back : List Value := [.int 4, .int 5, .int 6]
    let short : List Value := [.int 7]
    let refused := Error.other s!"row has {short.length} values for {h.names.length} columns"
    let s : RowSet := ⟨h, []⟩
    let calls : List RowSet.Call :=
      [.push front, .push short, .withSeparator ".", .pop, .withRow back]
    let emptied := s.run (calls ++ [.intoRows])
    let dropped := s.run (calls ++ [.withRow short, .pop])
    (∃ last, (s.run calls).left = some last ∧
      (s.run calls).takenValues ++ last.contents = [front, back]) ∧
      (s.run calls).takenValues = [front] ∧
      (emptied.left = none ∧ emptied.takenValues = [front, back]) ∧
      (dropped.left = none ∧ dropped.takenValues = [front]) ∧
      (∃ row, Row.ofValues h front = .ok row ∧ row.get? "k" = some (.int 1) ∧
        row.Projects (h.otherPlaces [⟨0, by decide⟩])) ∧
      Row.ofValues h short = .error refused ∧ s.push short = (.error refused, s) := by
  intro h front back short refused s calls emptied dropped
  obtain ⟨-, hmade, hlookups, hsets⟩ := rows_answer_and_come_out_in_order h
  obtain ⟨row, hrow, hvalues⟩ := (hmade front).1 rfl
  obtain ⟨hanswers, hkeys⟩ := hlookups row
  obtain ⟨v, hv, hget, -⟩ := hanswers.found "k" ⟨0, by decide⟩ rfl
  obtain ⟨-, -, -, hothers⟩ := hkeys ["k"] [⟨0, by decide⟩] rfl
  obtain ⟨hadded, -, -, -, hruns⟩ := hsets []
  obtain ⟨last, hleft⟩ : ∃ last, (s.run calls).left = some last := ⟨_, rfl⟩
  have hemptied : emptied.left = none :=
    (hruns _).2.mpr ⟨calls, .intoRows, [], last, rfl, hleft, .emptied rfl rfl⟩
  have hdropped : dropped.left = none :=
    (hruns _).2.mpr ⟨calls, .withRow short, [.pop], last, rfl, hleft, .dropped (by decide) rfl rfl⟩
  refine ⟨⟨last, hleft, ((hruns calls).1 last hleft).order⟩, rfl, ⟨hemptied, rfl⟩, ⟨hdropped, rfl⟩,
    ⟨row, hrow, ?_, hothers⟩, (hmade short).2 (by decide), ((hadded short).2 (by decide)).1⟩
  rw [hvalues] at hv
  rw [hget, ← hv]
  rfl

/-- A row of a wrong length leaves a set as it was that it is pushed to, but nothing of a set that
was given away for it. -/
theorem refused_rows_take_their_set :
    let s : RowSet := ⟨{ names := ["a", "b"] }, [⟨[.int 1, .int 2], rfl⟩]⟩
    let refused := Error.other "row has 1 values for 2 columns"
    s.push [.int 3] = (.error refused, s) ∧ s.withRow [.int 3] = .error refused ∧
      (s.apply (.withRow [.int 3])).left ≠ some s :=
  ⟨rfl, rfl, nofun⟩

end QueryKit
