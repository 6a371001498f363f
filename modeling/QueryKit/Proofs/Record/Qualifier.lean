import QueryKit.Proofs.CallOrder

/-! Records selected under a table. A table list reads a table's name as a path, part by part, and
the columns of a record take the whole name as one part. Both write the same text exactly if the
name is a path of one part. -/

namespace QueryKit

variable {d : Dialect} {start close : Char}

theorem Dialect.length_quote (hd : d.quotes = some (start, close)) (s : String) :
    (d.quote s).toList.length = (d.inside s).length + 2 := by
  rw [toList_quote_eq, hd]
  simp

/-! ### Paths and whole names -/

namespace Column

/-- A path takes the room of its whole name and two quotes for every dot, but its star stands
bare. -/
theorem length_text_path (hd : d.quotes = some (start, close)) (part : String)
    (more : List String) :
    ((path (part :: more)).text d).toList.length + more.length * (d.inside ".").length +
        (if (part :: more).getLast? = some "*" then (d.inside "*").length + 1 else 0) =
      (d.inside (String.intercalate "." (part :: more))).length + 3 * more.length + 2 := by
  induction more generalizing part with
  | nil =>
    have hlength := Dialect.length_quote hd part
    by_cases hstar : part = "*"
    · subst hstar
      simp [text_path_singleton]
      omega
    · simp [text_path_singleton, hstar]
      omega
  | cons next more ih =>
    have hlength := Dialect.length_quote hd part
    have hrest := ih next
    rw [text_path_cons, String.intercalate_cons_cons, List.getLast?_cons_cons]
    simp only [String.toList_append, List.length_append, Dialect.inside_append, List.length_cons,
      Nat.succ_mul]
    show _ + 1 + _ + _ + _ = _
    omega

theorem getLast?_text_path {parts : List String} (h : parts.getLast? = some "*") :
    ((path parts).text d).toList.getLast? = some '*' := by
  induction parts with
  | nil => contradiction
  | cons part more ih =>
    cases more with
    | nil =>
      have hstar : part = "*" := by simpa using h
      simp [text_path_singleton, hstar]
    | cons next more =>
      have hrest := ih (by simpa using h)
      rw [text_path_cons, String.toList_append, List.getLast?_append, hrest]
      rfl

end Column

theorem Dialect.getLast?_quote (hd : d.quotes = some (start, close)) (s : String) :
    (d.quote s).toList.getLast? = some close := by
  rw [toList_quote_eq, hd]
  exact List.getLast?_concat

/-- A path of several parts is not written like its whole name between two quotes. -/
theorem Column.text_path_ne_quote (hd : d.quotes = some (start, close)) (part next : String)
    (more : List String) :
    (path (part :: next :: more)).text d ≠
      d.quote (String.intercalate "." (part :: next :: more)) := by
  intro h
  have hlength := length_text_path hd part (next :: more)
  rw [h, Dialect.length_quote hd, List.length_cons] at hlength
  by_cases hstar : (part :: next :: more).getLast? = some "*"
  · -- Both texts end alike, so the closing quote is a star, and no dot is doubled.
    have hlast := getLast?_text_path (d := d) hstar
    rw [h, Dialect.getLast?_quote hd, Option.some.injEq] at hlast
    subst hlast
    have hdot : (d.inside ".").length = 1 := by simp [Dialect.inside, hd, Dialect.doubled]
    have htwo : (d.inside "*").length = 2 := by simp [Dialect.inside, hd, Dialect.doubled]
    rw [if_pos hstar, hdot, htwo] at hlength
    omega
  · -- A dot takes less than the three characters that stand between two parts.
    have hdot : (d.inside ".").length ≤ 2 := by
      by_cases hclose : '.' = close
      · subst hclose
        simp [Dialect.inside, hd, Dialect.doubled]
      · simp [Dialect.inside, hd, Dialect.doubled, hclose]
    rw [if_neg hstar] at hlength
    have := Nat.mul_le_mul_left (more.length + 1) hdot
    omega

theorem Dialect.quote_ne_bare_star (hd : d.quotes = some (start, close)) (s : String) :
    d.quote s ≠ "*" := by
  intro h
  have hlength := length_quote hd s
  rw [h] at hlength
  simp at hlength

/-- A table's name is written as one quoted part exactly if it has no dot and is no star. -/
theorem Table.text_eq_quote_iff (hd : d.quotes = some (start, close)) (t : String) :
    Table.text d ⟨t, none⟩ = d.quote t ↔ '.' ∉ t.toList ∧ t ≠ "*" := by
  have hlength : (Text.split '.' t).length = t.toList.count '.' + 1 := by
    simpa [Text.split] using Text.length_splitAt '.' t.toList
  have hjoined := Identifier.intercalate_split t
  have htext : Table.text d ⟨t, none⟩ = (Column.parse t).text d := String.append_empty
  rw [htext, Column.parse, ← List.count_eq_zero]
  rcases hparts : Text.split '.' t with _ | ⟨part, _ | ⟨next, more⟩⟩
  · exact absurd hparts (Identifier.split_ne_nil t)
  · rw [hparts] at hlength hjoined
    obtain rfl : part = t := by simpa using hjoined
    have hdots : part.toList.count '.' = 0 := by simpa using hlength.symm
    rw [Column.text_path_singleton, and_iff_right hdots]
    by_cases hstar : part = "*"
    · simp [hstar, (Dialect.quote_ne_bare_star hd "*").symm]
    · simp [hstar]
  · rw [hparts] at hlength hjoined
    have hne := Column.text_path_ne_quote hd part next more
    rw [hjoined] at hne
    simp only [List.length_cons] at hlength
    simp only [hne, false_iff]
    omega

/-! ### Columns under a table -/

/-- A column is written as the text of its table, a dot and its quoted name exactly if the table is
named, by a name without dots, and neither is a star. -/
theorem Column.text_qualified_iff (hd : d.quotes = some (start, close)) (t name : String) :
    (Column.qualified (some t) name).text d = Table.text d ⟨t, none⟩ ++ "." ++ d.quote name ↔
      t ≠ "" ∧ '.' ∉ t.toList ∧ t ≠ "*" ∧ name ≠ "*" := by
  rw [text_qualified]
  by_cases hempty : t = ""
  · -- Without a table the column is written alone, which is shorter.
    subst hempty
    refine iff_of_false (fun h => ?_) (fun h => h.1 rfl)
    rw [Dialect.prefixText_empty, String.empty_append] at h
    have hquote := Dialect.length_quote hd name
    have hstar : "*".toList.length = 1 := rfl
    have hdot : ".".toList.length = 1 := rfl
    have hlength := congrArg (List.length ∘ String.toList) h
    simp only [Function.comp, String.toList_append, List.length_append] at hlength
    split at hlength <;> omega
  · rw [Dialect.prefixText_of_ne hempty]
    by_cases hstar : name = "*"
    · -- A dot stands in front of the bare star, and a quote or a star in front of the last quote.
      subst hstar
      refine iff_of_false (fun h => ?_) (fun h => h.2.2.2 rfl)
      have hchars := congrArg (List.reverse ∘ String.toList) h
      simp only [Function.comp, String.toList_append, List.reverse_append,
        Dialect.toList_quote_eq, hd, if_true] at hchars
      by_cases hclose : '*' = close
      · subst hclose
        simp [Dialect.inside, hd, Dialect.doubled] at hchars
      · simp [hclose] at hchars
    · rw [if_neg hstar, String.append_left_inj, String.append_left_inj, eq_comm,
        Table.text_eq_quote_iff hd]
      simp [hempty, hstar]

/-! ### Statements -/

namespace Select

/-- A built statement writes its selections and then its tables. -/
theorem exists_text_eq {q : Select} {s : Statement} (hs : q.build = .ok s) :
    ∃ rest, s.text = "SELECT " ++ (if q.isDistinct then "DISTINCT " else "") ++
      listText (Selection.text q.resolved) q.selections ++ " FROM " ++
      listText (Table.text q.resolved) q.tables ++ rest := by
  obtain ⟨-, -, rfl⟩ := Draft.build_ok_iff.mp hs
  have htext := draft_text_eq (d := q.resolved) q
  simp only [sourceText, String.append_assoc] at htext
  simp only [String.append_assoc]
  exact ⟨_, htext⟩

/-- In every run of calls that selects the columns of a record under a table and has this table
without an alias among its tables, the columns stand in the list of selections in their order, and
the table in the list of tables. Each column is the text of the table, a dot and its quoted name
exactly if the table is named, by a name without dots, and no star takes part. -/
theorem records_follow_their_table_iff (before after : List Call) (fields : List Field)
    (t : String) (start close : Char) :
    let q := run (before ++ .record fields t :: after)
    let d := q.resolved
    let names := Field.allNames (run before).settings.separator "" fields
    let selected (name : String) : Selection := ⟨.qualified (some t) name, none⟩
    d.quotes = some (start, close) → ⟨t, none⟩ ∈ q.tables →
      (∃ back, q.selections = (run before).selections ++ names.map selected ++ back) ∧
      (∀ s, q.build = .ok s → ∃ rest, s.text =
        "SELECT " ++ (if q.isDistinct then "DISTINCT " else "") ++
          listText (Selection.text d) q.selections ++ " FROM " ++
          listText (Table.text d) q.tables ++ rest) ∧
      (∃ front back, q.tables = front ++ ⟨t, none⟩ :: back) ∧
      ((∀ name ∈ names, (selected name).text d = Table.text d ⟨t, none⟩ ++ "." ++ d.quote name) ↔
        ∀ name ∈ names, t ≠ "" ∧ '.' ∉ t.toList ∧ t ≠ "*" ∧ name ≠ "*") := by
  intro q d names selected hd ht
  refine ⟨?_, fun s hs => exists_text_eq hs, List.append_of_mem ht, ?_⟩
  · obtain ⟨back, hback⟩ := exists_selections_foldl ((run before).apply (.record fields t)) after
    refine ⟨back, ?_⟩
    show (run _).selections = _
    rw [run_append, List.foldl_cons, hback, selections_apply]
    simp [Call.selected, listed, Field.columns, names, selected, Function.comp_def]
  · refine forall₂_congr fun name _ => ?_
    rw [← Column.text_qualified_iff hd]
    show (Column.text d _ ++ "") = _ ↔ _
    rw [String.append_empty]

/-- The columns of an embedded record under a table of one part. -/
theorem records_follow_their_table_users :
    let fields : List Field := [.column "id", .embedded "address" [.column "city"]]
    let q := run [.dialect .postgres, .table ⟨"users", none⟩, .record fields "users"]
    q.build.toOption.map Statement.text =
        some "SELECT \"users\".\"id\", \"users\".\"address_city\" FROM \"users\"" ∧
      ∀ name ∈ ["id", "address_city"],
        Selection.text .postgres ⟨.qualified (some "users") name, none⟩ =
          Table.text .postgres ⟨"users", none⟩ ++ "." ++ Dialect.quote .postgres name := by
  intro fields q
  refine ⟨by decide +kernel, ?_⟩
  obtain ⟨-, -, -, hiff⟩ :=
    records_follow_their_table_iff [.dialect .postgres, .table ⟨"users", none⟩] [] fields "users"
      '"' '"' rfl (by decide)
  exact hiff.mpr (by decide)

/-- The table list takes a schema and a table from the name, and the column takes it whole. -/
theorem records_miss_their_table_in_a_schema :
    let fields : List Field := [.column "city"]
    let q := run [.dialect .postgres, .table ⟨"app.users", none⟩, .record fields "app.users"]
    ⟨"app.users", none⟩ ∈ q.tables ∧
      q.build.toOption.map Statement.text =
        some "SELECT \"app.users\".\"city\" FROM \"app\".\"users\"" ∧
      Selection.text .postgres ⟨.qualified (some "app.users") "city", none⟩ ≠
        Table.text .postgres ⟨"app.users", none⟩ ++ "." ++ Dialect.quote .postgres "city" := by
  decide +kernel

end Select

end QueryKit
