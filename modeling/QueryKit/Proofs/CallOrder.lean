import QueryKit.Delete
import QueryKit.Proofs.Record.Separator
import QueryKit.Update

/-! The order of calls. A statement in the making is a record of its parts, and a call writes the
part that it is about. Neighbouring calls about different parts may change places, but for one pair:
the columns of a record are named with the separator that the settings hold at that time, so new
settings beside them count, exactly if the two separators give the columns different names. -/

namespace QueryKit

/-- The parts of a statement. -/
inductive StatementPart
  | settings
  | dialect
  | columns
  | targets
  | tables
  | joins
  | assignments
  | sources
  | conditions
  | grouping
  | groupConditions
  | ordering
  | limit
  | offset
  | paging
  | distinct
  | locks
  | returned
  | comment
deriving DecidableEq

theorem Draft.build_eq_iff {d e : Draft} (hdialect : e.dialect = d.dialect)
    (hadmission : e.admission = d.admission) (hcompletion : e.completion = d.completion)
    (hoperands : e.fragment.operands d.dialect = d.fragment.operands d.dialect) :
    e.build = d.build ↔ (∃ err, d.build = .error err) ∨
      e.fragment.render d.dialect 0 = d.fragment.render d.dialect 0 := by
  simp only [build, hdialect, hadmission, hcompletion]
  cases d.admission with
  | error err => simp [Except.mapError, bind, Except.bind]
  | ok =>
    cases d.completion with
    | error err => simp [Except.mapError, bind, Except.bind]
    | ok =>
      simp [Except.mapError, bind, Except.bind, pure, Except.pure, Statement.ofFragment, hoperands]

/-! ### SELECT -/

namespace Select

/-- A call that adds to a SELECT statement in the making. A condition that is not there adds
nothing. -/
inductive Call
  | settings (s : Settings)
  | dialect (d : Dialect)
  | columns (cs : List Column)
  | columnAs (c : Column) (aliasName : String)
  | record (fields : List Field) (table : String)
  | distinct
  | table (t : Table)
  | join (j : Join)
  | filter (c : Option Condition)
  | groupBy (cs : List Column)
  | filterGroups (c : Condition)
  | orderBy (c : Column) (direction : Option Direction)
  | limit (n : UInt64)
  | offset (n : UInt64)
  | paginate (f : Fragment)
  | forUpdate
  | comment (text : String)

/-- The part of the statement that a call is about. -/
def Call.part : Call → StatementPart
  | settings _ => .settings
  | dialect _ => .dialect
  | columns _ | columnAs _ _ | record _ _ => .columns
  | distinct => .distinct
  | table _ => .tables
  | join _ => .joins
  | filter _ => .conditions
  | groupBy _ => .grouping
  | filterGroups _ => .groupConditions
  | orderBy _ _ => .ordering
  | limit _ => .limit
  | offset _ => .offset
  | paginate _ => .paging
  | forUpdate => .locks
  | comment _ => .comment

def apply (q : Select) : Call → Select
  | .settings s => q.withSettings s
  | .dialect d => q.withDialect d
  | .columns cs => q.columns cs
  | .columnAs c aliasName => q.columnAs c aliasName
  | .record fields table => q.record fields table
  | .distinct => q.distinct
  | .table t => q.table t
  | .join j => q.join j
  | .filter (some c) => q.filter c
  | .filter none => q
  | .groupBy cs => q.groupBy cs
  | .filterGroups c => q.filterGroups c
  | .orderBy c direction => q.orderBy c direction
  | .limit n => q.withLimit n
  | .offset n => q.withOffset n
  | .paginate f => q.paginate f
  | .forUpdate => q.forUpdate
  | .comment text => q.withComment text

def run (calls : List Call) : Select :=
  calls.foldl apply {}

/-- One call holds the columns of a record and the other a separator that gives them other names
than the one held so far. -/
def Call.Renames (held : String) : Call → Call → Prop
  | settings s, record fields _ | record fields _, settings s =>
    Field.allNames held "" fields ≠ Field.allNames s.separator "" fields
  | _, _ => False

theorem apply_comm (q : Select) {c e : Call} (hpart : c.part ≠ e.part)
    (hnames : ¬ Call.Renames q.settings.separator c e) :
    (q.apply c).apply e = (q.apply e).apply c := by
  cases c <;> cases e
  case settings.record s fields table | record.settings fields table s =>
    have hsame := not_ne_iff.mp hnames
    simp [apply, record, columns, withSettings, Field.columns, hsame]
  -- No other call reads what another one writes.
  all_goals first
    | exact absurd rfl hpart
    | rfl
    | cases ‹Option Condition› <;> rfl

/-- The columns of a record in a list of selections. -/
def listed (fields : List Field) (table separator : String) : List Selection :=
  (Field.columns fields table separator).map fun c => ⟨c, none⟩

/-- What a call adds to the selections under a separator. -/
def Call.selected (separator : String) : Call → List Selection
  | columns cs => cs.map fun c => ⟨c, none⟩
  | columnAs c aliasName => [⟨c, some aliasName⟩]
  | record fields name => listed fields name separator
  | _ => []

theorem selections_apply (q : Select) (c : Call) :
    (q.apply c).selections = q.selections ++ c.selected q.settings.separator := by
  cases c with
  | columns | columnAs | record => rfl
  | filter c => cases c <;> exact (List.append_nil q.selections).symm
  | _ => exact (List.append_nil q.selections).symm

/-- No call takes a selection away. -/
theorem exists_selections_foldl (q : Select) (calls : List Call) :
    ∃ back, (calls.foldl apply q).selections = q.selections ++ back := by
  induction calls generalizing q with
  | nil => exact ⟨[], (List.append_nil _).symm⟩
  | cons c calls ih =>
    obtain ⟨back, hback⟩ := ih (q.apply c)
    exact ⟨c.selected q.settings.separator ++ back, by
      rw [List.foldl_cons, hback, selections_apply, List.append_assoc]⟩

/-- The statement with other selections. -/
def selecting (q : Select) (ss : List Selection) : Select := { q with selections := ss }

theorem apply_selecting (q : Select) (ss : List Selection) (c : Call) :
    (q.selecting ss).apply c =
      (q.apply c).selecting (ss ++ c.selected q.settings.separator) := by
  cases c with
  | columns | columnAs | record => rfl
  | filter c =>
    simp only [Call.selected, List.append_nil]
    cases c <;> rfl
  | _ =>
    simp only [Call.selected, List.append_nil]
    rfl

section Differing

variable {d : Dialect} {as bs : List Selection} {q r : Select}

theorem isDistinct_selecting (q : Select) (ss : List Selection) :
    (q.selecting ss).isDistinct = q.isDistinct := rfl

/-- Two statements in the making differ in one stretch of their selections at most. -/
def DiffersIn (as bs : List Selection) (q r : Select) : Prop :=
  ∃ front back, q.selections = front ++ as ++ back ∧ r = q.selecting (front ++ bs ++ back)

theorem DiffersIn.apply (h : DiffersIn as bs q r) (c : Call) :
    DiffersIn as bs (q.apply c) (r.apply c) := by
  obtain ⟨front, back, hq, rfl⟩ := h
  refine ⟨front, back ++ c.selected q.settings.separator, ?_, ?_⟩
  · rw [selections_apply, hq, List.append_assoc]
  · rw [apply_selecting, List.append_assoc]

theorem DiffersIn.foldl (h : DiffersIn as bs q r) (calls : List Call) :
    DiffersIn as bs (calls.foldl Select.apply q) (calls.foldl Select.apply r) := by
  induction calls generalizing q r with
  | nil => exact h
  | cons c calls ih => exact ih (h.apply c)

/-- Statements that differ in what they select are built alike if that has the same text, or if they
are not built at all. -/
theorem DiffersIn.build_eq_iff (h : DiffersIn as bs q r) (ha : as ≠ []) (hb : bs ≠ []) :
    r.build = q.build ↔ (∃ err, q.build = .error err) ∨
      listText (Selection.text q.resolved) bs = listText (Selection.text q.resolved) as := by
  obtain ⟨front, back, hq, rfl⟩ := h
  have hcheck : (q.selecting (front ++ bs ++ back)).check = q.check := by
    simp [check, checkConditions, selecting, hq, ha, hb]
  have hoperands : (q.selecting (front ++ bs ++ back)).draft.fragment.operands q.resolved =
      q.draft.fragment.operands q.resolved := by
    rw [draft_operands_eq, draft_operands_eq]
    rfl
  refine (Draft.build_eq_iff (d := q.draft) (e := (q.selecting (front ++ bs ++ back)).draft) rfl
    hcheck rfl hoperands).trans (or_congr_right ?_)
  show Fragment.render q.resolved 0 _ = Fragment.render q.resolved 0 _ ↔ _
  rw [draft_text_eq, draft_text_eq, hq, ← listText_stretch_iff front back hb ha]
  exact (String.append_left_inj _).trans <|
    (String.append_left_inj _).trans (String.append_right_inj _)

/-- The rows are counted alike also if they may repeat: then the count does not read what is
selected. -/
theorem DiffersIn.count_eq_iff (h : DiffersIn as bs q r) (ha : as ≠ []) (hb : bs ≠ []) :
    r.count = q.count ↔ q.isDistinct = false ∨ (∃ err, q.count = .error err) ∨
      listText (Selection.text q.resolved) bs = listText (Selection.text q.resolved) as := by
  obtain ⟨front, back, hq, rfl⟩ := h
  cases hdistinct : q.isDistinct with
  | false =>
    have hdraft : (q.selecting (front ++ bs ++ back)).countDraft = q.countDraft := by
      simp only [countDraft, isDistinct_selecting, hdistinct, Bool.false_and]
      rfl
    simp only [count, hdraft, true_or]
  | true =>
    have haround : q.countsAround = true := by simp [countsAround, hdistinct]
    have hcolumns : q.selections ≠ [] := by simp [hq, ha]
    obtain ⟨hoperands, htext⟩ := count_around (d := q.resolved) haround hcolumns
    obtain ⟨hoperands', htext'⟩ := count_around (d := q.resolved)
      (q := q.selecting (front ++ bs ++ back)) haround (by simp [selecting, hb])
    have hbuild := Draft.build_eq_iff (d := q.countDraft)
      (e := (q.selecting (front ++ bs ++ back)).countDraft) rfl rfl rfl
      (hoperands'.trans hoperands.symm)
    rw [count, count, hbuild, ← listText_stretch_iff front back hb ha]
    show _ ∨ Fragment.render q.resolved 0 _ = Fragment.render q.resolved 0 _ ↔ _
    rw [htext, htext', hq, isDistinct_selecting, hdistinct]
    simp only [if_true, Bool.true_eq_false, false_or]
    refine or_congr_right ?_
    exact (String.append_left_inj _).trans <| (String.append_left_inj _).trans <|
      (String.append_left_inj _).trans <| (String.append_right_inj _).trans
        (String.append_right_inj _)

theorem DiffersIn.symm (h : DiffersIn as bs q r) : DiffersIn bs as r q := by
  obtain ⟨front, back, hq, rfl⟩ := h
  exact ⟨front, back, rfl, by rw [← hq]; rfl⟩

theorem listText_selected (cs : List Column) :
    listText (Selection.text d) (cs.map fun c => ⟨c, none⟩) = listText (Column.text d) cs := by
  simp [listText, Selection.text, Column.textAs, Function.comp_def]

theorem differsIn_settings (q : Select) (s : Settings) (fields : List Field) (table : String) :
    DiffersIn (listed fields table s.separator) (listed fields table q.settings.separator)
      ((q.apply (.settings s)).apply (.record fields table))
      ((q.apply (.record fields table)).apply (.settings s)) :=
  ⟨q.selections, [], by simp [Select.apply, record, columns, withSettings, listed],
    by simp [Select.apply, record, columns, withSettings, listed, selecting]⟩

variable {fields : List Field} {table separator separator' : String}

theorem listText_listed_ne
    (h : Field.allNames separator "" fields ≠ Field.allNames separator' "" fields) :
    listText (Selection.text d) (listed fields table separator) ≠
      listText (Selection.text d) (listed fields table separator') := by
  rw [listed, listed, listText_selected, listText_selected]
  exact mt Field.texts_eq_iff.mp h

theorem listed_ne_nil
    (h : Field.allNames separator "" fields ≠ Field.allNames separator' "" fields) :
    listed fields table separator ≠ [] := by
  intro hnil
  have hnames : Field.allNames separator "" fields = [] := by
    simpa [listed, Field.columns] using hnil
  have hlength := Field.length_allNames separator separator' fields
  rw [hnames, List.length_nil] at hlength
  exact h (hnames.trans (List.eq_nil_of_length_eq_zero hlength.symm).symm)

/-- New settings that rename the columns of a record beside them change what is selected. -/
theorem Call.Renames.differsIn {c e : Call} (h : Renames q.settings.separator c e) :
    ∃ as bs, as ≠ [] ∧ bs ≠ [] ∧
      (∀ d, listText (Selection.text d) bs ≠ listText (Selection.text d) as) ∧
      DiffersIn as bs ((q.apply c).apply e) ((q.apply e).apply c) := by
  cases c <;> cases e
  case settings.record s fields table =>
    exact ⟨_, _, listed_ne_nil h.symm, listed_ne_nil h, fun _ => listText_listed_ne h,
      differsIn_settings q s fields table⟩
  case record.settings fields table s =>
    exact ⟨_, _, listed_ne_nil h, listed_ne_nil h.symm, fun _ => listText_listed_ne h.symm,
      (differsIn_settings q s fields table).symm⟩
  all_goals exact h.elim

end Differing

variable (before after : List Call) {c e : Call}

theorem run_append (calls : List Call) : run (before ++ calls) = calls.foldl apply (run before) :=
  List.foldl_append

theorem run_swap (hpart : c.part ≠ e.part)
    (hnames : ¬ Call.Renames (run before).settings.separator c e) :
    run (before ++ e :: c :: after) = run (before ++ c :: e :: after) := by
  rw [run_append, run_append, List.foldl_cons, List.foldl_cons, List.foldl_cons, List.foldl_cons,
    apply_comm (run before) hpart hnames]

theorem run_swap_iff (hpart : c.part ≠ e.part) :
    let built := run (before ++ c :: e :: after)
    let swapped := run (before ++ e :: c :: after)
    let renames := Call.Renames (run before).settings.separator c e
    (swapped.build = built.build ↔ ¬ renames ∨ ∃ err, built.build = .error err) ∧
      (swapped.count = built.count ↔
        ¬ renames ∨ built.isDistinct = false ∨ ∃ err, built.count = .error err) := by
  intro built swapped renames
  by_cases h : renames
  · obtain ⟨as, bs, has, hbs, htext, hdiffers⟩ := h.differsIn
    have hruns : DiffersIn as bs built swapped := by
      simpa only [built, swapped, run_append, List.foldl_cons] using hdiffers.foldl after
    rw [hruns.build_eq_iff has hbs, hruns.count_eq_iff has hbs]
    simp [h, htext]
  · have hsame : swapped = built := run_swap before after hpart h
    simp [h, hsame]

end Select

/-! ### UPDATE -/

namespace Update

/-- A call that adds to an UPDATE statement in the making. An assignment or a condition that is not
there adds nothing. -/
inductive Call
  | settings (s : Settings)
  | dialect (d : Dialect)
  | table (t : Table)
  | join (j : Join)
  | assign (a : Option Assignment)
  | source (t : Table)
  | filter (c : Option Condition)
  | orderBy (c : Column)
  | limit (n : UInt64)
  | returning (cs : List Column)
  | comment (text : String)

def Call.part : Call → StatementPart
  | settings _ => .settings
  | dialect _ => .dialect
  | table _ => .tables
  | join _ => .joins
  | assign _ => .assignments
  | source _ => .sources
  | filter _ => .conditions
  | orderBy _ => .ordering
  | limit _ => .limit
  | returning _ => .returned
  | comment _ => .comment

def apply (q : Update) : Call → Update
  | .settings s => q.withSettings s
  | .dialect d => q.withDialect d
  | .table t => q.table t
  | .join j => q.join j
  | .assign (some a) => q.assign a
  | .source t => q.source t
  | .filter (some c) => q.filter c
  | .assign none | .filter none => q
  | .orderBy c => q.orderBy c
  | .limit n => q.withLimit n
  | .returning cs => q.returning cs
  | .comment text => q.withComment text

def run (calls : List Call) : Update :=
  calls.foldl apply {}

theorem apply_comm (q : Update) {c e : Call} (hpart : c.part ≠ e.part) :
    (q.apply c).apply e = (q.apply e).apply c := by
  rcases c with _ | _ | _ | _ | (_ | _) | _ | (_ | _) | _ | _ | _ | _ <;>
    rcases e with _ | _ | _ | _ | (_ | _) | _ | (_ | _) | _ | _ | _ | _ <;>
    first | exact absurd rfl hpart | rfl

theorem run_swap (before after : List Call) {c e : Call} (hpart : c.part ≠ e.part) :
    run (before ++ e :: c :: after) = run (before ++ c :: e :: after) := by
  simp only [run, List.foldl_append, List.foldl_cons, apply_comm _ hpart]

end Update

/-! ### DELETE -/

namespace Delete

/-- A call that adds to a DELETE statement in the making. A condition that is not there adds
nothing. -/
inductive Call
  | settings (s : Settings)
  | dialect (d : Dialect)
  | target (cs : List Column)
  | table (t : Table)
  | join (j : Join)
  | filter (c : Option Condition)
  | orderBy (c : Column)
  | limit (n : UInt64)
  | returning (cs : List Column)
  | comment (text : String)

def Call.part : Call → StatementPart
  | settings _ => .settings
  | dialect _ => .dialect
  | target _ => .targets
  | table _ => .tables
  | join _ => .joins
  | filter _ => .conditions
  | orderBy _ => .ordering
  | limit _ => .limit
  | returning _ => .returned
  | comment _ => .comment

def apply (q : Delete) : Call → Delete
  | .settings s => q.withSettings s
  | .dialect d => q.withDialect d
  | .target cs => q.target cs
  | .table t => q.table t
  | .join j => q.join j
  | .filter (some c) => q.filter c
  | .filter none => q
  | .orderBy c => q.orderBy c
  | .limit n => q.withLimit n
  | .returning cs => q.returning cs
  | .comment text => q.withComment text

def run (calls : List Call) : Delete :=
  calls.foldl apply {}

theorem apply_comm (q : Delete) {c e : Call} (hpart : c.part ≠ e.part) :
    (q.apply c).apply e = (q.apply e).apply c := by
  rcases c with _ | _ | _ | _ | _ | (_ | _) | _ | _ | _ | _ <;>
    rcases e with _ | _ | _ | _ | _ | (_ | _) | _ | _ | _ | _ <;>
    first | exact absurd rfl hpart | rfl

theorem run_swap (before after : List Call) {c e : Call} (hpart : c.part ≠ e.part) :
    run (before ++ e :: c :: after) = run (before ++ c :: e :: after) := by
  simp only [run, List.foldl_append, List.foldl_cons, apply_comm _ hpart]

end Delete

/-! ### All three -/

/-- Two neighbouring calls about different parts may change places in every run of calls: what is
built stays the same, and so does the count of a SELECT statement. There is one exception, new
settings beside the columns of a record that their separator renames: then the statements differ if
they are built at all, and the counts if they count distinct rows. -/
theorem neighbouring_calls_change_places_iff {part part' : StatementPart} (hne : part ≠ part') :
    (∀ (before after : List Select.Call) (c e : Select.Call), c.part = part → e.part = part' →
      let built := Select.run (before ++ c :: e :: after)
      let swapped := Select.run (before ++ e :: c :: after)
      let renames := Select.Call.Renames (Select.run before).settings.separator c e
      (swapped.build = built.build ↔ ¬ renames ∨ ∃ err, built.build = .error err) ∧
        (swapped.count = built.count ↔
          ¬ renames ∨ built.isDistinct = false ∨ ∃ err, built.count = .error err)) ∧
    (∀ (before after : List Update.Call) (c e : Update.Call), c.part = part → e.part = part' →
      (Update.run (before ++ e :: c :: after)).build =
        (Update.run (before ++ c :: e :: after)).build) ∧
    ∀ (before after : List Delete.Call) (c e : Delete.Call), c.part = part → e.part = part' →
      (Delete.run (before ++ e :: c :: after)).build =
        (Delete.run (before ++ c :: e :: after)).build := by
  refine ⟨fun before after c e hc he => ?_, fun before after c e hc he => ?_,
    fun before after c e hc he => ?_⟩
  · exact Select.run_swap_iff before after (hc.trans_ne (he ▸ hne))
  · rw [Update.run_swap before after (hc.trans_ne (he ▸ hne))]
  · rw [Delete.run_swap before after (hc.trans_ne (he ▸ hne))]

/-- Settings with another separator change places with columns that hold no record, and a limit
changes places with the columns asked for. -/
theorem neighbouring_calls_change_places_plain :
    let settings : Settings := { separator := "." }
    let record : Select.Call := .record [.column "id"] ""
    (Select.run [.table ⟨"u", none⟩, .settings settings, record, .distinct]).build =
      (Select.run [.table ⟨"u", none⟩, record, .settings settings, .distinct]).build ∧
    (Update.run [.table ⟨"u", none⟩, .limit 1, .returning [.named "id"]]).build =
      (Update.run [.table ⟨"u", none⟩, .returning [.named "id"], .limit 1]).build ∧
    (Delete.run [.table ⟨"u", none⟩, .limit 1, .returning [.named "id"]]).build =
      (Delete.run [.table ⟨"u", none⟩, .returning [.named "id"], .limit 1]).build := by
  intro settings record
  have hcolumns := neighbouring_calls_change_places_iff
    (show StatementPart.columns ≠ .settings by decide)
  have hreturned := neighbouring_calls_change_places_iff
    (show StatementPart.returned ≠ .limit by decide)
  refine ⟨?_, ?_, ?_⟩
  · have hsame := hcolumns.1 [.table ⟨"u", none⟩] [.distinct] record (.settings settings) rfl rfl
    exact hsame.1.mpr (.inl fun hrenames => hrenames rfl)
  · exact hreturned.2.1 [.table ⟨"u", none⟩] [] (.returning [.named "id"]) (.limit 1) rfl rfl
  · exact hreturned.2.2 [.table ⟨"u", none⟩] [] (.returning [.named "id"]) (.limit 1) rfl rfl

/-- The columns of a record are named before the settings come that say how. -/
theorem settings_come_late_behind_a_record :
    let user : List Field := [.column "id", .embedded "address" [.column "city"]]
    let record : Select.Call := .record user ""
    let settings : Select.Call := .settings { separator := "." }
    let behind := Select.run [.table ⟨"u", none⟩, record, settings]
    let before := Select.run [.table ⟨"u", none⟩, settings, record]
    record.part ≠ settings.part ∧
      behind.build.toOption.map Statement.text = some "SELECT id, address_city FROM u" ∧
      before.build.toOption.map Statement.text = some "SELECT id, address.city FROM u" ∧
      before.build ≠ behind.build := by
  intro user record settings behind before
  have hbehind : behind.build.toOption.map Statement.text =
      some "SELECT id, address_city FROM u" := by decide +kernel
  have hbefore : before.build.toOption.map Statement.text =
      some "SELECT id, address.city FROM u" := by decide +kernel
  refine ⟨by decide, hbehind, hbefore, fun hsame => ?_⟩
  rw [hsame, hbehind] at hbefore
  exact absurd hbefore (by decide)

end QueryKit
