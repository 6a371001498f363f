import QueryKit.Assembler
import QueryKit.Database

/-! Helpers that run what an assembler builds. Each of them is one call of its kind, whose answer is
worked on; an assembler that cannot be built is refused before the call. A database leaves one event
for the call, apart from a warning that it was slow, and its own helpers are those of the assembler
run on it. -/

namespace QueryKit

/-! ### Calls by their kind -/

/-- What a call of a kind answers. -/
def Verb.Answer : Verb → Type
  | .execute => Changes
  | .query => RowSet

/-- What a client answers to a call of a kind. -/
def Client.reply (c : Client) : (verb : Verb) → String → List Value → Reply verb.Answer
  | .execute => c.execute
  | .query => c.query

def Connection.run (k : Connection) : (verb : Verb) → String → List Value → Run verb.Answer
  | .execute => k.execute
  | .query => k.query

namespace Run

variable {α β γ : Type}

theorem andThen_ok (r : Run α) : r.andThen .ok = r := by
  obtain ⟨result, _⟩ := r
  cases result <;> rfl

theorem andThen_andThen (r : Run α) (f : α → Except Error β) (g : β → Except Error γ) :
    (r.andThen f).andThen g = r.andThen fun x => (f x).bind g := by
  obtain ⟨result, _⟩ := r
  cases result <;> rfl

end Run

theorem Client.run_connection (c : Client) (verb : Verb) (text : String) (operands : List Value) :
    c.connection.run verb text operands =
      (c.reply verb text operands).run ⟨verb, text, operands⟩ := by
  cases verb <;> rfl

/-! ### Calls on a database -/

def Event.isSlow : Event → Bool
  | slow .. => true
  | executed .. | failed .. => false

namespace Database

variable {α : Type} (db : Database) (verb : Verb) (text : String) (operands : List Value)

/-- The event that a call leaves, slow or not. -/
def outcome : Except Error α → Event
  | .ok _ => .executed verb db.settings.dialect.name (db.shown text) operands.length
  | .error e => .failed verb e

theorem filter_events (r : Run α) :
    (db.events verb text operands r).filter (fun event => !event.isSlow) =
      [db.outcome verb text operands r.result] := by
  unfold events
  cases r.result with
  | error e => rfl
  | ok x =>
    dsimp only
    split
    · split <;> rfl
    · rfl

/-- A time is within the time limit, if there is one. -/
def InLimit (latency : Duration) : Prop :=
  ∀ limit, db.settings.timeout = some limit → latency.nanos ≤ limit.nanos

variable {db} in
theorem InLimit.limited_eq {r : Run α} (ht : db.InLimit r.latency) : db.limited r = r := by
  unfold limited
  split
  · rename_i limit hlimit
    exact if_neg (Nat.not_lt.mpr (ht limit hlimit))
  · rfl

theorem calls_limited (r : Run α) : (db.limited r).calls = r.calls := by
  unfold limited
  split
  · split <;> rfl
  · rfl

theorem events_limited (r : Run α) : (db.limited r).events = r.events := by
  unfold limited
  split
  · split <;> rfl
  · rfl

theorem calls_run :
    (db.asConnection.run verb text operands).calls =
      (db.connection.run verb text operands).calls := by
  cases verb <;> exact db.calls_limited _

/-- A database logs its own events behind those of its connection. -/
theorem events_run :
    let r := db.connection.run verb text operands
    (db.asConnection.run verb text operands).events =
      r.events ++ db.events verb text operands (db.limited r) := by
  intro r
  rw [← db.events_limited r]
  cases verb <;> rfl

variable {db verb text operands} in
/-- A call in time leaves the event of the connection's own answer. -/
theorem InLimit.filter_events_run
    (ht : db.InLimit (db.connection.run verb text operands).latency)
    (hsilent : (db.connection.run verb text operands).events = []) :
    (db.asConnection.run verb text operands).events.filter (fun event => !event.isSlow) =
      [db.outcome verb text operands (db.connection.run verb text operands).result] := by
  rw [events_run, ht.limited_eq, hsilent, List.nil_append, filter_events]

end Database

/-! ### Helpers -/

theorem Draft.on_andThen {α β : Type} (draft : Draft) (f : String → List Value → Run α)
    (g : α → Except Error β) :
    (draft.on f).andThen g = draft.on fun text operands => (f text operands).andThen g := by
  unfold Draft.on
  cases draft.build <;> rfl

/-- The helpers that assemblers and databases have in common, by what they give. -/
inductive Task : Type → Type 1
  | fetchAll {α : Type} (reader : RowReader α) : Task (List α)
  | fetchOption {α : Type} (reader : RowReader α) : Task (Option α)
  | fetchOne {α : Type} (reader : RowReader α) : Task α
  | fetchMap {κ α : Type} [DecidableEq κ] (keys : RowReader κ) (values : RowReader α) :
      Task (List (κ × α))
  | fetchSet {κ : Type} [DecidableEq κ] (keys : RowReader κ) (keyColumns : List String) :
      Task (List κ)
  | execute : Task Changes

/-- The helpers of assemblers. A single row is the first one of the rows that are answered. -/
inductive Helper : Type → Type 1
  | query : Helper RowSet
  | queryOne : Helper AnyRow
  | task {α : Type} (t : Task α) : Helper α

variable {α : Type}

namespace Task

def on : Task α → Draft → Connection → Run α
  | fetchAll reader, draft, k => draft.fetchAll k reader
  | fetchOption reader, draft, k => draft.fetchOption k reader
  | fetchOne reader, draft, k => draft.fetchOne k reader
  | fetchMap keys values, draft, k => draft.fetchMap k keys values
  | fetchSet keys keyColumns, draft, k => draft.fetchSet k keys keyColumns
  | execute, draft, k => draft.execute k

/-- The task as a helper of a database itself. -/
def onDatabase : Task α → Draft → Database → Run α
  | fetchAll reader, draft, db => db.fetchAll draft reader
  | fetchOption reader, draft, db => db.fetchOption draft reader
  | fetchOne reader, draft, db => db.fetchOne draft reader
  | fetchMap keys values, draft, db => db.fetchMap draft keys values
  | fetchSet keys keyColumns, draft, db => db.fetchSet draft keys keyColumns
  | execute, draft, db => db.perform draft

def verb : Task α → Verb
  | execute => .execute
  | fetchAll _ | fetchOption _ | fetchOne _ | fetchMap _ _ | fetchSet _ _ => .query

/-- What the task makes of the answer to its call. -/
def answer : (t : Task α) → t.verb.Answer → Except Error α
  | fetchAll reader => fun rows => ((Cursor.ofRows rows).many reader).result
  | fetchOption reader => fun rows => ((Cursor.ofRows rows).oneOrNone reader).result
  | fetchOne reader => fun rows => ((Cursor.ofRows rows).oneOrNone reader).result.bind fun
    | some x => .ok x
    | none => .error .noRows
  | fetchMap keys values => fun rows =>
    ((Cursor.ofRows rows).mapKeys [] .remaining keys values).result
  | fetchSet keys keyColumns => fun rows => ((Cursor.ofRows rows).keySet keyColumns keys).result
  | execute => .ok

theorem on_eq (t : Task α) (draft : Draft) (k : Connection) :
    t.on draft k = (draft.on (k.run t.verb)).andThen t.answer := by
  cases t with
  | fetchAll | fetchOption | fetchMap | fetchSet => rfl
  | fetchOne => exact Run.andThen_andThen _ _ _
  | execute => exact (Run.andThen_ok _).symm

/-- A database does by itself what the assembler does on it. -/
theorem onDatabase_eq (t : Task α) (draft : Draft) (db : Database) :
    t.onDatabase draft db = t.on draft db.asConnection := by
  have hfetch {β : Type} (f : Cursor → Except Error β) :
      db.fetch draft f = (draft.query db.asConnection).andThen fun rows => f (.ofRows rows) :=
    (draft.on_andThen _ _).symm
  cases t with
  | fetchAll reader => exact hfetch fun cursor => (cursor.many reader).result
  | fetchOption reader => exact hfetch fun cursor => (cursor.oneOrNone reader).result
  | fetchOne reader =>
    exact congrArg (Run.andThen · _) (hfetch fun cursor => (cursor.oneOrNone reader).result)
  | fetchMap keys values =>
    exact hfetch fun cursor => (cursor.mapKeys [] .remaining keys values).result
  | fetchSet keys keyColumns => exact hfetch fun cursor => (cursor.keySet keyColumns keys).result
  | execute => rfl

end Task

namespace Helper

def on : Helper α → Draft → Connection → Run α
  | query, draft, k => draft.query k
  | queryOne, draft, k => draft.queryOne k
  | task t, draft, k => t.on draft k

def verb : Helper α → Verb
  | query | queryOne => .query
  | task t => t.verb

def answer : (h : Helper α) → h.verb.Answer → Except Error α
  | query => .ok
  | queryOne => fun rows =>
    match rows.first? with
    | some row => .ok row
    | none => .error .noRows
  | task t => t.answer

/-- A helper is one call of its kind, whose answer is worked on. -/
theorem on_eq (h : Helper α) (draft : Draft) (k : Connection) :
    h.on draft k = (draft.on (k.run h.verb)).andThen h.answer := by
  cases h with
  | query => exact (Run.andThen_ok _).symm
  | queryOne => exact (draft.on_andThen _ _).symm
  | task t => exact t.on_eq draft k

variable {draft : Draft}

theorem on_refused {e : Error} (hb : draft.build = .error e) (h : Helper α) (k : Connection) :
    h.on draft k = .refused e := by
  rw [h.on_eq, Draft.on, hb]
  rfl

theorem on_built {s : Statement} (hb : draft.build = .ok s) (h : Helper α) (k : Connection) :
    h.on draft k = (k.run h.verb s.text s.operands).andThen h.answer := by
  rw [h.on_eq, Draft.on, hb]

end Helper

/-- Every helper runs what its assembler builds: one that cannot be built is refused as it is, and
else there is one call, with the text and the operands that were built, for which a database leaves
one event that tells how the call went. What a database does itself is what the assembler does on
it. -/
theorem Assembler.helpers_run_what_is_built (a : Assembler) :
    (∀ e, a.build = .error e →
      (∀ (α : Type) (h : Helper α) (k : Connection), h.on a.draft k = .refused e) ∧
        ∀ (α : Type) (t : Task α) (db : Database), t.onDatabase a.draft db = .refused e) ∧
    (∀ s, a.build = .ok s → ∀ (α : Type) (h : Helper α) (c : Client),
      let call : Call := ⟨h.verb, s.text, s.operands⟩
      let reply := c.reply h.verb s.text s.operands
      (h.on a.draft c.connection).calls = [call] ∧ (h.on a.draft c.connection).events = [] ∧
      ∀ settings : Settings,
        let db : Database := ⟨c.connection, settings⟩
        (h.on a.draft db.asConnection).calls = [call] ∧
        (db.InLimit reply.latency →
          (h.on a.draft db.asConnection).events.filter (fun event => !event.isSlow) =
            [db.outcome h.verb s.text s.operands reply.result])) ∧
    ∀ (α : Type) (t : Task α) (db : Database),
      t.onDatabase a.draft db = (Helper.task t).on a.draft db.asConnection := by
  refine ⟨fun e hb => ⟨fun α h k => h.on_refused hb k, fun α t db => ?_⟩,
    fun s hb α h c => ?_, fun α t db => t.onDatabase_eq a.draft db⟩
  · rw [t.onDatabase_eq]
    exact (Helper.task t).on_refused hb _
  · intro call reply
    have hrun : c.connection.run h.verb s.text s.operands = reply.run call := c.run_connection ..
    have hbare : h.on a.draft c.connection = (reply.run call).andThen h.answer := by
      rw [h.on_built hb, hrun]
    refine ⟨by rw [hbare]; rfl, by rw [hbare]; rfl, fun settings => ?_⟩
    intro db
    have hcall : (db.asConnection.run h.verb s.text s.operands).calls = [call] := by
      rw [db.calls_run, hrun]
      rfl
    rw [h.on_built hb]
    refine ⟨hcall, fun ht => ?_⟩
    have hlimit : db.InLimit (db.connection.run h.verb s.text s.operands).latency := by
      rwa [hrun]
    have hevents := hlimit.filter_events_run (by rw [hrun]; rfl)
    rwa [hrun] at hevents

/-- A statement that is answered in time, and one that is not built as it has no table. -/
theorem Assembler.helpers_run_what_is_built_in_time :
    let a : Assembler := .select { selections := [⟨.named "id", none⟩], tables := [⟨"t", none⟩] }
    let blank : Assembler := .select {}
    let rows : RowSet := ⟨{ names := ["id"] }, [⟨[.int 1], rfl⟩]⟩
    let c : Client := .constant rows ⟨0, none⟩ none ⟨5⟩ ⟨0⟩
    let db : Database := ⟨c.connection, { timeout := some ⟨10⟩ }⟩
    (Helper.task .execute).on blank.draft db.asConnection = .refused (.build .selectWithoutTable) ∧
      (Helper.queryOne.on a.draft db.asConnection).calls = [⟨.query, "SELECT id FROM t", []⟩] ∧
      (Helper.queryOne.on a.draft db.asConnection).events.filter (fun event => !event.isSlow) =
        [.executed .query "generic" "SELECT id FROM t" 0] := by
  intro a blank rows c db
  have hbuild : a.build = .ok ⟨"SELECT id FROM t", [], .generic⟩ := rfl
  obtain ⟨-, hbuilt, -⟩ := a.helpers_run_what_is_built
  obtain ⟨hrefused, -⟩ := blank.helpers_run_what_is_built
  obtain ⟨-, -, hdatabases⟩ := hbuilt _ hbuild AnyRow .queryOne c
  obtain ⟨hcalls, hevents⟩ := hdatabases db.settings
  refine ⟨(hrefused _ rfl).1 _ _ _, hcalls, hevents ?_⟩
  rintro limit ⟨⟩
  decide

end QueryKit
