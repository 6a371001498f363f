import QueryKit.Proofs.Check
import QueryKit.Proofs.Helper

/-! Texts in the log of a database. A text that has too many bytes is cut off at the last place
between two characters that the limit leaves room for, which is at most three bytes in front of the
limit. So what a log event shows is the whole text, or the longest front part that fits with three
dots behind it. -/

namespace QueryKit

/-! ### Places between characters -/

section Places

variable (text : String) (limit : Nat)

theorem lastBoundary_le : lastBoundary text limit ≤ limit := by
  fun_induction lastBoundary text limit with
  | case1 => exact Nat.le_refl 0
  | case2 place _ => exact Nat.le_refl (place + 1)
  | case3 place _ ih => omega

variable {text limit}

/-- No place between two characters is passed over on the way back. -/
theorem le_lastBoundary {place : Nat} (hvalid : String.Pos.Raw.IsValid text ⟨place⟩)
    (hle : place ≤ limit) : place ≤ lastBoundary text limit := by
  fun_induction lastBoundary text limit with
  | case1 => exact hle
  | case2 limit _ => exact hle
  | case3 limit hlimit ih =>
    have hne : place ≠ limit + 1 := by
      rintro rfl
      exact hlimit hvalid
    exact ih (by omega)

theorem limit_le_lastBoundary_add_three (hlimit : limit < text.utf8ByteSize) :
    limit ≤ lastBoundary text limit + 3 := by
  let p := text.pos ⟨lastBoundary text limit⟩ (isValid_lastBoundary text limit)
  have hend : p ≠ text.endPos := by
    intro hp
    have hsize : lastBoundary text limit = text.utf8ByteSize :=
      congrArg (fun q : text.Pos => q.offset.byteIdx) hp
    have hle := lastBoundary_le text limit
    omega
  -- The limit leaves no room for the next character, which has four bytes at most.
  have hnext : String.Pos.Raw.IsValid text ⟨lastBoundary text limit + (p.get hend).utf8Size⟩ :=
    p.byteIdx_offset_next hend ▸ (p.next hend).isValid
  have hroom : limit < lastBoundary text limit + (p.get hend).utf8Size := by
    refine Nat.lt_of_not_le fun hfits => ?_
    have hback := le_lastBoundary hnext hfits
    have hpos := (p.get hend).utf8Size_pos
    omega
  have hsize := (p.get hend).utf8Size_le_four
  omega

end Places

/-! ### Front parts of texts -/

theorem exists_eq_append_of_size_le {front back other rest : String}
    (h : front ++ back = other ++ rest) (hsize : other.utf8ByteSize ≤ front.utf8ByteSize) :
    ∃ more, front = other ++ more := by
  have hchars := congrArg String.toList h
  rw [String.toList_append, String.toList_append] at hchars
  rcases List.append_eq_append_iff.mp hchars with ⟨more, hother, -⟩ | ⟨more, hfront, -⟩
  · -- The other part has at least the characters of the front, so it has no more than those.
    have heq : other = front ++ .ofList more := by
      rw [← String.toList_inj, String.toList_append, String.toList_ofList, hother]
    have hnone : String.ofList more = "" := by
      rw [← String.utf8ByteSize_eq_zero_iff]
      rw [heq, String.utf8ByteSize_append] at hsize
      omega
    exact ⟨"", by rw [heq, hnone, String.append_empty, String.append_empty]⟩
  · exact ⟨.ofList more, by
      rw [← String.toList_inj, String.toList_append, String.toList_ofList, hfront]⟩

/-- The longest of the front parts of a text that have at most the given number of bytes. -/
structure IsLongestFront (limit : Nat) (text front : String) : Prop where
  begins : ∃ rest, text = front ++ rest
  fits : front.utf8ByteSize ≤ limit
  longest : ∀ other rest, text = other ++ rest → other.utf8ByteSize ≤ limit →
    ∃ more, front = other ++ more

section Truncated

variable {text : String} {limit : Nat}

theorem truncated_of_le (hlimit : text.utf8ByteSize ≤ limit) : truncated limit text = text :=
  if_pos hlimit

theorem truncated_of_lt (hlimit : limit < text.utf8ByteSize) :
    (∃ rest, text = truncated limit text ++ rest) ∧
      (truncated limit text).utf8ByteSize = lastBoundary text limit := by
  let p := text.pos ⟨lastBoundary text limit⟩ (isValid_lastBoundary text limit)
  rw [truncated, if_neg (Nat.not_le.mpr hlimit)]
  exact ⟨⟨_, p.splits.eq_append⟩,
    (congrArg String.Pos.Raw.byteIdx p.splits.offset_eq_rawEndPos).symm⟩

theorem isLongestFront_truncated (limit : Nat) (text : String) :
    IsLongestFront limit text (truncated limit text) := by
  rcases Nat.lt_or_ge limit text.utf8ByteSize with hlimit | hlimit
  · obtain ⟨⟨back, hback⟩, hsize⟩ := truncated_of_lt hlimit
    refine ⟨⟨back, hback⟩, ?_, fun other rest hother hfits => ?_⟩
    · rw [hsize]
      exact lastBoundary_le text limit
    · -- A front part ends between two characters.
      have hvalid : String.Pos.Raw.IsValid text other.rawEndPos :=
        String.Pos.Raw.isValid_iff_exists_append.mpr ⟨other, rest, hother, rfl⟩
      refine exists_eq_append_of_size_le (hback.symm.trans hother) ?_
      rw [hsize]
      exact le_lastBoundary hvalid hfits
  · rw [truncated_of_le hlimit]
    exact ⟨⟨"", String.append_empty.symm⟩, hlimit, fun other rest hother _ => ⟨rest, hother⟩⟩

end Truncated

/-! ### Events -/

/-- The value of a field that the event has in the log. -/
def Event.field? (event : Event) (name : String) : Option Value :=
  event.fields.lookup name

namespace Database

variable {db : Database} {verb : Verb} {text : String} {operands : List Value}

theorem shown_of_limit {limit : Nat} (hlog : db.settings.logLimit = some limit) :
    db.shown text =
      if text.utf8ByteSize ≤ limit then text else truncated limit text ++ "..." := by
  rw [shown, hlog]
  rcases Nat.lt_or_ge limit text.utf8ByteSize with hlimit | hlimit
  · rw [if_neg (Nat.not_le.mpr hlimit)]
    exact if_pos hlimit
  · rw [if_pos hlimit]
    exact if_neg (Nat.not_lt.mpr hlimit)

section Run

variable {α : Type} {r : Run α}

theorem field?_of_mem_events {event : Event} (he : event ∈ db.events verb text operands r)
    {v : Value} (hv : event.field? "sql" = some v) : v = .text (db.shown text) := by
  unfold events at he
  cases hresult : r.result with
  | error e =>
    rw [hresult] at he
    obtain rfl := List.mem_singleton.mp he
    cases hv
  | ok x =>
    rw [hresult] at he
    rcases List.mem_cons.mp he with rfl | hslow
    · exact (Option.some.inj hv).symm
    · split at hslow
      · split at hslow
        · obtain rfl := List.mem_singleton.mp hslow
          exact (Option.some.inj hv).symm
        · contradiction
      · contradiction

theorem exists_field?_of_ok {x : α} (hr : r.result = .ok x) :
    ∃ event ∈ db.events verb text operands r, event.field? "sql" = some (.text (db.shown text)) := by
  refine ⟨.executed verb db.settings.dialect.name (db.shown text) operands.length, ?_, rfl⟩
  rw [events, hr]
  exact List.mem_cons_self

end Run

theorem exists_result_limited {x : verb.Answer}
    (h : (db.asConnection.run verb text operands).result = .ok x) :
    ∃ y, (db.limited (db.connection.run verb text operands)).result = .ok y := by
  cases verb with
  | execute => exact ⟨x, h⟩
  | query =>
    obtain ⟨rows, hrows, -⟩ := Check.bind_ok_iff.mp h
    exact ⟨rows, hrows⟩

end Database

/-- A text is cut off to its longest front part that fits into the limit. The place for the cut is
searched backwards from the limit: it is the first one between two characters, and it is found after
three steps at most. A database with a limit shows in its log the whole text if it fits, and that
front part with three dots behind it if not, and every call that succeeds is shown. -/
theorem logged_texts_are_cut_between_characters (text : String) (limit : Nat) :
    IsLongestFront limit text (truncated limit text) ∧
    (limit < text.utf8ByteSize →
      let place := lastBoundary text limit
      (truncated limit text).utf8ByteSize = place ∧ String.Pos.Raw.IsValid text ⟨place⟩ ∧
      (∀ later > place, later ≤ limit → ¬String.Pos.Raw.IsValid text ⟨later⟩) ∧
      place ≤ limit ∧ limit ≤ place + 3) ∧
    ∀ (db : Database) (verb : Verb) (operands : List Value), db.settings.logLimit = some limit →
      let run := db.asConnection.run verb text operands
      let shown := if text.utf8ByteSize ≤ limit then text else truncated limit text ++ "..."
      ∃ logged, run.events = (db.connection.run verb text operands).events ++ logged ∧
        (∀ event ∈ logged, ∀ v, event.field? "sql" = some v → v = .text shown) ∧
        ∀ x, run.result = .ok x → ∃ event ∈ logged, event.field? "sql" = some (.text shown) := by
  refine ⟨isLongestFront_truncated limit text, fun hlimit => ?_, fun db verb operands hlog => ?_⟩
  · refine ⟨(truncated_of_lt hlimit).2, isValid_lastBoundary text limit, ?_,
      lastBoundary_le text limit, limit_le_lastBoundary_add_three hlimit⟩
    intro later hlater hle hvalid
    have := le_lastBoundary hvalid hle
    omega
  · intro run shown
    have hshown : db.shown text = shown := db.shown_of_limit hlog
    refine ⟨_, db.events_run verb text operands, fun event he v hv => ?_, fun x hx => ?_⟩
    · rw [← hshown]
      exact db.field?_of_mem_events he hv
    · rw [← hshown]
      obtain ⟨y, hy⟩ := db.exists_result_limited hx
      exact db.exists_field?_of_ok hy

/-- A limit in the middle of a character of four bytes. -/
theorem logged_texts_are_cut_between_characters_inside :
    let text := "SELECT '😀'"
    let rows : RowSet := ⟨{ names := [] }, []⟩
    let db : Database :=
      ⟨(Client.constant rows ⟨0, none⟩ none ⟨0⟩ ⟨0⟩).connection, { logLimit := some 11 }⟩
    11 < text.utf8ByteSize ∧ db.settings.logLimit = some 11 ∧
      (truncated 11 text).utf8ByteSize = 8 ∧
      ∃ event ∈ (db.asConnection.run .query text []).events,
        event.field? "sql" = some (.text "SELECT '...") := by
  intro text rows db
  have hlimit : 11 < text.utf8ByteSize := by decide
  have hcut : truncated 11 text = "SELECT '" := by decide +kernel
  have hplace : lastBoundary text 11 = 8 := by decide +kernel
  obtain ⟨-, hcutting, hlogging⟩ := logged_texts_are_cut_between_characters text 11
  obtain ⟨logged, hevents, -, hshown⟩ := hlogging db .query [] rfl
  obtain ⟨event, he, hfield⟩ := hshown _ rfl
  refine ⟨hlimit, rfl, (hcutting hlimit).1.trans hplace, event, ?_, ?_⟩
  · rw [hevents]
    exact List.mem_append_right _ he
  · rw [hfield, if_neg (Nat.not_le.mpr hlimit), hcut]
    rfl

end QueryKit
