import QueryKit.Condition
import QueryKit.Proofs.Reading.Legible
import QueryKit.Proofs.Reading.Predicate

/-! Leaves of conditions. A leaf on columns that are paths of identifiers writes one predicate, and in
a legible dialect it is read as that predicate. -/

namespace QueryKit

open Lexer

/-- The path of one or more parts. -/
def Path.ofParts? : List String → Option Path
  | [] => none
  | [part] => some (last part)
  | part :: rest => (ofParts? rest).map (more part)

/-- The path that a column is, unless it is an expression. -/
def Column.path? : Column → Option Path
  | path parts => Path.ofParts? parts
  | verbatim _ => none

namespace Condition

/-- The predicate that a leaf writes. -/
def predicate? : Condition → Option Predicate
  | compare column op _ => column.path?.map fun p => .about p (.compare op)
  | compareColumns left op right =>
    left.path?.bind fun p => right.path?.map fun q => .about p (.compareColumn op q)
  | missing column negated => column.path?.map fun p => .about p (.missing negated)
  | member _ [] negated => some (.constant negated)
  | member column (_ :: vs) negated =>
    column.path?.map fun p => .about p (.member vs.length negated)
  | between column _ _ negated => column.path?.map fun p => .about p (.between negated)
  | group _ _ | negation _ | verbatim _ | template _ _ => none

end Condition

/-! ### Columns -/

namespace Fragment

variable {d : Dialect} {first close : Char}

def isBehindCondition (c : Char) : Bool :=
  [' ', ')'].contains c

theorem isBreak_of_behind {c : Char} (hc : isBehindCondition c) : isBreak c := by
  simp only [isBehindCondition, List.contains_eq_mem, List.mem_cons, List.not_mem_nil, or_false,
    decide_eq_true_eq] at hc
  rcases hc with rfl | rfl <;> rfl

theorem isBehindName_of_behind {c : Char} (hc : isBehindCondition c) :
    Dialect.isBehindName c := by
  simp only [isBehindCondition, List.contains_eq_mem, List.mem_cons, List.not_mem_nil, or_false,
    decide_eq_true_eq] at hc
  rcases hc with rfl | rfl <;> rfl

theorem lexemes_append (f g : Fragment) : lexemes (f ++ g) = lexemes f ++ lexemes g :=
  List.flatMap_append

theorem lexemes_pathFragment {parts : List String} {p : Path} (h : Path.ofParts? parts = some p) :
    lexemes (Column.pathFragment parts) = p.lexemes := by
  induction parts generalizing p with
  | nil => contradiction
  | cons part rest ih =>
    cases rest with
    | nil =>
      cases h
      by_cases hstar : part = "*"
      · simp only [Column.pathFragment, hstar, Path.lexemes, if_true]
        rfl
      · simp [Column.pathFragment, hstar, Path.lexemes, lexemes, Token.lexemes]
    | cons next rest =>
      obtain ⟨q, hq, rfl⟩ := Option.map_eq_some_iff.mp h
      have hrest := ih hq
      rw [Column.pathFragment, Path.lexemes, ← hrest]
      · rfl
      · simp

theorem spelled_pathFragment (hd : d.Legible first close) {parts : List String}
    (hparts : parts ≠ []) : Spelled d (Column.pathFragment parts) Dialect.isBehindName := by
  induction parts with
  | nil => contradiction
  | cons part rest ih =>
    cases rest with
    | nil =>
      by_cases hstar : part = "*"
      · have h : Spelled d [.text "*"] fun _ => true :=
          spelled_idle hd [.star] ⟨rfl, rfl⟩ (by decide)
        simpa [Column.pathFragment, hstar] using h.mono fun _ _ => rfl
      · simpa [Column.pathFragment, hstar] using spelled_name hd part
    | cons next rest =>
      have hdot : Spelled d [.text "."] fun _ => true :=
        spelled_idle hd [.dot] ⟨rfl, rfl⟩ (by decide)
      have hfront := (spelled_name hd part).append hdot (starts_text [] rfl rfl)
      exact hfront.append_any (ih (by simp))

theorem starts_pathFragment (hd : d.Legible first close) {parts : List String}
    (hparts : parts ≠ []) : Starts d (Column.pathFragment parts) fun c => !isSign c := by
  have hfirst : isSign first = false := (Dialect.start_of_unfamiliar hd.first_unfamiliar).2.2
  have hname : ∀ s : String, Starts d [.name s] fun c => !isSign c := by
    intro s bound
    refine ⟨first, Dialect.doubled close s.toList ++ [close], ?_, by simp [hfirst]⟩
    simp [render, Token.render, Dialect.quote, Dialect.quoteChars, hd.quotes]
  cases parts with
  | nil => contradiction
  | cons part rest =>
    cases rest with
    | nil =>
      by_cases hstar : part = "*"
      · simpa [Column.pathFragment, hstar] using
          starts_text (d := d) (p := fun c => !isSign c) [] (s := "*") rfl rfl
      · simpa [Column.pathFragment, hstar] using hname part
    | cons next rest => exact (hname part).append _

theorem parts_ne_nil {parts : List String} {p : Path} (h : Path.ofParts? parts = some p) :
    parts ≠ [] := by
  rintro rfl
  contradiction

variable {column : Column} {p : Path}

theorem lexemes_column (h : column.path? = some p) : lexemes column.fragment = p.lexemes := by
  cases column with
  | path parts => exact lexemes_pathFragment h
  | verbatim => contradiction

theorem lexemes_column_append (h : column.path? = some p) (f : Fragment) :
    lexemes (column.fragment ++ f) = p.lexemes ++ lexemes f := by
  rw [lexemes_append, lexemes_column h]

theorem spelled_column (hd : d.Legible first close) (h : column.path? = some p) :
    Spelled d column.fragment Dialect.isBehindName := by
  cases column with
  | path parts => exact spelled_pathFragment hd (parts_ne_nil h)
  | verbatim => contradiction

theorem starts_column (hd : d.Legible first close) (h : column.path? = some p) :
    Starts d column.fragment fun c => !isSign c := by
  cases column with
  | path parts => exact starts_pathFragment hd (parts_ne_nil h)
  | verbatim => contradiction

/-! ### Predicates -/

theorem lexemes_symbol (op : Comparison) : (Token.text op.symbol).lexemes = op.lexemes := by
  cases op <;> rfl

theorem spelled_symbol (hd : d.Legible first close) (op : Comparison) :
    Spelled d [.text op.symbol] fun c => !isSign c := by
  have hsign : ∀ s : String, plain.Covers s.toList (.sign s.toList) [.sign s] →
      s.toList.all Dialect.isFamiliar → Spelled d [.text s] fun c => !isSign c := by
    intro s hs hfamiliar
    refine spelled_text hd _ hs ⟨hfamiliar, by simp⟩ fun c hc => ?_
    simp_all [State.EndsAt, extend?]
  have hword : ∀ (s : String) ls, plain.Covers s.toList .idle ls →
      (s.toList.all Dialect.isFamiliar ∧ .placeholder ∉ ls) →
      Spelled d [.text s] fun c => !isSign c :=
    fun s ls hs hfamiliar => (spelled_idle hd ls hs hfamiliar).mono fun _ _ => rfl
  cases op with
  | like => exact hword " LIKE " [.keyword .like] ⟨rfl, rfl⟩ (by decide)
  | notLike => exact hword " NOT LIKE " [.keyword .not, .keyword .like] ⟨rfl, rfl⟩ (by decide)
  | eq => exact hsign "=" ⟨rfl, rfl⟩ (by decide)
  | ne => exact hsign "<>" ⟨rfl, rfl⟩ (by decide)
  | gt => exact hsign ">" ⟨rfl, rfl⟩ (by decide)
  | ge => exact hsign ">=" ⟨rfl, rfl⟩ (by decide)
  | lt => exact hsign "<" ⟨rfl, rfl⟩ (by decide)
  | le => exact hsign "<=" ⟨rfl, rfl⟩ (by decide)

theorem starts_symbol (op : Comparison) (f : Fragment) :
    Starts d (.text op.symbol :: f) Dialect.isBehindName := by
  cases op <;> exact starts_text f rfl rfl

theorem lexemes_ofValues (v : Value) (vs : List Value) :
    lexemes (ofValues (v :: vs) ++ [.text ")"]) =
      .placeholder :: Assertion.listLexemes vs.length := by
  induction vs generalizing v with
  | nil => rfl
  | cons w ws ih =>
    have hrest : ofValues (v :: w :: ws) = .operand v :: .text ", " :: ofValues (w :: ws) := by
      simp [ofValues, separated]
    rw [hrest, List.cons_append, List.cons_append, List.length_cons, Assertion.listLexemes, ← ih w]
    rfl

theorem spelled_ofValues (hd : d.Legible first close) (v : Value) (vs : List Value) :
    Spelled d (ofValues (v :: vs)) isBreak := by
  induction vs generalizing v with
  | nil => simpa [ofValues, separated] using spelled_operand hd v
  | cons w ws ih =>
    have hcomma : Spelled d [.text ", "] fun _ => true :=
      spelled_idle hd [.comma] ⟨rfl, rfl⟩ (by decide)
    have hfront := (spelled_operand hd v).append hcomma (starts_text [] rfl rfl)
    simpa [ofValues, separated] using hfront.append_any (ih w)

end Fragment

namespace Condition

open Fragment

variable {d : Dialect} {first close : Char} {x : Condition} {p : Predicate}

theorem lexemes_leaf (h : x.predicate? = some p) : lexemes x.fragment = p.lexemes := by
  cases x with
  | compare column op v =>
    obtain ⟨q, hq, rfl⟩ := Option.map_eq_some_iff.mp h
    have htail : lexemes [.text op.symbol, .operand v] = Assertion.lexemes (.compare op) := by
      rw [Assertion.lexemes, ← lexemes_symbol]
      rfl
    exact (lexemes_column_append hq _).trans (congrArg _ htail)
  | compareColumns left op right =>
    obtain ⟨q, hq, hright⟩ := Option.bind_eq_some_iff.mp h
    obtain ⟨r, hr, rfl⟩ := Option.map_eq_some_iff.mp hright
    have htail : lexemes (.text op.symbol :: right.fragment) =
        Assertion.lexemes (.compareColumn op r) := by
      rw [Assertion.lexemes, ← lexemes_column hr, ← lexemes_symbol]
      rfl
    exact (lexemes_column_append hq _).trans (congrArg _ htail)
  | missing column negated =>
    obtain ⟨q, hq, rfl⟩ := Option.map_eq_some_iff.mp h
    have htail : lexemes [.text (if negated then " IS NOT NULL" else " IS NULL")] =
        Assertion.lexemes (.missing negated) := by
      cases negated <;> rfl
    exact (lexemes_column_append hq _).trans (congrArg _ htail)
  | member column values negated =>
    cases values with
    | nil =>
      cases h
      cases negated <;> rfl
    | cons v vs =>
      obtain ⟨q, hq, rfl⟩ := Option.map_eq_some_iff.mp h
      have hfront : (Token.text (if negated then " NOT IN (" else " IN (")).lexemes =
          Assertion.notLexemes negated ++ [.keyword .among, .opened] := by
        cases negated <;> rfl
      have htail : lexemes (.text (if negated then " NOT IN (" else " IN (") ::
          (ofValues (v :: vs) ++ [.text ")"])) = Assertion.lexemes (.member vs.length negated) := by
        rw [Assertion.lexemes, ← lexemes_ofValues v vs, lexemes, List.flatMap_cons, hfront,
          List.append_assoc]
        rfl
      rw [fragment, piece, Piece.close, List.append_assoc]
      exact (lexemes_column_append hq _).trans (congrArg _ htail)
  | between column low high negated =>
    obtain ⟨q, hq, rfl⟩ := Option.map_eq_some_iff.mp h
    have htail : lexemes [.text (if negated then " NOT BETWEEN " else " BETWEEN "), .operand low,
        .text " AND ", .operand high] = Assertion.lexemes (.between negated) := by
      cases negated <;> rfl
    exact (lexemes_column_append hq _).trans (congrArg _ htail)
  | _ => contradiction

theorem spelled_column_text (hd : d.Legible first close) {column : Column} {q : Path}
    (hq : column.path? = some q) (s : String) (ls : List Lexeme)
    (hs : plain.Covers s.toList .idle ls)
    (hfamiliar : s.toList.all Dialect.isFamiliar ∧ .placeholder ∉ ls)
    (hstarts : Starts d [.text s] Dialect.isBehindName) :
    Spelled d (column.fragment ++ [.text s]) fun _ => true :=
  (spelled_column hd hq).append (spelled_idle hd ls hs hfamiliar) hstarts

theorem spelled_missing (hd : d.Legible first close) {column : Column} {q : Path}
    (hq : column.path? = some q) (negated : Bool) :
    Spelled d (missing column negated).fragment isBehindCondition := by
  have hnull : Spelled d [.text (if negated then " IS NOT NULL" else " IS NULL")] isBreak := by
    cases negated
    · exact spelled_text hd (s := .word "NULL".toList) [.keyword .is, .keyword .null]
        ⟨rfl, rfl⟩ (by decide) fun _ => endsAt_word
    · exact spelled_text hd (s := .word "NULL".toList)
        [.keyword .is, .keyword .not, .keyword .null] ⟨rfl, rfl⟩ (by decide)
        fun _ => endsAt_word
  have hstarts : Starts d [.text (if negated then " IS NOT NULL" else " IS NULL")]
      Dialect.isBehindName := by
    cases negated <;> exact starts_text [] rfl rfl
  exact ((spelled_column hd hq).append hnull hstarts).mono fun _ => isBreak_of_behind

theorem spelled_member (hd : d.Legible first close) {column : Column} {q : Path}
    (hq : column.path? = some q) (v : Value) (vs : List Value) (negated : Bool) :
    Spelled d (member column (v :: vs) negated).fragment isBehindCondition := by
  have hclosed : Spelled d [.text ")"] fun _ => true :=
    spelled_idle hd [.closed] ⟨rfl, rfl⟩ (by decide)
  have hlist := (spelled_ofValues hd v vs).append hclosed (starts_text [] rfl rfl)
  have hfront : Spelled d (column.fragment ++
      [.text (if negated then " NOT IN (" else " IN (")]) fun _ => true := by
    cases negated
    · exact spelled_column_text hd hq " IN (" [.keyword .among, .opened] ⟨rfl, rfl⟩
        (by decide) (starts_text [] rfl rfl)
    · exact spelled_column_text hd hq " NOT IN ("
        [.keyword .not, .keyword .among, .opened] ⟨rfl, rfl⟩ (by decide)
        (starts_text [] rfl rfl)
  have hall := hfront.append_any hlist
  rw [List.append_assoc] at hall
  rw [fragment, piece, Piece.close, List.append_assoc]
  exact hall.mono fun _ _ => rfl

theorem spelled_between (hd : d.Legible first close) {column : Column} {q : Path}
    (hq : column.path? = some q) (low high : Value) (negated : Bool) :
    Spelled d (between column low high negated).fragment isBehindCondition := by
  have hand : Spelled d [.text " AND "] fun _ => true :=
    spelled_idle hd [.keyword .and] ⟨rfl, rfl⟩ (by decide)
  have hbounds := ((spelled_operand hd low).append hand (starts_text [] rfl rfl)).append_any
    (spelled_operand hd high)
  have hfront : Spelled d (column.fragment ++
      [.text (if negated then " NOT BETWEEN " else " BETWEEN ")]) fun _ => true := by
    cases negated
    · exact spelled_column_text hd hq " BETWEEN " [.keyword .between] ⟨rfl, rfl⟩
        (by decide) (starts_text [] rfl rfl)
    · exact spelled_column_text hd hq " NOT BETWEEN " [.keyword .not, .keyword .between]
        ⟨rfl, rfl⟩ (by decide) (starts_text [] rfl rfl)
  have hall := hfront.append_any hbounds
  rw [List.append_assoc] at hall
  exact hall.mono fun _ => isBreak_of_behind

/-- A leaf is read in a legible dialect as it is read without one. -/
theorem spelled_leaf (hd : d.Legible first close) (h : x.predicate? = some p) :
    Spelled d x.fragment isBehindCondition := by
  cases x with
  | compare column op v =>
    obtain ⟨q, hq, rfl⟩ := Option.map_eq_some_iff.mp h
    have hfront := (spelled_column hd hq).append (spelled_symbol hd op) (starts_symbol op [])
    have hall := hfront.append (spelled_operand hd v) (starts_operand hd v [])
    rw [List.append_assoc] at hall
    exact hall.mono fun _ => isBreak_of_behind
  | compareColumns left op right =>
    obtain ⟨q, hq, hright⟩ := Option.bind_eq_some_iff.mp h
    obtain ⟨r, hr, rfl⟩ := Option.map_eq_some_iff.mp hright
    have hfront := (spelled_column hd hq).append (spelled_symbol hd op) (starts_symbol op [])
    have hall := hfront.append (spelled_column hd hr) (starts_column hd hr)
    rw [List.append_assoc] at hall
    exact hall.mono fun _ => isBehindName_of_behind
  | missing column negated =>
    obtain ⟨q, hq, rfl⟩ := Option.map_eq_some_iff.mp h
    exact spelled_missing hd hq negated
  | member column values negated =>
    cases values with
    | nil =>
      cases negated
      · exact (spelled_never hd).mono fun _ => isBreak_of_behind
      · exact (spelled_always hd).mono fun _ => isBreak_of_behind
    | cons v vs =>
      obtain ⟨q, hq, rfl⟩ := Option.map_eq_some_iff.mp h
      exact spelled_member hd hq v vs negated
  | between column low high negated =>
    obtain ⟨q, hq, rfl⟩ := Option.map_eq_some_iff.mp h
    exact spelled_between hd hq low high negated
  | _ => contradiction

end Condition

end QueryKit
