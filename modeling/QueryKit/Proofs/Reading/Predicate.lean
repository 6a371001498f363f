import QueryKit.Proofs.Reading.Grammar
import QueryKit.Proofs.Reading.Lexeme

/-! Predicates and their lexemes. The lexemes of a predicate tell where it ends, so a row of lexemes
is cut into predicates and connectives in one way at most. In particular the AND between the two
bounds of a range belongs to the predicate. -/

namespace QueryKit

/-- A path of one or more identifiers. -/
inductive Path
  | last (part : String)
  | more (part : String) (rest : Path)
deriving DecidableEq

namespace Path

/-- The lexemes of a path. A star at its end stands for itself. -/
def lexemes : Path → List Lexeme
  | last part => [if part = "*" then .star else .quoted part]
  | more part rest => .quoted part :: .dot :: rest.lexemes

/-- The path at the front of lexemes, and what follows it. -/
def read : List Lexeme → Option (Path × List Lexeme)
  | .star :: ls => some (last "*", ls)
  | .quoted part :: .dot :: ls => (read ls).map fun r => (more part r.1, r.2)
  | .quoted part :: ls => some (last part, ls)
  | _ => none

theorem read_lexemes (p : Path) {ls : List Lexeme} (h : ls.head? ≠ some .dot) :
    read (p.lexemes ++ ls) = some (p, ls) := by
  induction p with
  | last part =>
    by_cases hstar : part = "*"
    · simp [lexemes, hstar, read]
    · simp only [lexemes, hstar, if_false, List.cons_append, List.nil_append]
      rw [read]
      rintro ms rfl
      exact h rfl
  | more part rest ih => simp [lexemes, read, ih]

theorem head_lexemes (p : Path) (ls : List Lexeme) :
    ∃ x ms, p.lexemes ++ ls = x :: ms ∧ (x = .star ∨ ∃ s, x = .quoted s) := by
  cases p with
  | last part =>
    by_cases hstar : part = "*"
    · exact ⟨.star, ls, by simp [lexemes, hstar], .inl rfl⟩
    · exact ⟨.quoted part, ls, by simp [lexemes, hstar], .inr ⟨part, rfl⟩⟩
  | more part rest => exact ⟨_, _, rfl, .inr ⟨part, rfl⟩⟩

end Path

namespace Comparison

def lexemes : Comparison → List Lexeme
  | .eq => [.sign "="]
  | .ne => [.sign "<>"]
  | .gt => [.sign ">"]
  | .ge => [.sign ">="]
  | .lt => [.sign "<"]
  | .le => [.sign "<="]
  | .like => [.keyword .like]
  | .notLike => [.keyword .not, .keyword .like]

/-- The operator at the front of lexemes, and what follows it. -/
def read : List Lexeme → Option (Comparison × List Lexeme)
  | .sign s :: ls =>
    ([.eq, .ne, .gt, .ge, .lt, .le].find? fun op => op.symbol = s).map fun op => (op, ls)
  | .keyword .like :: ls => some (.like, ls)
  | .keyword .not :: .keyword .like :: ls => some (.notLike, ls)
  | _ => none

end Comparison

/-- What a predicate says of a column. -/
inductive Assertion
  /-- How it compares with an operand. -/
  | compare (op : Comparison)
  | compareColumn (op : Comparison) (right : Path)
  | missing (negated : Bool)
  /-- Whether it is one of the operands, of which there are more than one by the number. -/
  | member (more : Nat) (negated : Bool)
  | between (negated : Bool)
deriving DecidableEq

namespace Assertion

/-- The keyword NOT, or nothing. -/
def notLexemes (negated : Bool) : List Lexeme :=
  if negated then [.keyword .not] else []

/-- Further placeholders up to the end of a list. -/
def listLexemes : Nat → List Lexeme
  | 0 => [.closed]
  | n + 1 => .comma :: .placeholder :: listLexemes n

def lexemes : Assertion → List Lexeme
  | compare op => op.lexemes ++ [.placeholder]
  | compareColumn op right => op.lexemes ++ right.lexemes
  | missing negated => .keyword .is :: notLexemes negated ++ [.keyword .null]
  | member more negated =>
    notLexemes negated ++ .keyword .among :: .opened :: .placeholder :: listLexemes more
  | between negated =>
    notLexemes negated ++
      [.keyword .between, .placeholder, .keyword .and, .placeholder]

/-- The number of further placeholders up to the end of a list, and what follows it. -/
def readList : List Lexeme → Option (Nat × List Lexeme)
  | .closed :: ls => some (0, ls)
  | .comma :: .placeholder :: ls => (readList ls).map fun r => (r.1 + 1, r.2)
  | _ => none

/-- The assertion at the front of lexemes, and what follows it. -/
def read : List Lexeme → Option (Assertion × List Lexeme)
  | .keyword .is :: .keyword .null :: ls => some (missing false, ls)
  | .keyword .is :: .keyword .not :: .keyword .null :: ls => some (missing true, ls)
  | .keyword .among :: .opened :: .placeholder :: ls =>
    (readList ls).map fun r => (member r.1 false, r.2)
  | .keyword .not :: .keyword .among :: .opened :: .placeholder :: ls =>
    (readList ls).map fun r => (member r.1 true, r.2)
  | .keyword .between :: .placeholder :: .keyword .and :: .placeholder :: ls =>
    some (between false, ls)
  | .keyword .not :: .keyword .between :: .placeholder :: .keyword .and :: .placeholder :: ls =>
    some (between true, ls)
  | ls =>
    match Comparison.read ls with
    | some (op, .placeholder :: ls) => some (compare op, ls)
    | some (op, ls) => (Path.read ls).map fun r => (compareColumn op r.1, r.2)
    | none => none

theorem readList_listLexemes (n : Nat) (ls : List Lexeme) :
    readList (listLexemes n ++ ls) = some (n, ls) := by
  induction n with
  | zero => rfl
  | succ n ih => simp [listLexemes, readList, ih]

theorem read_compareColumn (op : Comparison) (right : Path) {ls : List Lexeme}
    (h : ls.head? ≠ some .dot) :
    read (op.lexemes ++ right.lexemes ++ ls) = some (compareColumn op right, ls) := by
  have hright := right.read_lexemes h
  obtain ⟨x, ms, htext, hx⟩ := right.head_lexemes ls
  rw [htext] at hright
  rw [List.append_assoc, htext]
  rcases hx with rfl | ⟨s, rfl⟩ <;> cases op <;>
    simp [read, Comparison.lexemes, Comparison.read, Comparison.symbol, hright]

theorem read_lexemes (a : Assertion) {ls : List Lexeme} (h : ls.head? ≠ some .dot) :
    read (a.lexemes ++ ls) = some (a, ls) := by
  cases a with
  | compare op => cases op <;> rfl
  | compareColumn op right => exact read_compareColumn op right h
  | missing negated => cases negated <;> rfl
  | member more negated =>
    have hlist := readList_listLexemes more ls
    cases negated <;> simp [lexemes, notLexemes, read, hlist]
  | between negated => cases negated <;> rfl

theorem head_lexemes (a : Assertion) (ls : List Lexeme) :
    (a.lexemes ++ ls).head? ≠ some .dot := by
  cases a with
  | compare op | compareColumn op right => cases op <;> simp [lexemes, Comparison.lexemes]
  | missing negated | member more negated | between negated =>
    cases negated <;> simp [lexemes, notLexemes]

end Assertion

/-- A predicate. -/
inductive Predicate
  | about (column : Path) (assertion : Assertion)
  | constant (value : Bool)
deriving DecidableEq

namespace Predicate

def lexemes : Predicate → List Lexeme
  | about column assertion => column.lexemes ++ assertion.lexemes
  | constant value => [.constant value]

/-- The truth value of the predicate, where a constant has its own. -/
def truth : Predicate → Truth → Truth
  | about _ _, t => t
  | constant value, _ => .ofBool value

end Predicate

namespace Mark

def lexemes : Mark Predicate → List Lexeme
  | atom p => p.lexemes
  | and => [.keyword .and]
  | or => [.keyword .or]
  | not => [.keyword .not]
  | opened => [.opened]
  | closed => [.closed]

/-- The mark at the front of lexemes, and what follows it. -/
def read : List Lexeme → Option (Mark Predicate × List Lexeme)
  | .keyword .and :: ls => some (and, ls)
  | .keyword .or :: ls => some (or, ls)
  | .keyword .not :: ls => some (not, ls)
  | .opened :: ls => some (opened, ls)
  | .closed :: ls => some (closed, ls)
  | .constant value :: ls => some (atom (.constant value), ls)
  | ls =>
    (Path.read ls).bind fun r =>
      (Assertion.read r.2).map fun s => (atom (.about r.1 s.1), s.2)

theorem read_lexemes (m : Mark Predicate) {ls : List Lexeme} (h : ls.head? ≠ some .dot) :
    read (m.lexemes ++ ls) = some (m, ls) := by
  cases m with
  | atom p =>
    cases p with
    | constant value => rfl
    | about column a =>
      have hcolumn := column.read_lexemes (a.head_lexemes ls)
      have ha := a.read_lexemes h
      obtain ⟨x, ms, htext, hx⟩ := column.head_lexemes (a.lexemes ++ ls)
      simp only [lexemes, Predicate.lexemes, List.append_assoc]
      rw [htext] at hcolumn ⊢
      rcases hx with rfl | ⟨s, rfl⟩ <;> simp [read, hcolumn, ha]
  | _ => rfl

theorem head_lexemes (m : Mark Predicate) (ls : List Lexeme) :
    ∃ x xs, m.lexemes ++ ls = x :: xs ∧ x ≠ .dot := by
  cases m with
  | atom p =>
    cases p with
    | constant value => exact ⟨_, _, rfl, by simp⟩
    | about column a =>
      obtain ⟨x, ms, htext, hx⟩ := column.head_lexemes (a.lexemes ++ ls)
      refine ⟨x, ms, by simpa [lexemes, Predicate.lexemes] using htext, ?_⟩
      rcases hx with rfl | ⟨s, rfl⟩ <;> simp
  | _ => exact ⟨_, _, rfl, by simp⟩

theorem head_flatMap_lexemes (ms : List (Mark Predicate)) :
    (ms.flatMap lexemes).head? ≠ some .dot := by
  cases ms with
  | nil => simp
  | cons m ms =>
    obtain ⟨x, xs, htext, hx⟩ := m.head_lexemes (ms.flatMap lexemes)
    simpa [htext] using hx

/-- Lexemes are cut into marks in one way at most. -/
theorem flatMap_lexemes_injective {ms ns : List (Mark Predicate)}
    (h : ms.flatMap lexemes = ns.flatMap lexemes) : ms = ns := by
  induction ms generalizing ns with
  | nil =>
    cases ns with
    | nil => rfl
    | cons n ns =>
      obtain ⟨x, xs, htext, -⟩ := n.head_lexemes (ns.flatMap lexemes)
      simp [htext] at h
  | cons m ms ih =>
    cases ns with
    | nil =>
      obtain ⟨x, xs, htext, -⟩ := m.head_lexemes (ms.flatMap lexemes)
      simp [htext] at h
    | cons n ns =>
      have hm := m.read_lexemes (head_flatMap_lexemes ms)
      have hn := n.read_lexemes (head_flatMap_lexemes ns)
      simp only [List.flatMap_cons] at h
      rw [h, hn] at hm
      obtain ⟨rfl, hrest⟩ := Prod.mk.inj (Option.some.inj hm)
      rw [ih hrest.symm]

end Mark

/-- The lexemes are read as a condition: they are cut into predicates and connectives, and those are
read by the grammar. -/
def Formula.Reads (r : Formula Predicate) (ls : List Lexeme) : Prop :=
  ∃ ms : List (Mark Predicate), ms.flatMap Mark.lexemes = ls ∧ Parses .disjunction ms r

/-- Lexemes are read as one condition at most. -/
theorem Formula.Reads.unique {r s : Formula Predicate} {ls : List Lexeme} (hr : r.Reads ls)
    (hs : s.Reads ls) : r = s := by
  obtain ⟨ms, rfl, hms⟩ := hr
  obtain ⟨ns, htext, hns⟩ := hs
  rw [Mark.flatMap_lexemes_injective htext] at hns
  exact hms.unique hns

theorem Formula.Reads.ne_nil {r : Formula Predicate} {ls : List Lexeme} (hr : r.Reads ls) :
    ls ≠ [] := by
  obtain ⟨ms, rfl, hms⟩ := hr
  obtain ⟨m, rest, rfl⟩ := List.exists_cons_of_ne_nil hms.ne_nil
  obtain ⟨x, xs, htext, -⟩ := m.head_lexemes (rest.flatMap Mark.lexemes)
  simp [htext]

end QueryKit
