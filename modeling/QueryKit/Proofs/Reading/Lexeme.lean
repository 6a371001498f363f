import QueryKit.Fragment

/-! Lexemes of conditions. A lexer takes one character after another. Blanks, parentheses and commas
end a word, a comparison sign is as long as it can be, and an identifier ends at the first closing
quote that stands alone. The lexemes of a text are those of its pieces if the lexer, behind each
piece, takes the first character of the next one as the end of what it has read. -/

namespace QueryKit

inductive Keyword
  | and
  | or
  | not
  | among
  | between
  | is
  | null
  | like
deriving DecidableEq

namespace Keyword

def text : Keyword → String
  | and => "AND"
  | or => "OR"
  | not => "NOT"
  | among => "IN"
  | between => "BETWEEN"
  | is => "IS"
  | null => "NULL"
  | like => "LIKE"

def all : List Keyword :=
  [and, or, not, among, between, is, null, like]

/-- The keyword that a text is. -/
def ofText? (s : String) : Option Keyword :=
  all.find? fun k => k.text = s

end Keyword

inductive Lexeme
  | quoted (identifier : String)
  | star
  | dot
  | comma
  | opened
  | closed
  | sign (s : String)
  | keyword (k : Keyword)
  | constant (value : Bool)
  | placeholder
deriving DecidableEq

/-- A word that is not known otherwise stands for an operand. -/
def Lexeme.ofWord (cs : List Char) : Lexeme :=
  match Keyword.ofText? (String.ofList cs) with
  | some k => .keyword k
  | none => .placeholder

/-- What differs between lexers: the quotes of identifiers, and what words are. -/
structure Lexer where
  quotes : Option (Char × Char) := none
  word : List Char → Lexeme := Lexeme.ofWord

namespace Lexer

/-- What a lexer has begun to read. -/
inductive State
  | idle
  | word (cs : List Char)
  | sign (cs : List Char)
  /-- The characters of an identifier up to here. -/
  | body (close : Char) (cs : List Char)
  /-- An identifier, or a part of it in front of a doubled quote. -/
  | ending (close : Char) (cs : List Char)

def isBreak (c : Char) : Bool :=
  [' ', '(', ')', ','].contains c

/-- The character belongs to a comparison sign. -/
def isSign (c : Char) : Bool :=
  ['=', '<', '>'].contains c

/-- The lexeme that a character is on its own. -/
def single? : Char → Option Lexeme
  | '(' => some .opened
  | ')' => some .closed
  | ',' => some .comma
  | '.' => some .dot
  | '*' => some .star
  | _ => none

/-- The state behind the first character of something, and the lexeme that is read by then. -/
def start (l : Lexer) (c : Char) : State × List Lexeme :=
  match single? c with
  | some x => (.idle, [x])
  | none =>
    if c = ' ' then (.idle, [])
    else if isSign c then (.sign [c], [])
    else
      match l.quotes with
      | some (first, close) => if c = first then (.body close [], []) else (.word [c], [])
      | none => (.word [c], [])

/-- What is read if nothing more follows. -/
def flush (l : Lexer) : State → Option (List Lexeme)
  | .idle => some []
  | .word cs => some [l.word cs]
  | .sign cs => some [.sign (String.ofList cs)]
  | .body _ _ => none
  | .ending _ cs => some [.quoted (String.ofList cs)]

/-- The state that goes on with a character, if it does not end what is read. -/
def extend? (s : State) (c : Char) : Option State :=
  match s with
  | .idle => none
  | .word cs => if isBreak c then none else some (.word (cs ++ [c]))
  | .sign cs => if isSign c then some (.sign (cs ++ [c])) else none
  | .body close cs => some (if c = close then .ending close cs else .body close (cs ++ [c]))
  | .ending close cs => if c = close then some (.body close (cs ++ [c])) else none

/-- The state behind one more character, and the lexemes that are read by then. -/
def step (l : Lexer) (s : State) (c : Char) : State × List Lexeme :=
  match extend? s c with
  | some t => (t, [])
  | none => ((l.start c).1, (l.flush s).getD [] ++ (l.start c).2)

/-- The state behind a text, and the lexemes that are read by then. -/
def run (l : Lexer) : State → List Char → State × List Lexeme
  | s, [] => (s, [])
  | s, c :: cs =>
    let r := run l (l.step s c).1 cs
    (r.1, (l.step s c).2 ++ r.2)

/-- The lexemes of a text, unless it ends inside an identifier. -/
def lex (l : Lexer) (cs : List Char) : Option (List Lexeme) :=
  (l.flush (l.run .idle cs).1).map ((l.run .idle cs).2 ++ ·)

theorem run_append (l : Lexer) (s : State) (cs ds : List Char) :
    l.run s (cs ++ ds) =
      ((l.run (l.run s cs).1 ds).1, (l.run s cs).2 ++ (l.run (l.run s cs).1 ds).2) := by
  induction cs generalizing s with
  | nil => rfl
  | cons c cs ih => simp [run, ih]

/-! ### Piece by piece -/

/-- Behind the text the lexer is in the state, and the lexemes are those of the text. -/
structure Covers (l : Lexer) (cs : List Char) (s : State) (ls : List Lexeme) : Prop where
  state : (l.run .idle cs).1 = s
  lexemes : (l.flush s).map ((l.run .idle cs).2 ++ ·) = some ls

def State.EndsAt (s : State) (c : Char) : Prop :=
  extend? s c = none

instance (s : State) (c : Char) : Decidable (s.EndsAt c) :=
  inferInstanceAs (Decidable (extend? s c = none))

section Covers

variable {l : Lexer} {cs ds : List Char} {s t : State} {ls ms : List Lexeme}

theorem Covers.lex (h : l.Covers cs s ls) : l.lex cs = some ls := by
  rw [Lexer.lex, h.state]
  exact h.lexemes

/-- Two texts, the second of which ends what is read of the first. -/
theorem Covers.append {c : Char} (h : l.Covers cs s ls) (h' : l.Covers (c :: ds) t ms)
    (hc : s.EndsAt c) : l.Covers (cs ++ c :: ds) t (ls ++ ms) := by
  obtain ⟨hs, hls⟩ := h
  obtain ⟨ht, hms⟩ := h'
  obtain ⟨last, hlast, rfl⟩ := Option.map_eq_some_iff.mp hls
  have hidle : l.step .idle c = l.start c := rfl
  have hstep : l.step s c = ((l.start c).1, last ++ (l.start c).2) := by
    rw [step, show extend? s c = none from hc, hlast]
    rfl
  rw [run, hidle] at ht hms
  refine ⟨?_, ?_⟩
  · rw [run_append, hs, run, hstep]
    exact ht
  · rw [run_append, hs, run, hstep]
    obtain ⟨rest, hrest, rfl⟩ := Option.map_eq_some_iff.mp hms
    simp [hrest]

end Covers

/-! ### Words, signs and identifiers -/

/-- The text is one word, wherever a word may begin. -/
structure IsWord (l : Lexer) (cs : List Char) : Prop where
  ne_nil : cs ≠ []
  start : ∀ c ∈ cs.head?, l.start c = (.word [c], [])
  not_break : ∀ c ∈ cs, isBreak c = false

theorem run_word (l : Lexer) (front cs : List Char) (h : ∀ c ∈ cs, isBreak c = false) :
    l.run (.word front) cs = (.word (front ++ cs), []) := by
  induction cs generalizing front with
  | nil => simp [run]
  | cons c cs ih =>
    obtain ⟨hc, hcs⟩ := List.forall_mem_cons.mp h
    have hstep : l.step (.word front) c = (.word (front ++ [c]), []) := by
      simp [step, extend?, hc]
    rw [run, hstep, ih _ hcs]
    simp

theorem IsWord.covers {l : Lexer} {cs : List Char} (h : l.IsWord cs) :
    l.Covers cs (.word cs) [l.word cs] := by
  obtain ⟨hne, hstart, hbreak⟩ := h
  cases cs with
  | nil => contradiction
  | cons c cs =>
    have hstep : l.step .idle c = (.word [c], []) := hstart c rfl
    have hrun := run_word l [c] cs fun x hx => hbreak x (List.mem_cons_of_mem c hx)
    exact ⟨by rw [run, hstep, hrun]; rfl, by rw [run, hstep, hrun]; rfl⟩

theorem run_body (l : Lexer) (close : Char) (front cs : List Char) :
    l.run (.body close front) (Dialect.doubled close cs) = (.body close (front ++ cs), []) := by
  induction cs generalizing front with
  | nil => simp [Dialect.doubled, run]
  | cons c cs ih =>
    have hrest := ih (front ++ [c])
    rw [List.append_assoc] at hrest
    simp only [Dialect.doubled, List.flatMap_cons] at hrest ⊢
    split
    · subst c
      simp [run, step, extend?, hrest]
    · rename_i hc
      simp [run, step, extend?, hc, hrest]

theorem start_quote {l : Lexer} {first close : Char} (hq : l.quotes = some (first, close))
    (hfirst : single? first = none ∧ first ≠ ' ' ∧ isSign first = false) :
    l.start first = (.body close [], []) := by
  obtain ⟨hsingle, hblank, hsign⟩ := hfirst
  simp [start, hsingle, hblank, hsign, hq]

theorem covers_quote {d : Dialect} {l : Lexer} {first close : Char}
    (hd : d.quotes = some (first, close)) (hq : l.quotes = some (first, close))
    (hfirst : single? first = none ∧ first ≠ ' ' ∧ isSign first = false) (s : String) :
    l.Covers (d.quote s).toList (.ending close s.toList) [.quoted s] := by
  have htext : (d.quote s).toList = first :: Dialect.doubled close s.toList ++ [close] := by
    simp [Dialect.quote, Dialect.quoteChars, hd]
  have hstep : l.step .idle first = (.body close [], []) := start_quote hq hfirst
  have hbody := run_body l close [] s.toList
  have hrun : l.run .idle (d.quote s).toList = (.ending close s.toList, []) := by
    rw [htext, List.cons_append, run, hstep, run_append, hbody]
    simp [run, step, extend?]
  exact ⟨by rw [hrun], by rw [hrun]; simp [flush]⟩

/-! ### Texts without identifiers -/

/-- The lexer is not inside an identifier. -/
def State.Outside : State → Prop
  | body _ _ | ending _ _ => False
  | _ => True

/-- The lexer of texts without identifiers, in which all words but the keywords are placeholders. -/
def plain : Lexer where

theorem outside_start (c : Char) : (plain.start c).1.Outside := by
  unfold start
  split
  · trivial
  · split
    · trivial
    · split <;> trivial

theorem outside_step {s : State} (hs : s.Outside) (c : Char) : (plain.step s c).1.Outside := by
  unfold step
  split
  · rename_i t ht
    cases s with
    | word cs | sign cs =>
      simp only [extend?, Option.ite_none_left_eq_some, Option.ite_none_right_eq_some] at ht
      obtain ⟨-, ht⟩ := ht
      cases ht
      trivial
    | idle => contradiction
    | body | ending => exact hs.elim
  · exact outside_start c

theorem start_eq_plain {l : Lexer} {c : Char} (hc : ∀ q ∈ l.quotes, c ≠ q.1) :
    l.start c = plain.start c := by
  unfold start
  cases hq : l.quotes with
  | none => rfl
  | some q => simp [plain, hc q hq]

/-- Outside of identifiers every lexer reads alike, as long as all words are keywords. -/
theorem run_eq_plain {l : Lexer}
    (hl : ∀ cs, Lexeme.ofWord cs ≠ .placeholder → l.word cs = Lexeme.ofWord cs) {cs : List Char}
    (hcs : ∀ c ∈ cs, ∀ q ∈ l.quotes, c ≠ q.1) {s : State} (hs : s.Outside)
    (hwords : .placeholder ∉ (plain.run s cs).2) : l.run s cs = plain.run s cs := by
  induction cs generalizing s with
  | nil => rfl
  | cons c cs ih =>
    obtain ⟨hc, hrest⟩ := List.forall_mem_cons.mp hcs
    simp only [run, List.mem_append, not_or] at hwords ⊢
    have hstep : l.step s c = plain.step s c := by
      have hemitted := hwords.1
      simp only [step, start_eq_plain hc] at hemitted ⊢
      cases hext : extend? s c with
      | some t => rfl
      | none =>
        cases s with
        | word w =>
          have hword : Lexeme.ofWord w ≠ .placeholder := by
            intro h
            simp [hext, flush, plain, h] at hemitted
          simp [flush, plain, hl w hword]
        | body | ending => exact hs.elim
        | _ => rfl
    rw [hstep, ih hrest (outside_step hs c) hwords.2]

theorem outside_run {s : State} (hs : s.Outside) (cs : List Char) :
    (plain.run s cs).1.Outside := by
  induction cs generalizing s with
  | nil => exact hs
  | cons c cs ih => exact ih (outside_step hs c)

/-- What the plain lexer reads as keywords and signs, every lexer does. -/
theorem Covers.of_plain {l : Lexer}
    (hl : ∀ cs, Lexeme.ofWord cs ≠ .placeholder → l.word cs = Lexeme.ofWord cs) {cs : List Char}
    (hcs : ∀ c ∈ cs, ∀ q ∈ l.quotes, c ≠ q.1) {s : State} {ls : List Lexeme}
    (h : plain.Covers cs s ls) (hwords : .placeholder ∉ ls) : l.Covers cs s ls := by
  obtain ⟨hstate, hls⟩ := h
  obtain ⟨last, hlast, rfl⟩ := Option.map_eq_some_iff.mp hls
  simp only [List.mem_append, not_or] at hwords
  obtain ⟨hout, hend⟩ := hwords
  have hidle : State.Outside .idle := trivial
  have hs : s.Outside := hstate ▸ outside_run hidle cs
  have hflush : l.flush s = some last := by
    rw [← hlast]
    cases s with
    | word w =>
      have hword : Lexeme.ofWord w ≠ .placeholder := by
        intro h
        cases hlast
        simp [plain, h] at hend
      simp [flush, plain, hl w hword]
    | body | ending => exact hs.elim
    | _ => rfl
  have hrun := run_eq_plain hl hcs hidle hout
  exact ⟨by rw [hrun, hstate], by rw [hrun, hflush]; rfl⟩

end Lexer

end QueryKit
