import QueryKit.Proofs.Fragment
import QueryKit.Proofs.Reading.Lexeme

/-! Legible dialects. The lexemes of a fragment do not depend on a dialect: its identifiers and
operands are lexemes already, and its texts hold keywords and signs. A dialect is legible if its
quotes, placeholders and constant predicates cannot be taken for anything else, and in such a dialect
the lexemes of the text are those of the fragment. Every dialect of the library that quotes
identifiers is legible. -/

namespace QueryKit

open Lexer

def Token.lexemes : Token → List Lexeme
  | text s => (plain.lex s.toList).getD []
  | name s => [.quoted s]
  | operand _ | marker _ => [.placeholder]
  | never => [.constant false]
  | always => [.constant true]
  | window _ _ | page _ => []

def Fragment.lexemes (f : Fragment) : List Lexeme :=
  f.flatMap Token.lexemes

namespace Dialect

/-- The lexer of texts in the dialect. -/
def lexer (d : Dialect) : Lexer where
  quotes := d.quotes
  word cs :=
    match Keyword.ofText? (String.ofList cs) with
    | some k => .keyword k
    | none =>
      if String.ofList cs = d.never then .constant false
      else if String.ofList cs = d.always then .constant true
      else .placeholder

/-- The text is a word but not a keyword. -/
structure IsName (d : Dialect) (s : String) : Prop where
  isWord : d.lexer.IsWord s.toList
  not_keyword : Keyword.ofText? s = none

/-- The character is found in keywords, signs or punctuation. -/
def isFamiliar (c : Char) : Bool :=
  c.isUpper || [' ', '(', ')', ',', '.', '*', '=', '<', '>'].contains c

def isBehindName (c : Char) : Bool :=
  [' ', ')', '.', '=', '<', '>'].contains c

/-- What the dialect writes in conditions can be told apart. -/
structure Legible (d : Dialect) (first close : Char) : Prop where
  quotes : d.quotes = some (first, close)
  first_unfamiliar : isFamiliar first = false
  close_not_behind : isBehindName close = false
  never : d.IsName d.never
  always : d.IsName d.always
  never_ne_always : d.never ≠ d.always
  placeholder : ∀ n, d.IsName (d.placeholder n)
  placeholder_ne_never : ∀ n, d.placeholder n ≠ d.never
  placeholder_ne_always : ∀ n, d.placeholder n ≠ d.always

/-! ### Which dialects are legible -/

theorem start_of_unfamiliar {c : Char} (hc : isFamiliar c = false) :
    single? c = none ∧ c ≠ ' ' ∧ isSign c = false := by
  simp only [isFamiliar, List.contains_eq_mem, List.mem_cons, List.not_mem_nil, or_false,
    Bool.or_eq_false_iff, decide_eq_false_iff_not, not_or] at hc
  obtain ⟨-, hblank, hopened, hclosed, hcomma, hdot, hstar, heq, hlt, hgt⟩ := hc
  exact ⟨by unfold single?; split <;> simp_all, hblank, by simp [isSign, heq, hlt, hgt]⟩

theorem not_keyword_of_head {s : String} {c : Char} {cs : List Char} (hs : s.toList = c :: cs)
    (hc : c.isUpper = false) : Keyword.ofText? s = none := by
  have hheads : ∀ k ∈ Keyword.all, k.text.toList.head?.map Char.isUpper = some true := by decide
  rw [Keyword.ofText?, List.find?_eq_none]
  intro k hk htext
  have hhead := hheads k hk
  rw [of_decide_eq_true htext, hs] at hhead
  simp [hc] at hhead

theorem isName_of_head {d : Dialect} {first close : Char} (hq : d.quotes = some (first, close))
    {s : String} {c : Char} {cs : List Char} (hs : s.toList = c :: cs)
    (hc : isFamiliar c = false) (hfirst : c ≠ first) (hcs : ∀ x ∈ cs, isBreak x = false) :
    d.IsName s := by
  obtain ⟨hsingle, hblank, hsign⟩ := start_of_unfamiliar hc
  refine ⟨⟨by simp [hs], ?_, ?_⟩, not_keyword_of_head hs ?_⟩
  · intro x hx
    rw [hs] at hx
    cases hx
    simp [start, hsingle, hblank, hsign, lexer, hq, hfirst]
  · rw [hs]
    refine List.forall_mem_cons.mpr ⟨?_, hcs⟩
    simp_all [isBreak, isFamiliar]
  · simp_all [isFamiliar]

/-- With the standard's constant predicates a dialect is legible if its quotes and placeholders
begin with characters that nothing else begins with. -/
theorem legible_of_heads {d : Dialect} {first close : Char} (hq : d.quotes = some (first, close))
    (hfirst : isFamiliar first = false ∧ first ≠ '1') (hclose : isBehindName close = false)
    (hnever : d.never = "1=0") (halways : d.always = "1=1")
    (hplaceholder : ∀ n, ∃ c cs, (d.placeholder n).toList = c :: cs ∧ isFamiliar c = false ∧
      c ≠ first ∧ c ≠ '1' ∧ ∀ x ∈ cs, isBreak x = false) : d.Legible first close := by
  have hdigit : ∀ e, isBreak e = false → ∀ x ∈ ['=', e], isBreak x = false := by
    intro e he x hx
    rw [List.mem_cons, List.mem_singleton] at hx
    rcases hx with rfl | rfl
    · rfl
    · exact he
  have hconstant : ∀ s, s = "1=0" ∨ s = "1=1" → d.IsName s ∧ ∀ n, d.placeholder n ≠ s := by
    intro s hs
    refine ⟨?_, fun n h => ?_⟩
    · rcases hs with rfl | rfl
      · exact isName_of_head hq rfl (by decide) hfirst.2.symm (hdigit '0' rfl)
      · exact isName_of_head hq rfl (by decide) hfirst.2.symm (hdigit '1' rfl)
    · obtain ⟨c, cs, htext, -, -, hc, -⟩ := hplaceholder n
      rw [h] at htext
      rcases hs with rfl | rfl
      · exact hc (List.cons.inj htext).1.symm
      · exact hc (List.cons.inj htext).1.symm
  refine ⟨hq, hfirst.1, hclose, (hconstant _ (.inl hnever)).1, (hconstant _ (.inr halways)).1, ?_,
    fun n => ?_, (hconstant _ (.inl hnever)).2, (hconstant _ (.inr halways)).2⟩
  · rw [hnever, halways]
    decide
  · obtain ⟨c, cs, htext, hc, hne, -, hcs⟩ := hplaceholder n
    exact isName_of_head hq htext hc hne hcs

theorem not_break_of_digit {c : Char} (h : c.isDigit) : isBreak c = false := by
  rw [Bool.eq_false_iff]
  intro hbreak
  simp only [isBreak, List.contains_eq_mem, List.mem_cons, List.not_mem_nil, or_false,
    decide_eq_true_eq] at hbreak
  rcases hbreak with rfl | rfl | rfl | rfl <;> contradiction

theorem not_break_of_toString (n : Nat) : ∀ c ∈ (toString n).toList, isBreak c = false := by
  intro c hc
  rw [Nat.toString_eq_ofList_toDigits, String.toList_ofList] at hc
  exact not_break_of_digit (Nat.isDigit_of_mem_toDigits (by decide) (by decide) hc)

/-- A dialect is legible if its quotes are, its placeholders are question marks, and its constant
predicates are those of the standard. -/
theorem legible_of_question {d : Dialect} {first close : Char}
    (hq : d.quotes = some (first, close))
    (hfirst : isFamiliar first = false ∧ first ≠ '1' ∧ first ≠ '?')
    (hclose : isBehindName close = false) (hplaceholder : ∀ n, d.placeholder n = "?")
    (hnever : d.never = "1=0") (halways : d.always = "1=1") : d.Legible first close := by
  obtain ⟨hfamiliar, hone, hmark⟩ := hfirst
  refine legible_of_heads hq ⟨hfamiliar, hone⟩ hclose hnever halways fun n => ?_
  rw [hplaceholder]
  exact ⟨'?', [], rfl, by decide, hmark.symm, by decide, by simp⟩

/-- Every dialect of the library that quotes identifiers is legible. -/
theorem legible_of_mem_builtins {d : Dialect} (hd : d ∈ builtins) (hq : d.quotes.isSome) :
    ∃ first close, d.Legible first close := by
  simp only [builtins, List.mem_cons, List.not_mem_nil, or_false] at hd
  rcases hd with rfl | rfl | rfl | rfl | rfl
  · simp [generic] at hq
  · exact ⟨'\x60', '\x60',
      legible_of_question rfl (by decide) (by decide) (fun _ => rfl) rfl rfl⟩
  · refine ⟨'"', '"', legible_of_heads rfl (by decide) (by decide) rfl rfl fun n => ?_⟩
    have htext : postgres.placeholder n = "$" ++ toString n := rfl
    rw [htext, String.toList_append]
    exact ⟨'$', _, rfl, by decide, by decide, by decide, not_break_of_toString n⟩
  · exact ⟨'"', '"', legible_of_question rfl (by decide) (by decide) (fun _ => rfl) rfl rfl⟩
  · refine ⟨'[', ']', legible_of_heads rfl (by decide) (by decide) rfl rfl fun n => ?_⟩
    have htext : sqlserver.placeholder n = "@p" ++ toString n := rfl
    rw [htext, String.toList_append]
    exact ⟨'@', _, rfl, by decide, by decide, by decide,
      List.forall_mem_cons.mpr ⟨by decide, not_break_of_toString n⟩⟩

/-- A dialect that leaves everything but its name to the standard is legible. -/
theorem legible_of_standard (name : String) : Legible { name := name } '"' '"' :=
  legible_of_question rfl (by decide) (by decide) (fun _ => rfl) rfl rfl

end Dialect

/-! ### Fragments in legible dialects -/

namespace Fragment

/-- The lexemes of the text in the dialect are those of the fragment, and each of the characters
may end it. -/
def Spelled (d : Dialect) (f : Fragment) (next : Char → Bool) : Prop :=
  ∀ bound, ∃ s, d.lexer.Covers (f.render d bound).toList s f.lexemes ∧ ∀ c, next c → s.EndsAt c

/-- The text in the dialect begins with one of the characters. -/
def Starts (d : Dialect) (f : Fragment) (p : Char → Bool) : Prop :=
  ∀ bound, ∃ c cs, (f.render d bound).toList = c :: cs ∧ p c

variable {d : Dialect} {f g : Fragment} {next next' : Char → Bool}

theorem Spelled.lex (h : f.Spelled d next) (bound : Nat) :
    d.lexer.lex (f.render d bound).toList = some f.lexemes := by
  obtain ⟨s, hs, -⟩ := h bound
  exact hs.lex

theorem Spelled.mono (h : f.Spelled d next) (hnext : ∀ c, next' c → next c) :
    f.Spelled d next' := by
  intro bound
  obtain ⟨s, hs, hends⟩ := h bound
  exact ⟨s, hs, fun c hc => hends c (hnext c hc)⟩

theorem Spelled.append (hf : f.Spelled d next) (hg : g.Spelled d next') (hs : g.Starts d next) :
    Spelled d (f ++ g) next' := by
  intro bound
  obtain ⟨s, hcovers, hends⟩ := hf bound
  obtain ⟨t, hcovers', hends'⟩ := hg (bound + (f.operands d).length)
  obtain ⟨c, cs, htext, hc⟩ := hs (bound + (f.operands d).length)
  refine ⟨t, ?_, hends'⟩
  rw [htext] at hcovers'
  rw [render_append, String.toList_append, htext, lexemes, List.flatMap_append]
  exact hcovers.append hcovers' (hends c hc)

/-- Behind a fragment that anything ends, anything may follow. -/
theorem Spelled.append_any (hf : f.Spelled d fun _ => true) (hg : g.Spelled d next) :
    Spelled d (f ++ g) next := by
  intro bound
  obtain ⟨s, hcovers, hends⟩ := hf bound
  obtain ⟨t, hcovers', hends'⟩ := hg (bound + (f.operands d).length)
  rw [render_append, String.toList_append, lexemes, List.flatMap_append]
  cases htext : (render d (bound + (f.operands d).length) g).toList with
  | nil =>
    rw [htext] at hcovers'
    obtain ⟨rfl, hlexemes⟩ := hcovers'
    have hnil : g.flatMap Token.lexemes = [] := (Option.some.inj hlexemes).symm
    rw [hnil, List.append_nil, List.append_nil]
    exact ⟨s, hcovers, fun c _ => hends c rfl⟩
  | cons c cs =>
    rw [htext] at hcovers'
    exact ⟨t, hcovers.append hcovers' (hends c rfl), hends'⟩

theorem starts_text {s : String} {c : Char} {cs : List Char} {p : Char → Bool} (f : Fragment)
    (hs : s.toList = c :: cs) (hc : p c) : Starts d (.text s :: f) p := by
  intro bound
  refine ⟨c, cs ++ (render d (bound + 0) f).toList, ?_, hc⟩
  rw [render, String.toList_append, Token.render, hs]
  rfl

theorem Starts.append (h : f.Starts d next) (g : Fragment) : Starts d (f ++ g) next := by
  intro bound
  obtain ⟨c, cs, htext, hc⟩ := h bound
  refine ⟨c, cs ++ (render d (bound + (f.operands d).length) g).toList, ?_, hc⟩
  rw [render_append, String.toList_append, htext]
  rfl

theorem spelled_token {t : Token} (h : ∀ bound, ∃ s,
    d.lexer.Covers (t.render d bound).toList s t.lexemes ∧ ∀ c, next c → s.EndsAt c) :
    Spelled d [t] next := by
  intro bound
  obtain ⟨s, hs, hends⟩ := h bound
  exact ⟨s, by simpa [render, lexemes] using hs, hends⟩

theorem endsAt_word {cs : List Char} {c : Char} (hc : isBreak c) : (State.word cs).EndsAt c := by
  simp [State.EndsAt, extend?, hc]

/-- A word that is no keyword ends in front of a blank, a parenthesis or a comma. -/
theorem spelled_word {t : Token} {x : Lexeme} (hlexemes : t.lexemes = [x])
    (htext : ∀ bound, d.IsName (t.render d bound) ∧ d.lexer.word (t.render d bound).toList = x) :
    Spelled d [t] isBreak := by
  apply spelled_token
  intro bound
  obtain ⟨hname, hx⟩ := htext bound
  have hcovers := hname.isWord.covers
  rw [hx, ← hlexemes] at hcovers
  exact ⟨_, hcovers, fun c hc => endsAt_word hc⟩

section Legible

variable {first close : Char} (hd : d.Legible first close)

include hd

theorem spelled_never : Spelled d [.never] isBreak := by
  refine spelled_word rfl fun bound => ⟨hd.never, ?_⟩
  simp [Dialect.lexer, Token.render, hd.never.not_keyword]

theorem spelled_always : Spelled d [.always] isBreak := by
  refine spelled_word rfl fun bound => ⟨hd.always, ?_⟩
  simp [Dialect.lexer, Token.render, hd.always.not_keyword, hd.never_ne_always.symm]

theorem spelled_operand (v : Value) : Spelled d [.operand v] isBreak := by
  refine spelled_word rfl fun bound => ⟨hd.placeholder (bound + 1), ?_⟩
  simp [Dialect.lexer, Token.render, (hd.placeholder (bound + 1)).not_keyword,
    hd.placeholder_ne_never, hd.placeholder_ne_always]

theorem starts_operand (v : Value) (f : Fragment) :
    Starts d (.operand v :: f) fun c => !isSign c := by
  have hsingle : Starts d [.operand v] fun c => !isSign c := by
    intro bound
    obtain ⟨hne, hstart, -⟩ := (hd.placeholder (bound + 1)).isWord
    obtain ⟨c, cs, htext⟩ := List.exists_cons_of_ne_nil hne
    rw [htext] at hstart
    refine ⟨c, cs, by simpa [render, Token.render] using htext, ?_⟩
    have hc := hstart c rfl
    cases hsign : isSign c with
    | false => simp [hsign]
    | true =>
      unfold start at hc
      split at hc
      · cases hc
      · split at hc
        · cases hc
        · cases hc
  exact hsingle.append f

theorem spelled_name (s : String) : Spelled d [.name s] Dialect.isBehindName := by
  refine spelled_token fun bound => ⟨.ending close s.toList, ?_, ?_⟩
  · exact covers_quote hd.quotes hd.quotes (Dialect.start_of_unfamiliar hd.first_unfamiliar) s
  · intro c hc
    have hne : c ≠ close := by
      rintro rfl
      rw [hd.close_not_behind] at hc
      contradiction
    simp [State.EndsAt, extend?, hne]

/-- A text of keywords and signs is read in the dialect as it is read without one. -/
theorem spelled_text {text : String} {s : State} (ls : List Lexeme)
    (hs : plain.Covers text.toList s ls)
    (hfamiliar : text.toList.all Dialect.isFamiliar ∧ .placeholder ∉ ls)
    (hends : ∀ c, next c → s.EndsAt c) : Spelled d [.text text] next := by
  refine spelled_token fun bound => ⟨s, ?_, hends⟩
  have hlexemes : (Token.text text).lexemes = ls := by
    rw [Token.lexemes, hs.lex]
    rfl
  rw [hlexemes]
  refine hs.of_plain ?_ ?_ hfamiliar.2
  · intro cs hcs
    cases hkeyword : Keyword.ofText? (String.ofList cs) with
    | some k => simp [Lexeme.ofWord, Dialect.lexer, hkeyword]
    | none => simp [Lexeme.ofWord, hkeyword] at hcs
  · intro c hc q hq
    have hc := List.all_eq_true.mp hfamiliar.1 c hc
    cases hd.quotes.symm.trans hq
    rintro rfl
    rw [hd.first_unfamiliar] at hc
    contradiction

/-- Behind a blank, a parenthesis or a comma anything may follow. -/
theorem spelled_idle {text : String} (ls : List Lexeme) (hs : plain.Covers text.toList .idle ls)
    (hfamiliar : text.toList.all Dialect.isFamiliar ∧ .placeholder ∉ ls) :
    Spelled d [.text text] fun _ => true :=
  spelled_text hd ls hs hfamiliar fun _ _ => rfl

end Legible

end Fragment

end QueryKit
