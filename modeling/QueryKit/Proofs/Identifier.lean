import QueryKit.Fragment

/-! Reading identifiers back. Between its quotes an identifier is read up to the first closing quote
that stands alone, and a path is read part by part. Whatever an identifier holds, what is read is the
identifier itself, and the reading stops where its text stops. -/

namespace QueryKit

/-- Identifiers stand between two quotes, neither of which is taken for a star or a dot. -/
structure Dialect.Quotes (d : Dialect) (start close : Char) : Prop where
  quotes : d.quotes = some (start, close)
  start_ne_star : start ≠ '*'
  close_ne_dot : close ≠ '.'

/-- Every dialect of the library that quotes identifiers has such quotes. -/
theorem Dialect.quotes_of_mem_builtins {d : Dialect} (hd : d ∈ builtins) (hq : d.quotes.isSome) :
    ∃ start close, d.Quotes start close := by
  simp only [builtins, List.mem_cons, List.not_mem_nil, or_false] at hd
  rcases hd with rfl | rfl | rfl | rfl | rfl
  · simp [generic] at hq
  · exact ⟨'\x60', '\x60', rfl, by decide, by decide⟩
  · exact ⟨'"', '"', rfl, by decide, by decide⟩
  · exact ⟨'"', '"', rfl, by decide, by decide⟩
  · exact ⟨'[', ']', rfl, by decide, by decide⟩

/-- So has every dialect that leaves the quotes to the standard. -/
theorem Dialect.quotes_of_standard {d : Dialect} (hq : d.quotes = some ('"', '"')) :
    d.Quotes '"' '"' :=
  ⟨hq, by decide, by decide⟩

namespace Identifier

/-- The characters up to a closing quote that stands alone, and what follows it. Two closing quotes
stand for one. -/
def readBody (close : Char) : List Char → Option (List Char × List Char)
  | [] => none
  | [c] => if c = close then some ([], []) else none
  | c :: c' :: cs =>
    if c = close then
      if c' = close then (readBody close cs).map fun r => (close :: r.1, r.2)
      else some ([], c' :: cs)
    else (readBody close (c' :: cs)).map fun r => (c :: r.1, r.2)

/-- The identifier at the front of a text, and what follows it. -/
def read (start close : Char) : List Char → Option (String × List Char)
  | [] => none
  | c :: cs =>
    if c = start then (readBody close cs).map fun r => (String.ofList r.1, r.2) else none

theorem length_readBody {close : Char} {cs : List Char} {r : List Char × List Char}
    (h : readBody close cs = some r) : r.2.length < cs.length := by
  fun_induction readBody close cs generalizing r with
  | case1 => contradiction
  | case2 => cases h; simp
  | case3 => contradiction
  | case4 cs ih =>
    obtain ⟨s, hs, rfl⟩ := Option.map_eq_some_iff.mp h
    have := ih hs
    simp only [List.length_cons]
    omega
  | case5 => cases h; simp
  | case6 c c' cs hc ih =>
    obtain ⟨s, hs, rfl⟩ := Option.map_eq_some_iff.mp h
    have := ih hs
    simp only [List.length_cons] at this ⊢
    omega

theorem length_read {start close : Char} {cs : List Char} {r : String × List Char}
    (h : read start close cs = some r) : r.2.length < cs.length := by
  unfold read at h
  split at h
  · contradiction
  · split at h
    · obtain ⟨s, hs, rfl⟩ := Option.map_eq_some_iff.mp h
      have := length_readBody hs
      simp only [List.length_cons]
      omega
    · contradiction

/-- The path at the front of a text, and what follows it. A star is the last part of its path. -/
def readPath (start close : Char) : List Char → Option (List String × List Char)
  | '*' :: rest => some (["*"], rest)
  | cs =>
    match _found : read start close cs with
    | none => none
    | some (part, '.' :: rest) =>
      (readPath start close rest).map fun r => (part :: r.1, r.2)
    | some (part, rest) => some ([part], rest)
termination_by cs => cs.length
decreasing_by
  have := length_read _found
  simp only [List.length_cons] at this
  omega

/-! ### Single identifiers -/

theorem readBody_cons_ne {close c : Char} (hc : c ≠ close) (cs : List Char) :
    readBody close (c :: cs) = (readBody close cs).map fun r => (c :: r.1, r.2) := by
  cases cs <;> simp [readBody, hc]

/-- A closing quote that no other follows ends the identifier. -/
theorem readBody_close {close : Char} {rest : List Char} (hr : rest.head? ≠ some close) :
    readBody close (close :: rest) = some ([], rest) := by
  cases rest with
  | nil => simp [readBody]
  | cons c cs =>
    have hc : c ≠ close := by simpa using hr
    simp [readBody, hc]

theorem readBody_doubled {close : Char} {rest : List Char} (hr : rest.head? ≠ some close)
    (cs : List Char) :
    readBody close (Dialect.doubled close cs ++ close :: rest) = some (cs, rest) := by
  induction cs with
  | nil => exact readBody_close hr
  | cons c cs ih =>
    by_cases hc : c = close
    · subst hc
      simpa [Dialect.doubled, readBody] using ih
    · simp only [Dialect.doubled, List.flatMap_cons, hc, if_false, List.cons_append,
        List.nil_append] at ih ⊢
      rw [readBody_cons_ne hc, ih]
      rfl

theorem toList_quote {d : Dialect} {start close : Char} (hd : d.quotes = some (start, close))
    (s : String) :
    (d.quote s).toList = start :: Dialect.doubled close s.toList ++ [close] := by
  simp [Dialect.quote, Dialect.quoteChars, hd]

theorem read_quote {d : Dialect} {start close : Char} (hd : d.Quotes start close) (s : String)
    (rest : List Char) (hr : rest.head? ≠ some close) :
    read start close ((d.quote s).toList ++ rest) = some (s, rest) := by
  rw [toList_quote hd.quotes]
  simp [read, readBody_doubled hr]

/-! ### Paths -/

theorem readPath_star (start close : Char) (rest : List Char) :
    readPath start close ('*' :: rest) = some (["*"], rest) := by
  rw [readPath]

theorem head_of_read {start close : Char} {cs : List Char} {r : String × List Char}
    (h : read start close cs = some r) : cs.head? = some start := by
  unfold read at h
  split at h
  · contradiction
  · split at h
    · simp_all
    · contradiction

theorem readPath_last {start close : Char} (hs : start ≠ '*') {cs rest : List Char} {part : String}
    (h : read start close cs = some (part, rest)) (hr : rest.head? ≠ some '.') :
    readPath start close cs = some ([part], rest) := by
  have hcs := head_of_read h
  unfold readPath
  split
  · exact absurd (Option.some.inj hcs).symm hs
  · split
    · simp_all
    · rename_i found
      rw [h] at found
      cases found
      simp at hr
    · simp_all

theorem readPath_dot {start close : Char} (hs : start ≠ '*') {cs rest : List Char} {part : String}
    (h : read start close cs = some (part, '.' :: rest)) :
    readPath start close cs =
      (readPath start close rest).map fun r => (part :: r.1, r.2) := by
  have hcs := head_of_read h
  rw [readPath.eq_def]
  split
  · exact absurd (Option.some.inj hcs).symm hs
  · split
    · simp_all
    · simp_all
    · simp_all

end Identifier

def Column.text (d : Dialect) (c : Column) : String :=
  c.fragment.render d 0

namespace Column

theorem operands_pathFragment (d : Dialect) (parts : List String) :
    Fragment.operands d (pathFragment parts) = [] := by
  fun_induction pathFragment parts with
  | case1 => rfl
  | case2 last => by_cases h : last = "*" <;> simp [h, Fragment.operands, Token.operands]
  | case3 part rest _ ih => simpa [Fragment.operands, Token.operands] using ih

@[simp] theorem operands_fragment (d : Dialect) (c : Column) :
    Fragment.operands d c.fragment = [] := by
  cases c with
  | path parts => exact operands_pathFragment d parts
  | verbatim expression => rfl

theorem text_path_singleton (d : Dialect) (last : String) :
    (path [last]).text d = if last = "*" then "*" else d.quote last := by
  by_cases h : last = "*" <;> simp [text, fragment, pathFragment, h, Fragment.render, Token.render]

theorem text_path_cons (d : Dialect) (part next : String) (rest : List String) :
    (path (part :: next :: rest)).text d =
      d.quote part ++ "." ++ (path (next :: rest)).text d := by
  simp [text, fragment, pathFragment, Fragment.render, Token.render, Token.operands,
    String.append_assoc]

end Column

namespace Identifier

theorem readPath_text {d : Dialect} {start close : Char} (hd : d.Quotes start close)
    {parts : List String} (hp : parts ≠ []) (rest : List Char) (hdot : rest.head? ≠ some '.')
    (hclose : rest.head? ≠ some close) :
    readPath start close (((Column.path parts).text d).toList ++ rest) = some (parts, rest) := by
  induction parts with
  | nil => contradiction
  | cons part more ih =>
    cases more with
    | nil =>
      rw [Column.text_path_singleton]
      split
      · subst part
        exact readPath_star start close rest
      · exact readPath_last hd.start_ne_star (read_quote hd part rest hclose) hdot
    | cons next more =>
      have hquote := read_quote hd part
        ('.' :: (((Column.path (next :: more)).text d).toList ++ rest))
        (by simpa using hd.close_ne_dot.symm)
      rw [Column.text_path_cons, String.toList_append, String.toList_append, List.append_assoc,
        List.append_assoc]
      exact (readPath_dot hd.start_ne_star hquote).trans (by rw [ih (by simp)]; rfl)

theorem readPath_text_end {d : Dialect} {start close : Char} (hd : d.Quotes start close)
    {parts : List String} (hp : parts ≠ []) :
    readPath start close ((Column.path parts).text d).toList = some (parts, []) := by
  simpa using readPath_text hd hp [] (by simp) (by simp)

theorem text_path_ne {d : Dialect} {start close : Char} (hd : d.Quotes start close)
    {parts : List String} (hp : parts ≠ []) : (Column.path parts).text d ≠ "" := by
  intro h
  have hread := readPath_text_end hd hp
  rw [h] at hread
  simp [readPath, read] at hread

theorem text_path_injective {d : Dialect} {start close : Char} (hd : d.Quotes start close)
    {ps qs : List String} (h : (Column.path ps).text d = (Column.path qs).text d) : ps = qs := by
  cases ps with
  | nil =>
    cases qs with
    | nil => rfl
    | cons q qs => exact absurd h.symm (text_path_ne hd (by simp))
  | cons p ps =>
    have hq : qs ≠ [] := by
      rintro rfl
      exact text_path_ne hd (by simp) h
    have hread := readPath_text_end hd (List.cons_ne_nil p ps)
    rw [h, readPath_text_end hd hq] at hread
    exact (Prod.mk.inj (Option.some.inj hread)).1.symm

/-- The parts of a name with dots between them are the name. -/
theorem intercalate_split (s : String) : String.intercalate "." (Text.split '.' s) = s := by
  rw [← String.toList_inj, String.toList_intercalate]
  simpa [Text.split, List.map_map, Function.comp_def] using Text.intercalate_splitAt '.' s.toList

theorem split_ne_nil (s : String) : Text.split '.' s ≠ [] := by
  simpa [Text.split] using Text.splitAt_ne_nil '.' s.toList

/-- No identifier ends its own quotes: what is written for an identifier or a path is read back as
that identifier or path and no further, different paths have different texts, and the parts of a
parsed name make up the name. This is so in the dialects of the library that quote identifiers, and
in those that leave the quotes to the standard. -/
theorem identifiers_read_back :
    (∀ d ∈ Dialect.builtins, d.quotes.isSome → ∃ start close, d.Quotes start close) ∧
    (∀ d : Dialect, d.quotes = some ('"', '"') → d.Quotes '"' '"') ∧
    ∀ (d : Dialect) (start close : Char), d.Quotes start close →
      (∀ (s : String) (rest : List Char), rest.head? ≠ some close →
        read start close ((d.quote s).toList ++ rest) = some (s, rest)) ∧
      (∀ (parts : List String) (rest : List Char), parts ≠ [] → rest.head? ≠ some '.' →
        rest.head? ≠ some close →
        readPath start close (((Column.path parts).text d).toList ++ rest) = some (parts, rest)) ∧
      (∀ ps qs : List String, (Column.path ps).text d = (Column.path qs).text d → ps = qs) ∧
      ∀ s : String, ∃ parts,
        readPath start close ((Column.parse s).text d).toList = some (parts, []) ∧
          String.intercalate "." parts = s := by
  refine ⟨fun d => Dialect.quotes_of_mem_builtins, fun d => Dialect.quotes_of_standard,
    fun d start close hd => ⟨fun s rest hr => read_quote hd s rest hr,
      fun parts rest hp hdot hclose => readPath_text hd hp rest hdot hclose,
      fun ps qs h => text_path_injective hd h, fun s => ?_⟩⟩
  exact ⟨Text.split '.' s, readPath_text_end hd (split_ne_nil s), intercalate_split s⟩

/-- An identifier with the closing bracket and a comment in it stays one identifier, and so does one
with quotes in it where the quotes are those of the standard. -/
theorem identifiers_read_back_brackets :
    Dialect.sqlserver.Quotes '[' ']' ∧
      read '[' ']' ((Dialect.sqlserver.quote "a]=1;--").toList ++ ['=']) =
        some ("a]=1;--", ['=']) ∧
      readPath '[' ']' (((Column.path ["a]", "b.c", "*"]).text .sqlserver).toList ++ [' ']) =
        some (["a]", "b.c", "*"], [' ']) ∧
      read '"' '"' ((Dialect.sqlite.quote "a\"b").toList ++ ['=']) = some ("a\"b", ['=']) := by
  have hd : Dialect.sqlserver.Quotes '[' ']' := ⟨rfl, by decide, by decide⟩
  obtain ⟨-, hstandard, hread⟩ := identifiers_read_back
  obtain ⟨hname, hpath, -⟩ := hread .sqlserver '[' ']' hd
  exact ⟨hd, hname "a]=1;--" ['='] (by decide),
    hpath ["a]", "b.c", "*"] [' '] (by decide) (by decide) (by decide),
    (hread .sqlite '"' '"' (hstandard .sqlite rfl)).1 "a\"b" ['='] (by decide)⟩

end Identifier

end QueryKit
