import QueryKit.Proofs.Identifier
import QueryKit.Proofs.Interpolation.Holes

/-! Identifiers in front of placeholders. In a fragment of fixed texts, identifiers and operands, the
scanner takes no notice of the fixed texts, but it reads into the identifiers: a text in front of a
placeholder passes exactly if the identifiers in it do, with their quotes, one behind the other. -/

namespace QueryKit

open Text (inLiteral isOrdinary isOrdinary_of_isDigit)

/-! ### Fixed texts -/

namespace Text

/-- The text has ordinary characters only, and no apostrophe. -/
def isFixed (s : String) : Bool :=
  s.toList.all fun c => isOrdinary c && c != '\''

def EndsNumbers (cs : List Char) : Prop :=
  ∀ c ∈ cs.head?, c.isDigit = false

/-- The text is fixed, and it begins with something else than a digit. -/
def isLink (s : String) : Bool :=
  isFixed s && s.toList.head?.any fun c => !c.isDigit

@[simp] theorem isFixed_append (s t : String) : isFixed (s ++ t) = (isFixed s && isFixed t) := by
  simp [isFixed]

@[simp] theorem isFixed_toString (n : UInt64) : isFixed (toString n) := by
  refine List.all_eq_true.mpr fun c hc => ?_
  have hdigit : c.isDigit := by
    rw [show toString n = toString n.toNat from rfl, Nat.toString_eq_ofList_toDigits,
      String.toList_ofList] at hc
    exact Nat.isDigit_of_mem_toDigits (by decide) (by decide) hc
  have hne : c ≠ '\'' := by
    rintro rfl
    contradiction
  simp [isOrdinary_of_isDigit hdigit, hne]

theorem EndsNumbers.append {cs ds : List Char} (hcs : EndsNumbers cs) (hds : EndsNumbers ds) :
    EndsNumbers (cs ++ ds) := by
  cases cs with
  | nil => exact hds
  | cons c cs => exact hcs

theorem endsNumbers_link_append {s : String} (hs : isLink s) (cs : List Char) :
    EndsNumbers (s.toList ++ cs) := by
  obtain ⟨-, hs⟩ := Bool.and_eq_true_iff.mp hs
  obtain ⟨c, hc, hdigit⟩ := (Option.any_eq_true _ _).mp hs
  obtain ⟨more, hmore⟩ := List.head?_eq_some_iff.mp hc
  simpa [EndsNumbers, hmore] using hdigit

theorem endsNumbers_link {s : String} (hs : isLink s) : EndsNumbers s.toList := by
  simpa using endsNumbers_link_append hs []

/-- The text is fixed and may stand behind a placeholder. -/
structure IsTail (s : String) : Prop where
  fixed : isFixed s
  endsNumbers : EndsNumbers s.toList

theorem isTail_empty : IsTail "" :=
  ⟨rfl, nofun⟩

theorem IsTail.append {s t : String} (hs : IsTail s) (ht : IsTail t) : IsTail (s ++ t) := by
  refine ⟨by simp [hs.fixed, ht.fixed], ?_⟩
  rw [String.toList_append]
  exact hs.endsNumbers.append ht.endsNumbers

theorem isLink_append {s t : String} (hs : isLink s) (ht : isFixed t) : isLink (s ++ t) := by
  obtain ⟨hfixed, hhead⟩ := Bool.and_eq_true_iff.mp hs
  obtain ⟨c, hc, hdigit⟩ := (Option.any_eq_true _ _).mp hhead
  simp [isLink, hfixed, ht, hc, List.head?_append, hdigit]

theorem IsTail.of_isLink {s : String} (hs : isLink s) : IsTail s :=
  ⟨(Bool.and_eq_true_iff.mp hs).1, endsNumbers_link hs⟩

theorem isTail_limit (n : UInt64) : IsTail s!" LIMIT {n}" :=
  .of_isLink (isLink_append (s := " LIMIT ") (by decide) (isFixed_toString n))

theorem isTail_offset (n : UInt64) : IsTail s!" OFFSET {n}" :=
  .of_isLink (isLink_append (s := " OFFSET ") (by decide) (isFixed_toString n))

theorem isTail_windowWithLimit {unlimited : String} (hu : isFixed unlimited)
    (limit offset : Option UInt64) : IsTail (Dialect.windowWithLimit unlimited limit offset) := by
  have hboth : ∀ (l : String) (o : UInt64), isFixed l → IsTail s!" LIMIT {l} OFFSET {o}" := by
    intro l o hl
    have hlimit : isLink (" LIMIT " ++ l) := isLink_append (by decide) hl
    have hoffset : isLink (" LIMIT " ++ l ++ " OFFSET ") := isLink_append hlimit (by decide)
    exact .of_isLink (isLink_append hoffset (isFixed_toString o))
  cases limit <;> cases offset
  · exact isTail_empty
  · exact hboth _ _ hu
  · exact isTail_limit _
  · exact hboth _ _ (isFixed_toString _)

theorem isTail_windowByFetch (limit offset : Option UInt64) :
    IsTail (Dialect.windowByFetch limit offset) := by
  have hrows : ∀ o : UInt64, isLink s!" OFFSET {o} ROWS" := fun o =>
    isLink_append (isLink_append (s := " OFFSET ") (by decide) (isFixed_toString o)) (by decide)
  have hfetch : ∀ o l : UInt64, IsTail s!" OFFSET {o} ROWS FETCH NEXT {l} ROWS ONLY" := by
    intro o l
    have hoffset : isLink (" OFFSET " ++ toString o ++ " ROWS FETCH NEXT ") :=
      isLink_append (isLink_append (by decide) (isFixed_toString o)) (by decide)
    exact .of_isLink (isLink_append (isLink_append hoffset (isFixed_toString l)) (by decide))
  cases limit with
  | some l => exact hfetch _ l
  | none =>
    cases offset with
    | some o => exact .of_isLink (hrows o)
    | none => exact isTail_empty

end Text

open Text (EndsNumbers IsTail isFixed isLink)

namespace Dialect

/-- Placeholders have a mark, identifiers have quotes of which the closing one stands in no
placeholder, and all other texts are fixed. -/
structure Quoting (d : Dialect) (mark start close : Char) : Prop extends d.Marked mark where
  quotes : d.quotes = some (start, close)
  start_isDigit : start.isDigit = false
  close_isDigit : close.isDigit = false
  close_notMem : ∀ number, close ∉ (d.placeholder number).toList
  never : isFixed d.never
  always : isFixed d.always
  window : ∀ limit offset, IsTail (d.window limit offset)

theorem quoting_mysql : mysql.Quoting '?' '\x60' '\x60' where
  toMarked := marked_of_question fun _ => rfl
  quotes := rfl
  start_isDigit := rfl
  close_isDigit := rfl
  close_notMem _ := by simp [mysql]
  never := by decide
  always := by decide
  window := Text.isTail_windowWithLimit (by decide)

theorem quoting_sqlite : sqlite.Quoting '?' '"' '"' where
  toMarked := marked_of_question fun _ => rfl
  quotes := rfl
  start_isDigit := rfl
  close_isDigit := rfl
  close_notMem _ := by simp [sqlite]
  never := by decide
  always := by decide
  window := Text.isTail_windowWithLimit (by decide)

theorem quoting_postgres : postgres.Quoting '$' '"' '"' where
  toMarked := marked_postgres
  quotes := rfl
  start_isDigit := rfl
  close_isDigit := rfl
  close_notMem number := by
    show '"' ∉ ("$" ++ toString number).toList
    rw [String.toList_append, List.mem_append, not_or]
    exact ⟨by decide, notMem_of_ordinary (by decide) fun _ => isOrdinary_of_mem_toString⟩
  never := by decide
  always := by decide
  window limit offset := by
    cases limit <;> cases offset
    · exact Text.isTail_empty
    · exact Text.isTail_empty.append (Text.isTail_offset _)
    · exact (Text.isTail_limit _).append Text.isTail_empty
    · exact (Text.isTail_limit _).append (Text.isTail_offset _)

theorem quoting_sqlserver : sqlserver.Quoting '@' '[' ']' where
  toMarked := marked_sqlserver
  quotes := rfl
  start_isDigit := rfl
  close_isDigit := rfl
  close_notMem number := by
    show ']' ∉ ("@p" ++ toString number).toList
    rw [String.toList_append, List.mem_append, not_or]
    exact ⟨by decide, notMem_of_ordinary (by decide) fun _ => isOrdinary_of_mem_toString⟩
  never := by decide
  always := by decide
  window := Text.isTail_windowByFetch

theorem quoting_of_mem_builtins {d : Dialect} (hd : d ∈ builtins) (hq : d.quotes.isSome) :
    ∃ mark start close, d.Quoting mark start close := by
  simp only [builtins, List.mem_cons, List.not_mem_nil, or_false] at hd
  rcases hd with rfl | rfl | rfl | rfl | rfl
  · simp [generic] at hq
  · exact ⟨_, _, _, quoting_mysql⟩
  · exact ⟨_, _, _, quoting_postgres⟩
  · exact ⟨_, _, _, quoting_sqlite⟩
  · exact ⟨_, _, _, quoting_sqlserver⟩

/-- Several identifiers with their quotes, one behind the other. -/
def quoteAll (d : Dialect) (names : List String) : List Char :=
  names.flatMap fun name => (d.quote name).toList

/-- No placeholder begins in the text and ends behind it, whatever follows. -/
def Severs (d : Dialect) (cs : List Char) : Prop :=
  ∀ number inside more, d.Misleads number inside (cs ++ more) ↔
    d.Misleads number inside cs ∨ d.Misleads number (inLiteral inside cs) more

/-- To the scanner the text is as good as the identifiers alone. -/
structure Shows (d : Dialect) (cs : List Char) (names : List String) : Prop where
  severs : d.Severs cs
  inLiteral : ∀ inside, inLiteral inside cs = Text.inLiteral inside (d.quoteAll names)
  misleads : ∀ number inside,
    d.Misleads number inside cs ↔ d.Misleads number inside (d.quoteAll names)

variable {d : Dialect} {mark start close : Char} {number : Nat} {inside : Bool}
  {cs ds : List Char} {names names' : List String}

theorem Shows.passes_iff (h : d.Shows cs names) :
    d.Passes number cs ↔ d.Passes number (d.quoteAll names) := by
  rw [Dialect.passes_iff, Dialect.passes_iff, h.inLiteral, h.misleads]

/-! ### Texts that sever -/

theorem Severs.append (hcs : d.Severs cs) (hds : d.Severs ds) : d.Severs (cs ++ ds) := by
  intro number inside more
  rw [List.append_assoc, hcs, hds, hcs, Text.inLiteral_append, or_assoc]

theorem Marked.severs_nil (hd : d.Marked mark) : d.Severs [] := by
  intro number inside more
  simp [hd.not_misleads_nil, inLiteral]

theorem Marked.misleads_cons_of_ne (hd : d.Marked mark) {c : Char} (hc : c ≠ mark) :
    d.Misleads number inside (c :: cs) ↔ d.Misleads number (inLiteral inside [c]) cs := by
  rw [misleads_cons_iff]
  exact or_iff_right fun h => hc (hd.head_of_leads h.2)

theorem Marked.not_misleads_of_notMem (hd : d.Marked mark) (hcs : mark ∉ cs) :
    ¬d.Misleads number inside cs := by
  induction cs generalizing inside with
  | nil => exact hd.not_misleads_nil inside
  | cons c cs ih =>
    have hc := List.ne_of_not_mem_cons hcs
    have hrest := List.not_mem_of_not_mem_cons hcs
    rw [hd.misleads_cons_of_ne hc.symm]
    exact ih hrest

theorem Marked.severs_of_notMem (hd : d.Marked mark) (hcs : mark ∉ cs) : d.Severs cs := by
  induction cs with
  | nil => exact hd.severs_nil
  | cons c cs ih =>
    have hc := List.ne_of_not_mem_cons hcs
    have hrest := List.not_mem_of_not_mem_cons hcs
    intro number inside more
    rw [List.cons_append, hd.misleads_cons_of_ne hc.symm, hd.misleads_cons_of_ne hc.symm,
      ih hrest]
    rfl

section Quoting

variable (hd : d.Quoting mark start close)
include hd

theorem Quoting.close_ne_mark : close ≠ mark := by
  obtain ⟨digits, hp, -⟩ := hd.placeholder 0
  have hclose := hd.close_notMem 0
  rw [hp] at hclose
  exact List.ne_of_not_mem_cons hclose

theorem Quoting.leads_close_iff (number : Nat) (hcs : cs ≠ []) (more : List Char) :
    d.Leads number (cs ++ close :: more) ↔ d.Leads number cs := by
  refine hd.toMarked.leads_append_iff hd.close_isDigit (fun digits hp => ?_) hcs more
  have hclose := hd.close_notMem number
  rw [hp] at hclose
  exact List.not_mem_of_not_mem_cons hclose

/-- What ends in a closing quote severs, whatever stands in front of the quote. -/
theorem Quoting.severs_close (cs : List Char) : d.Severs (cs ++ [close]) := by
  induction cs with
  | nil => exact hd.toMarked.severs_of_notMem (by simpa using hd.close_ne_mark.symm)
  | cons c cs ih =>
    intro number inside more
    -- A placeholder at the front ends before the quote, so that it does not depend on what follows.
    have hleads : d.Leads number (c :: (cs ++ [close] ++ more)) ↔
        d.Leads number (c :: (cs ++ [close])) := by
      have hlong := hd.leads_close_iff number (List.cons_ne_nil c cs) more
      have hshort := hd.leads_close_iff number (List.cons_ne_nil c cs) []
      simpa using hlong.trans hshort.symm
    rw [List.cons_append, List.cons_append, misleads_cons_iff, misleads_cons_iff, hleads, ih,
      or_assoc]
    rfl

theorem Quoting.severs_quote (s : String) : d.Severs (d.quote s).toList := by
  rw [Identifier.toList_quote hd.quotes]
  exact hd.severs_close (start :: doubled close s.toList)

theorem Quoting.severs_quoteAll (names : List String) : d.Severs (d.quoteAll names) := by
  induction names with
  | nil => exact hd.toMarked.severs_nil
  | cons name names ih => exact (hd.severs_quote name).append ih

/-! ### Texts and the identifiers in them -/

theorem Quoting.shows_append (h : d.Shows cs names) (h' : d.Shows ds names') :
    d.Shows (cs ++ ds) (names ++ names') := by
  have hall : d.quoteAll (names ++ names') = d.quoteAll names ++ d.quoteAll names' :=
    List.flatMap_append
  refine ⟨h.severs.append h'.severs, fun inside => ?_, fun number inside => ?_⟩
  · rw [hall, Text.inLiteral_append, Text.inLiteral_append, h.inLiteral, h'.inLiteral]
  · rw [hall, h.severs, hd.severs_quoteAll names, h.misleads, h'.misleads, h.inLiteral]

theorem Quoting.shows_quote (s : String) : d.Shows (d.quote s).toList [s] := by
  have hall : d.quoteAll [s] = (d.quote s).toList := List.flatMap_singleton ..
  exact ⟨hd.severs_quote s, fun _ => by rw [hall], fun _ _ => by rw [hall]⟩

theorem Quoting.shows_fixed {s : String} (hs : isFixed s) : d.Shows s.toList [] := by
  simp only [isFixed, List.all_eq_true, Bool.and_eq_true, bne_iff_ne] at hs
  have hmark : mark ∉ s.toList := notMem_of_ordinary hd.unusual fun c hc => (hs c hc).1
  have hapostrophe : '\'' ∉ s.toList := fun hmem => (hs _ hmem).2 rfl
  refine ⟨hd.toMarked.severs_of_notMem hmark, fun inside => ?_, fun number inside => ?_⟩
  · exact Text.inLiteral_of_notMem hapostrophe
  · exact iff_of_false (hd.toMarked.not_misleads_of_notMem hmark)
      (hd.toMarked.not_misleads_nil inside)

end Quoting

end Dialect

/-! ### Texts in front of holes -/

namespace Holed

def leads : Holed → List String
  | plain _ => []
  | hole text _ rest => text :: rest.leads

/-- No text behind a hole begins with a digit. -/
def Settled : Holed → Prop
  | plain _ => True
  | hole _ _ rest => EndsNumbers rest.front.toList ∧ rest.Settled

variable {d : Dialect} {h : Holed}

theorem front_plain_append (text : String) (h : Holed) :
    ((plain text).append h).front = text ++ h.front := by
  cases h <;> rfl

theorem leads_plain_append (text : String) (h : Holed) :
    ((plain text).append h).leads = h.leads.modifyHead (text ++ ·) := by
  cases h <;> rfl

theorem settled_plain_append_iff {text : String} :
    ((plain text).append h).Settled ↔ h.Settled := by
  cases h <;> exact Iff.rfl

theorem passes_iff_of_settled (hs : h.Settled) (bound : Nat) :
    h.Passes d bound ↔ ∀ x ∈ h.leads.zipIdx (bound + 1), d.Passes x.2 x.1.toList := by
  induction h generalizing bound with
  | plain text => simp [Passes, leads]
  | hole text v rest ih =>
    obtain ⟨hdigit, hrest⟩ := hs
    have hruns : ¬d.RunsOn (bound + 1) rest.front.toList := by
      rintro ⟨-, c, hc, hfound⟩
      rw [hdigit c hc] at hfound
      contradiction
    rw [Passes, ih hrest, leads, List.zipIdx_cons, List.forall_mem_cons]
    simp [hruns]

end Holed

/-! ### Plain fragments -/

def Token.isFixed : Token → Bool
  | text s => Text.isFixed s
  | marker _ => false
  | _ => true

def Token.binds : Token → Bool
  | operand _ | page _ => true
  | _ => false

namespace Fragment

/-- The text of the fragment does not begin with a digit. -/
def opens : Fragment → Bool
  | [] | .name _ :: _ | .operand _ :: _ | .page _ :: _ => true
  | .text s :: _ => isLink s
  | .window _ _ :: f => opens f
  | .marker _ :: _ | .never :: _ | .always :: _ => false

/-- The fragment has no texts but fixed ones, and no digit stands behind a placeholder. -/
def IsPlain : Fragment → Prop
  | [] => True
  | t :: f => t.isFixed ∧ (t.binds → opens f) ∧ IsPlain f

/-- The fragment is plain and may stand behind a placeholder. -/
structure IsClause (f : Fragment) : Prop where
  plain : f.IsPlain
  opens : f.opens

/-- The identifiers in front of each placeholder, from the placeholder before it on. -/
def stretches : Fragment → List (List String)
  | [] => []
  | .name s :: f => (stretches f).modifyHead ([s] ++ ·)
  | .operand _ :: f => [] :: stretches f
  | .page _ :: f => [] :: [] :: stretches f
  | _ :: f => stretches f

variable {d : Dialect} {mark start close : Char} {f : Fragment}

theorem holed_operand_cons (d : Dialect) (v : Value) (f : Fragment) :
    holed d (.operand v :: f) = .hole "" v (holed d f) := by
  simp [holed, Token.holed, Holed.append]

theorem holed_page_cons (d : Dialect) (p : Page) (f : Fragment) :
    holed d (.page p :: f) =
      if d.offsetFetch then
        .hole " OFFSET " (.ofCount p.offset) (.hole " ROWS FETCH NEXT " (.ofCount p.limit)
          ((Holed.plain " ROWS ONLY").append (holed d f)))
      else .hole " LIMIT " (.ofCount p.limit) (.hole " OFFSET " (.ofCount p.offset) (holed d f)) := by
  by_cases h : d.offsetFetch <;> simp [holed, Token.holed, Holed.append, h]

section Stretches

variable (hd : d.Quoting mark start close)
include hd

theorem shows_behind {text : String} {names : List String} {leads : List String}
    {stretches : List (List String)} (h : d.Shows text.toList names)
    (hrest : List.Forall₂ (fun lead names => d.Shows lead.toList names) leads stretches) :
    List.Forall₂ (fun lead names => d.Shows lead.toList names)
      (leads.modifyHead (text ++ ·)) (stretches.modifyHead (names ++ ·)) := by
  cases hrest with
  | nil => exact .nil
  | cons hfirst hmore =>
    refine .cons ?_ hmore
    rw [String.toList_append]
    exact hd.shows_append h hfirst

/-- In front of every placeholder the scanner sees the identifiers that stand there. -/
theorem shows_leads (hf : IsPlain f) :
    List.Forall₂ (fun lead names => d.Shows lead.toList names) (holed d f).leads (stretches f) := by
  induction f with
  | nil => exact .nil
  | cons t f ih =>
    obtain ⟨ht, -, hf⟩ := hf
    have hrest := ih hf
    -- All but identifiers and placeholders is a fixed text, of which the scanner sees nothing.
    have hfixed : ∀ text, isFixed text →
        List.Forall₂ (fun lead names => d.Shows lead.toList names)
          ((Holed.plain text).append (holed d f)).leads (stretches f) := by
      intro text htext
      have hnone : (stretches f).modifyHead (([] : List String) ++ ·) = stretches f := by
        cases stretches f <;> rfl
      rw [Holed.leads_plain_append, ← hnone]
      exact shows_behind hd (hd.shows_fixed htext) hrest
    cases t with
    | text s => exact hfixed s ht
    | name s =>
      show List.Forall₂ _ ((Holed.plain (d.quote s)).append (holed d f)).leads _
      rw [Holed.leads_plain_append]
      exact shows_behind hd (hd.shows_quote s) hrest
    | operand v =>
      rw [holed_operand_cons]
      exact .cons (hd.shows_fixed (by decide)) hrest
    | marker number => contradiction
    | never => exact hfixed _ hd.never
    | always => exact hfixed _ hd.always
    | window limit offset => exact hfixed _ (hd.window limit offset).fixed
    | page p =>
      -- The second of the two placeholders has no identifiers in front of it.
      rw [holed_page_cons]
      split
      · refine .cons (hd.shows_fixed (by decide)) (.cons (hd.shows_fixed (by decide)) ?_)
        exact hfixed " ROWS ONLY" (by decide)
      · exact .cons (hd.shows_fixed (by decide)) (.cons (hd.shows_fixed (by decide)) hrest)

theorem endsNumbers_front (hf : opens f) : EndsNumbers (holed d f).front.toList := by
  induction f with
  | nil => exact nofun
  | cons t f ih =>
    cases t with
    | text s =>
      show EndsNumbers ((Holed.plain s).append (holed d f)).front.toList
      rw [Holed.front_plain_append, String.toList_append]
      exact Text.endsNumbers_link_append hf _
    | name s =>
      show EndsNumbers ((Holed.plain (d.quote s)).append (holed d f)).front.toList
      rw [Holed.front_plain_append, String.toList_append, Identifier.toList_quote hd.quotes]
      simpa [EndsNumbers] using hd.start_isDigit
    | operand v =>
      rw [holed_operand_cons]
      exact nofun
    | marker | never | always => contradiction
    | window limit offset =>
      -- The window may be empty, and then the text begins with what stands behind it.
      show EndsNumbers ((Holed.plain (d.window limit offset)).append (holed d f)).front.toList
      rw [Holed.front_plain_append, String.toList_append]
      exact (hd.window limit offset).endsNumbers.append (ih hf)
    | page p =>
      rw [holed_page_cons]
      split
      · exact Text.endsNumbers_link (s := " OFFSET ") (by decide)
      · exact Text.endsNumbers_link (s := " LIMIT ") (by decide)

theorem settled_holed (hf : IsPlain f) : (holed d f).Settled := by
  induction f with
  | nil => trivial
  | cons t f ih =>
    obtain ⟨-, hopens, hf⟩ := hf
    have hrest := ih hf
    cases t with
    | operand v =>
      rw [holed_operand_cons]
      exact ⟨endsNumbers_front hd (hopens rfl), hrest⟩
    | page p =>
      rw [holed_page_cons]
      split
      · refine ⟨Text.endsNumbers_link (s := " ROWS FETCH NEXT ") (by decide), ?_,
          Holed.settled_plain_append_iff.mpr hrest⟩
        rw [Holed.front_plain_append, String.toList_append]
        exact Text.endsNumbers_link_append (by decide) _
      · exact ⟨Text.endsNumbers_link (s := " OFFSET ") (by decide),
          endsNumbers_front hd (hopens rfl), hrest⟩
    | _ => exact Holed.settled_plain_append_iff.mpr hrest

/-- A plain fragment is interpolated hole by hole exactly if the identifiers in front of every
placeholder pass for it. -/
theorem interpolate_iff (hf : IsPlain f) :
    (Statement.ofFragment d f).interpolate = (holed d f).inlined ↔
      ∀ x ∈ (stretches f).zipIdx 1, d.Passes x.2 (d.quoteAll x.1) := by
  rw [Statement.ofFragment, ← fill_holed, ← values_holed, Holed.interpolate_fill_iff hd.toMarked,
    Holed.passes_iff_of_settled (settled_holed hd hf), Nat.zero_add]
  have hshows := shows_leads hd hf
  generalize (holed d f).leads = leads, stretches f = stretches, 1 = number at hshows ⊢
  induction hshows generalizing number with
  | nil => simp
  | cons hfirst _ ih =>
    simp only [List.zipIdx_cons, List.forall_mem_cons]
    exact and_congr hfirst.passes_iff (ih _)

end Stretches

end Fragment

end QueryKit
