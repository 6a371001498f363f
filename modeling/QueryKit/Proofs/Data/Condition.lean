import QueryKit.Proofs.Operand.Condition

/-! Conditions without their data. In place of every bound value stands the same one; the text of
the condition, the number of its operands and the outcome of its check stay what they are. -/

namespace QueryKit

/-- The token with nothing in particular bound. -/
def Token.withoutData : Token → Token
  | operand _ => operand .null
  | page _ => page ⟨1, 1⟩
  | t => t

def Fragment.withoutData (f : Fragment) : Fragment :=
  f.map Token.withoutData

namespace Token

variable (d : Dialect) (bound : Nat) (t : Token)

@[simp] theorem isVoid_withoutData : t.withoutData.isVoid = t.isVoid := by
  cases t <;> rfl

@[simp] theorem render_withoutData : t.withoutData.render d bound = t.render d bound := by
  cases t <;> rfl

@[simp] theorem length_operands_withoutData :
    (t.withoutData.operands d).length = (t.operands d).length := by
  cases t with
  | page p => by_cases h : d.offsetFetch <;> simp [withoutData, operands, h]
  | _ => rfl

theorem withoutData_of_operands_nil (h : t.operands d = []) : t.withoutData = t := by
  cases t with
  | operand v => contradiction
  | page p => by_cases hpaging : d.offsetFetch <;> simp [operands, hpaging] at h
  | _ => rfl

end Token

namespace Fragment

variable (d : Dialect) (f g : Fragment) (fs : List Fragment)

@[simp] theorem withoutData_append : withoutData (f ++ g) = f.withoutData ++ g.withoutData :=
  List.map_append

@[simp] theorem withoutData_text_cons (s : String) :
    withoutData (.text s :: f) = .text s :: f.withoutData :=
  rfl

@[simp] theorem withoutData_nil : withoutData [] = [] :=
  rfl

theorem withoutData_of_operands_nil {d : Dialect} {f : Fragment} (h : f.operands d = []) :
    f.withoutData = f := by
  rw [operands, List.flatMap_eq_nil_iff] at h
  rw [withoutData, List.map_congr_left fun t ht => t.withoutData_of_operands_nil d (h t ht),
    List.map_id']

@[simp] theorem isVoid_withoutData : f.withoutData.isVoid = f.isVoid := by
  simp [isVoid, withoutData, List.all_map, Function.comp_def]

@[simp] theorem length_operands_withoutData :
    (f.withoutData.operands d).length = (f.operands d).length := by
  simp [operands, withoutData, List.length_flatMap, Function.comp_def]

@[simp] theorem render_withoutData (bound : Nat) :
    f.withoutData.render d bound = f.render d bound := by
  induction f generalizing bound with
  | nil => rfl
  | cons t ts ih =>
    have hrest := ih (bound + (t.operands d).length)
    simp only [withoutData] at hrest
    simp only [withoutData, List.map_cons, render, Token.render_withoutData,
      Token.length_operands_withoutData, hrest]

theorem withoutData_separated (separator : String) :
    (separated separator fs).withoutData = separated separator (fs.map withoutData) := by
  induction fs with
  | nil => rfl
  | cons f fs ih =>
    cases fs with
    | nil => simp [separated]
    | cons g gs =>
      simp only [separated, List.intercalate_cons_cons, List.map_cons, withoutData_append] at ih ⊢
      rw [ih]
      rfl

theorem withoutData_grouped (junction : Junction) :
    (grouped junction fs).withoutData = grouped junction (fs.map withoutData) := by
  have hkept : (fs.map withoutData).filter (fun f => !f.isVoid) =
      (fs.filter fun f => !f.isVoid).map withoutData := by
    simp [List.filter_map, Function.comp_def]
  simp only [grouped, hkept]
  generalize fs.filter (fun f => !f.isVoid) = kept
  match kept with
  | [] => rfl
  | [part] => rfl
  | f :: g :: gs => simp [withoutData_separated]

theorem withoutData_negated : (negated f).withoutData = negated f.withoutData := by
  by_cases h : f.isVoid <;> simp [negated, h]

theorem withoutData_clause (keyword : String) :
    (clause keyword f).withoutData = clause keyword f.withoutData := by
  by_cases h : f.isVoid <;> simp [clause, h]

theorem withoutData_ofValues (values : List Value) :
    (ofValues values).withoutData = ofValues (values.map fun _ => .null) := by
  simp only [ofValues, withoutData_separated, List.map_map]
  rfl

theorem withoutData_ofTemplate (pieces : List (List Char)) (values : List Value) :
    (ofTemplate pieces values).withoutData = ofTemplate pieces (values.map fun _ => .null) := by
  fun_induction ofTemplate pieces values with
  | case1 => rfl
  | case2 => rfl
  | case3 piece pieces hmore ih => simpa [ofTemplate] using ih
  | case4 piece pieces hmore v vs ih =>
    simp only [withoutData, List.map_cons, ofTemplate] at ih ⊢
    rw [ih]
    rfl

end Fragment

/-! ### Conditions -/

def Piece.withoutData : Piece → Piece
  | whole f => whole f.withoutData
  | parts junction fragments => parts junction (fragments.map Fragment.withoutData)

namespace Piece

variable (p : Piece)

theorem withoutData_close : p.withoutData.close = p.close.withoutData := by
  cases p with
  | whole f => rfl
  | parts junction fragments => exact (Fragment.withoutData_grouped fragments junction).symm

theorem withoutData_under (junction : Junction) :
    p.withoutData.under junction = (p.under junction).map Fragment.withoutData := by
  cases p with
  | whole f => rfl
  | parts own fragments =>
    by_cases h : own = junction
    · simp [withoutData, under, h]
    · simp [withoutData, under, h, Fragment.withoutData_grouped]

end Piece

namespace Condition

mutual

/-- The condition with nothing in particular compared. -/
def withoutData : Condition → Condition
  | compare column op _ => compare column op .null
  | member column values negated => member column (values.map fun _ => .null) negated
  | between column _ _ negated => between column .null .null negated
  | template text values => template text (values.map fun _ => .null)
  | group junction parts => group junction (allWithoutData parts)
  | negation part => negation (withoutData part)
  | c => c

def allWithoutData : List Condition → List Condition
  | [] => []
  | c :: cs => withoutData c :: allWithoutData cs

end

mutual

/-- The data of a condition in reading order. -/
def data : Condition → List Value
  | compare _ _ v => [v]
  | compareColumns _ _ _ | missing _ _ | verbatim _ => []
  | member _ values _ | template _ values => values
  | between _ low high _ => [low, high]
  | group _ parts => allData parts
  | negation part => data part

def allData : List Condition → List Value
  | [] => []
  | c :: cs => data c ++ allData cs

end

theorem withoutData_column (column : Column) :
    Fragment.withoutData column.fragment = column.fragment :=
  Fragment.withoutData_of_operands_nil (column.operands_fragment .generic)

mutual

/-- No value decides how a condition is written. -/
theorem piece_withoutData : (c : Condition) → c.withoutData.piece = c.piece.withoutData
  | compare column op v => by
    simp only [withoutData, piece, Piece.withoutData, Fragment.withoutData_append,
      withoutData_column]
    rfl
  | compareColumns left op right => by
    simp [withoutData, piece, Piece.withoutData, withoutData_column]
  | missing column negated => by
    simp [withoutData, piece, Piece.withoutData, withoutData_column]
  | member _ [] negated => by cases negated <;> rfl
  | member column (v :: vs) negated => by
    have hvalues := Fragment.withoutData_ofValues (v :: vs)
    simp only [List.map_cons] at hvalues
    simp [withoutData, piece, Piece.withoutData, withoutData_column, hvalues]
  | between column low high negated => by
    simp only [withoutData, piece, Piece.withoutData, Fragment.withoutData_append,
      withoutData_column]
    rfl
  -- Parts that write nothing are not dropped here but where the piece is closed, by `isVoid`, which
  -- no value changes.
  | group junction parts => by
    rw [withoutData, piece, pieces_withoutData junction parts]
    rfl
  | negation part => by
    rw [withoutData, piece, piece_withoutData part, Piece.withoutData_close, piece,
      Piece.withoutData, Fragment.withoutData_negated]
  | verbatim text => rfl
  | template text values => by
    simp only [withoutData, piece, Piece.withoutData, Fragment.withoutData_ofTemplate]

theorem pieces_withoutData (junction : Junction) : (cs : List Condition) →
    pieces junction (allWithoutData cs) = (pieces junction cs).map Fragment.withoutData
  | [] => rfl
  | c :: cs => by
    rw [allWithoutData, pieces, piece_withoutData c, Piece.withoutData_under,
      pieces_withoutData junction cs, pieces, List.map_append]

end

theorem fragment_withoutData (c : Condition) :
    c.withoutData.fragment = c.fragment.withoutData := by
  rw [fragment, piece_withoutData, Piece.withoutData_close, fragment]

theorem fragmentAll_withoutData (cs : List Condition) :
    fragmentAll (allWithoutData cs) = (fragmentAll cs).withoutData := by
  rw [fragmentAll, pieces_withoutData, fragmentAll, Fragment.withoutData_grouped]

theorem checkTemplate_withoutData (text : String) (values : List Value) :
    checkTemplate text (values.map fun _ => .null) = checkTemplate text values := by
  simp [checkTemplate]

mutual

/-- No value decides whether a condition passes its check. -/
theorem check_withoutData : (c : Condition) → c.withoutData.check = c.check
  | compare _ _ _ | compareColumns _ _ _ | missing _ _ | member _ _ _ | between _ _ _ _
  | verbatim _ => rfl
  | template text values => checkTemplate_withoutData text values
  | group _ parts => checkAll_withoutData parts
  | negation part => check_withoutData part

theorem checkAll_withoutData : (cs : List Condition) →
    checkAll (allWithoutData cs) = checkAll cs
  | [] => rfl
  | c :: cs => by
    rw [allWithoutData, checkAll, check_withoutData c, checkAll_withoutData cs, checkAll]

end

end Condition

/-! ### The data at the sites -/

namespace Site

theorem map_value_ofList (lead : String) (values : List Value) :
    (ofList lead values).map value = values := by
  cases values <;> simp [ofList, Function.comp_def]

theorem map_value_ofTemplate {front : String} {pieces : List (List Char)} {values : List Value}
    (h : pieces.length = values.length + 1) :
    (ofTemplate front pieces values).map value = values := by
  induction values generalizing front pieces with
  | nil => cases pieces <;> rfl
  | cons v vs ih =>
    cases pieces with
    | nil => contradiction
    | cons piece pieces => simp [ofTemplate, ih (by simpa using h)]

end Site

namespace Condition

variable {d : Dialect}

mutual

theorem map_value_sites : (c : Condition) → c.check = .ok () → (c.sites d).map Site.value = c.data
  | compare _ _ _, _ | compareColumns _ _ _, _ | missing _ _, _ | between _ _ _ _, _
  | verbatim _, _ => rfl
  | member _ values _, _ => Site.map_value_ofList _ values
  | template _ _, h => Site.map_value_ofTemplate (length_pieces_of_checkTemplate h)
  | group _ parts, h => map_value_allSites parts h
  | negation part, h => map_value_sites part h

theorem map_value_allSites : (cs : List Condition) → checkAll cs = .ok () →
    (allSites d cs).map Site.value = allData cs
  | [], _ => rfl
  | c :: cs, h => by
    obtain ⟨hc, hcs⟩ := List.forall_mem_cons.mp (checkAll_ok_iff.mp h)
    rw [allSites, List.map_append, map_value_sites c hc,
      map_value_allSites cs (checkAll_ok_iff.mpr hcs), allData]

end

end Condition

end QueryKit
