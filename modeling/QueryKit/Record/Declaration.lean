import QueryKit.Record.Member
import QueryKit.Text.CaseStyle

/-! Declarations of record types. Attributes of the declaration and of its fields decide how each
field maps to columns; the first fault in the order of the text is reported. -/

namespace QueryKit

/-- The value of an attribute. -/
inductive AttributeValue
  | text (s : String)
  /-- A value of some other kind. -/
  | other

/-- An attribute: a name, and perhaps a value. -/
structure Attribute where
  name : String
  value : Option AttributeValue := none

/-- What a declaration declares. -/
inductive DeclarationShape
  | struct
  | tuple
  | unit
  | enum
  | union
deriving DecidableEq

def DeclarationShape.ofName? : String → Option DeclarationShape
  | "struct" => some .struct
  | "tuple" => some .tuple
  | "unit" => some .unit
  | "enum" => some .enum
  | "union" => some .union
  | _ => none

/-- A declared field. -/
structure FieldDeclaration (τ : Type) where
  field : String
  type : τ
  attributes : List Attribute := []

/-- A declaration of a record type, with types of some kind for the fields. -/
structure Declaration (τ : Type) where
  shape : DeclarationShape := .struct
  attributes : List Attribute := []
  fields : List (FieldDeclaration τ)

/-- What a declaration is used for. -/
inductive DeclarationUse
  /-- Records are read from rows. -/
  | reading
  /-- The columns of records are listed. -/
  | listing
deriving DecidableEq

/-- The name of a use in error texts. -/
def DeclarationUse.name : DeclarationUse → String
  | .reading => "FromRow"
  | .listing => "Record"

/-- Why a declaration is refused. -/
inductive DeclarationError
  | notStruct (use : DeclarationUse)
  | unnamedFields (use : DeclarationUse)
  | unknownStyle (name : String)
  | structAttribute
  | fieldAttribute
  | missingEquals
  | missingText
  | missingComma
  | skipCombined
  | inlineAlone
deriving DecidableEq

def DeclarationError.message : DeclarationError → String
  | .notStruct use => use.name ++ " can only be derived for structs"
  | .unnamedFields use => use.name ++ " can only be derived for structs with named fields"
  | .unknownStyle name => s!"unknown rename_all rule `{name}`"
  | .structAttribute => "unsupported struct attribute, expected `rename_all`"
  | .fieldAttribute =>
    "unsupported field attribute, expected `column`, `skip`, `flatten` or `inline`"
  | .missingEquals => "expected `=`"
  | .missingText => "expected string literal"
  | .missingComma => "expected `,`"
  | .skipCombined => "`skip` cannot be combined with other orm attributes"
  | .inlineAlone => "`inline` requires `flatten`"

namespace Attribute

/-- The text that an attribute must have. -/
def text (a : Attribute) : Except DeclarationError String :=
  match a.value with
  | none => .error .missingEquals
  | some .other => .error .missingText
  | some (.text s) => .ok s

/-- An attribute that must not have a value. -/
def bare (a : Attribute) : Except DeclarationError Unit :=
  if a.value.isSome then .error .missingComma else .ok ()

/-- The naming style that the attributes of a declaration ask for, the last one if there are
several. -/
def style (attributes : List Attribute) : Except DeclarationError (Option Text.CaseStyle) :=
  attributes.foldlM (fun _ a =>
    if a.name = "rename_all" then do
      let name ← a.text
      match Text.CaseStyle.ofName? name with
      | some style => pure (some style)
      | none => throw (.unknownStyle name)
    else .error .structAttribute) none

end Attribute

/-- What the attributes of a field ask for. -/
structure FieldOptions where
  column : Option String := none
  skip : Bool := false
  flatten : Bool := false
  inline : Bool := false

namespace FieldOptions

/-- Takes one more attribute into account. -/
def add (o : FieldOptions) (a : Attribute) : Except DeclarationError FieldOptions :=
  if a.name = "column" then do
    let name ← a.text
    pure { o with column := some name }
  else if a.name = "skip" then do
    a.bare
    pure { o with skip := true }
  else if a.name = "flatten" then do
    a.bare
    pure { o with flatten := true }
  else if a.name = "inline" then do
    a.bare
    pure { o with inline := true }
  else .error .fieldAttribute

def check (o : FieldOptions) : Except DeclarationError Unit :=
  if o.skip && (o.flatten || o.inline || o.column.isSome) then .error .skipCombined
  else if o.inline && !o.flatten then .error .inlineAlone
  else .ok ()

/-- The options of a list of attributes. -/
def ofAttributes (attributes : List Attribute) : Except DeclarationError FieldOptions := do
  let o ← attributes.foldlM add {}
  o.check
  pure o

end FieldOptions

/-- How a field maps to columns. -/
inductive Role
  | column (name : String)
  | embedded (name : String)
  | inline
  | skipped
deriving DecidableEq

/-- A field with its type and its role. -/
structure Mapping (τ : Type) where
  field : String
  type : τ
  role : Role

/-- The name of a field without the mark that lets a keyword be a name. -/
def plainName (field : String) : String :=
  match field.toList with
  | 'r' :: '#' :: rest => String.ofList rest
  | _ => field

namespace FieldDeclaration

variable {τ : Type}

/-- The role of the field under the options. -/
def role (f : FieldDeclaration τ) (style : Option Text.CaseStyle) (o : FieldOptions) : Role :=
  let name := o.column.getD <|
    match style with
    | some style => style.apply (plainName f.field)
    | none => plainName f.field
  if o.skip then .skipped
  else if o.inline then .inline
  else if o.flatten then .embedded name
  else .column name

def mapping (style : Option Text.CaseStyle) (f : FieldDeclaration τ) :
    Except DeclarationError (Mapping τ) := do
  let o ← FieldOptions.ofAttributes f.attributes
  pure ⟨f.field, f.type, f.role style o⟩

end FieldDeclaration

namespace Declaration

variable {τ : Type}

/-- A struct with named fields is declared. -/
def checkShape (d : Declaration τ) (use : DeclarationUse) : Except DeclarationError Unit :=
  match d.shape with
  | .struct => .ok ()
  | .tuple | .unit => .error (.unnamedFields use)
  | .enum | .union => .error (.notStruct use)

def mappings (d : Declaration τ) (use : DeclarationUse) :
    Except DeclarationError (List (Mapping τ)) := do
  d.checkShape use
  let style ← Attribute.style d.attributes
  d.fields.mapM (FieldDeclaration.mapping style)

def readPlan (d : Declaration τ) : Except DeclarationError (List (Mapping τ)) :=
  d.mappings .reading

def listPlan (d : Declaration τ) : Except DeclarationError (List (Mapping τ)) := do
  let ms ← d.mappings .listing
  pure (ms.filter fun m => m.role ≠ .skipped)

end Declaration

/-- The type of a declared field: a column type, or a record type. -/
inductive FieldType
  | column (t : ColumnType)
  | record (members : List Member)

namespace FieldType

mutual

def blankMember : Member → String × Reading
  | .column field _ t => (field, .value t t.blank)
  | .embedded field _ members => (field, .record (blankMembers members))
  | .inline field members => (field, .record (blankMembers members))
  | .skipped field fixed => (field, fixed)

def blankMembers : List Member → List (String × Reading)
  | [] => []
  | m :: ms => blankMember m :: blankMembers ms

end

/-- The default that a skipped field gets. -/
def blank : FieldType → Reading
  | column t => .value t t.blank
  | record members => .record (blankMembers members)

end FieldType

/-- The member of a mapping, if the type suits the role: a column needs a column type, and what is
embedded a record type. -/
def Mapping.member? (m : Mapping FieldType) : Option Member :=
  match m.role, m.type with
  | .column name, .column t => some (.column m.field name t)
  | .embedded name, .record members => some (.embedded m.field name members)
  | .inline, .record members => some (.inline m.field members)
  | .skipped, t => some (.skipped m.field t.blank)
  | _, _ => none

/-- The members of a declared record type, if the declaration has no fault and all types suit. -/
def Declaration.members? (d : Declaration FieldType) : Option (List Member) := do
  let ms ← d.readPlan.toOption
  ms.mapM Mapping.member?

end QueryKit
