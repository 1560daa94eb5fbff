import SchemaLang.Draft.Basic
import SchemaLang.Source.Attribute

/-!
# Members of a table

A field line declares an association or a column. The attributes of a column are applied in order,
so that of two that set one property the later one counts; a primary key is never null.
-/

namespace SchemaLang

namespace Association

/-- The item assigns a value to the key, which is compared as it is written. -/
def assignment? (key : List Char) (item : List Char) : Option (List Char) :=
  match Text.cutAt? ':' item with
  | some (k, value) => if Text.trim k = key then some value else none
  | none => none

/-- The key that names the other side of an association. -/
def backPopulatesKey : List Char := "back_populates".toList

/-- The key that declares an association as a relationship. -/
def relationshipKey : List Char := "relationship".toList

/-- The names for the other side in some items. -/
def backPopulatesOf (items : List (List Char)) : List String :=
  (items.filterMap (assignment? backPopulatesKey)).map fun value =>
    String.ofList (Text.unquote value)

/-- The association that a field line declares. -/
def ofLine (line : FieldLine) (target : List Char) : Association where
  fieldName := String.ofList line.name
  target := String.ofList target
  annotated := line.items.any fun item =>
    (assignment? backPopulatesKey item).isSome || (assignment? relationshipKey item).isSome
  backPopulates := (backPopulatesOf line.items).getLast?

end Association

namespace ColumnDraft

/-- Applies an attribute to a column. -/
def apply (c : ColumnDraft) : Attribute → ColumnDraft
  -- Nothing makes a column nullable again.
  | .flag .primaryKey => { c with field := { c.field with primaryKey := true, nullable := false } }
  | .flag .autoIncrement => { c with field := { c.field with autoIncrement := true } }
  | .flag .unique => { c with field := { c.field with unique := true } }
  | .flag .notNull => { c with field := { c.field with nullable := false } }
  | .flag .index => { c with indexed := true }
  | .reference foreignKey => { c with field := { c.field with foreignKey } }
  | .default literal => { c with field := { c.field with defaultLiteral := some literal } }
  | .relationshipName name => { c with relationshipName := some name }
  | .backPopulates name => { c with backPopulates := some name }
  | .size part value =>
    { c with field := { c.field with size := c.field.size.setText part value } }

/-- The column that a field line declares. -/
def ofLine (registry : Registry) (line : FieldLine) (type : FieldType) (size : Size) :
    ColumnDraft :=
  (line.items.filterMap (Attribute.ofItem? registry)).foldl apply
    { field := { name := String.ofList line.name, type, size } }

/-- The link to the table that the column references. -/
def link? (registry : Registry) (c : ColumnDraft) : Option ContextLink :=
  c.field.foreignKeyParts?.map fun (table, _) =>
    .toTable ((registry.byTable? table).getD table) c.field.name

/-- The names that the column asks for, if it references a table. -/
def naming? (c : ColumnDraft) : Option KeyNaming :=
  c.field.foreignKeyParts?.map fun _ =>
    { field := c.field.name, relationship := c.relationshipName, backPopulates := c.backPopulates }

/-- The index that the column asks for. -/
def index? (id : String) (c : ColumnDraft) : Option Index :=
  if c.indexed then some (columnIndex id c.field.name) else none

end ColumnDraft

namespace Member

/-- What a field line declares. -/
def ofLine (registry : Registry) (line : FieldLine) : Member :=
  match TypeSpec.ofToken line.type with
  | .rowsOf target => association (Association.ofLine line target)
  | .column type size => column (ColumnDraft.ofLine registry line type size)

/-- The association that is declared. -/
def association? : Member → Option Association
  | association a => some a
  | column _ => none

/-- The column that is declared. -/
def column? : Member → Option ColumnDraft
  | association _ => none
  | column c => some c

/-- The link in the context menu. -/
def link? (registry : Registry) : Member → Option ContextLink
  | association a => some (.toRows a.target a.fieldName)
  | column c => c.link? registry

end Member

namespace TableDraft

/-- The draft of a declared table with the given members and index lines. -/
def ofMembers (registry : Registry) (entry : TableEntry) (members : List Member)
    (indices : List IndexLine) : TableDraft :=
  let columns := members.filterMap Member.column?
  { id := entry.id
    name := entry.name
    fields := columns.map (·.field)
    indices := columns.filterMap (·.index? entry.id) ++ indices.map fun ix =>
      { name := String.ofList ix.name, columns := ix.columns.map String.ofList }
    associations := members.filterMap Member.association?
    namings := columns.filterMap (·.naming?)
    links := members.filterMap (·.link? registry) }

/-- The draft of a declared table with the given block. -/
def ofBlock (registry : Registry) (entry : TableEntry) (block : TableBlock) : TableDraft :=
  ofMembers registry entry (block.fields.map (Member.ofLine registry)) block.indices

/-- The drafts of all tables of a source. -/
def ofSource (source : String) : List TableDraft :=
  let registry := Registry.ofSource source
  registry.entries.zipWith (ofBlock registry) (TableBlock.ofSource source)

end TableDraft

end SchemaLang
