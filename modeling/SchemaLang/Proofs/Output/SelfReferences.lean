import SchemaLang.Proofs.Output.Inputs
import SchemaLang.Proofs.Output.Lines
import SchemaLang.Proofs.Output.References

/-!
# References of a model to itself

Where a foreign key references the model that holds it, the module of the model says twice which
column it leads to: the column line of the key names the column that it references, and the line of
its relationship names the far end. The far end is always the primary key. As the review also admits
keys that reference another unique column, the two lines say the same exactly if the referenced
column is a primary key.

## Key results

- `RelationLine.filter_arguments`: the far ends that a line names
- `ModelModule.writesSelfReference_of_ofModel_eq_ok`: the two lines of such a key
- `exists_modelModules_selfReferences`: all modules write them in this way
- `remoteSide_portsByHub`: two lines that do not say the same
-/

namespace SchemaLang

variable {s : Schema} {naming : TableNaming} {m : Model} {f column : Field} {r : Relationship}

/-! ## The far end of a relationship -/

namespace RelationLine

/-- The argument that names the far end of a relationship of a class with itself. -/
def farEnd (owner column : String) : String :=
  "remote_side=" ++ Literal.quote ("[" ++ owner ++ "." ++ column ++ "]")

/-- The line names one far end, a column of a class. -/
def EndsAt (line : RelationLine) (owner column : String) : Prop :=
  line.arguments.filter (opensWith "remote_side=") = [farEnd owner column]

/-- A line names no other far end than the one it is made with. -/
theorem filter_arguments (line : RelationLine) :
    line.arguments.filter (opensWith "remote_side=") =
      (line.remoteSide.map fun (owner, column) => farEnd owner column).toList := by
  have hquote x : opensWith "remote_side=" (Literal.quote x) = false := by
    have hfront : Literal.quote x =
        "'" ++ String.ofList (x.toList.flatMap Literal.escapeChar ++ ['\'']) := by
      rw [Literal.quote, Literal.quoteChars, ← List.singleton_append, String.ofList_append]
    rw [hfront]
    exact (opensWith_append (by decide +kernel) _).trans (by decide +kernel)
  have hback x : opensWith "remote_side=" ("back_populates=" ++ x) = false :=
    (opensWith_append (by decide +kernel) x).trans (by decide +kernel)
  have hkeys x : opensWith "remote_side=" ("foreign_keys=" ++ x) = false :=
    (opensWith_append (by decide +kernel) x).trans (by decide +kernel)
  have hdynamic : opensWith "remote_side=" "lazy='dynamic'" = false := by decide +kernel
  have hremote x : opensWith "remote_side=" ("remote_side=" ++ x) = true := opensWith_front _ x
  rw [arguments]
  cases line.foreignKeys <;> cases line.isDynamic <;> cases line.remoteSide <;>
    simp [hquote, hback, hkeys, hdynamic, hremote, farEnd, columnList, String.append_assoc]

/-- The line of a many-to-one relationship of a model with itself ends at the primary key. -/
theorem endsAt_of_ofRelationship_eq_ok {line : RelationLine} {key : Field}
    (h : ofRelationship m r = .ok line) (hcardinality : r.cardinality = .manyToOne)
    (htarget : r.target = m.id) (hkey : m.primaryKey? = some key) : line.EndsAt m.id key.name := by
  rw [ofRelationship, if_pos ⟨hcardinality, htarget⟩, hkey] at h
  cases h
  rw [EndsAt, filter_arguments]
  rfl

end RelationLine

/-! ## Both lines of a key -/

namespace ModelModule

/-- The module of the model, which stands in the place `i`, writes the foreign key `f`, which
    references the column `column` of the model itself, in two lines: that of the column, and that
    of the relationship `r`, which the key has brought about. The first one names the referenced
    column, the second one the primary key of the model. -/
structure WritesSelfReference (s : Schema) (source : String) (i : Nat) (m : Model)
    (f column key : Field) (r : Relationship) (made : ModelModule) : Prop where
  primary : m.primaryKey? = some key
  agrees_iff : key.name = column.name ↔ column.primaryKey = true
  broughtAbout :
    ∃ edge ∈ Board.edgesAt source i, edge.field = f.name ∧ s.BroughtAbout source i edge r
  cardinality : r.cardinality = .manyToOne
  columnLine : ∃ line ∈ made.columns, made.file.HasLine line.render ∧ line.name = f.name ∧
    line.References made.table column.name
  relationLine : ∃ line ∈ made.relations, made.file.HasLine line.render ∧
    line.Says r.name m.id r.backPopulates ∧ line.EndsAt m.id key.name

/-- Both lines stand in the module of a model of a valid schema. -/
theorem writesSelfReference_of_ofModel_eq_ok {source : String} {i : Nat} {made : ModelModule}
    (h : compile source = .ok s) (hvalid : s.isValid = true) (hm : s.models[i]? = some m)
    (hmade : ofModel s naming m = .ok made) (hf : f ∈ m.foreignKeyFields)
    (hresolve : s.resolveForeignKey? f = some (m, column)) :
    ∃ key r, WritesSelfReference s source i m f column key r made := by
  have hmem := List.mem_of_getElem? hm
  obtain ⟨key, hkey⟩ := Schema.exists_primaryKey_of_isValid hvalid hmem
  obtain ⟨-, htable, -, hcolumns, hrelations⟩ := of_ofModel_eq_ok hmade
  obtain ⟨p, hp⟩ := List.mem_iff_getElem?.mp hf
  obtain ⟨edge, r, hedge, -, hfield, hbrought, htarget, hfind⟩ :=
    exists_find?_follows h hvalid hm hp hresolve
  have hcardinality : r.cardinality = .manyToOne := by
    have hfollows := List.find?_some hfind
    simp only [Model.follows, Bool.and_eq_true, beq_iff_eq] at hfollows
    exact hfollows.1.1
  obtain ⟨line, hline, hofField⟩ := hcolumns.exists_mem (List.mem_of_mem_filter hf)
  obtain ⟨relation, hrelation, hofRelationship⟩ :=
    hrelations.exists_mem (List.mem_of_find?_eq_some hfind)
  refine ⟨key, r, {
    primary := hkey
    agrees_iff := Schema.name_primaryKey_eq_iff hvalid hmem hkey
      (Schema.mem_fields_of_resolveForeignKey? hresolve)
    broughtAbout := ⟨edge, List.mem_of_getElem? hedge, hfield, hbrought⟩
    cardinality := hcardinality
    columnLine := ⟨line, hline, hasLine_column hline, (ColumnLine.of_ofField_eq_ok hofField).1, ?_⟩
    relationLine := ⟨relation, hrelation, hasLine_relation hrelation, ?_, ?_⟩ }⟩
  · rw [htable]
    exact ColumnLine.references_of_ofField_eq_ok hresolve hofField
  · rw [← htarget]
    exact RelationLine.says_of_ofRelationship_eq_ok hofRelationship
  · exact RelationLine.endsAt_of_ofRelationship_eq_ok hofRelationship hcardinality htarget hkey

end ModelModule

/-- Every foreign key of a compiled valid schema that references the model which holds it is written
    with the column that it references, and its relationship with the primary key as the far end,
    whatever the tables are called: both lines name one column if and only if the referenced column
    is a primary key. -/
theorem exists_modelModules_selfReferences {source : String} (h : compile source = .ok s)
    (hvalid : s.isValid = true) (naming : TableNaming) :
    ∃ modules, s.modelModules naming = .ok modules ∧ ∀ (i : Nat) (m : Model) (made : ModelModule),
      s.models[i]? = some m → modules[i]? = some made → ∀ f ∈ m.foreignKeyFields, ∀ column,
        s.resolveForeignKey? f = some (m, column) →
          ∃ key r, ModelModule.WritesSelfReference s source i m f column key r made := by
  obtain ⟨modules, hmodules⟩ := OutputGroup.models.exists_forModels fun _ hm =>
    ModelModule.exists_ofModel hvalid naming hm
  refine ⟨modules, hmodules, fun i m made hm hmade f hf column hresolve => ?_⟩
  obtain ⟨made', hmade', hof⟩ :=
    (OutputGroup.forall₂_of_forModels_eq_ok hmodules).exists_getElem? hm
  obtain rfl : made = made' := Option.some.inj (hmade.symm.trans hmade')
  exact ModelModule.writesSelfReference_of_ofModel_eq_ok h hvalid hm hof hf hresolve

/-- Ports with two hubs among themselves: one is referenced by its number, one by its code. -/
def portsByTwoHubs : String :=
  "table Port \x7b
id Int [pk]
code String(5) [unique]
hub_id Int [ref: > Port.id]
hub_code String(5) [ref: > Port.code]
\x7d"

theorem exists_modelModules_selfReferences_portsByTwoHubs :
    (compile portsByTwoHubs = .ok (.ofChecked portsByTwoHubs) ∧
      (Schema.ofChecked portsByTwoHubs).isValid = true) ∧
      ((Schema.ofChecked portsByTwoHubs).models.map fun m => m.foreignKeyFields.map fun f =>
        ((Schema.ofChecked portsByTwoHubs).resolveForeignKey? f).map fun (target, column) =>
          (target == m, column.name)) = [[some (true, "id"), some (true, "code")]] ∧
      ∃ modules, (Schema.ofChecked portsByTwoHubs).modelModules {} = .ok modules ∧
        ∀ (i : Nat) (m : Model) (made : ModelModule),
          (Schema.ofChecked portsByTwoHubs).models[i]? = some m → modules[i]? = some made →
            ∀ f ∈ m.foreignKeyFields, ∀ column,
              (Schema.ofChecked portsByTwoHubs).resolveForeignKey? f = some (m, column) →
                ∃ key r, ModelModule.WritesSelfReference (.ofChecked portsByTwoHubs)
                  portsByTwoHubs i m f column key r made := by
  obtain ⟨hchecked, hvalid, hkeys⟩ : checkSource portsByTwoHubs = .ok () ∧
      (Schema.ofChecked portsByTwoHubs).isValid = true ∧
      ((Schema.ofChecked portsByTwoHubs).models.map fun m => m.foreignKeyFields.map fun f =>
        ((Schema.ofChecked portsByTwoHubs).resolveForeignKey? f).map fun (target, column) =>
          (target == m, column.name)) = [[some (true, "id"), some (true, "code")]] := by
    decide +kernel
  have hcompile := compile_eq_ok_iff.mpr ⟨hchecked, rfl⟩
  exact ⟨⟨hcompile, hvalid⟩, hkeys, exists_modelModules_selfReferences hcompile hvalid {}⟩

/-- Ports with a hub among themselves, which is referenced by its code. -/
def portsByHub : String :=
  "table Port \x7b
id Int [pk]
code String(5) [unique]
hub_code String(5) [ref: > Port.code]
\x7d"

/-- The relationship of a hub ends at its number where the key references the code. -/
theorem remoteSide_portsByHub :
    compile portsByHub = .ok (.ofChecked portsByHub) ∧
      (Schema.ofChecked portsByHub).isValid = true ∧
      ((Schema.ofChecked portsByHub).models.flatMap fun m => m.foreignKeyFields.map fun f =>
        (m.id, f.name, ((Schema.ofChecked portsByHub).resolveForeignKey? f).map
          fun (target, column) => (target.id, column.name))) =
        [("S001_Port", "hub_code", some ("S001_Port", "code"))] ∧
      ((Schema.ofChecked portsByHub).modelModules {}).toOption.map (·.map fun made =>
        (made.file.path, made.columns.map ColumnLine.render,
          made.relations.map RelationLine.render)) =
        some [("s001_port.py",
          ["    id = db.Column(db.Integer, primary_key=True)",
            "    code = db.Column(db.String(5), unique=True)",
            "    hub_code = db.Column(db.String(5), db.ForeignKey('s001_port.code'))"],
          ["    s001_port_hub_code_rel = db.relationship('S001_Port', " ++
              "back_populates='hub_code_rel', lazy='dynamic')",
            "    hub_code_rel = db.relationship('S001_Port', " ++
              "back_populates='s001_port_hub_code_rel', remote_side='[S001_Port.id]')"])] :=
  ⟨compile_eq_ok_iff.mpr ⟨by decide +kernel, rfl⟩, by decide +kernel⟩

end SchemaLang
