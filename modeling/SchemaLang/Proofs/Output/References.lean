import SchemaLang.Proofs.Document.ReadBack
import SchemaLang.Proofs.Output.Emission

/-!
# References between model modules

The modules of a valid schema refer to each other by text: a column names the table and the column
that its key leads to, a relationship the class and the attribute on the other side. Each module is
written by itself. Here the names are followed from the lines of one file to those of another.

## Key results

- `ModelModule.hasLine_column`, `ModelModule.hasLine_relation`: the lines of a module stand in its
  file
- `ColumnLine.isKey_of_ofField_eq_ok`, `RelationLine.says_of_ofRelationship_eq_ok`: what the lines
  of fields and relationships say
- `Schema.nodup_ids_of_isValid`: no two models have one identifier
- `exists_modelModules_closed`: every reference leads to a line that answers it
-/

namespace SchemaLang

/-! ## Lines of a file -/

/-- The line stands in the file. -/
def OutputFile.HasLine (file : OutputFile) (line : String) : Prop :=
  ∃ before after, file.content = unlines (before ++ line :: after)

namespace ModelModule

/-- The lines of a module stand in its file. -/
theorem hasLine_of_mem {made : ModelModule} {line : String} (h : line ∈ made.lines) :
    made.file.HasLine line := by
  obtain ⟨before, after, hlines⟩ := List.append_of_mem h
  exact ⟨before, after, by rw [file, hlines]⟩

theorem hasLine_class (made : ModelModule) :
    made.file.HasLine ("class " ++ made.className ++ "(db.Model):") :=
  hasLine_of_mem (by simp [lines])

theorem hasLine_table (made : ModelModule) :
    made.file.HasLine ("    __tablename__ = " ++ Literal.quote made.table) :=
  hasLine_of_mem (by simp [lines])

theorem hasLine_column {made : ModelModule} {line : ColumnLine} (h : line ∈ made.columns) :
    made.file.HasLine line.render := by
  have hmem : line.render ∈ made.columns.map ColumnLine.render := List.mem_map_of_mem h
  exact hasLine_of_mem (by simp only [lines, List.mem_append, hmem, true_or, or_true])

theorem hasLine_relation {made : ModelModule} {line : RelationLine} (h : line ∈ made.relations) :
    made.file.HasLine line.render := by
  have hne : made.relations.isEmpty = false := List.isEmpty_eq_false_iff.mpr (List.ne_nil_of_mem h)
  have hmem : line.render ∈ made.relations.map RelationLine.render := List.mem_map_of_mem h
  exact hasLine_of_mem (by simp [lines, hne, hmem])

end ModelModule

/-! ## What the lines say -/

variable {s : Schema} {naming : TableNaming} {m : Model} {f : Field} {r : Relationship}

namespace ColumnLine

variable {line : ColumnLine}

/-- The line carries the argument, behind its type. -/
def Carries (line : ColumnLine) (argument : String) : Prop :=
  ∃ before after, line.options.map ColumnOption.render = before ++ argument :: after ∧
    line.render = "    " ++ line.name ++ " = db.Column(" ++
      ", ".intercalate (line.type :: (before ++ argument :: after)) ++ ")"

/-- The line references a column. -/
def References (line : ColumnLine) (table column : String) : Prop :=
  line.Carries ("db.ForeignKey(" ++ Literal.quote (table ++ "." ++ column) ++ ")")

/-- The values of the column are distinct. -/
def IsKey (line : ColumnLine) : Prop :=
  line.Carries "primary_key=True" ∨ line.Carries "unique=True"

theorem carries_of_mem {option : ColumnOption} (h : option ∈ line.options) :
    line.Carries option.render := by
  obtain ⟨before, after, hoptions⟩ := List.append_of_mem (List.mem_map_of_mem h)
  exact ⟨before, after, hoptions, by rw [render, hoptions]⟩

theorem of_ofField_eq_ok (h : ofField s naming f = .ok line) :
    line.name = f.name ∧
      ∃ reference, referenceOf s naming f = .ok reference ∧ line.options = reference ++ flagsOf f := by
  obtain ⟨reference, hreference, h⟩ := Except.bind_eq_ok_iff.mp h
  cases h
  exact ⟨rfl, reference, hreference, rfl⟩

/-- The line of a foreign key references the column that the key leads to. -/
theorem references_of_ofField_eq_ok {target : Model} {key : Field}
    (hkey : s.resolveForeignKey? f = some (target, key)) (h : ofField s naming f = .ok line) :
    line.References (naming.tableOf target.id) key.name := by
  obtain ⟨-, reference, hreference, hoptions⟩ := of_ofField_eq_ok h
  rw [referenceOf] at hreference
  cases hforeign : f.foreignKey with
  | none => simp [Schema.resolveForeignKey?, Field.foreignKeyParts?, hforeign] at hkey
  | some text =>
    simp only [hforeign, hkey, Except.ok.injEq] at hreference
    subst hreference
    have hmem : .foreignKey (naming.tableOf target.id) key.name ∈ line.options := by
      rw [hoptions]
      exact List.mem_cons_self
    exact carries_of_mem hmem

/-- The line of a column that identifies rows says so. -/
theorem isKey_of_ofField_eq_ok (hkey : f.primaryKey = true ∨ f.unique = true)
    (h : ofField s naming f = .ok line) : line.IsKey := by
  obtain ⟨-, reference, -, hoptions⟩ := of_ofField_eq_ok h
  refine hkey.imp (fun hprimary => ?_) (fun hunique => ?_)
  · have hmem : ColumnOption.primaryKey ∈ line.options := by simp [hoptions, flagsOf, hprimary]
    exact carries_of_mem hmem
  · have hmem : ColumnOption.unique ∈ line.options := by simp [hoptions, flagsOf, hunique]
    exact carries_of_mem hmem

end ColumnLine

namespace RelationLine

/-- The line is that of a relationship with a class, which it names the other side of. -/
def Says (line : RelationLine) (name target back : String) : Prop :=
  ∃ rest, line.render = "    " ++ name ++ " = db.relationship(" ++
    ", ".intercalate
      (Literal.quote target :: ("back_populates=" ++ Literal.quote back) :: rest) ++ ")"

theorem says_of_ofRelationship_eq_ok {line : RelationLine} (h : ofRelationship m r = .ok line) :
    line.Says r.name r.target r.backPopulates := by
  have hline : line.name = r.name ∧ line.target = r.target ∧
      line.backPopulates = r.backPopulates := by
    rw [ofRelationship] at h
    split at h
    · cases hkey : m.primaryKey? with
      | none =>
        rw [hkey] at h
        cases h
      | some key =>
        rw [hkey] at h
        cases h
        exact ⟨rfl, rfl, rfl⟩
    · cases h
      exact ⟨rfl, rfl, rfl⟩
  obtain ⟨hname, htarget, hback⟩ := hline
  rw [Says, render, arguments, hname, htarget, hback, List.append_assoc, List.append_assoc]
  exact ⟨_, rfl⟩

end RelationLine

/-! ## Modules that reference each other -/

/-- No two models of a valid schema have one identifier if their names are read off it. -/
theorem Schema.nodup_ids_of_isValid (hvalid : s.isValid = true) (hnames : s.HasDeclaredNames) :
    (s.models.map (·.id)).Nodup := by
  have hdeclared : s.models.map (·.name) = (s.models.map (·.id)).map declaredName := by
    rw [List.map_map]
    exact List.map_congr_left hnames
  have hdistinct := tableNameViolations_eq_nil_iff.mp (isValid_iff_unreported.mp hvalid).tableNames
  exact List.Nodup.of_map _ (hdeclared ▸ hdistinct)

namespace ModelModule

/-- What the module of a model references is found in the modules of all models. -/
structure IsClosed (modules : List ModelModule) (m : Model) (made : ModelModule) : Prop where
  className : made.className = m.id
  classLine : made.file.HasLine ("class " ++ made.className ++ "(db.Model):")
  tableLine : made.file.HasLine ("    __tablename__ = " ++ Literal.quote made.table)
  columnLines : ∀ line ∈ made.columns, made.file.HasLine line.render
  relationLines : ∀ line ∈ made.relations, made.file.HasLine line.render
  /-- The column of a foreign key references the table of a module and a column there that is a
      key. -/
  keys : List.Forall₂ (fun f line => line.name = f.name ∧ (f.isForeignKey = true →
    ∃ target ∈ modules, ∃ column ∈ target.columns,
      line.References target.table column.name ∧ column.IsKey)) m.fields made.columns
  /-- A relationship is with the class of a module, where the other side has a line that leads
      back. -/
  pairs : List.Forall₂ (fun r line => line.Says r.name r.target r.backPopulates ∧
    ∃ target ∈ modules, target.className = r.target ∧
      ∃ back ∈ target.relations, back.Says r.backPopulates m.id r.name) m.relationships
    made.relations

variable {modules : List ModelModule} {made : ModelModule}

/-- The key of a model references a column of a module. -/
private theorem exists_column (hvalid : s.isValid = true)
    (hmodules : List.Forall₂ (fun m made => ofModel s naming m = .ok made) s.models modules)
    (hm : m ∈ s.models) (hf : f ∈ m.foreignKeyFields) {line : ColumnLine}
    (hline : ColumnLine.ofField s naming f = .ok line) :
    ∃ target ∈ modules, ∃ column ∈ target.columns,
      line.References target.table column.name ∧ column.IsKey := by
  obtain ⟨target, key, hresolve, -, hkey⟩ := Model.foreignKeyViolations_eq_nil_iff.mp
    ((Schema.isValid_iff_unreported.mp hvalid).foreignKeys m hm f hf)
  obtain ⟨module, hmodule, hmade⟩ :=
    hmodules.exists_mem (Schema.mem_models_of_resolveForeignKey? hresolve)
  obtain ⟨-, htable, -, hcolumns, -⟩ := of_ofModel_eq_ok hmade
  obtain ⟨column, hcolumn, hof⟩ :=
    hcolumns.exists_mem (Schema.mem_fields_of_resolveForeignKey? hresolve)
  obtain ⟨hname, -⟩ := ColumnLine.of_ofField_eq_ok hof
  refine ⟨module, hmodule, column, hcolumn, ?_, ColumnLine.isKey_of_ofField_eq_ok hkey hof⟩
  rw [htable, hname]
  exact ColumnLine.references_of_ofField_eq_ok hresolve hline

/-- The other side of a relationship has a line in a module. -/
private theorem exists_back (hvalid : s.isValid = true)
    (hmodules : List.Forall₂ (fun m made => ofModel s naming m = .ok made) s.models modules)
    (hm : m ∈ s.models) (hr : r ∈ m.relationships) :
    ∃ target ∈ modules, target.className = r.target ∧
      ∃ back ∈ target.relations, back.Says r.backPopulates m.id r.name := by
  obtain ⟨target, inverse, htarget, hinverse, hto, hback⟩ :=
    Schema.exists_inverse_of_isValid hvalid hm hr
  have hid : target.id = r.target := by simpa using List.find?_some htarget
  have hname : inverse.name = r.backPopulates := by simpa using List.find?_some hinverse
  obtain ⟨module, hmodule, hmade⟩ := hmodules.exists_mem (List.mem_of_find?_eq_some htarget)
  obtain ⟨hclass, -, -, -, hrelations⟩ := of_ofModel_eq_ok hmade
  obtain ⟨line, hline, hof⟩ := hrelations.exists_mem (List.mem_of_find?_eq_some hinverse)
  refine ⟨module, hmodule, hclass.trans hid, line, hline, ?_⟩
  rw [← hname, ← hto, ← hback]
  exact RelationLine.says_of_ofRelationship_eq_ok hof

/-- The module of a model of a valid schema references what other modules hold. -/
theorem isClosed_of_ofModel_eq_ok (hvalid : s.isValid = true)
    (hmodules : List.Forall₂ (fun m made => ofModel s naming m = .ok made) s.models modules)
    (hm : m ∈ s.models) (hmade : ofModel s naming m = .ok made) : made.IsClosed modules m := by
  obtain ⟨hclass, -, -, hcolumns, hrelations⟩ := of_ofModel_eq_ok hmade
  exact {
    className := hclass
    classLine := made.hasLine_class
    tableLine := made.hasLine_table
    columnLines := fun _ => hasLine_column
    relationLines := fun _ => hasLine_relation
    keys := hcolumns.imp_of_mem_left fun f hf line hline =>
      ⟨(ColumnLine.of_ofField_eq_ok hline).1, fun hkey =>
        exists_column hvalid hmodules hm (List.mem_filter.mpr ⟨hf, hkey⟩) hline⟩
    pairs := hrelations.imp_of_mem_left fun r hr line hline =>
      ⟨RelationLine.says_of_ofRelationship_eq_ok hline, exists_back hvalid hmodules hm hr⟩ }

end ModelModule

/-- The modules of a valid schema are closed, whatever its tables are called: every class stands in
    one module, every foreign key references a key column in the table of a module, and the other
    side of every relationship stands in the module of its class and leads back. -/
theorem exists_modelModules_closed (hvalid : s.isValid = true) (hnames : s.HasDeclaredNames)
    (naming : TableNaming) :
    ∃ modules, s.modelModules naming = .ok modules ∧
      s.filesOf naming .models =
        .ok (modules.map (·.file) ++ [(ModelPackage.ofSchema s naming).file]) ∧
      (modules.map (·.className)).Nodup ∧
      List.Forall₂ (ModelModule.IsClosed modules) s.models modules := by
  obtain ⟨modules, hmodules⟩ := OutputGroup.models.exists_forModels fun _ hm =>
    ModelModule.exists_ofModel hvalid naming hm
  have hmade := OutputGroup.forall₂_of_forModels_eq_ok hmodules
  have hclosed : List.Forall₂ (ModelModule.IsClosed modules) s.models modules :=
    hmade.imp_of_mem_left fun _ hm _ h => ModelModule.isClosed_of_ofModel_eq_ok hvalid hmade hm h
  refine ⟨modules, hmodules, ?_, ?_, hclosed⟩
  · rw [Schema.filesOf, Schema.modelModules, hmodules]
    rfl
  · have hclasses : modules.map (·.className) = s.models.map (·.id) := by
      rw [← List.forall₂_eq_eq_eq, List.forall₂_map_left_iff, List.forall₂_map_right_iff]
      exact hclosed.flip.imp fun _ _ h => h.className
    rw [hclasses]
    exact Schema.nodup_ids_of_isValid hvalid hnames

theorem exists_modelModules_closed_portsAndLegs :
    (portsAndLegs.isValid = true ∧ portsAndLegs.HasDeclaredNames) ∧
      ∃ modules, portsAndLegs.modelModules { letterCase := .upper, leading := "t_" } = .ok modules ∧
        portsAndLegs.filesOf { letterCase := .upper, leading := "t_" } .models =
          .ok (modules.map (·.file) ++
            [(ModelPackage.ofSchema portsAndLegs { letterCase := .upper, leading := "t_" }).file]) ∧
        (modules.map (·.className)).Nodup ∧
        List.Forall₂ (ModelModule.IsClosed modules) portsAndLegs.models modules :=
  have hvalid : portsAndLegs.isValid = true := by decide +kernel
  have hnames : portsAndLegs.HasDeclaredNames := by decide +kernel
  ⟨⟨hvalid, hnames⟩, exists_modelModules_closed hvalid hnames
    { letterCase := .upper, leading := "t_" }⟩

end SchemaLang
