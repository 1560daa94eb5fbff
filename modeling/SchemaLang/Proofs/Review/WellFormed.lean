import SchemaLang.Proofs.Review.Checks

/-!
# Well-formed schemas

What a schema must be like, said without the review: names are distinct, keys lead to keys, indices
hold the columns that need one, and relationships come in pairs. Review accepts exactly the schemas
that are like that.

## Key result

- `isValid_iff_wellFormed`: a schema is valid iff it is well formed
-/

namespace SchemaLang

/-- The foreign key of a field is of the form `table.column` and leads to a column of its own type
    that is a primary key or unique. -/
def Schema.KeyLeads (s : Schema) (f : Field) : Prop :=
  ∃ table column target key, f.foreignKeyParts? = some (table, column) ∧
    s.resolveForeignKey? f = some (target, key) ∧ f.type = key.type ∧
      (key.primaryKey = true ∨ key.unique = true)

/-- The relationship leads to a model, and the relationship it names there leads back to it. Models
    and relationships are told by the first of their name. -/
def Schema.IsMutual (s : Schema) (m : Model) (r : Relationship) : Prop :=
  ∃ target inverse, s.model? r.target = some target ∧ r.backPopulates ≠ "" ∧
    target.relationship? r.backPopulates = some inverse ∧
      inverse.target = m.id ∧ inverse.backPopulates = r.name

/-- What a model of a schema must be like. -/
structure Model.WellFormed (s : Schema) (m : Model) : Prop where
  fieldNames : (m.fields.map (·.name)).Nodup
  primaryKey : m.fields.countP (·.primaryKey) = 1
  foreignKeys : ∀ f ∈ m.fields, f.isForeignKey = true → s.KeyLeads f
  indexColumns : ∀ ix ∈ m.indices,
    ix.columns ≠ [] ∧ ∀ column ∈ ix.columns, ∃ f ∈ m.fields, f.name = column
  coverage : ∀ f ∈ m.fields, f.isForeignKey = true → ∃ ix ∈ m.indices, f.name ∈ ix.columns
  relationshipNames : (m.relationships.map (·.name)).Nodup
  apartFromColumns : ∀ r ∈ m.relationships, ∀ f ∈ m.fields, f.name ≠ r.name
  backReferences :
    ((m.relationships.filter (·.backPopulates != "")).map fun r => (r.target, r.backPopulates)).Nodup
  inPairs : ∀ r ∈ m.relationships, s.IsMutual m r

/-- What a schema must be like. -/
structure Schema.WellFormed (s : Schema) : Prop where
  tableNames : (s.models.map (·.name)).Nodup
  indexNames : ((s.models.flatMap (·.indices)).map (·.name)).Nodup
  models : ∀ m ∈ s.models, m.WellFormed s

namespace Model

variable {s : Schema} {m : Model}

/-- A quantifier over foreign keys is one over fields. -/
private theorem forall_mem_foreignKeyFields {p : Field → Prop} :
    (∀ f ∈ m.foreignKeyFields, p f) ↔ ∀ f ∈ m.fields, f.isForeignKey = true → p f := by
  simp only [foreignKeyFields, List.mem_filter, and_imp]

/-- Exactly one field is a primary key iff the primary keys are a list of one. -/
private theorem countP_primaryKey_eq_one_iff :
    m.fields.countP (·.primaryKey) = 1 ↔ ∃ key, m.primaryKeys = [key] := by
  rw [List.countP_eq_length_filter, List.length_eq_one_iff, primaryKeys]

/-- A key that resolves is of the form `table.column`. -/
private theorem keyLeads_iff {f : Field} :
    s.KeyLeads f ↔
      ∃ target key, s.resolveForeignKey? f = some (target, key) ∧ f.type = key.type ∧
        (key.primaryKey = true ∨ key.unique = true) := by
  constructor
  · rintro ⟨_, _, target, key, -, h⟩
    exact ⟨target, key, h⟩
  · rintro ⟨target, key, hkey, h⟩
    cases hparts : f.foreignKeyParts? with
    | none => simp [Schema.resolveForeignKey?, hparts] at hkey
    | some parts => exact ⟨parts.1, parts.2, target, key, hparts, hkey, h⟩

/-- The checks of targets and of pairs together demand mutual relationships: a relationship that the
    second passes over leads to no model, and the first reports it. -/
private theorem targets_and_pairs_iff :
    (m.targetViolations s = [] ∧ ∀ r ∈ m.relationships, m.pairViolations s r = []) ↔
      ∀ r ∈ m.relationships, s.IsMutual m r := by
  rw [targetViolations_eq_nil_iff, ← forall₂_and]
  refine forall₂_congr fun r _ => ?_
  constructor
  · rintro ⟨⟨target, htarget⟩, hpair⟩
    obtain ⟨hname, inverse, hinverse⟩ := (pairViolations_eq_nil_iff htarget).mp hpair
    exact ⟨target, inverse, htarget, hname, hinverse⟩
  · rintro ⟨target, inverse, htarget, hname, hinverse⟩
    exact ⟨⟨target, htarget⟩, (pairViolations_eq_nil_iff htarget).mpr ⟨hname, inverse, hinverse⟩⟩

/-- A model is well formed iff none of the checks of single models reports anything. -/
private theorem wellFormed_iff :
    m.WellFormed s ↔
      m.fieldNameViolations = [] ∧ m.primaryKeyViolations = [] ∧
        (∀ f ∈ m.foreignKeyFields, m.foreignKeyViolations s f = []) ∧
        (∀ ix ∈ m.indices, m.indexViolations ix = []) ∧ m.coverageViolations = [] ∧
        m.relationshipNameViolations = [] ∧ m.backReferenceViolations = [] ∧
        (m.targetViolations s = [] ∧ ∀ r ∈ m.relationships, m.pairViolations s r = []) := by
  simp only [fieldNameViolations_eq_nil_iff, primaryKeyViolations_eq_nil_iff,
    foreignKeyViolations_eq_nil_iff, indexViolations_eq_nil_iff, coverageViolations_eq_nil_iff,
    relationshipNameViolations_eq_nil_iff, backReferenceViolations_eq_nil_iff,
    targets_and_pairs_iff, ← countP_primaryKey_eq_one_iff, ← keyLeads_iff,
    forall_mem_foreignKeyFields]
  constructor
  · intro h
    exact ⟨h.fieldNames, h.primaryKey, h.foreignKeys, h.indexColumns, h.coverage,
      ⟨h.relationshipNames, h.apartFromColumns⟩, h.backReferences,
      h.inPairs⟩
  · rintro ⟨hfields, hprimary, hkeys, hindices, hcoverage, ⟨hnames, hcolumns⟩, hback, hmutual⟩
    exact ⟨hfields, hprimary, hkeys, hindices, hcoverage, hnames, hcolumns,
      hback, hmutual⟩

end Model

/-- A schema is valid iff it is well formed. -/
theorem isValid_iff_wellFormed (s : Schema) : s.isValid = true ↔ s.WellFormed := by
  rw [Schema.isValid_iff_unreported]
  constructor
  · intro h
    refine ⟨Schema.tableNameViolations_eq_nil_iff.mp h.tableNames,
      Schema.indexNameViolations_eq_nil_iff.mp h.indexNames, fun m hm => ?_⟩
    exact Model.wellFormed_iff.mpr ⟨h.fieldNames m hm, h.primaryKeys m hm, h.foreignKeys m hm,
      h.indices m hm, h.coverage m hm, h.relationshipNames m hm, h.backReferences m hm,
      h.targets m hm, h.pairs m hm⟩
  · intro h
    have hmodel := fun m hm => Model.wellFormed_iff.mp (h.models m hm)
    exact {
      tableNames := Schema.tableNameViolations_eq_nil_iff.mpr h.tableNames
      indexNames := Schema.indexNameViolations_eq_nil_iff.mpr h.indexNames
      fieldNames := fun m hm => (hmodel m hm).1
      primaryKeys := fun m hm => (hmodel m hm).2.1
      foreignKeys := fun m hm => (hmodel m hm).2.2.1
      indices := fun m hm => (hmodel m hm).2.2.2.1
      coverage := fun m hm => (hmodel m hm).2.2.2.2.1
      relationshipNames := fun m hm => (hmodel m hm).2.2.2.2.2.1
      backReferences := fun m hm => (hmodel m hm).2.2.2.2.2.2.1
      targets := fun m hm => (hmodel m hm).2.2.2.2.2.2.2.1
      pairs := fun m hm => (hmodel m hm).2.2.2.2.2.2.2.2 }

end SchemaLang
