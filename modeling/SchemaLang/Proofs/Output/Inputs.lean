import SchemaLang.Output.Input
import SchemaLang.Proofs.ForStd.Except
import SchemaLang.Proofs.Output.Emission
import SchemaLang.Proofs.Pairing.Fields

/-!
# Inputs and the relationships of their keys

A generator knows the field of a key, but not the relationship that the key has brought about: it
looks for a many-to-one relationship to the same model which names the field, or none. In a valid
schema it finds the right one. If the key is the only one to its target, so is the relationship; if
it is not, all of them name their keys, and no two keys have one name.

## Key results

- `forall₂_foreignKeyFields_edgesAt`: in a valid schema every foreign key field has its edge
- `eq_of_follows`: no other relationship follows the key of a field
- `isInput_of_relatedInput`: an input has the name of the relationship that its key has brought
  about
- `relatedInputs_eq_ok`: so have all inputs of a model
-/

namespace SchemaLang

/-- The edge, one of those of the table `i`, has brought about the many-to-one relationship. -/
def Schema.BroughtAbout (s : Schema) (source : String) (i : Nat) (edge : KeyEdge)
    (key : Relationship) : Prop :=
  ∃ b ∈ Board.bondsOf source, b.edge = edge ∧ b.near.table = i ∧ s.relationshipAt? b.near = some key

/-- The input stands for the foreign key in the place `p` of the model, which is that of the table
    `i`: the relationship that follows its field is found, and it is the one that the edge of the
    field has brought about. It leads to the model that the field references. -/
def Model.IsInput (s : Schema) (source : String) (i : Nat) (m : Model) (p : Nat)
    (input : RelatedInput) : Prop :=
  ∃ edge key column, (Board.edgesAt source i)[p]? = some edge ∧
    (m.relationships.filter (·.isKeyed))[p]? = some key ∧ edge.field = input.field.name ∧
    s.BroughtAbout source i edge key ∧
    m.relationships.find? (follows input.field input.target) = some key ∧
    input.relationship = key.name ∧ key.target = input.target.id ∧
    s.resolveForeignKey? input.field = some (input.target, column)

section Compiled

variable {source : String} {s : Schema} {m : Model} {i : Nat}

/-! ## Edges of a model -/

/-- An edge has brought about the relationship in its own place among those that follow a key. -/
theorem exists_key_of_edge (h : compile source = .ok s) (hm : s.models[i]? = some m) {p : Nat}
    {edge : KeyEdge} (hedge : (Board.edgesAt source i)[p]? = some edge) :
    ∃ t key, s.models[edge.target]? = some t ∧
      (m.relationships.filter (·.isKeyed))[p]? = some key ∧ s.BroughtAbout source i edge key ∧
      key.cardinality = .manyToOne ∧ key.target = t.id ∧ key.foreignKeys = edge.foreignKeys := by
  obtain ⟨o, t, hturn⟩ := Board.exists_turn hedge
  obtain ⟨m', hm', hid⟩ := getElem?_models_of_id h hturn.target
  have hnear : s.relationshipAt? (Board.bond i o t edge).near =
      some ((t.settle o.id edge).2.reverse t.id) := by
    rw [relationshipAt?_compile h, hturn.sides.2.2]
    rfl
  exact ⟨m', _, hm', hturn.getElem?_keyed h hm,
    ⟨_, List.mem_of_getElem? hturn.bond, rfl, rfl, hnear⟩, rfl, hid.symm,
    Board.foreignKeys_settle _ _ _⟩

/-- A many-to-one relationship has been brought about by an edge. -/
theorem exists_edge_of_manyToOne (h : compile source = .ok s) (hm : s.models[i]? = some m)
    {r : Relationship} (hr : r ∈ m.relationships) (hcardinality : r.cardinality = .manyToOne) :
    ∃ (p : Nat) (edge : KeyEdge), (m.relationships.filter (·.isKeyed))[p]? = some r ∧
      (Board.edgesAt source i)[p]? = some edge := by
  have hkeyed : r.isKeyed = true := (isKeyed_iff_manyToOne h hm hr).mpr hcardinality
  obtain ⟨p, hp⟩ := List.mem_iff_getElem?.mp (List.mem_filter.mpr ⟨hr, hkeyed⟩)
  have hlt : p < (Board.edgesAt source i).length := by
    rw [← length_keyed_eq h hm]
    exact (List.getElem?_eq_some_iff.mp hp).1
  exact ⟨p, _, hp, List.getElem?_eq_getElem hlt⟩

/-! ## Edges of a valid model -/

/-- In a valid schema every foreign key field has its edge, in field order, which leads to the model
    that the field references. -/
theorem forall₂_foreignKeyFields_edgesAt (h : compile source = .ok s) (hvalid : s.isValid = true)
    (hm : s.models[i]? = some m) :
    List.Forall₂
      (fun f edge => edge.field = f.name ∧ ∃ t column, s.models[edge.target]? = some t ∧
        s.resolveForeignKey? f = some (t, column))
      m.foreignKeyFields (Board.edgesAt source i) := by
  have htarget : ∀ f ∈ m.foreignKeyFields, ∃ t column, s.resolveForeignKey? f = some (t, column) :=
    fun _ hf => Schema.exists_target_of_isValid hvalid (List.mem_of_getElem? hm) hf
  -- In a valid schema every key names the table of a model.
  have hfields : m.foreignKeyFields = s.keyFields m := by
    refine List.filter_congr fun f hf => ?_
    cases hkey : f.isForeignKey with
    | true =>
      obtain ⟨t, column, hresolve⟩ := htarget f (List.mem_filter.mpr ⟨hf, hkey⟩)
      rw [Schema.keyModel?_of_resolveForeignKey? hresolve, Option.isSome_some]
    | false =>
      rw [Field.isForeignKey, Option.isSome_eq_false_iff, Option.isNone_iff_eq_none] at hkey
      rw [Schema.keyModel?, Field.foreignKeyParts?, hkey]
      rfl
  have hedges := forall₂_keyFields_edgesAt h hm
  rw [← hfields] at hedges
  refine hedges.imp_of_mem_left fun f hf edge hedge => ?_
  obtain ⟨hfield, t, ht, hmodel⟩ := hedge
  obtain ⟨t', column, hresolve⟩ := htarget f hf
  obtain rfl : t = t' :=
    Option.some.inj (ht.symm.trans (Schema.keyModel?_of_resolveForeignKey? hresolve))
  exact ⟨hfield, t, column, hmodel, hresolve⟩

/-- In a valid schema the edges of a table have fields of different names. -/
theorem nodup_field_edgesAt (h : compile source = .ok s) (hvalid : s.isValid = true)
    (hm : s.models[i]? = some m) : ((Board.edgesAt source i).map (·.field)).Nodup := by
  have hnames : (m.fields.map (·.name)).Nodup :=
    Model.fieldNameViolations_eq_nil_iff.mp
      ((Schema.isValid_iff_unreported.mp hvalid).fieldNames m (List.mem_of_getElem? hm))
  have hfields : (Board.edgesAt source i).map (·.field) = m.foreignKeyFields.map (·.name) := by
    rw [← List.forall₂_eq_eq_eq, List.forall₂_map_left_iff, List.forall₂_map_right_iff]
    exact (forall₂_foreignKeyFields_edgesAt h hvalid hm).flip.imp fun _ _ hedge => hedge.1
  rw [hfields]
  exact hnames.sublist (List.filter_sublist.map _)

/-- Nothing but the relationship that the key of a field has brought about follows the field to its
    target. -/
theorem eq_of_follows (h : compile source = .ok s) (hvalid : s.isValid = true)
    (hm : s.models[i]? = some m) {p : Nat} {edge : KeyEdge} {f : Field} {t : Model}
    {key r : Relationship} (hedge : (Board.edgesAt source i)[p]? = some edge)
    (hfield : edge.field = f.name) (ht : s.models[edge.target]? = some t)
    (hkey : (m.relationships.filter (·.isKeyed))[p]? = some key) (hr : r ∈ m.relationships)
    (hfollows : Model.follows f t r = true) : r = key := by
  simp only [Model.follows, Bool.and_eq_true, beq_iff_eq] at hfollows
  obtain ⟨⟨hcardinality, htarget⟩, hcolumns⟩ := hfollows
  obtain ⟨q, edge', hq, hedge'⟩ := exists_edge_of_manyToOne h hm hr hcardinality
  obtain ⟨t', r', ht', hq', -, -, htarget', hcolumns'⟩ := exists_key_of_edge h hm hedge'
  obtain rfl : r = r' := Option.some.inj (hq.symm.trans hq')
  -- Both edges lead to one table, for identifiers are distinct.
  have hsame : edge'.target = edge.target :=
    place_unique_of_compile h ht' ht (htarget'.symm.trans htarget)
  have hplace : q = p := by
    by_cases hshared : edge'.shared = true
    · -- The relationship names its key, and only one key has that name.
      have hname : edge'.field = edge.field := by
        rw [hcolumns', KeyEdge.foreignKeys, if_pos hshared] at hcolumns
        simpa [hfield, eq_comm] using hcolumns
      have hnodup := nodup_field_edgesAt h hvalid hm
      have hlt : q < ((Board.edgesAt source i).map (·.field)).length := by
        rw [List.length_map]
        exact (List.getElem?_eq_some_iff.mp hedge').1
      refine (List.getElem?_inj hlt hnodup).mp ?_
      rw [List.getElem?_map, List.getElem?_map, hedge, hedge', Option.map_some, Option.map_some,
        hname]
    · -- The owner holds one key to the table.
      have honce : (Board.edgesAt source i).countP (·.target == edge'.target) = 1 := by
        by_contra hne
        exact hshared ((Board.shared_iff (List.mem_of_getElem? hedge')).mpr hne)
      exact List.position_unique_of_countP_eq_one (p := fun e : KeyEdge => e.target == edge'.target)
        hedge' hedge (beq_self_eq_true _) (beq_iff_eq.mpr hsame.symm) honce
  rw [hplace, hkey] at hq
  exact (Option.some.inj hq).symm

/-! ## Inputs of a valid model -/

/-- The input for a field has the target of its key, and the relationship that is found. -/
theorem Model.of_relatedInput_eq_ok {f : Field} {input : RelatedInput}
    (h : m.relatedInput s f = .ok input) :
    input.field = f ∧ input.relationship = m.relationshipOf f input.target ∧
      ∃ column, s.resolveForeignKey? f = some (input.target, column) := by
  rw [relatedInput] at h
  cases hresolve : s.resolveForeignKey? f with
  | none =>
    rw [hresolve] at h
    cases h
  | some found =>
    obtain ⟨target, column⟩ := found
    cases hdisplay : target.displayField? with
    | none =>
      simp only [hresolve, hdisplay] at h
      cases h
    | some display =>
      simp only [hresolve, hdisplay] at h
      cases h
      exact ⟨rfl, rfl, column, rfl⟩

/-- The relationship that the key of a field has brought about is found. -/
theorem exists_find?_follows (h : compile source = .ok s) (hvalid : s.isValid = true)
    (hm : s.models[i]? = some m) {p : Nat} {f : Field} (hf : m.foreignKeyFields[p]? = some f)
    {t : Model} {column : Field} (hresolve : s.resolveForeignKey? f = some (t, column)) :
    ∃ edge key, (Board.edgesAt source i)[p]? = some edge ∧
      (m.relationships.filter (·.isKeyed))[p]? = some key ∧ edge.field = f.name ∧
      s.BroughtAbout source i edge key ∧ key.target = t.id ∧
      m.relationships.find? (Model.follows f t) = some key := by
  obtain ⟨edge, hedge, hname, t', column', ht, hresolve'⟩ :=
    (forall₂_foreignKeyFields_edgesAt h hvalid hm).exists_getElem? hf
  obtain ⟨rfl, -⟩ : t' = t ∧ column' = column := by
    simpa using hresolve'.symm.trans hresolve
  obtain ⟨t'', key, ht'', hkey, hbrought, hcardinality, htarget, hcolumns⟩ :=
    exists_key_of_edge h hm hedge
  obtain rfl : t' = t'' := Option.some.inj (ht.symm.trans ht'')
  refine ⟨edge, key, hedge, hkey, hname, hbrought, htarget, ?_⟩
  refine List.find?_eq_some_of_unique (List.mem_filter.mp (List.mem_of_getElem? hkey)).1 ?_
    fun r hr => eq_of_follows h hvalid hm hedge hname ht hkey hr
  -- It names the field, or no field at all.
  rw [Model.follows, hcardinality, htarget, hcolumns, KeyEdge.foreignKeys, hname]
  by_cases hshared : edge.shared = true <;> simp [hshared]

/-- What is made of the foreign key in some place stands for it. -/
theorem isInput_of_relatedInput (h : compile source = .ok s) (hvalid : s.isValid = true)
    (hm : s.models[i]? = some m) {p : Nat} {f : Field} (hf : m.foreignKeyFields[p]? = some f)
    {input : RelatedInput} (hinput : m.relatedInput s f = .ok input) :
    m.IsInput s source i p input := by
  obtain ⟨rfl, hname, column, hresolve⟩ := Model.of_relatedInput_eq_ok hinput
  obtain ⟨edge, key, hedge, hkey, hfield, hbrought, htarget, hfound⟩ :=
    exists_find?_follows h hvalid hm hf hresolve
  rw [Model.relationshipOf, hfound] at hname
  exact ⟨edge, key, column, hedge, hkey, hfield, hbrought, hfound, hname, htarget, hresolve⟩

/-- Inputs that stand for all foreign keys of a valid model offer their rows under distinct names.
    -/
theorem nodup_choices (h : compile source = .ok s) (hvalid : s.isValid = true)
    (hm : s.models[i]? = some m) {inputs : List RelatedInput}
    (hlength : inputs.length = m.foreignKeyFields.length)
    (hinputs : ∀ p input, inputs[p]? = some input → m.IsInput s source i p input) :
    (inputs.map (·.choices)).Nodup := by
  have hkeyed : inputs.length = (m.relationships.filter (·.isKeyed)).length := by
    rw [length_keyed_eq h hm, hlength, (forall₂_foreignKeyFields_edgesAt h hvalid hm).length_eq]
  -- The inputs are named after the relationships that follow a key, one after the other.
  have hnames : inputs.map (·.relationship) =
      (m.relationships.filter (·.isKeyed)).map (·.name) := by
    refine List.ext_getElem? fun p => ?_
    rw [List.getElem?_map, List.getElem?_map]
    cases hinput : inputs[p]? with
    | none =>
      rw [List.getElem?_eq_none_iff, hkeyed, ← List.getElem?_eq_none_iff] at hinput
      rw [hinput]
      rfl
    | some input =>
      obtain ⟨_, key, _, -, hkey, -, -, -, hname, -⟩ := hinputs p input hinput
      rw [hkey, Option.map_some, Option.map_some, hname]
  have hnodup : (m.relationships.map (·.name)).Nodup :=
    (Model.relationshipNameViolations_eq_nil_iff.mp
      ((Schema.isValid_iff_unreported.mp hvalid).relationshipNames m (List.mem_of_getElem? hm))).1
  have hchoices : inputs.map (·.choices) = (inputs.map (·.relationship)).map (· ++ "_choices") := by
    rw [List.map_map]
    rfl
  rw [hchoices, hnames]
  refine (hnodup.sublist (List.filter_sublist.map _)).map fun a b hab => ?_
  exact (String.append_left_inj _).mp hab

/-- Every foreign key of a valid schema becomes an input that has the name of the relationship which
    the key has brought about, and the rows of the model that it references. The names of the rows
    are distinct. -/
theorem relatedInputs_eq_ok (h : compile source = .ok s) (hvalid : s.isValid = true)
    (hm : s.models[i]? = some m) :
    ∃ inputs, m.relatedInputs s = .ok inputs ∧ inputs.map (·.field) = m.foreignKeyFields ∧
      (∀ p input, inputs[p]? = some input → m.IsInput s source i p input) ∧
      (inputs.map (·.choices)).Nodup := by
  obtain ⟨inputs, hinputs⟩ := Model.exists_relatedInputs hvalid (List.mem_of_getElem? hm)
  have hmade := List.forall₂_of_mapM_eq_ok hinputs
  have hfields : inputs.map (·.field) = m.foreignKeyFields := by
    rw [← List.forall₂_eq_eq_eq, List.forall₂_map_left_iff]
    exact hmade.flip.imp fun _ _ hinput => (Model.of_relatedInput_eq_ok hinput).1
  have hall : ∀ p input, inputs[p]? = some input → m.IsInput s source i p input := by
    intro p input hinput
    obtain ⟨f, hf, hmadeInput⟩ := hmade.flip.exists_getElem? hinput
    exact isInput_of_relatedInput h hvalid hm hf hmadeInput
  exact ⟨inputs, hinputs, hfields, hall,
    nodup_choices h hvalid hm hmade.length_eq.symm hall⟩

end Compiled

/-- A table with two references to itself. -/
def wayPorts : String :=
  "table Port \x7b
id Int [pk]
from Int [ref: > Port.id]
to Int [ref: > Port.id]
\x7d"

theorem relatedInputs_wayPorts :
    (Schema.ofChecked wayPorts).isValid = true ∧ ∃ (m : Model) (inputs : List RelatedInput),
      (Schema.ofChecked wayPorts).models[0]? = some m ∧
      m.relatedInputs (Schema.ofChecked wayPorts) = .ok inputs ∧ inputs.length = 2 ∧
      (∀ p input, inputs[p]? = some input →
        m.IsInput (Schema.ofChecked wayPorts) wayPorts 0 p input) := by
  obtain ⟨hchecked, hvalid, hlength⟩ : checkSource wayPorts = .ok () ∧
      (Schema.ofChecked wayPorts).isValid = true ∧
      (Schema.ofChecked wayPorts).models[0]?.map (·.foreignKeyFields.length) = some 2 := by
    decide +kernel
  obtain ⟨m, hm, hkeys⟩ := Option.map_eq_some_iff.mp hlength
  obtain ⟨inputs, hinputs, hfields, hall, -⟩ := relatedInputs_eq_ok
    (compile_eq_ok_iff.mpr ⟨hchecked, rfl⟩) hvalid hm
  have hcount : inputs.length = 2 := by
    rw [← hkeys, ← hfields, List.length_map]
  exact ⟨hvalid, m, inputs, hm, hinputs, hcount, hall⟩

end SchemaLang
