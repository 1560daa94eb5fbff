import SchemaLang.Document.Encode
import SchemaLang.Document.Record
import SchemaLang.Proofs.ForStd.Option
import SchemaLang.Proofs.Json.ReadBack

/-!
# Reading back records

A record is written as a row of members, some of which are left out. Reading finds under each key
what was written, and nothing where a member was left out, so that each kind of value is read back
by its own reader.

## Key results

- `asRecord?_ofSlots`: the values of a record are found under its keys
- `asEntries?_record`: entries are read back in order, repeated keys included
- `asArray?_array`, `nullable_map`, `asName?_name`: one lemma for each kind of value
-/

namespace SchemaLang.Json

/-! ## Values -/

@[simp] theorem asText?_text (s : String) : (text s).asText? = some s :=
  rfl

@[simp] theorem asBool?_bool (b : Bool) : (bool b).asBool? = some b :=
  rfl

@[simp] theorem asWord32?_nat (w : UInt32) : (nat w.toNat).asWord32? = some w := by
  have hvalue : Text.digitsValue (Nat.toDigits 10 w.toNat) = w.toNat :=
    Nat.ofDigitChars_ten_toDigits
  show Text.word32? (Text.digitsValue (Nat.toDigits 10 w.toNat)) = some w
  rw [hvalue, Text.word32?_eq_some_iff]

/-- An array is read back if its elements are. -/
theorem asArray?_array {α : Type} {write : α → Json} {read : Json → Option α} {l : List α}
    (h : ∀ x ∈ l, read (write x) = some x) : (array (l.map write)).asArray? read = some l :=
  List.mapM_map_eq_some h

@[simp] theorem asTexts?_texts (l : List String) : (texts l).asTexts? = some l :=
  asArray?_array fun s _ => asText?_text s

/-- A name out of a list of distinct names is read back. -/
theorem asName?_name {α : Type} {name : α → String} {all : List α} {x : α}
    (h : all.find? (name · == name x) = some x) : (text (name x)).asName? name all = some x :=
  h

/-- A value that may be missing is read back, if it is not written as null. -/
theorem nullable_map {α : Type} {write : α → Json} {read : Json → Option α} {value : Option α}
    (hnull : ∀ x, write x ≠ null) (h : ∀ x, read (write x) = some x) :
    nullable read (value.map write) = some value := by
  cases value with
  | none => rfl
  | some x =>
    rw [Option.map_some, nullable, h, Option.map_some]
    exact hnull x

@[simp] theorem required_some {α : Type} (read : Json → Option α) (v : Json) :
    required read (some v) = read v :=
  rfl

@[simp] theorem withDefault_some {α : Type} (default : α) (read : Json → Option α) (v : Json) :
    withDefault default read (some v) = read v :=
  rfl

/-! ## Objects -/

theorem asMembers?_record (members : List (String × Json)) :
    (record members).asMembers? = some members :=
  List.mapM_map_eq_some fun _ _ => rfl

/-- Entries are read back in order if each of them is. -/
theorem asEntries?_record {α : Type} {write : α → String × Json} {read : String → Json → Option α}
    {l : List α} (h : ∀ x ∈ l, read (write x).1 (write x).2 = some x) :
    (record (l.map write)).asEntries? read = some l := by
  rw [asEntries?, asMembers?_record]
  exact List.mapM_map_eq_some h

/-- The members of a record of which some are left out. -/
def ofSlots (slots : List (String × Option Json)) : List (String × Json) :=
  slots.flatMap fun slot => optional slot.1 slot.2

/-- What is not left out of a record must be well-formed. -/
theorem wellFormed_ofSlots {slots : List (String × Option Json)}
    (h : ∀ slot ∈ slots, ∀ v, slot.2 = some v → v.WellFormed) :
    (record (ofSlots slots)).WellFormed := by
  rw [wellFormed_record_iff]
  intro m hm
  obtain ⟨⟨key, value⟩, hslot, hm⟩ := List.mem_flatMap.mp hm
  cases value with
  | none => cases hm
  | some v =>
    obtain rfl := List.mem_singleton.mp hm
    exact h _ hslot v rfl

/-- A flag is left out where it is false. -/
theorem flag_eq_optional (key : String) (value : Bool) :
    flag key value = optional key (if value then some (bool true) else none) := by
  cases value <;> rfl

/-- A flag is read back. -/
theorem withDefault_flag (value : Bool) :
    withDefault false asBool? (if value then some (bool true) else none) = some value := by
  cases value <;> rfl

private theorem filter_optional (key name : String) (value : Option Json) :
    (optional name value).filter (·.1 == key) = if name = key then optional name value else [] := by
  cases value with
  | none => simp [optional]
  | some v =>
    by_cases hkey : name = key
    · simp [optional, hkey]
    · simp [optional, hkey]

/-- The members under a key that is not among those of a record. -/
private theorem filter_ofSlots_eq_nil {slots : List (String × Option Json)} {key : String}
    (h : key ∉ slots.map (·.1)) : (ofSlots slots).filter (·.1 == key) = [] := by
  rw [ofSlots, List.filter_flatMap, List.flatMap_eq_nil_iff]
  intro slot hslot
  have hne : slot.1 ≠ key := fun heq => h (heq ▸ List.mem_map_of_mem hslot)
  rw [filter_optional, if_neg hne]

/-- The members under a key of a record. -/
private theorem filter_ofSlots {slots : List (String × Option Json)}
    (h : (slots.map (·.1)).Nodup) {slot : String × Option Json} (hslot : slot ∈ slots) :
    (ofSlots slots).filter (·.1 == slot.1) = optional slot.1 slot.2 := by
  induction slots with
  | nil => cases hslot
  | cons first rest ih =>
    obtain ⟨hfirst, hrest⟩ := List.nodup_cons.mp h
    rw [ofSlots, List.flatMap_cons, List.filter_append, filter_optional, ← ofSlots]
    rcases List.mem_cons.mp hslot with rfl | hslot
    · rw [if_pos rfl, filter_ofSlots_eq_nil hfirst, List.append_nil]
    · have hne : first.1 ≠ slot.1 := fun heq => hfirst (List.mem_map.mpr ⟨slot, hslot, heq.symm⟩)
      rw [if_neg hne, List.nil_append, ih hrest hslot]

/-- The values of a record are found under its keys. -/
theorem asRecord?_ofSlots {keys : List String} {slots : List (String × Option Json)}
    (hkeys : slots.map (·.1) = keys) (h : keys.Nodup) :
    (record (ofSlots slots)).asRecord? keys = some (slots.map (·.2)) := by
  subst hkeys
  have hvalue : ∀ slot ∈ slots, valueOf? (ofSlots slots) slot.1 = some slot.2 := by
    intro slot hslot
    rw [valueOf?, filter_ofSlots h hslot]
    cases slot.2 <;> rfl
  show ((record (ofSlots slots)).asMembers?.bind fun members =>
    (slots.map (·.1)).mapM (valueOf? members)) = _
  rw [asMembers?_record, Option.bind_some, List.mapM_map]
  exact List.mapM_eq_some_map hvalue

end SchemaLang.Json
