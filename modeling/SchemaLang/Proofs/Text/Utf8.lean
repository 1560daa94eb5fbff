import SchemaLang.Text.Cut

/-!
# Texts in bytes

A text in its UTF-8 form, and its stretches between two places of that. A character of ASCII is one
byte, and no byte of another character is taken for one.

## Key results

- `utf8EncodeChar_of_ascii`, `not_ascii_of_mem_utf8EncodeChar`: which characters the bytes of a
  character are taken for
- `getLast?_utf8_eq_iff`: the last byte of a text is one of ASCII if the last character is
- `dropBytes?_utf8`, `slice?_utf8`: the stretches of a text are cut out by their places
-/

namespace SchemaLang.Text

/-- The UTF-8 form of a text. -/
def utf8 (s : List Char) : List UInt8 :=
  s.flatMap String.utf8EncodeChar

@[simp] theorem utf8_nil : utf8 [] = [] := rfl

theorem utf8_cons (c : Char) (s : List Char) : utf8 (c :: s) = String.utf8EncodeChar c ++ utf8 s :=
  List.flatMap_cons

theorem utf8_append (s t : List Char) : utf8 (s ++ t) = utf8 s ++ utf8 t :=
  List.flatMap_append

theorem utf8_singleton (c : Char) : utf8 [c] = String.utf8EncodeChar c :=
  List.flatMap_singleton ..

theorem length_utf8_toList (s : String) : (utf8 s.toList).length = s.utf8ByteSize := by
  rw [utf8, ← String.size_toByteArray, ← String.ofList_toList (s := s), String.toByteArray_ofList,
    String.toList_ofList, List.utf8Encode, List.size_toByteArray]

/-! ## The bytes of a character -/

theorem toNat_ofUInt8 (b : UInt8) : (Char.ofUInt8 b).toNat = b.toNat :=
  UInt8.toNat_toUInt32 b

/-- A character of ASCII is one byte, which is read as that character. -/
theorem utf8EncodeChar_of_ascii {c : Char} (h : c.toNat < 0x80) :
    ∃ b, String.utf8EncodeChar c = [b] ∧ Char.ofUInt8 b = c := by
  have hle : c.val.toNat ≤ 127 := Nat.le_of_lt_succ h
  refine ⟨UInt8.ofNat c.val.toNat, if_pos hle, ?_⟩
  rw [← Char.toNat_inj, toNat_ofUInt8, UInt8.toNat_ofNat']
  exact Nat.mod_eq_of_lt (Nat.lt_of_lt_of_le h (by decide))

/-- No byte of another character is read as one of ASCII. -/
theorem not_ascii_of_mem_utf8EncodeChar {c : Char} (h : ¬ c.toNat < 0x80) {b : UInt8}
    (hb : b ∈ String.utf8EncodeChar c) : ¬ (Char.ofUInt8 b).toNat < 0x80 := by
  have hle : ¬ c.val.toNat ≤ 127 := fun hle => h (Nat.lt_succ_of_le hle)
  rw [toNat_ofUInt8]
  simp only [String.utf8EncodeChar, if_neg hle] at hb
  split at hb
  · simp only [List.mem_cons, List.not_mem_nil, or_false] at hb
    rcases hb with rfl | rfl <;> rw [UInt8.toNat_ofNat'] <;> omega
  split at hb
  · simp only [List.mem_cons, List.not_mem_nil, or_false] at hb
    rcases hb with rfl | rfl | rfl <;> rw [UInt8.toNat_ofNat'] <;> omega
  · simp only [List.mem_cons, List.not_mem_nil, or_false] at hb
    rcases hb with rfl | rfl | rfl | rfl <;> rw [UInt8.toNat_ofNat'] <;> omega

theorem utf8EncodeChar_ne_nil (c : Char) : String.utf8EncodeChar c ≠ [] := by
  rw [← List.length_pos_iff, String.length_utf8EncodeChar]
  exact c.utf8Size_pos

/-- The last byte of a text is read as a character of ASCII just if the text ends with that. -/
theorem getLast?_utf8_eq_iff {d : Char} (hd : d.toNat < 0x80) (s : List Char) :
    (utf8 s).getLast?.map Char.ofUInt8 = some d ↔ s.getLast? = some d := by
  rcases List.eq_nil_or_concat s with rfl | ⟨s, c, rfl⟩
  · simp
  have hlast : (utf8 (s ++ [c])).getLast? = (String.utf8EncodeChar c).getLast? := by
    rw [utf8_append, utf8_singleton, List.getLast?_append,
      Option.or_of_isSome (List.getLast?_isSome.mpr (utf8EncodeChar_ne_nil c))]
  rw [List.concat_eq_append, hlast, List.getLast?_concat]
  by_cases hc : c.toNat < 0x80
  · obtain ⟨b, hb, hread⟩ := utf8EncodeChar_of_ascii hc
    rw [hb, List.getLast?_singleton, Option.map_some, hread]
  · have hne : c ≠ d := fun heq => hc (heq ▸ hd)
    refine iff_of_false (fun h => ?_) fun h => hne (Option.some.inj h)
    obtain ⟨b, hb, rfl⟩ := Option.map_eq_some_iff.mp h
    exact not_ascii_of_mem_utf8EncodeChar hc (List.mem_of_getLast? hb) hd

/-! ## Stretches of a text -/

/-- The text in the first `n` bytes of a UTF-8 form, if a character ends there. -/
def takeBytes? : Nat → List Char → Option (List Char)
  | 0, _ => some []
  | _, [] => none
  | n, c :: rest =>
    if c.utf8Size ≤ n then (takeBytes? (n - c.utf8Size) rest).map (c :: ·) else none

/-- The text between two places of a UTF-8 form, if they are in order and none lies behind the end or
    within a character. -/
def slice? (s : List Char) (start stop : Nat) : Option (List Char) :=
  if start ≤ stop then (dropBytes? start s).bind (takeBytes? (stop - start)) else none

/-- A front part is dropped by its size in bytes. -/
theorem dropBytes?_utf8 (front back : List Char) :
    dropBytes? (utf8 front).length (front ++ back) = some back := by
  induction front with
  | nil => simp [dropBytes?]
  | cons c rest ih =>
    have hpos := c.utf8Size_pos
    rw [utf8_cons, List.length_append, String.length_utf8EncodeChar, List.cons_append, dropBytes?,
      if_pos (Nat.le_add_right _ _), Nat.add_sub_cancel_left, ih]
    omega

theorem dropBytes?_utf8ByteSize (front : String) (back : List Char) :
    dropBytes? front.utf8ByteSize (front.toList ++ back) = some back := by
  rw [← length_utf8_toList, dropBytes?_utf8]

/-- And it is taken by that. -/
theorem takeBytes?_utf8 (front back : List Char) :
    takeBytes? (utf8 front).length (front ++ back) = some front := by
  induction front with
  | nil => simp [takeBytes?]
  | cons c rest ih =>
    have hpos := c.utf8Size_pos
    rw [utf8_cons, List.length_append, String.length_utf8EncodeChar, List.cons_append, takeBytes?,
      if_pos (Nat.le_add_right _ _), Nat.add_sub_cancel_left, ih]
    · rfl
    · omega

/-- A stretch of a text is cut out by its places. -/
theorem slice?_utf8 (front middle back : List Char) :
    slice? (front ++ (middle ++ back)) (utf8 front).length (utf8 (front ++ middle)).length =
      some middle := by
  rw [slice?, utf8_append, List.length_append, if_pos (Nat.le_add_right _ _), dropBytes?_utf8,
    Nat.add_sub_cancel_left]
  exact takeBytes?_utf8 middle back

end SchemaLang.Text
