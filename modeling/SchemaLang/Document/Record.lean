import SchemaLang.Json.Plain

/-!
# Reading values by their shape

Small readers for the parts of a document. A record is an object with known keys, none of them
twice, among which others may stand; or it is the array of its values in the order of the keys,
which may end early. A name out of a fixed list is a string, or an object with that one key and
nothing under it.
-/

namespace SchemaLang.Json

/-- A text. -/
def asText? : Json → Option String
  | string text => text
  | _ => none

/-- A truth value. -/
def asBool? : Json → Option Bool
  | bool b => some b
  | _ => none

/-- A whole number of 32 bits, written without sign, point and exponent. -/
def asWord32? : Json → Option UInt32
  | number { negative := false, whole, fraction := [], exponent := none } =>
    Text.word32? (Text.digitsValue whole)
  | _ => none

/-- The elements of an array, each read in the same way. -/
def asArray? {α : Type} (read : Json → Option α) : Json → Option (List α)
  | array elements => elements.mapM read
  | _ => none

/-- A list of texts. -/
def asTexts? : Json → Option (List String) :=
  asArray? asText?

/-- The member with its key, if that is a text. -/
def namedMember? : Option String × Json → Option (String × Json)
  | (some key, v) => some (key, v)
  | (none, _) => none

/-- The members of an object whose keys are all texts. -/
def asMembers? : Json → Option (List (String × Json))
  | object members => members.mapM namedMember?
  | _ => none

/-- The members of an object, each read in the same way together with its key. -/
def asEntries? {α : Type} (read : String → Json → Option α) (v : Json) : Option (List α) := do
  (← v.asMembers?).mapM fun (key, value) => read key value

/-- The value under a key that stands at most once. -/
def valueOf? (members : List (String × Json)) (key : String) : Option (Option Json) :=
  match members.filter (·.1 == key) with
  | [] => some none
  | [(_, v)] => some (some v)
  | _ => none

/-- The values of a record in the order of its keys; those that are not written are missing. -/
def asRecord? (keys : List String) : Json → Option (List (Option Json))
  | array elements =>
    if elements.length ≤ keys.length then
      some (elements.map some ++ List.replicate (keys.length - elements.length) none)
    else none
  | v => do keys.mapM (valueOf? (← v.asMembers?))

/-- The thing of that name out of a list. -/
def asName? {α : Type} (name : α → String) (all : List α) : Json → Option α
  | string (some text) => all.find? (name · == text)
  | object [(some text, null)] => all.find? (name · == text)
  | _ => none

/-- A value that must be there. -/
def required {α : Type} (read : Json → Option α) (v : Option Json) : Option α :=
  v.bind read

/-- A value with a replacement where it is missing. -/
def withDefault {α : Type} (default : α) (read : Json → Option α) : Option Json → Option α
  | some v => read v
  | none => some default

/-- A value that may be missing or null. -/
def nullable {α : Type} (read : Json → Option α) : Option Json → Option (Option α)
  | some null => some none
  | some v => (read v).map some
  | none => some none

end SchemaLang.Json
