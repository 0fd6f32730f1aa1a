import EspHttpControl.CText.Strtok

/-! JSON documents as a C parser hands them out: strings are C strings, a number carries its
integer value, and a member is looked up by its name without regard to ASCII case.
-/

namespace CText

/-- A parsed JSON document. -/
inductive Json
  | null
  | bool (value : Bool)
  | number (valueint : Int32)
  | string (text : Str)
  | array (items : List Json)
  | object (members : List (Str × Json))

namespace Json

/-- Two names that differ at most in the case of ASCII letters. -/
def sameName (left right : Str) : Bool :=
  left.map Char.toLower == right.map Char.toLower

/-- `cJSON_GetObjectItem`: the first member of that name; only objects have members. -/
def getObjectItem (root : Json) (name : String) : Option Json :=
  match root with
  | .object members => (members.find? fun member => sameName name.toList member.1).map Prod.snd
  | _ => none

/-- `item->valuestring`, NULL for everything but a string. -/
def valuestring : Json → Option Str
  | .string text => some text
  | _ => none

/-- `item->valueint`, 0 for everything but a number. -/
def valueint : Json → Int32
  | .number value => value
  | _ => 0

/-- The item at the end of a path of member names. -/
def getPath (root : Json) (path : List String) : Option Json :=
  path.foldl (fun item name => item.bind (getObjectItem · name)) (some root)

/-- The string at the end of a path of member names. -/
def stringAt (root : Json) (path : List String) : Option Str :=
  (root.getPath path).bind valuestring

theorem sameName_comm (left right : Str) : sameName left right = sameName right left :=
  Bool.beq_comm

/-- No two of the names are the same. -/
def Distinct (names : List Str) : Prop :=
  names.Pairwise fun left right => sameName left right = false

instance (names : List Str) : Decidable (Distinct names) :=
  inferInstanceAs (Decidable (names.Pairwise _))

/-- Among members of different names each is found by its own, by induction on the members. -/
theorem getObjectItem_of_mem {members : List (Str × Json)} {name : String} {v : Json}
    (distinct : Distinct (members.map Prod.fst)) (member : (name.toList, v) ∈ members)
    : (object members).getObjectItem name = some v := by
  induction members with
  | nil => exact absurd member List.not_mem_nil
  | cons first rest ih =>
      obtain ⟨others, distinct⟩ := List.pairwise_cons.mp distinct
      rw [getObjectItem, List.find?_cons]
      rcases List.mem_cons.mp member with rfl | later
      · simp [sameName]
      · rw [sameName_comm, others _ (List.mem_map_of_mem later)]
        exact ih distinct later

/-- A string two levels down, where the names of each level differ. -/
theorem stringAt_pair {members inner : List (Str × Json)} {group name : String} {text : Str}
    (distinct : Distinct (members.map Prod.fst))
    (outside : (group.toList, object inner) ∈ members)
    (distinctInner : Distinct (inner.map Prod.fst)) (inside : (name.toList, string text) ∈ inner)
    : (object members).stringAt [group, name] = some text := by
  simp only [stringAt, getPath, List.foldl_cons, List.foldl_nil, Option.bind_some,
    getObjectItem_of_mem distinct outside, getObjectItem_of_mem distinctInner inside, valuestring]

end Json

end CText
