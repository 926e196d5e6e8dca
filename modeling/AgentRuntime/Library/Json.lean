import Mathlib.Data.List.Infix
import Mathlib.Data.Rat.Defs

/-!
# JSON values

The values a JSON text decodes to, with decidable equality. A column that holds a JSON text is
modelled by the value the text encodes; an object keeps its fields in the order they were
written, as a decoded Python dictionary does. `Json.get?` is `dict.get`.
-/

set_option autoImplicit false
set_option relaxedAutoImplicit false

namespace AgentRuntime.Library

/-- A decoded JSON value. Integers and other numbers are kept apart, as `json.loads` does. -/
inductive Json where
  | null
  | bool (value : Bool)
  | int (value : Int)
  | number (value : Rat)
  | str (value : String)
  | arr (items : List Json)
  | obj (fields : List (String × Json))

/-- A JSON object as a dictionary: its fields in order. -/
abbrev Payload : Type := List (String × Json)

namespace Json

mutual

/-- Equality of two values is decidable. -/
def decEq : (left right : Json) → Decidable (left = right)
  | .null, .null => isTrue rfl
  | .bool a, .bool b => decidable_of_iff (a = b) (by simp)
  | .int a, .int b => decidable_of_iff (a = b) (by simp)
  | .number a, .number b => decidable_of_iff (a = b) (by simp)
  | .str a, .str b => decidable_of_iff (a = b) (by simp)
  | .arr a, .arr b =>
    match decEqItems a b with
    | isTrue heq => isTrue (by rw [heq])
    | isFalse hne => isFalse (by simpa using hne)
  | .obj a, .obj b =>
    match decEqFields a b with
    | isTrue heq => isTrue (by rw [heq])
    | isFalse hne => isFalse (by simpa using hne)
  | .null, .bool _ | .null, .int _ | .null, .number _ | .null, .str _ | .null, .arr _
  | .null, .obj _ | .bool _, .null | .bool _, .int _ | .bool _, .number _ | .bool _, .str _
  | .bool _, .arr _ | .bool _, .obj _ | .int _, .null | .int _, .bool _ | .int _, .number _
  | .int _, .str _ | .int _, .arr _ | .int _, .obj _ | .number _, .null | .number _, .bool _
  | .number _, .int _ | .number _, .str _ | .number _, .arr _ | .number _, .obj _
  | .str _, .null | .str _, .bool _ | .str _, .int _ | .str _, .number _ | .str _, .arr _
  | .str _, .obj _ | .arr _, .null | .arr _, .bool _ | .arr _, .int _ | .arr _, .number _
  | .arr _, .str _ | .arr _, .obj _ | .obj _, .null | .obj _, .bool _ | .obj _, .int _
  | .obj _, .number _ | .obj _, .str _ | .obj _, .arr _ => isFalse (by simp)

/-- Equality of two arrays is decidable. -/
def decEqItems : (left right : List Json) → Decidable (left = right)
  | [], [] => isTrue rfl
  | [], _ :: _ => isFalse (by simp)
  | _ :: _, [] => isFalse (by simp)
  | a :: as, b :: bs =>
    match decEq a b, decEqItems as bs with
    | isTrue hhead, isTrue htail => isTrue (by rw [hhead, htail])
    | isFalse hhead, _ => isFalse fun heq ↦ hhead (List.cons.inj heq).1
    | _, isFalse htail => isFalse fun heq ↦ htail (List.cons.inj heq).2

/-- Equality of two lists of fields is decidable. -/
def decEqFields : (left right : List (String × Json)) → Decidable (left = right)
  | [], [] => isTrue rfl
  | [], _ :: _ => isFalse (by simp)
  | _ :: _, [] => isFalse (by simp)
  | (k, a) :: as, (l, b) :: bs =>
    match decEq a b, decEqFields as bs, (inferInstance : Decidable (k = l)) with
    | isTrue hhead, isTrue htail, isTrue hkey => isTrue (by rw [hhead, htail, hkey])
    | isFalse hhead, _, _ => isFalse fun heq ↦ hhead (Prod.mk.inj (List.cons.inj heq).1).2
    | _, isFalse htail, _ => isFalse fun heq ↦ htail (List.cons.inj heq).2
    | _, _, isFalse hkey => isFalse fun heq ↦ hkey (Prod.mk.inj (List.cons.inj heq).1).1

end

instance : DecidableEq Json := decEq

/-- The value of an optional column: absent is `null`. -/
def ofOption {α : Type} (encode : α → Json) : Option α → Json
  | none => .null
  | some value => encode value

/-- A natural number as a JSON integer. -/
def nat (value : Nat) : Json := .int value

/-- `value == integer` of Python, where `True` and `1.0` equal `1`. -/
def eqInt : Json → Int → Bool
  | .int value, integer => value == integer
  | .number value, integer => value == integer
  | .bool value, integer => integer == if value then 1 else 0
  | _, _ => false

/-- `value == expected` for an integer or `None`. -/
def eqOptionNat (value : Json) : Option Nat → Bool
  | none => value == .null
  | some expected => value.eqInt expected

/-- `value == expected` for a text or `None`. -/
def eqOptionText (value : Json) : Option String → Bool
  | none => value == .null
  | some expected => value == .str expected

/-- Insert a field into fields sorted by key. -/
def insertField (field : String × Json) : List (String × Json) → List (String × Json)
  | [] => [field]
  | head :: rest =>
    if field.1 ≤ head.1 then field :: head :: rest else head :: insertField field rest

mutual

/-- The value with the keys of every object sorted, as `json.dumps(…, sort_keys=True)` writes it. -/
def sortKeys : Json → Json
  | .arr items => .arr (sortKeysItems items)
  | .obj fields => .obj (sortKeysFields fields)
  | value => value

/-- `sortKeys` on every item of an array. -/
def sortKeysItems : List Json → List Json
  | [] => []
  | item :: rest => sortKeys item :: sortKeysItems rest

/-- `sortKeys` on every field, and the fields sorted by key. -/
def sortKeysFields : List (String × Json) → List (String × Json)
  | [] => []
  | (key, value) :: rest => insertField (key, sortKeys value) (sortKeysFields rest)

end

theorem insertField_of_le {field : String × Json} {fields : List (String × Json)}
    (hle : ∀ other ∈ fields, field.1 ≤ other.1) : insertField field fields = field :: fields := by
  cases fields with
  | nil => rfl
  | cons head rest => exact if_pos (hle head List.mem_cons_self)

theorem mem_insertField {field other : String × Json} {fields : List (String × Json)} :
    other ∈ insertField field fields ↔ other = field ∨ other ∈ fields := by
  induction fields with
  | nil => simp [insertField]
  | cons head rest ih =>
    unfold insertField
    split_ifs
    · simp
    · simp only [List.mem_cons, ih]
      tauto

theorem sorted_insertField {field : String × Json} {fields : List (String × Json)}
    (hsorted : fields.Pairwise fun left right ↦ left.1 ≤ right.1) :
    (insertField field fields).Pairwise fun left right ↦ left.1 ≤ right.1 := by
  induction fields with
  | nil => simp [insertField]
  | cons head rest ih =>
    obtain ⟨hhead, hrest⟩ := List.pairwise_cons.mp hsorted
    unfold insertField
    split_ifs with hle
    · refine List.pairwise_cons.mpr ⟨fun other hmem ↦ ?_, hsorted⟩
      rcases List.mem_cons.mp hmem with rfl | hmem
      · exact hle
      · exact String.le_trans hle (hhead other hmem)
    · refine List.pairwise_cons.mpr ⟨fun other hmem ↦ ?_, ih hrest⟩
      rcases mem_insertField.mp hmem with rfl | hmem
      · exact (String.le_total other.1 head.1).resolve_left hle
      · exact hhead other hmem

theorem sorted_sortKeysFields (fields : List (String × Json)) :
    (sortKeysFields fields).Pairwise fun left right ↦ left.1 ≤ right.1 := by
  induction fields with
  | nil => exact .nil
  | cons head rest ih => exact sorted_insertField ih

/-- Sorted fields with sorted values stay as they are. -/
theorem sortKeysFields_of_sorted {fields : List (String × Json)}
    (hsorted : fields.Pairwise fun left right ↦ left.1 ≤ right.1)
    (hvalues : ∀ field ∈ fields, sortKeys field.2 = field.2) : sortKeysFields fields = fields := by
  induction fields with
  | nil => rfl
  | cons head rest ih =>
    obtain ⟨hhead, hrest⟩ := List.pairwise_cons.mp hsorted
    have htail := ih hrest fun field hmem ↦ hvalues field (List.mem_cons_of_mem _ hmem)
    change insertField (head.1, sortKeys head.2) (sortKeysFields rest) = head :: rest
    rw [htail, hvalues head List.mem_cons_self]
    exact insertField_of_le hhead

mutual

/-- Sorting the keys twice is sorting them once. -/
theorem sortKeys_sortKeys : (value : Json) → sortKeys (sortKeys value) = sortKeys value
  | .null | .bool _ | .int _ | .number _ | .str _ => rfl
  | .arr items => congrArg Json.arr (sortKeysItems_sortKeysItems items)
  | .obj fields => congrArg Json.obj
      (sortKeysFields_of_sorted (sorted_sortKeysFields fields) (sortKeysFields_values fields))

theorem sortKeysItems_sortKeysItems :
    (items : List Json) → sortKeysItems (sortKeysItems items) = sortKeysItems items
  | [] => rfl
  | item :: rest => congrArg₂ List.cons (sortKeys_sortKeys item) (sortKeysItems_sortKeysItems rest)

theorem sortKeysFields_values : (fields : List (String × Json)) →
    ∀ field ∈ sortKeysFields fields, sortKeys field.2 = field.2
  | [], _, hmem => by cases hmem
  | (key, value) :: rest, field, hmem => by
    rcases mem_insertField.mp hmem with rfl | hmem
    · exact sortKeys_sortKeys value
    · exact sortKeysFields_values rest field hmem

end

/-- The number that Python compares by, where `True` is `1`. -/
def numeric : Json → Option Rat
  | .bool value => some (if value then 1 else 0)
  | .int value => some value
  | .number value => some value
  | _ => none

/-- The value under a key of a list of fields. -/
def lookup (fields : List (String × Json)) (key : String) : Option Json :=
  (fields.find? fun field ↦ field.1 = key).map Prod.snd

mutual

/-- `left == right` of Python: dictionaries compare without order, numbers by value. -/
def pyEq : Json → Json → Bool
  | .null, right => right == .null
  | .str value, right => right == .str value
  | .arr items, .arr others => pyEqItems items others
  | .obj fields, .obj others => fields.length == others.length && pyEqFields fields others
  | .bool value, right => right.numeric == some (if value then 1 else 0)
  | .int value, right => right.numeric == some (value : Rat)
  | .number value, right => right.numeric == some value
  | .arr _, _ | .obj _, _ => false

/-- `pyEq` on two arrays. -/
def pyEqItems : List Json → List Json → Bool
  | [], [] => true
  | item :: rest, other :: others => pyEq item other && pyEqItems rest others
  | _, _ => false

/-- Every field has an equal field under its key. -/
def pyEqFields : List (String × Json) → List (String × Json) → Bool
  | [], _ => true
  | (key, value) :: rest, others =>
    (match lookup others key with
      | some other => pyEq value other
      | none => false) && pyEqFields rest others

end

mutual

/-- No object inside the value has a key twice: the value is one that a Python object can be. -/
def Proper : Json → Prop
  | .arr items => ProperItems items
  | .obj fields => (fields.map Prod.fst).Nodup ∧ ProperFields fields
  | _ => True

/-- `Proper` on every item of an array. -/
def ProperItems : List Json → Prop
  | [] => True
  | item :: rest => Proper item ∧ ProperItems rest

/-- `Proper` on every value of an object. -/
def ProperFields : List (String × Json) → Prop
  | [] => True
  | (_, value) :: rest => Proper value ∧ ProperFields rest

end

/-- Keys that do not repeat are found where they stand. -/
theorem lookup_of_mem {fields : List (String × Json)} {key : String} {value : Json}
    (hdistinct : (fields.map Prod.fst).Nodup) (hmem : (key, value) ∈ fields) :
    lookup fields key = some value := by
  induction fields with
  | nil => cases hmem
  | cons head rest ih =>
    obtain ⟨hhead, hrest⟩ := List.nodup_cons.mp hdistinct
    unfold lookup
    by_cases hkey : head.1 = key
    · rw [List.find?_cons_of_pos (by simpa using hkey)]
      rcases List.mem_cons.mp hmem with rfl | hmem
      · rfl
      · exact absurd (List.mem_map_of_mem hmem) (hkey ▸ hhead)
    · rw [List.find?_cons_of_neg (by simpa using hkey)]
      rcases List.mem_cons.mp hmem with rfl | hmem
      · exact absurd rfl hkey
      · exact ih hrest hmem

theorem proper_of_mem {fields : List (String × Json)} {key : String} {value : Json}
    (hproper : ProperFields fields) (hmem : (key, value) ∈ fields) : value.Proper := by
  induction fields with
  | nil => cases hmem
  | cons head rest ih =>
    rcases List.mem_cons.mp hmem with rfl | hmem
    · exact hproper.1
    · exact ih hproper.2 hmem

mutual

/-- A proper value equals itself. -/
theorem pyEq_self : (value : Json) → value.Proper → value.pyEq value = true
  | .null, _ | .bool _, _ | .int _, _ | .number _, _ | .str _, _ => by simp [pyEq, numeric]
  | .arr items, hproper => by
    rw [pyEq]
    exact pyEqItems_self items hproper
  | .obj fields, hproper => by
    rw [pyEq, beq_self_eq_true, Bool.true_and]
    exact pyEqFields_of_mem fields fields hproper.2 fun key value hmem ↦
      lookup_of_mem hproper.1 hmem

theorem pyEqItems_self : (items : List Json) → ProperItems items → pyEqItems items items = true
  | [], _ => by rw [pyEqItems]
  | item :: rest, hproper => by
    rw [pyEqItems, pyEq_self item hproper.1, pyEqItems_self rest hproper.2, Bool.and_self]

theorem pyEqFields_of_mem : (fields others : List (String × Json)) → ProperFields fields →
    (∀ key value, (key, value) ∈ fields → lookup others key = some value) →
    pyEqFields fields others = true
  | [], _, _, _ => by rw [pyEqFields]
  | (key, value) :: rest, others, hproper, hlookup => by
    have hrest := pyEqFields_of_mem rest others hproper.2
      fun key value hmem ↦ hlookup key value (List.mem_cons_of_mem _ hmem)
    rw [pyEqFields, hlookup key value List.mem_cons_self, hrest]
    simpa using pyEq_self value hproper.1

end

/-- `text in candidate` for two texts. -/
def textContains (candidate text : String) : Bool :=
  decide (text.toList <:+: candidate.toList)

mutual

/-- Some text inside the value, keys included, contains the given one. -/
def containsText : Json → String → Bool
  | .str value, text => textContains value text
  | .arr items, text => containsTextItems items text
  | .obj fields, text => containsTextFields fields text
  | _, _ => false

/-- `containsText` on some item. -/
def containsTextItems : List Json → String → Bool
  | [], _ => false
  | item :: rest, text => containsText item text || containsTextItems rest text

/-- `containsText` on some field. -/
def containsTextFields : List (String × Json) → String → Bool
  | [], _ => false
  | (key, value) :: rest, text =>
    textContains key text || containsText value text || containsTextFields rest text

end

/-! ### Sorted keys -/

theorem map_fst_insertField_perm (field : String × Json) (fields : List (String × Json)) :
    (insertField field fields).Perm (field :: fields) := by
  induction fields with
  | nil => exact .refl _
  | cons head rest ih =>
    unfold insertField
    split_ifs
    · exact .refl _
    · exact (ih.cons head).trans (.swap field head rest)

theorem keys_sortKeysFields_perm (fields : List (String × Json)) :
    ((sortKeysFields fields).map Prod.fst).Perm (fields.map Prod.fst) := by
  induction fields with
  | nil => exact .refl _
  | cons head rest ih =>
    obtain ⟨key, value⟩ := head
    have hinsert := map_fst_insertField_perm (key, sortKeys value) (sortKeysFields rest)
    exact (hinsert.map Prod.fst).trans (ih.cons key)

theorem mem_sortKeysFields_of_mem {fields : List (String × Json)} {key : String} {value : Json}
    (hmem : (key, value) ∈ fields) : (key, sortKeys value) ∈ sortKeysFields fields := by
  induction fields with
  | nil => cases hmem
  | cons head rest ih =>
    obtain ⟨other, item⟩ := head
    rcases List.mem_cons.mp hmem with heq | hmem
    · obtain ⟨rfl, rfl⟩ := Prod.mk.inj heq
      exact mem_insertField.mpr (.inl rfl)
    · exact mem_insertField.mpr (.inr (ih hmem))

/-- A dictionary with sorted keys has the sorted values under its keys. -/
theorem lookup_sortKeysFields {fields : List (String × Json)}
    (hdistinct : (fields.map Prod.fst).Nodup) (key : String) :
    lookup (sortKeysFields fields) key = (lookup fields key).map sortKeys := by
  have hsorted : ((sortKeysFields fields).map Prod.fst).Nodup :=
    (keys_sortKeysFields_perm fields).nodup_iff.mpr hdistinct
  by_cases hkey : key ∈ fields.map Prod.fst
  · obtain ⟨⟨_, value⟩, hmem, rfl⟩ := List.mem_map.mp hkey
    rw [lookup_of_mem hdistinct hmem, lookup_of_mem hsorted (mem_sortKeysFields_of_mem hmem)]
    rfl
  · have habsent {others : List (String × Json)} (hothers : key ∉ others.map Prod.fst) :
        lookup others key = none := by
      unfold lookup
      rw [List.find?_eq_none.mpr]
      · rfl
      · intro field hmem hfield
        exact hothers (List.mem_map.mpr ⟨field, hmem, by simpa using hfield⟩)
    have hsortedKey : key ∉ (sortKeysFields fields).map Prod.fst := by
      rwa [(keys_sortKeysFields_perm fields).mem_iff]
    rw [habsent hkey, habsent hsortedKey]
    rfl

mutual

/-- A proper value equals itself with sorted keys. -/
theorem pyEq_sortKeys : (value : Json) → value.Proper → value.pyEq value.sortKeys = true
  | .null, _ | .bool _, _ | .int _, _ | .number _, _ | .str _, _ => by
    simp [pyEq, numeric, sortKeys]
  | .arr items, hproper => by
    rw [sortKeys, pyEq]
    exact pyEqItems_sortKeys items hproper
  | .obj fields, hproper => by
    have hlength : fields.length = (sortKeysFields fields).length := by
      simpa using (keys_sortKeysFields_perm fields).length_eq.symm
    rw [sortKeys, pyEq, hlength, beq_self_eq_true, Bool.true_and]
    refine pyEqFields_sortKeys fields _ hproper.2 fun key value hmem ↦ ?_
    rw [lookup_sortKeysFields hproper.1, lookup_of_mem hproper.1 hmem]
    rfl

theorem pyEqItems_sortKeys :
    (items : List Json) → ProperItems items → pyEqItems items (sortKeysItems items) = true
  | [], _ => by rw [sortKeysItems, pyEqItems]
  | item :: rest, hproper => by
    rw [sortKeysItems, pyEqItems, pyEq_sortKeys item hproper.1,
      pyEqItems_sortKeys rest hproper.2, Bool.and_self]

theorem pyEqFields_sortKeys : (fields others : List (String × Json)) → ProperFields fields →
    (∀ key value, (key, value) ∈ fields → lookup others key = some (sortKeys value)) →
    pyEqFields fields others = true
  | [], _, _, _ => by rw [pyEqFields]
  | (key, value) :: rest, others, hproper, hlookup => by
    have hrest := pyEqFields_sortKeys rest others hproper.2
      fun key value hmem ↦ hlookup key value (List.mem_cons_of_mem _ hmem)
    rw [pyEqFields, hlookup key value List.mem_cons_self, hrest]
    simpa using pyEq_sortKeys value hproper.1

end

theorem containsTextFields_insertField (field : String × Json) (fields : List (String × Json))
    (text : String) :
    containsTextFields (insertField field fields) text =
      (textContains field.1 text || containsText field.2 text ||
        containsTextFields fields text) := by
  induction fields with
  | nil => rfl
  | cons head rest ih =>
    unfold insertField
    split_ifs
    · rfl
    · rw [containsTextFields, ih, containsTextFields]
      cases textContains head.1 text <;> cases containsText head.2 text <;>
        cases textContains field.1 text <;> cases containsText field.2 text <;> rfl

mutual

/-- Sorting keys neither adds nor removes a text. -/
theorem containsText_sortKeys :
    (value : Json) → (text : String) → containsText (sortKeys value) text = containsText value text
  | .null, _ | .bool _, _ | .int _, _ | .number _, _ | .str _, _ => rfl
  | .arr items, text => containsTextItems_sortKeys items text
  | .obj fields, text => containsTextFields_sortKeys fields text

theorem containsTextItems_sortKeys : (items : List Json) → (text : String) →
    containsTextItems (sortKeysItems items) text = containsTextItems items text
  | [], _ => rfl
  | item :: rest, text => by
    rw [sortKeysItems, containsTextItems, containsText_sortKeys item text,
      containsTextItems_sortKeys rest text, containsTextItems]

theorem containsTextFields_sortKeys : (fields : List (String × Json)) → (text : String) →
    containsTextFields (sortKeysFields fields) text = containsTextFields fields text
  | [], _ => rfl
  | (key, value) :: rest, text => by
    rw [sortKeysFields, containsTextFields_insertField, containsText_sortKeys value text,
      containsTextFields_sortKeys rest text, containsTextFields]

end

/-! ### A text for every value -/

/-- A text before the given characters, with a mark before each of its characters and at its end. -/
def writeText (text rest : List Char) : List Char :=
  text.foldr (fun character written ↦ '.' :: character :: written) (';' :: rest)

/-- A natural number before the given characters, in unary. -/
def writeNat : Nat → List Char → List Char
  | 0, rest => ';' :: rest
  | value + 1, rest => '|' :: writeNat value rest

/-- An integer before the given characters. -/
def writeInt : Int → List Char → List Char
  | .ofNat value, rest => '+' :: writeNat value rest
  | .negSucc value, rest => '-' :: writeNat value rest

mutual

/-- A value before the given characters: one mark says which kind of value it is. -/
def write : Json → List Char → List Char
  | .null, rest => 'n' :: rest
  | .bool false, rest => 'f' :: rest
  | .bool true, rest => 't' :: rest
  | .int value, rest => 'i' :: writeInt value rest
  | .number value, rest => 'q' :: writeInt value.num (writeNat value.den rest)
  | .str value, rest => 's' :: writeText value.toList rest
  | .arr items, rest => 'a' :: writeItems items rest
  | .obj fields, rest => 'o' :: writeFields fields rest

/-- `write` on every item of an array. -/
def writeItems : List Json → List Char → List Char
  | [], rest => ';' :: rest
  | item :: items, rest => ',' :: write item (writeItems items rest)

/-- `write` on every field of an object. -/
def writeFields : List (String × Json) → List Char → List Char
  | [], rest => ';' :: rest
  | (key, value) :: fields, rest =>
    ',' :: writeText key.toList (write value (writeFields fields rest))

end

/-- The characters of the value. -/
def encode (value : Json) : String := String.ofList (write value [])

@[simp] theorem writeText_inj (left right rest other : List Char) :
    writeText left rest = writeText right other ↔ left = right ∧ rest = other := by
  unfold writeText
  induction left generalizing right with
  | nil => cases right <;> simp
  | cons head tail ih =>
    cases right with
    | nil => simp
    | cons first others => simp [ih others, and_assoc]

@[simp] theorem writeNat_inj (left right : Nat) (rest other : List Char) :
    writeNat left rest = writeNat right other ↔ left = right ∧ rest = other := by
  induction left generalizing right with
  | zero => cases right <;> simp [writeNat]
  | succ left ih =>
    cases right with
    | zero => simp [writeNat]
    | succ right => simp [writeNat, ih right]

@[simp] theorem writeInt_inj (left right : Int) (rest other : List Char) :
    writeInt left rest = writeInt right other ↔ left = right ∧ rest = other := by
  cases left with
  | ofNat left =>
    cases right with
    | ofNat right =>
      rw [writeInt, writeInt, Int.ofNat.injEq, List.cons_inj_right]
      exact writeNat_inj left right rest other
    | negSucc right => simp [writeInt]
  | negSucc left => cases right <;> simp [writeInt]

mutual

/-- A value and what follows it can be told apart again. -/
theorem write_inj : (left right : Json) → (rest other : List Char) →
    write left rest = write right other → left = right ∧ rest = other
  | .null, right, rest, other, heq => by
    rcases right with _ | (_ | _) | _ | _ | _ | _ | _ <;> simp_all [write]
  | .bool false, right, rest, other, heq => by
    rcases right with _ | (_ | _) | _ | _ | _ | _ | _ <;> simp_all [write]
  | .bool true, right, rest, other, heq => by
    rcases right with _ | (_ | _) | _ | _ | _ | _ | _ <;> simp_all [write]
  | .int value, right, rest, other, heq => by
    rcases right with _ | (_ | _) | _ | _ | _ | _ | _ <;> simp_all [write]
  | .number value, right, rest, other, heq => by
    rcases right with _ | (_ | _) | _ | right | _ | _ | _ <;> try simp [write] at heq
    exact ⟨by rw [Rat.ext heq.1 heq.2.1], heq.2.2⟩
  | .str value, right, rest, other, heq => by
    rcases right with _ | (_ | _) | _ | _ | _ | _ | _ <;> simp_all [write, String.toList_inj]
  | .arr items, right, rest, other, heq => by
    rcases right with _ | (_ | _) | _ | _ | _ | others | _ <;> try simp [write] at heq
    obtain ⟨hitems, hrest⟩ := writeItems_inj items others rest other heq
    exact ⟨by rw [hitems], hrest⟩
  | .obj fields, right, rest, other, heq => by
    rcases right with _ | (_ | _) | _ | _ | _ | _ | others <;> try simp [write] at heq
    obtain ⟨hfields, hrest⟩ := writeFields_inj fields others rest other heq
    exact ⟨by rw [hfields], hrest⟩

theorem writeItems_inj : (left right : List Json) → (rest other : List Char) →
    writeItems left rest = writeItems right other → left = right ∧ rest = other
  | [], right, rest, other, heq => by cases right <;> simp_all [writeItems]
  | item :: items, right, rest, other, heq => by
    cases right with
    | nil => simp [writeItems] at heq
    | cons first others =>
      simp only [writeItems, List.cons.injEq, true_and] at heq
      obtain ⟨hitem, hlater⟩ := write_inj item first _ _ heq
      obtain ⟨hitems, hrest⟩ := writeItems_inj items others rest other hlater
      exact ⟨by rw [hitem, hitems], hrest⟩

theorem writeFields_inj : (left right : List (String × Json)) → (rest other : List Char) →
    writeFields left rest = writeFields right other → left = right ∧ rest = other
  | [], right, rest, other, heq => by cases right <;> simp_all [writeFields]
  | (key, value) :: fields, right, rest, other, heq => by
    cases right with
    | nil => simp [writeFields] at heq
    | cons first others =>
      simp only [writeFields, List.cons.injEq, true_and, writeText_inj, String.toList_inj] at heq
      obtain ⟨hvalue, hlater⟩ := write_inj value first.2 _ _ heq.2
      obtain ⟨hfields, hrest⟩ := writeFields_inj fields others rest other hlater
      exact ⟨by rw [heq.1, hvalue, hfields], hrest⟩

end

theorem encode_injective : Function.Injective encode := by
  intro left right heq
  exact (write_inj left right [] [] (String.ofList_injective heq)).1

end Json

namespace Payload

/-- `payload.get(key)`: the value under a key. -/
def get? (payload : Payload) (key : String) : Option Json :=
  Json.lookup payload key

/-- `payload.get(key)` where a missing key reads as `None`. -/
def getD (payload : Payload) (key : String) : Json :=
  (payload.get? key).getD .null

/-- `{**payload, key: value}`. -/
def set (payload : Payload) (key : String) (value : Json) : Payload :=
  if (payload.get? key).isSome then
    payload.map fun field ↦ if field.1 = key then (key, value) else field
  else payload ++ [(key, value)]

end Payload

end AgentRuntime.Library
