import Agentype.Lib.SortedMap
import Mathlib.Algebra.Order.Field.Rat
import Mathlib.Data.Nat.Pairing
import Mathlib.Data.Rat.Defs
import Mathlib.Data.Rat.Encodable
import Mathlib.Data.String.Basic
import Mathlib.Logic.Equiv.List

/-!
# `Agentype.Lib.Json` — JSON values

JSON values as a decoder hands them out: an object is a finite map in key order, so it has no
repeated keys and two objects with the same members are equal. The raw syntax is an inductive type;
a value is a raw tree together with the proof that every object in it is in key order. `Value.view`
exposes one layer of a value, and is a bijection, so everything above works on views and never on
the raw tree.

A number is an unsigned 64-bit integer, a negative 64-bit integer or a finite double. Doubles are
their exact values, with the two zeros kept apart: they print differently although they compare
equal. `Value.same` is that comparison, and `Value.Plain` are the values on which it is equality.

## Contents
- `Double`, `Number`, `Json`, `Value`, `View`.
- `Value.view_ofView`, `Value.ofView_view`: a value is its view.
- `Value.get`, `Value.object`: members of objects, and objects from lists of members.
- `Value.same`, `Value.same_iff_of_plain`.
- `Value.label`: a text of its own for every value.
- `DocFormat`: printing and parsing, and digests of what is printed; `DocFormat.Legible`.
-/

/-- A finite double: its exact value, except that negative zero is kept apart. -/
inductive Double where
  | negZero
  | of (value : ℚ)
  deriving DecidableEq

namespace Double

def toRat : Double → ℚ
  | negZero => 0
  | of q => q

/-- The representative of a double up to `==`. -/
def norm (d : Double) : Double := of d.toRat

end Double

instance instNeZeroU64 : NeZero (2 ^ 64) := ⟨by decide⟩

instance instNeZeroU32 : NeZero (2 ^ 32) := ⟨by decide⟩

theorem u32_le_u64 : 2 ^ 32 ≤ 2 ^ 64 := by decide

/-- A JSON number. `negInt n` is `-(n + 1)`, so an integer has one representation. -/
inductive Number where
  | posInt (n : Fin (2 ^ 64))
  | negInt (n : Fin (2 ^ 63))
  | float (d : Double)
  deriving DecidableEq

/-- The value of a number. -/
def Number.toRat : Number → ℚ
  | .posInt n => n.val
  | .negInt n => -(n.val + 1)
  | .float d => d.toRat

/-- The representative of a number up to `==`. -/
def Number.norm : Number → Number
  | .float d => .float d.norm
  | n => n

/-- The raw syntax of JSON. -/
inductive Json where
  | null
  | bool (b : Bool)
  | num (n : Number)
  | str (s : String)
  | arr (items : List Json)
  | obj (fields : List (String × Json))

namespace Json

/-! ## Equality -/

mutual

def decEq : (a b : Json) → Decidable (a = b)
  | .null, .null => isTrue rfl
  | .bool a, .bool b => decidable_of_iff (a = b) (by simp)
  | .num a, .num b => decidable_of_iff (a = b) (by simp)
  | .str a, .str b => decidable_of_iff (a = b) (by simp)
  | .arr a, .arr b =>
    match decEqItems a b with
    | isTrue h => isTrue (by rw [h])
    | isFalse h => isFalse (by simpa using h)
  | .obj a, .obj b =>
    match decEqFields a b with
    | isTrue h => isTrue (by rw [h])
    | isFalse h => isFalse (by simpa using h)
  | .null, .bool _ | .null, .num _ | .null, .str _ | .null, .arr _ | .null, .obj _
  | .bool _, .null | .bool _, .num _ | .bool _, .str _ | .bool _, .arr _ | .bool _, .obj _
  | .num _, .null | .num _, .bool _ | .num _, .str _ | .num _, .arr _ | .num _, .obj _
  | .str _, .null | .str _, .bool _ | .str _, .num _ | .str _, .arr _ | .str _, .obj _
  | .arr _, .null | .arr _, .bool _ | .arr _, .num _ | .arr _, .str _ | .arr _, .obj _
  | .obj _, .null | .obj _, .bool _ | .obj _, .num _ | .obj _, .str _ | .obj _, .arr _ =>
    isFalse (by intro h; cases h)

def decEqItems : (a b : List Json) → Decidable (a = b)
  | [], [] => isTrue rfl
  | x :: a, y :: b =>
    match decEq x y, decEqItems a b with
    | isTrue h, isTrue h' => isTrue (by rw [h, h'])
    | isFalse h, _ => isFalse (by simp [h])
    | _, isFalse h => isFalse (by simp [h])
  | [], _ :: _ | _ :: _, [] => isFalse (by intro h; cases h)

def decEqFields : (a b : List (String × Json)) → Decidable (a = b)
  | [], [] => isTrue rfl
  | (k, x) :: a, (l, y) :: b =>
    match decEq x y, decEqFields a b with
    | isTrue h, isTrue h' => decidable_of_iff (k = l) (by rw [h, h']; simp)
    | isFalse h, _ => isFalse (by simp [h])
    | _, isFalse h => isFalse (by simp [h])
  | [], _ :: _ | _ :: _, [] => isFalse (by intro h; cases h)

end

instance : DecidableEq Json := decEq

/-! ## Key order -/

mutual

/-- Every object in the tree is in strictly increasing key order. -/
def ordered : Json → Bool
  | .null | .bool _ | .num _ | .str _ => true
  | .arr items => orderedItems items
  | .obj fields => orderedFields fields

def orderedItems : List Json → Bool
  | [] => true
  | j :: js => ordered j && orderedItems js

def orderedFields : List (String × Json) → Bool
  | [] => true
  | (k, j) :: fs => (fs.all fun f => decide (k < f.1)) && ordered j && orderedFields fs

end

theorem orderedItems_iff {items : List Json} :
    orderedItems items = true ↔ ∀ j ∈ items, ordered j = true := by
  induction items with
  | nil => simp [orderedItems]
  | cons j js ih => simp [orderedItems, ih]

theorem orderedFields_iff {fields : List (String × Json)} :
    orderedFields fields = true ↔
      (∀ f ∈ fields, ordered f.2 = true) ∧ fields.Pairwise fun f g => f.1 < g.1 := by
  induction fields with
  | nil => simp [orderedFields]
  | cons f fs ih =>
    obtain ⟨k, j⟩ := f
    simp only [orderedFields, Bool.and_eq_true, List.all_eq_true, decide_eq_true_eq, ih,
      List.forall_mem_cons, List.pairwise_cons]
    tauto

/-! ## Comparison -/

mutual

/-- The tree with its numbers replaced. -/
def mapNum (f : Number → Number) : Json → Json
  | .null => .null
  | .bool b => .bool b
  | .num n => .num (f n)
  | .str s => .str s
  | .arr items => .arr (mapItems f items)
  | .obj fields => .obj (mapFields f fields)

def mapItems (f : Number → Number) : List Json → List Json
  | [] => []
  | j :: js => mapNum f j :: mapItems f js

def mapFields (f : Number → Number) : List (String × Json) → List (String × Json)
  | [] => []
  | (k, j) :: fs => (k, mapNum f j) :: mapFields f fs

end

mutual

/-- The tree holds no negative zero. -/
def plain : Json → Bool
  | .num (.float .negZero) => false
  | .null | .bool _ | .num _ | .str _ => true
  | .arr items => plainItems items
  | .obj fields => plainFields fields

def plainItems : List Json → Bool
  | [] => true
  | j :: js => plain j && plainItems js

def plainFields : List (String × Json) → Bool
  | [] => true
  | (_, j) :: fs => plain j && plainFields fs

end

/-- The representative of a tree up to `==`: negative zeros become zeros. -/
def norm (j : Json) : Json := mapNum Number.norm j

mutual

/-- A tree without negative zeros represents itself. -/
theorem norm_of_plain : ∀ {j : Json}, plain j = true → mapNum Number.norm j = j
  | .null, _ | .bool _, _ | .str _, _ => by simp [mapNum]
  | .num (.posInt _), _ | .num (.negInt _), _ => by simp [mapNum, Number.norm]
  | .num (.float (.of _)), _ => by simp [mapNum, Number.norm, Double.norm, Double.toRat]
  | .num (.float .negZero), h => by simp [plain] at h
  | .arr items, h => by
    rw [mapNum, mapItems_of_plain (by simpa [plain] using h)]
  | .obj fields, h => by
    rw [mapNum, mapFields_of_plain (by simpa [plain] using h)]

theorem mapItems_of_plain :
    ∀ {js : List Json}, plainItems js = true → mapItems Number.norm js = js
  | [], _ => by simp [mapItems]
  | j :: js, h => by
    simp only [plainItems, Bool.and_eq_true] at h
    rw [mapItems, norm_of_plain h.1, mapItems_of_plain h.2]

theorem mapFields_of_plain :
    ∀ {fs : List (String × Json)}, plainFields fs = true → mapFields Number.norm fs = fs
  | [], _ => by simp [mapFields]
  | (k, j) :: fs, h => by
    simp only [plainFields, Bool.and_eq_true] at h
    rw [mapFields, norm_of_plain h.1, mapFields_of_plain h.2]

end

mutual

/-- The order of a tree is kept. -/
theorem mapNum_ordered (f : Number → Number) : ∀ j : Json, ordered (mapNum f j) = ordered j
  | .null | .bool _ | .num _ | .str _ => by simp [mapNum, ordered]
  | .arr items => by rw [mapNum, ordered, ordered, mapItems_ordered f items]
  | .obj fields => by rw [mapNum, ordered, ordered, (mapFields_ordered f fields).1]

theorem mapItems_ordered (f : Number → Number) :
    ∀ js : List Json, orderedItems (mapItems f js) = orderedItems js
  | [] => by simp [mapItems]
  | j :: js => by simp [mapItems, orderedItems, mapNum_ordered f j, mapItems_ordered f js]

theorem mapFields_ordered (f : Number → Number) : ∀ fs : List (String × Json),
    orderedFields (mapFields f fs) = orderedFields fs ∧
      mapFields f fs = fs.map fun x => (x.1, mapNum f x.2)
  | [] => by simp [mapFields]
  | (k, j) :: fs => by
    obtain ⟨hordered, hmap⟩ := mapFields_ordered f fs
    refine ⟨?_, by rw [mapFields, hmap, List.map_cons]⟩
    rw [mapFields, orderedFields, orderedFields, hordered, mapNum_ordered f j, hmap, List.all_map]
    rfl

end

mutual

/-- The representative holds no negative zero. -/
theorem norm_plain : ∀ j : Json, plain (mapNum Number.norm j) = true
  | .null | .bool _ | .str _ => by simp [mapNum, plain]
  | .num (.posInt _) | .num (.negInt _) | .num (.float _) => by
    simp [mapNum, Number.norm, plain, Double.norm]
  | .arr items => by rw [mapNum, plain, mapItems_plain items]
  | .obj fields => by rw [mapNum, plain, mapFields_plain fields]

theorem mapItems_plain : ∀ js : List Json, plainItems (mapItems Number.norm js) = true
  | [] => by simp [mapItems, plainItems]
  | j :: js => by simp [mapItems, plainItems, norm_plain j, mapItems_plain js]

theorem mapFields_plain :
    ∀ fs : List (String × Json), plainFields (mapFields Number.norm fs) = true
  | [] => by simp [mapFields, plainFields]
  | (k, j) :: fs => by simp [mapFields, plainFields, norm_plain j, mapFields_plain fs]

end

end Json

/-- A JSON value: a tree whose objects are in key order. -/
structure Value where
  json : Json
  ordered : json.ordered = true
  deriving DecidableEq

/-- One layer of a JSON value. -/
inductive View where
  | null
  | bool (b : Bool)
  | num (n : Number)
  | str (s : String)
  | arr (items : List Value)
  | obj (fields : SortedMap String Value)

namespace Value

/-! ## Views -/

/-- The members of an object, as values. -/
def fieldsOf (fields : List (String × Json)) (h : Json.orderedFields fields = true) :
    SortedMap String Value where
  entries := fields.pmap (fun f hf => (f.1, (⟨f.2, hf⟩ : Value))) (Json.orderedFields_iff.mp h).1
  sorted := by
    rw [List.pairwise_pmap]
    exact (Json.orderedFields_iff.mp h).2.imp fun hlt _ _ => hlt

/-- The outermost layer of a value. -/
def view : Value → View
  | ⟨.null, _⟩ => .null
  | ⟨.bool b, _⟩ => .bool b
  | ⟨.num n, _⟩ => .num n
  | ⟨.str s, _⟩ => .str s
  | ⟨.arr items, h⟩ => .arr (items.pmap Value.mk (Json.orderedItems_iff.mp h))
  | ⟨.obj fields, h⟩ => .obj (fieldsOf fields h)

/-- The value with a given outermost layer. -/
def ofView : View → Value
  | .null => ⟨.null, rfl⟩
  | .bool b => ⟨.bool b, rfl⟩
  | .num n => ⟨.num n, rfl⟩
  | .str s => ⟨.str s, rfl⟩
  | .arr items => ⟨.arr (items.map json), Json.orderedItems_iff.mpr
      (List.forall_mem_map.mpr fun v _ => v.ordered)⟩
  | .obj m => ⟨.obj (m.entries.map fun f => (f.1, f.2.json)), Json.orderedFields_iff.mpr
      ⟨List.forall_mem_map.mpr fun f _ => f.2.ordered, List.pairwise_map.mpr m.sorted⟩⟩

@[simp] theorem view_ofView (x : View) : (ofView x).view = x := by
  cases x with
  | null => rfl
  | bool => rfl
  | num => rfl
  | str => rfl
  | arr items => simp [ofView, view, List.pmap_map, List.pmap_eq_self]
  | obj m =>
    obtain ⟨l, hl⟩ := m
    simp [ofView, view, fieldsOf, List.pmap_map, List.pmap_eq_self]

@[simp] theorem ofView_view (v : Value) : ofView v.view = v := by
  obtain ⟨j, h⟩ := v
  cases j with
  | null => rfl
  | bool => rfl
  | num => rfl
  | str => rfl
  | arr items => simp [ofView, view, List.map_pmap]
  | obj fields => simp [ofView, view, fieldsOf, List.map_pmap]

theorem view_injective {v w : Value} (h : v.view = w.view) : v = w := by
  rw [← ofView_view v, h, ofView_view]

/-! ## Construction -/

def null : Value := ofView .null
def bool (b : Bool) : Value := ofView (.bool b)
def num (n : Number) : Value := ofView (.num n)
def str (s : String) : Value := ofView (.str s)
def arr (items : List Value) : Value := ofView (.arr items)

/-- The object with the listed members; a later member replaces an earlier one of the same key. -/
def object (fields : List (String × Value)) : Value := ofView (.obj (.ofList fields))

/-! ## Access -/

def asStr (v : Value) : Option String :=
  match v.view with
  | .str s => some s
  | _ => none

def asBool (v : Value) : Option Bool :=
  match v.view with
  | .bool b => some b
  | _ => none

def asArray (v : Value) : Option (List Value) :=
  match v.view with
  | .arr items => some items
  | _ => none

def asObject (v : Value) : Option (SortedMap String Value) :=
  match v.view with
  | .obj fields => some fields
  | _ => none

/-- The member of an object at a key. -/
def get (v : Value) (key : String) : Option Value := v.asObject.bind fun m => m.lookup key

def asU64 (v : Value) : Option (Fin (2 ^ 64)) :=
  match v.view with
  | .num (.posInt n) => some n
  | _ => none

/-- The integer a number denotes, within the signed 64-bit range. -/
def asI64 (v : Value) : Option Int :=
  match v.view with
  | .num (.posInt n) => if n.val < 2 ^ 63 then some n.val else none
  | .num (.negInt n) => some (-(n.val + 1 : Int))
  | _ => none

/-- The double a number denotes; the conversion of integers is taken to be exact. -/
def asF64 (v : Value) : Option Double :=
  match v.view with
  | .num (.posInt n) => some (.of n.val)
  | .num (.negInt n) => some (.of (-(n.val + 1 : ℚ)))
  | .num (.float d) => some d
  | _ => none

section Access

variable (s : String) (b : Bool) (n : Number) (items : List Value) (fields : List (String × Value))

@[simp] theorem asStr_str : (str s).asStr = some s := by simp [asStr, str]
@[simp] theorem asBool_bool : (bool b).asBool = some b := by simp [asBool, bool]
@[simp] theorem asArray_arr : (arr items).asArray = some items := by simp [asArray, arr]
@[simp] theorem asU64_posInt (u : Fin (2 ^ 64)) : (num (.posInt u)).asU64 = some u := by
  simp [asU64, num]
@[simp] theorem asF64_float (d : Double) : (num (.float d)).asF64 = some d := by simp [asF64, num]

@[simp] theorem asObject_object : (object fields).asObject = some (.ofList fields) := by
  simp [asObject, object]

theorem get_object (key : String) : (object fields).get key = fields.reverse.lookup key := by
  simp [get, SortedMap.lookup_ofList]

end Access

/-! ## Signed integers -/

/-- The signed 64-bit range. -/
abbrev I64 := { n : Int // -2 ^ 63 ≤ n ∧ n < 2 ^ 63 }

/-- The number that a signed integer is. -/
def ofI64 (n : I64) : Number :=
  if h : 0 ≤ n.val then .posInt ⟨n.val.toNat, by have := n.property; omega⟩
  else .negInt ⟨(-n.val - 1).toNat, by have := n.property; omega⟩

def int (n : I64) : Value := num (ofI64 n)

theorem asI64_range {v : Value} {n : Int} (h : v.asI64 = some n) : -2 ^ 63 ≤ n ∧ n < 2 ^ 63 := by
  unfold asI64 at h
  split at h
  · next u _ =>
    split_ifs at h with hlt
    cases h
    omega
  · next u _ =>
    cases h
    have := u.isLt
    omega
  · cases h

/-- `as_i64` with its range. -/
def asInt (v : Value) : Option I64 :=
  match h : v.asI64 with
  | some n => some ⟨n, asI64_range h⟩
  | none => none

/-- An integer is denoted by one value only. -/
theorem asInt_eq_some {v : Value} {n : I64} : v.asInt = some n ↔ v = int n := by
  have hasI64 : v.asInt = some n ↔ v.asI64 = some n.val := by
    unfold asInt
    split
    · next m hm => simp [hm, Subtype.ext_iff]
    · next hm => simp [hm]
  rw [hasI64]
  constructor
  · intro h
    apply view_injective
    unfold asI64 at h
    split at h
    · next u hu =>
      split_ifs at h
      have hn : (u.val : Int) = n.val := by simpa using h
      have h0 : 0 ≤ n.val := by omega
      have hu' : u.val = n.val.toNat := by omega
      simp [hu, int, num, ofI64, h0, Fin.ext_iff, hu']
    · next u hu =>
      have hn : -(u.val + 1 : Int) = n.val := by simpa using h
      have h0 : ¬ 0 ≤ n.val := by omega
      have hu' : u.val = (-n.val - 1).toNat := by omega
      simp [hu, int, num, ofI64, h0, Fin.ext_iff, hu']
    · cases h
  · rintro rfl
    have := n.property
    by_cases h0 : 0 ≤ n.val
    · simp only [asI64, int, num, view_ofView, ofI64, h0, dif_pos]
      rw [if_pos (by omega)]
      simp [h0]
    · simp only [asI64, int, num, view_ofView, ofI64, h0, dif_neg, not_false_eq_true]
      congr 1
      omega

/-! ## Values determined by what is read from them -/

theorem asStr_eq_some {v : Value} {s : String} : v.asStr = some s ↔ v = str s := by
  constructor
  · intro h
    apply view_injective
    unfold asStr at h
    split at h
    · next t ht =>
      cases h
      simp [ht, str]
    · cases h
  · rintro rfl
    exact asStr_str s

theorem asArray_eq_some {v : Value} {items : List Value} :
    v.asArray = some items ↔ v = arr items := by
  constructor
  · intro h
    apply view_injective
    unfold asArray at h
    split at h
    · next t ht =>
      cases h
      simp [ht, arr]
    · cases h
  · rintro rfl
    exact asArray_arr items

theorem asU64_eq_some {v : Value} {n : Fin (2 ^ 64)} : v.asU64 = some n ↔ v = num (.posInt n) := by
  constructor
  · intro h
    apply view_injective
    unfold asU64 at h
    split at h
    · next t ht =>
      cases h
      simp [ht, num]
    · cases h
  · rintro rfl
    exact asU64_posInt n

/-- What is read as a double is a number, and its value is kept. -/
theorem exists_num_of_asF64 {v : Value} {d : Double} (h : v.asF64 = some d) :
    ∃ n : Number, v = num n ∧ n.toRat = d.toRat := by
  unfold asF64 at h
  split at h <;> cases h
  all_goals
    next hv => exact ⟨_, view_injective (hv.trans (view_ofView _).symm), rfl⟩

/-! ## Optional members -/

section Optional

variable {ε α : Type}

/-- An optional member: `null` stands for absence. -/
def optional (f : α → Value) : Option α → Value
  | none => null
  | some a => f a

/-- Read an optional member with a reader of its present form. -/
def nullable (f : Value → Except ε α) (v : Value) : Except ε (Option α) :=
  match v.view with
  | .null => .ok none
  | _ => some <$> f v

/-- What reads a present member back reads an optional one back. -/
theorem nullable_optional {f : Value → Except ε α} {g : α → Value} (hnull : ∀ a, g a ≠ null)
    (hread : ∀ a, f (g a) = .ok a) (o : Option α) : nullable f (optional g o) = .ok o := by
  cases o with
  | none => simp [nullable, optional, null]
  | some a =>
    show nullable f (g a) = _
    rw [nullable]
    split
    · next h => exact absurd (view_injective (h.trans (view_ofView .null).symm)) (hnull a)
    · rw [hread a]
      rfl

@[simp] theorem str_ne_null (s : String) : str s ≠ null := by
  intro h
  have h' := congrArg view h
  simp [str, null] at h'

@[simp] theorem arr_ne_null (items : List Value) : arr items ≠ null := by
  intro h
  have h' := congrArg view h
  simp [arr, null] at h'

@[simp] theorem object_ne_null (fields : List (String × Value)) : object fields ≠ null := by
  intro h
  have h' := congrArg view h
  simp [object, null] at h'

end Optional

/-! ## Comparison -/

/-- `==` on JSON values. -/
def same (v w : Value) : Bool := decide (v.json.norm = w.json.norm)

/-- The value holds no negative zero. -/
def Plain (v : Value) : Prop := v.json.plain = true

instance (v : Value) : Decidable v.Plain := inferInstanceAs (Decidable (_ = true))

theorem same_iff {v w : Value} : same v w = true ↔ v.json.norm = w.json.norm := by simp [same]

@[simp] theorem same_refl (v : Value) : same v v = true := by simp [same]

theorem same_comm (v w : Value) : same v w = same w v := by
  simp only [same, eq_comm]

theorem same_trans {u v w : Value} (h : same u v = true) (h' : same v w = true) :
    same u w = true := by
  rw [same_iff] at *
  exact h.trans h'

def mapNum (f : Number → Number) (v : Value) : Value :=
  ⟨v.json.mapNum f, (Json.mapNum_ordered f v.json).trans v.ordered⟩

/-- The representative of a value up to `==`. -/
def norm (v : Value) : Value := v.mapNum Number.norm

theorem norm_plain (v : Value) : v.norm.Plain := Json.norm_plain v.json

theorem same_iff_norm {v w : Value} : same v w = true ↔ v.norm = w.norm := by
  simp [same_iff, norm, mapNum, Json.norm]

theorem norm_eq_self {v : Value} : v.norm = v ↔ v.Plain := by
  constructor
  · intro h
    rw [← h]
    exact v.norm_plain
  · intro h
    obtain ⟨j, hj⟩ := v
    simp only [norm, mapNum, Json.norm_of_plain h]

theorem norm_norm (v : Value) : v.norm.norm = v.norm := norm_eq_self.mpr v.norm_plain

@[simp] theorem norm_str (s : String) : (str s).norm = str s := rfl

@[simp] theorem norm_null : null.norm = null := rfl

@[simp] theorem norm_int (n : I64) : (int n).norm = int n := by
  unfold int ofI64
  split <;> rfl

@[simp] theorem norm_posInt (u : Fin (2 ^ 64)) : (num (.posInt u)).norm = num (.posInt u) := rfl

@[simp] theorem norm_float (d : Double) : (num (.float d)).norm = num (.float d.norm) := rfl

theorem norm_arr (items : List Value) : (arr items).norm = arr (items.map norm) := by
  have hitems : ∀ l : List Value,
      Json.mapItems Number.norm (l.map json) = (l.map norm).map json := by
    intro l
    induction l with
    | nil => rfl
    | cons v l ih => simp [Json.mapItems, ih, norm, mapNum]
  simp only [arr, ofView, norm, mapNum, Json.mapNum, hitems]

/-- The members of an object are represented one by one. -/
theorem norm_object (fields : List (String × Value)) :
    (object fields).norm = object (fields.map fun f => (f.1, f.2.norm)) := by
  have hmap : SortedMap.ofList (fields.map fun f => (f.1, f.2.norm)) =
      (SortedMap.ofList fields).mapValues norm := by
    apply SortedMap.ext_lookup
    intro key
    rw [SortedMap.lookup_mapValues, SortedMap.lookup_ofList, SortedMap.lookup_ofList,
      ← List.map_reverse]
    induction fields.reverse with
    | nil => rfl
    | cons f l ih =>
      rw [List.map_cons, SortedMap.lookup_cons, SortedMap.lookup_cons, ih]
      split <;> rfl
  rw [object, object, hmap]
  simp only [norm, mapNum, ofView, Json.mapNum, (Json.mapFields_ordered _ _).2, SortedMap.mapValues,
    List.map_map, Function.comp_def]

/-- Values without negative zeros compare equal exactly when they are equal. -/
theorem same_iff_of_plain {v w : Value} (hv : v.Plain) (hw : w.Plain) :
    same v w = true ↔ v = w := by
  rw [same_iff_norm, norm_eq_self.mpr hv, norm_eq_self.mpr hw]

end Value

/-! ## Numbering

Every value has a number of its own, so there are injective texts for values. -/

/-- The number of a text. -/
def textCode (s : String) : ℕ := Encodable.encode (s.toList.map Char.toNat)

theorem textCode_injective : Function.Injective textCode := by
  intro s t h
  have hchar : Function.Injective Char.toNat := fun a b hab => Char.ext (UInt32.toNat_inj.mp hab)
  exact String.toList_inj.mp (List.map_injective_iff.mpr hchar (Encodable.encode_injective h))

def Number.code : Number → ℕ
  | .posInt n => Nat.pair 0 n
  | .negInt n => Nat.pair 1 n
  | .float .negZero => Nat.pair 2 0
  | .float (.of q) => Nat.pair 3 (Encodable.encode q)

theorem Number.code_injective : Function.Injective Number.code := by
  intro a b h
  rcases a with n | n | (_ | q) <;> rcases b with m | m | (_ | r) <;>
    simp [Number.code, Nat.pair_eq_pair, Fin.val_inj] at h ⊢ <;> exact h

namespace Json

mutual

def code : Json → ℕ
  | null => Nat.pair 0 0
  | bool b => Nat.pair 1 b.toNat
  | num n => Nat.pair 2 n.code
  | str s => Nat.pair 3 (textCode s)
  | arr items => Nat.pair 4 (codeItems items)
  | obj fields => Nat.pair 5 (codeFields fields)

def codeItems : List Json → ℕ
  | [] => 0
  | j :: items => Nat.pair (code j) (codeItems items) + 1

def codeFields : List (String × Json) → ℕ
  | [] => 0
  | (k, j) :: fields => Nat.pair (textCode k) (Nat.pair (code j) (codeFields fields)) + 1

end

mutual

theorem code_inj : ∀ a b : Json, code a = code b → a = b
  | null, b, h => by cases b <;> simp [code, Nat.pair_eq_pair] at h ⊢
  | bool x, b, h => by
    cases b with
    | bool y => cases x <;> cases y <;> simp [code, Nat.pair_eq_pair] at h ⊢
    | _ => simp [code, Nat.pair_eq_pair] at h
  | num n, b, h => by
    cases b <;> simp [code, Nat.pair_eq_pair] at h ⊢
    exact Number.code_injective h
  | str s, b, h => by
    cases b <;> simp [code, Nat.pair_eq_pair] at h ⊢
    exact textCode_injective h
  | arr items, b, h => by
    cases b <;> simp [code, Nat.pair_eq_pair] at h ⊢
    exact codeItems_inj items _ h
  | obj fields, b, h => by
    cases b <;> simp [code, Nat.pair_eq_pair] at h ⊢
    exact codeFields_inj fields _ h

theorem codeItems_inj : ∀ a b : List Json, codeItems a = codeItems b → a = b
  | [], b, h => by cases b <;> simp [codeItems] at h ⊢
  | j :: items, b, h => by
    cases b <;> simp [codeItems, Nat.pair_eq_pair] at h ⊢
    exact ⟨code_inj j _ h.1, codeItems_inj items _ h.2⟩

theorem codeFields_inj : ∀ a b : List (String × Json), codeFields a = codeFields b → a = b
  | [], b, h => by
    cases b with
    | nil => rfl
    | cons f fields => simp [codeFields] at h
  | (k, j) :: fields, b, h => by
    cases b with
    | nil => simp [codeFields] at h
    | cons f fields' =>
      simp only [codeFields, Nat.add_right_cancel_iff, Nat.pair_eq_pair] at h
      obtain ⟨hk, hj, hfields⟩ := h
      rw [codeFields_inj fields fields' hfields]
      exact congrArg (· :: fields') (Prod.ext (textCode_injective hk) (code_inj j _ hj))

end

end Json

/-- A text of its own for every value. -/
def Value.label (v : Value) : String := String.ofList (List.replicate v.json.code '0')

theorem Value.label_injective : Function.Injective Value.label := by
  intro v w h
  have hlist := String.ofList_injective h
  have hcode : v.json.code = w.json.code := by simpa using congrArg List.length hlist
  have hjson := Json.code_inj _ _ hcode
  cases v
  cases w
  simp_all

/-! ## Documents -/

/-- How values are stored: a printer that loses nothing, a parser, and a digest of what is printed.
    `T` is the type of printed documents and `D` the type of digests; a digest also has a textual
    form. The parser need not invert the printer: it may refuse a deep value, and it may read a
    double as its neighbour. -/
structure DocFormat (T D : Type) where
  print : Value → T
  parse : T → Except String Value
  digest : T → D
  digestText : D → String
  print_injective : Function.Injective print

namespace DocFormat

variable {T D : Type} (F : DocFormat T D)

/-- The text is read back as what it was printed from. -/
def Legible (text : T) : Prop := ∀ v, F.print v = text → F.parse text = .ok v

/-- No two printed documents share a digest. -/
def CollisionFree : Prop := Function.Injective F.digest

/-- The text of a digest is as good as the digest. -/
def Spelled : Prop := Function.Injective F.digestText

/-- Values stored as they are, each its own digest. -/
def verbatim : DocFormat Value Value where
  print := id
  parse := .ok
  digest := id
  digestText := Value.label
  print_injective := Function.injective_id

theorem verbatim_legible (v : Value) : verbatim.Legible v := fun _ h => congrArg Except.ok h.symm

/-- The double `d` is read as `d'`. -/
def inexact (d d' : Double) : DocFormat Value Value :=
  { verbatim with parse := fun v => .ok (v.mapNum fun n => if n = .float d then .float d' else n) }

theorem verbatim_collisionFree : verbatim.CollisionFree := Function.injective_id

theorem verbatim_spelled : verbatim.Spelled := Value.label_injective

end DocFormat
