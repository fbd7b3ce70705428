import Reshape.Proofs.Record.Everywhere
import Reshape.Record.Json

namespace Reshape

/-- A number that JSON can hold: no whole number is written with a minus sign unless it is negative,
and no decimal is infinite or no number. -/
def JsonNumber.isProper : JsonNumber → Bool
  | .natural _ => true
  | .negative i => decide (i < 0)
  | .decimal d => d.isFinite

namespace Json

mutual

def everywhere (test : Json → Bool) : Json → Bool
  | .array items => test (.array items) && everywhereAmong test items
  | .object members => test (.object members) && everywhereBelow test members
  | v => test v

def everywhereAmong (test : Json → Bool) : List Json → Bool
  | [] => true
  | v :: rest => everywhere test v && everywhereAmong test rest

def everywhereBelow (test : Json → Bool) : List (String × Json) → Bool
  | [] => true
  | (_, v) :: rest => everywhere test v && everywhereBelow test rest

end

def isArray : Json → Bool
  | .array _ => true
  | _ => false

def isObject : Json → Bool
  | .object _ => true
  | _ => false

def isProper : Json → Bool
  | .number n => n.isProper
  | _ => true

def ArrayFree (v : Json) : Prop := v.everywhere (!·.isArray)

def Proper (v : Json) : Prop := v.everywhere isProper

instance (v : Json) : Decidable v.ArrayFree :=
  inferInstanceAs (Decidable (v.everywhere (!·.isArray) = true))

instance (v : Json) : Decidable v.Proper := inferInstanceAs (Decidable (v.everywhere _ = true))

variable {test : Json → Bool} {members : List (String × Json)}

theorem everywhereBelow_iff :
    everywhereBelow test members ↔ ∀ e ∈ members, e.2.everywhere test := by
  induction members with
  | nil => simp [everywhereBelow]
  | cons e rest ih => simp [everywhereBelow, ih]

theorem everywhere_object : (Json.object members).everywhere test ↔
    test (.object members) ∧ ∀ e ∈ members, e.2.everywhere test := by
  rw [everywhere, Bool.and_eq_true, everywhereBelow_iff]

theorem everywhereAmong_iff {items : List Json} :
    everywhereAmong test items ↔ ∀ v ∈ items, v.everywhere test := by
  induction items with
  | nil => simp [everywhereAmong]
  | cons v rest ih => simp [everywhereAmong, ih]

theorem everywhere_array {items : List Json} : (Json.array items).everywhere test ↔
    test (.array items) ∧ ∀ v ∈ items, v.everywhere test := by
  rw [everywhere, Bool.and_eq_true, everywhereAmong_iff]

/-- What holds of everything but objects, and of an object whenever it holds of the values of its
members, holds of every value. -/
@[elab_as_elim]
theorem memberwise {motive : Json → Prop} (other : ∀ v, v.isObject = false → motive v)
    (object : ∀ members, (∀ e ∈ members, motive e.2) → motive (.object members)) (v : Json) :
    motive v :=
  @Json.rec motive (fun _ ↦ True) (fun members ↦ ∀ e ∈ members, motive e.2) (fun e ↦ motive e.2)
    (other _ rfl) (fun _ ↦ other _ rfl) (fun _ ↦ other _ rfl) (fun _ ↦ other _ rfl)
    (fun _ _ ↦ other _ rfl) object trivial (fun _ _ _ _ ↦ trivial) (fun _ h ↦ nomatch h)
    (fun _ _ hhead htail _ h ↦ (List.mem_cons.1 h).elim (fun he ↦ he ▸ hhead) (htail _))
    (fun _ _ h ↦ h) v

end Json

namespace Value

/-- A value that its JSON form stands for alone: a whole number is `unsigned` only above the range
of `integer`, and a decimal is finite. -/
def isProper : Value → Bool
  | .unsigned n => decide (0x8000000000000000 ≤ n.toNat)
  | .decimal d => d.isFinite
  | _ => true

theorem toInt64_neg_iff (n : UInt64) : n.toInt64 < 0 ↔ 0x8000000000000000 ≤ n.toNat := by
  have hint : n.toInt64.toInt = n.toBitVec.toInt := rfl
  have hzero : (0 : Int64).toInt = 0 := rfl
  have hnat := n.toNat_toBitVec
  rw [Int64.lt_iff_toInt_lt, hint, hzero, BitVec.toInt_neg_iff]
  omega

theorem everywhere_ofUnsigned (n : UInt64) : (ofUnsigned n).everywhere isProper := by
  unfold ofUnsigned
  split
  · rfl
  · rename_i h
    exact decide_eq_true (Nat.le_of_not_lt h)

theorem toJson_ofUnsigned (n : UInt64) : (ofUnsigned n).toJson = .number (.natural n) := by
  unfold ofUnsigned
  split
  · rename_i h
    have hneg : ¬ n.toInt64 < 0 := fun hneg ↦ Nat.not_le_of_lt h ((toInt64_neg_iff n).1 hneg)
    rw [toJson, integerNumber, if_neg hneg, UInt64.toUInt64_toInt64]
  · rfl

theorem ofNumber_integerNumber (i : Int64) : ofNumber (integerNumber i) = .integer i := by
  unfold integerNumber
  split
  · rfl
  · rename_i h
    have hsmall : i.toUInt64.toNat < 0x8000000000000000 := by
      by_contra hlarge
      exact h (by simpa using (toInt64_neg_iff i.toUInt64).2 (Nat.le_of_not_lt hlarge))
    rw [ofNumber, ofUnsigned, if_pos hsmall, Int64.toInt64_toUInt64]

theorem toJson_ofNumber {n : JsonNumber} (h : n.isProper) :
    (ofNumber n).toJson = .number n ∧ (ofNumber n).everywhere isProper := by
  cases n with
  | natural n => exact ⟨toJson_ofUnsigned n, everywhere_ofUnsigned n⟩
  | negative i =>
    have hneg : i < 0 := of_decide_eq_true h
    exact ⟨by rw [ofNumber, toJson, integerNumber, if_pos hneg], rfl⟩
  | decimal d =>
    have hfinite : d.isFinite := h
    exact ⟨by rw [ofNumber, toJson, decimalJson, if_pos hfinite], h⟩

variable {members : List (String × Json)} {fields : List (String × Value)}

theorem exists_ofMembers?_iff :
    (∃ fields, ofMembers? members = some fields) ↔ ∀ e ∈ members, ∃ v, ofJson? e.2 = some v := by
  induction members with
  | nil => simp [ofMembers?]
  | cons e rest ih =>
    rw [List.forall_mem_cons, ← ih, ofMembers?]
    cases ofJson? e.2 <;> cases ofMembers? rest <;> simp

theorem exists_ofJson?_iff {v : Json} : (∃ w, ofJson? v = some w) ↔ v.ArrayFree := by
  induction v using Json.memberwise with
  | other v h =>
    cases v <;> simp_all [ofJson?, Json.ArrayFree, Json.everywhere, Json.isArray, Json.isObject]
  | object members ih =>
    have hfields : (∃ w, ofJson? (.object members) = some w) ↔
        ∃ fields, ofMembers? members = some fields := by
      simp [ofJson?]
    rw [hfields, exists_ofMembers?_iff, Json.ArrayFree, Json.everywhere_object]
    simp only [Json.isArray, Bool.not_false, true_and]
    exact forall₂_congr ih

theorem fieldsToJson_of_ofMembers? (h : ofMembers? members = some fields)
    (hall : ∀ e ∈ members, ∀ w, ofJson? e.2 = some w → w.toJson = e.2 ∧ w.everywhere isProper) :
    fieldsToJson fields = members ∧ ∀ e ∈ fields, e.2.everywhere isProper := by
  induction members generalizing fields with
  | nil =>
    obtain rfl : [] = fields := Option.some.inj h
    exact ⟨rfl, by simp⟩
  | cons e rest ih =>
    rw [List.forall_mem_cons] at hall
    rw [ofMembers?] at h
    split at h
    · rename_i v fields' hv hrest
      obtain rfl := Option.some.inj h
      obtain ⟨htoJson, hproper⟩ := hall.1 v hv
      obtain ⟨hfields, hall'⟩ := ih hrest hall.2
      exact ⟨by rw [fieldsToJson, htoJson, hfields], List.forall_mem_cons.2 ⟨hproper, hall'⟩⟩
    · cases h

/-- What is read from proper JSON has that JSON for its form, and is proper itself. -/
theorem toJson_of_ofJson? {v : Json} (hv : v.Proper) (w : Value) (h : ofJson? v = some w) :
    w.toJson = v ∧ w.everywhere isProper := by
  induction v using Json.memberwise generalizing w with
  | other v hother =>
    cases v with
    | number n =>
      obtain rfl := Option.some.inj h
      exact toJson_ofNumber hv
    | array items => cases h
    | object members => cases hother
    | _ =>
      obtain rfl := Option.some.inj h
      exact ⟨rfl, rfl⟩
  | object members ih =>
    obtain ⟨fields, hfields, rfl⟩ := Option.map_eq_some_iff.1 h
    have hall := (Json.everywhere_object.1 hv).2
    obtain ⟨hmembers, hproper⟩ := fieldsToJson_of_ofMembers? hfields fun e he ↦ ih e he (hall e he)
    exact ⟨congrArg Json.object hmembers, everywhere_record.2 ⟨rfl, hproper⟩⟩

theorem ofMembers?_fieldsToJson (h : ∀ e ∈ fields, ofJson? e.2.toJson = some e.2) :
    ofMembers? (fieldsToJson fields) = some fields := by
  induction fields with
  | nil => rfl
  | cons e rest ih =>
    rw [List.forall_mem_cons] at h
    rw [fieldsToJson, ofMembers?, h.1, ih h.2]

theorem ofJson?_toJson {v : Value} (h : v.everywhere isProper) : ofJson? v.toJson = some v := by
  induction v using Value.fieldwise with
  | scalar v hscalar =>
    cases v with
    | integer i => rw [toJson, ofJson?, ofNumber_integerNumber]
    | unsigned n =>
      have hlarge : 0x8000000000000000 ≤ n.toNat := of_decide_eq_true h
      rw [toJson, ofJson?, ofNumber, ofUnsigned, if_neg (Nat.not_lt_of_le hlarge)]
    | decimal d =>
      have hfinite : d.isFinite := h
      rw [toJson, decimalJson, if_pos hfinite, ofJson?, ofNumber]
    | record fields => cases hscalar
    | _ => rfl
  | record fields ih =>
    have hall := (everywhere_record.1 h).2
    rw [toJson, ofJson?, ofMembers?_fieldsToJson fun e he ↦ ih e he (hall e he), Option.map_some]

theorem proper_integerNumber (i : Int64) : (integerNumber i).isProper := by
  unfold integerNumber
  split
  · exact decide_eq_true ‹_›
  · rfl

theorem proper_decimalJson (d : Double) : (decimalJson d).Proper := by
  unfold decimalJson
  split
  · assumption
  · rfl

theorem proper_fieldsToJson (h : ∀ e ∈ fields, e.2.toJson.Proper) :
    ∀ e ∈ fieldsToJson fields, e.2.Proper := by
  induction fields with
  | nil => exact fun _ he ↦ nomatch he
  | cons e rest ih =>
    rw [List.forall_mem_cons] at h
    exact List.forall_mem_cons.2 ⟨h.1, ih h.2⟩

/-- Whatever the value, its JSON form is proper. -/
theorem proper_toJson (v : Value) : v.toJson.Proper := by
  induction v using Value.fieldwise with
  | scalar v hscalar =>
    cases v with
    | integer i => exact proper_integerNumber i
    | decimal d => exact proper_decimalJson d
    | record fields => cases hscalar
    | _ => rfl
  | record fields ih => exact Json.everywhere_object.2 ⟨rfl, proper_fieldsToJson ih⟩

def decimalOf : JsonNumber → Double
  | .natural n => .ofNat n.toNat
  | .negative i => (Double.ofNat i.toInt.natAbs).neg
  | .decimal d => d

/-- The kinds of value in the order in which they are tried, each by what it takes. A whole number
goes to the first kind that has it in its range, and a decimal would take any number. -/
def trials : List (Json → Option Value) :=
  [fun | .null => some .null | _ => none,
    fun | .boolean b => some (.boolean b) | _ => none,
    fun
    | .number (.natural n) =>
      if n.toNat < 0x8000000000000000 then some (.integer n.toInt64) else none
    | .number (.negative i) => some (.integer i)
    | _ => none,
    fun | .number (.natural n) => some (.unsigned n) | _ => none,
    fun | .number n => some (.decimal (decimalOf n)) | _ => none,
    fun | .string s => some (.string s) | _ => none,
    fun | .object members => (ofMembers? members).map .record | _ => none]

theorem ofJson?_eq_findSome? (v : Json) : ofJson? v = trials.findSome? (· v) := by
  cases v with
  | number n =>
    cases n with
    | natural n =>
      by_cases h : n.toNat < 0x8000000000000000 <;>
        simp [trials, ofJson?, ofNumber, ofUnsigned, h]
    | _ => rfl
  | object members => cases h : ofMembers? members <;> simp [trials, ofJson?, h]
  | _ => rfl

end Value

namespace Record

def Proper (r : Record) : Prop := (Value.record r).everywhere Value.isProper

instance (r : Record) : Decidable r.Proper :=
  inferInstanceAs (Decidable ((Value.record r).everywhere _ = true))

variable {v : Json} {r : Record}

theorem ofJson_eq_ok_iff :
    ofJson v = .ok r ↔ v.isObject ∧ Value.ofJson? v = some (.record r) := by
  cases v with
  | object members =>
    cases h : Value.ofMembers? members <;> simp [ofJson, Value.ofJson?, Json.isObject, h]
  | _ => simp [ofJson, Json.isObject]

theorem exists_ofJson_iff : (∃ r, ofJson v = .ok r) ↔ v.isObject ∧ v.ArrayFree := by
  rw [← Value.exists_ofJson?_iff]
  constructor
  · rintro ⟨r, h⟩
    obtain ⟨hobject, hread⟩ := ofJson_eq_ok_iff.1 h
    exact ⟨hobject, _, hread⟩
  · rintro ⟨hobject, w, hread⟩
    cases v with
    | object members =>
      obtain ⟨fields, -, rfl⟩ := Option.map_eq_some_iff.1 hread
      exact ⟨fields, ofJson_eq_ok_iff.2 ⟨hobject, hread⟩⟩
    | _ => cases hobject

theorem ofJson_of_not_isObject (h : ¬ v.isObject) : ofJson v = .error (.notARecord v.kind) := by
  cases v with
  | object members => exact absurd rfl h
  | _ => rfl

theorem ofJson_of_not_arrayFree (h : v.isObject) (harray : ¬ v.ArrayFree) :
    ofJson v = .error .arrayInside := by
  cases hread : ofJson v with
  | ok r => exact absurd (exists_ofJson_iff.1 ⟨r, hread⟩).2 harray
  | error e =>
    cases v with
    | object members =>
      rw [ofJson] at hread
      split at hread
      · cases hread
      · exact hread.symm
    | _ => cases h

theorem toJson_of_ofJson (hv : v.Proper) (h : ofJson v = .ok r) : r.toJson = v ∧ r.Proper :=
  Value.toJson_of_ofJson? hv _ (ofJson_eq_ok_iff.1 h).2

theorem proper_toJson (r : Record) : r.toJson.Proper := Value.proper_toJson (.record r)

theorem ofJson_toJson (h : r.Proper) : ofJson r.toJson = .ok r :=
  ofJson_eq_ok_iff.2 ⟨rfl, Value.ofJson?_toJson h⟩

/-- JSON is read as a record exactly if it is an object without arrays, and then nothing of it is
lost or changed; nor is anything of a record that goes through JSON. -/
theorem ofJson_exact :
    (∀ v : Json, v.Proper →
      ((∃ r, ofJson v = .ok r) ↔ v.isObject ∧ v.ArrayFree) ∧
      (¬ v.isObject → ofJson v = .error (.notARecord v.kind)) ∧
      (v.isObject → ¬ v.ArrayFree → ofJson v = .error .arrayInside) ∧
      ∀ r, ofJson v = .ok r → r.toJson = v ∧ r.Proper) ∧
    (∀ r : Record, r.Proper → ofJson r.toJson = .ok r) ∧
    (∀ n, (Value.ofUnsigned n).everywhere Value.isProper) ∧
    ∀ v, Value.ofJson? v = Value.trials.findSome? (· v) :=
  ⟨fun _ hv ↦ ⟨exists_ofJson_iff, ofJson_of_not_isObject, ofJson_of_not_arrayFree,
      fun _ ↦ toJson_of_ofJson hv⟩,
    fun _ ↦ ofJson_toJson, Value.everywhere_ofUnsigned, Value.ofJson?_eq_findSome?⟩

/-- The least whole number that is no `integer`, a whole decimal, null and an empty object inside
another one; an array two objects deep. -/
theorem ofJson_exact_nested :
    let v : Json := .object [("large", .number (.natural 0x8000000000000000)),
      ("inner", .object [("one", .number (.decimal ⟨0x3FF0000000000000⟩)), ("none", .null),
        ("empty", .object []), ("less", .number (.negative (-1)))])]
    let r : Record := [("large", .unsigned 0x8000000000000000),
      ("inner", .record [("one", .decimal ⟨0x3FF0000000000000⟩), ("none", .null),
        ("empty", .record []), ("less", .integer (-1))])]
    let deep : Json := .object [("a", .object [("b", .array [])])]
    v.Proper ∧ ofJson v = .ok r ∧ r.toJson = v ∧ r.Proper ∧ ofJson r.toJson = .ok r ∧
      ofJson deep = .error .arrayInside ∧
      ofJson (.array [v]) = .error (.notARecord "array") := by
  intro v r deep
  obtain ⟨hread, hwrite, -⟩ := ofJson_exact
  have hv : v.Proper := by decide
  have hr : r.Proper := by decide
  have hok : ofJson v = .ok r := hwrite r hr
  exact ⟨hv, hok, ((hread v hv).2.2.2 r hok).1, hr, hwrite r hr,
    (hread deep (by decide)).2.2.1 rfl (by decide),
    (hread (.array [v]) (by decide)).2.1 (by decide)⟩

end Record

end Reshape
