/-
CapabilityBroker/Proofs/Json/Forms.lean

JSON forms that lose nothing.

A form is faithful when every value of the type is written as something that
can be written at all, and the decoder reads it as the value again
(`Faithful`).  For such a type both layouts of the text are read back, and
different values have different texts.

Numbers, strings and containers are faithful if their parts are.  An optional
value needs more: nothing is written as `null`, so the form of something must
not be.  A table needs that its keys are pairwise different, so that no entry
replaces another while it is read.

Records and variants are read by a `do` block each.  What those blocks ask
for are rewriting rules here: a record that is written with a field list
gives that field list (`Fields.ofJson?_record`), and a variant gives its name
and what it carries.
-/
import CapabilityBroker.Json.Names
import CapabilityBroker.Proofs.Json.Building

namespace CapabilityBroker

open Json

/-! ### Faithful forms -/

/-- A JSON form that can be written for every value, and is read as that
value. -/
class Faithful (α : Type) [Wire α] : Prop where
  writable : ∀ a : α, Writable (encode a)
  decode_encode : ∀ a : α, decode (encode a) = some a

attribute [simp] Faithful.writable Faithful.decode_encode

section Texts

variable {α : Type} [Wire α] [Faithful α]

/-- A value is read back from one line. -/
theorem decode_compact (a : α) : (Json.parse? (encode a).compact).bind decode = some a := by
  rw [(Faithful.writable a).parse?_compact, Option.bind_some, Faithful.decode_encode]

/-- A value is read back from the indented layout. -/
theorem decode_indented (a : α) : (Json.parse? (encode a).indented).bind decode = some a := by
  rw [(Faithful.writable a).parse?_indented, Option.bind_some, Faithful.decode_encode]

/-- Different values are written differently. -/
theorem compact_injective : Function.Injective fun a : α => (encode a).compact := by
  intro a b h
  have ha := decode_compact a
  rw [show (encode a).compact = (encode b).compact from h, decode_compact b] at ha
  exact (Option.some.inj ha).symm

end Texts

/-! ### What can be written -/

namespace Json

@[simp] theorem writable_ofString (s : String) : Writable (ofString s) := .text (spelt_ofString s)

@[simp] theorem writable_ofNat (n : Nat) : Writable (ofNat n) := .number (isNumeral_toDigits n)

@[simp] theorem writable_ofInt (i : Int) : Writable (ofInt i) := by
  unfold ofInt
  split
  · exact .number (isNumeral_minus_toDigits _)
  · exact writable_ofNat _

theorem writable_record {entries : List (String × Json)} (h : ∀ e ∈ entries, Writable e.2) :
    Writable (record entries) := by
  refine .object (fun e he => ?_) fun e he => ?_ <;>
    obtain ⟨e', he', rfl⟩ := List.mem_map.mp he
  · exact spelt_ofString e'.1
  · exact h e' he'

theorem writable_tagged {tag : String} {v : Json} (h : Writable v) : Writable (tagged tag v) :=
  writable_record (by simpa using h)

end Json

/-! ### Numbers, truth values and strings -/

theorem int32?_toInt (i : Int32) : int32? i.toInt = some i := by
  have hle := Int32.le_toInt i
  have hlt := Int32.toInt_lt i
  rw [int32?, if_pos ⟨by omega, by omega⟩, Int32.ofInt_toInt]

instance : Faithful UInt64 where
  writable w := writable_ofNat w.toNat
  decode_encode w := by simp [decode, encode]

instance : Faithful UInt32 where
  writable w := writable_ofNat w.toNat
  decode_encode w := by simp [decode, encode, word32?_eq_some_iff]

instance : Faithful Int32 where
  writable i := writable_ofInt i.toInt
  decode_encode i := by simp [decode, encode, int32?_toInt]

instance : Faithful Bool where
  writable b := .bool b
  decode_encode _ := rfl

instance : Faithful String where
  writable s := writable_ofString s
  decode_encode s := by simp [decode, encode, Json.ofString, Json.string?]

/-! ### Containers -/

variable {α β : Type} [Wire α] [Wire β]

/-- An optional value is read back if no value has the form of nothing. -/
theorem Faithful.option [Faithful α] (h : ∀ a : α, encode a ≠ .null) : Faithful (Option α) where
  writable
    | none => .null
    | some a => writable a
  decode_encode
    | none => rfl
    | some a => by
      have hsome : decode (encode (some a)) = (decode (encode a) : Option α).map some := by
        have ha := h a
        show (decode (encode a) : Option (Option α)) = _
        generalize encode a = j at ha ⊢
        cases j <;> first | contradiction | rfl
      rw [hsome, decode_encode]
      rfl

instance : Faithful (Option UInt64) :=
  .option fun w => by simp [encode, Json.ofNat]

instance [Faithful α] : Faithful (List α) where
  writable items := .list fun v hv => by
    obtain ⟨a, -, rfl⟩ := List.mem_map.mp hv
    exact Faithful.writable a
  decode_encode items := by
    show (items.map encode).mapM decode = some items
    induction items with
    | nil => rfl
    | cons a items ih => simp [ih]

instance [Faithful α] [Faithful β] : Faithful (α × β) where
  writable p := .list (by simp)
  decode_encode p := by simp [decode, encode]

/-! ### Tables -/

theorem unescaped?_ofChars {cs : List Char} (h : ∀ c ∈ cs, c.isDigit = true) :
    (Text.ofChars cs).unescaped? = some cs := by
  induction cs with
  | nil => rfl
  | cons c cs ih =>
    have hc : Text.mustEscape c = false := by
      have hdigit : c.isDigit = true := h c List.mem_cons_self
      have hge : 48 ≤ c.toNat := by
        simp only [Char.isDigit, Bool.and_eq_true, decide_eq_true_eq] at hdigit
        exact hdigit.1
      have hquote : c ≠ '"' := by
        rintro rfl
        contradiction
      have hslash : c ≠ '\\' := by
        rintro rfl
        contradiction
      simp [Text.mustEscape, hquote, hslash]
      omega
    show Text.unescaped? (Text.pieceOf c :: Text.ofChars cs) = _
    rw [Text.pieceOf, if_neg (by simp [hc]), Text.unescaped?,
      ih fun d hd => h d (List.mem_cons_of_mem c hd)]
    rfl

/-- The key of a number is read as the number. -/
@[simp] theorem numberKey?_decimal (w : UInt64) :
    numberKey? (Text.ofString (decimal w.toNat)) = some w := by
  have hdigits := unescaped?_ofChars fun _ => isDigit_of_mem_toDigits (n := w.toNat)
  have hvalue : (Json.number (Nat.toDigits 10 w.toNat)).nat? = some w.toNat := nat?_ofNat _
  simp [numberKey?, Text.ofString, decimal, hdigits, hvalue]

/-- Entries as written add what they were written from. -/
theorem foldlM_addEntry [Faithful α] (entries : List (UInt64 × α)) (table : NumberTable α) :
    (entries.map fun e => (Text.ofString (decimal e.1.toNat), encode e.2)).foldlM addEntry table =
      some (table.insertMany entries) := by
  rw [Std.ExtTreeMap.insertMany_list_eq_foldl]
  induction entries generalizing table with
  | nil => rfl
  | cons e entries ih => simp [addEntry, ih]

omit [Wire α] in
/-- A table is what its own entries make. -/
theorem insertMany_toList (table : NumberTable α) :
    (∅ : NumberTable α).insertMany table.toList = table := by
  refine Std.ExtTreeMap.ext_getElem? fun k => ?_
  cases hk : table[k]? with
  | some v =>
    exact Std.ExtTreeMap.getElem?_insertMany_list_of_mem Std.ReflCmp.compare_self
      Std.ExtTreeMap.distinct_keys_toList
      (Std.ExtTreeMap.mem_toList_iff_getElem?_eq_some.mpr hk)
  | none =>
    have hmem : k ∉ table := by simpa using hk
    rw [Std.ExtTreeMap.getElem?_insertMany_list_of_contains_eq_false]
    · simp
    · rw [Std.ExtTreeMap.map_fst_toList_eq_keys]
      simpa using hmem

instance [Faithful α] : Faithful (NumberTable α) where
  writable table := by
    refine .object (fun e he => ?_) fun e he => ?_ <;>
      obtain ⟨e', -, rfl⟩ := List.mem_map.mp he
    · exact spelt_ofString _
    · exact Faithful.writable e'.2
  decode_encode table := by
    show List.foldlM addEntry (∅ : NumberTable α) _ = _
    rw [foldlM_addEntry, insertMany_toList]

/-! ### Records and variants -/

/-- A record with exactly the given fields, in their order, gives them. -/
theorem Fields.ofJson?_record {names : List String} {entries : List (String × Json)}
    (hnames : entries.map Prod.fst = names) (hdistinct : names.Nodup) :
    Fields.ofJson? names (Json.record entries) = some ⟨true, entries⟩ := by
  have hnamed : (entries.map fun e => (Text.ofString e.1, e.2)).mapM
      (fun e => e.1.string?.map fun key => (key, e.2)) = some entries := by
    clear hnames
    induction entries with
    | nil => rfl
    | cons e entries ih => simp [ih]
  have hown : entries.filter (fun e => names.contains e.1) = entries := by
    rw [List.filter_eq_self]
    intro e he
    simpa [← hnames] using ⟨e.2, he⟩
  simp only [Fields.ofJson?, Json.record]
  rw [hnamed, Option.bind_eq_bind, Option.bind_some, hown, hnames, if_pos hdistinct]
  rfl

@[simp] theorem Fields.find?_self (keyed : Bool) (name : String) (j : Json)
    (given : List (String × Json)) : Fields.find? ⟨keyed, (name, j) :: given⟩ name = some j := by
  simp [Fields.find?]

@[simp] theorem Fields.find?_of_ne {keyed : Bool} {name other : String} {j : Json}
    {given : List (String × Json)} (h : name ≠ other) :
    Fields.find? ⟨keyed, (other, j) :: given⟩ name = Fields.find? ⟨keyed, given⟩ name := by
  simp [Fields.find?, List.lookup_cons, beq_false_of_ne h]

@[simp] theorem Variant.ofJson?_tagged (tag : String) (v : Json) :
    Variant.ofJson? (Json.tagged tag v) = some ⟨tag, some v⟩ := by
  simp [Variant.ofJson?, Json.tagged, Json.record]

@[simp] theorem Variant.ofJson?_ofString (name : String) :
    Variant.ofJson? (Json.ofString name) = some ⟨name, none⟩ := by
  simp [Variant.ofJson?, Json.ofString]

/-! ### Ids, addresses and capabilities -/

/-- A type that is written as its only field is faithful if the field is. -/
theorem Faithful.of_field [Faithful β] (field : α → β) (mk : β → α)
    (hmk : ∀ a, mk (field a) = a) (hencode : ∀ a : α, encode a = encode (field a))
    (hdecode : ∀ j, (decode j : Option α) = (decode j).map mk) : Faithful α where
  writable a := hencode a ▸ Faithful.writable (field a)
  decode_encode a := by rw [hencode, hdecode, decode_encode, Option.map_some, hmk]

instance : Faithful ComponentId :=
  .of_field ComponentId.number ComponentId.mk (fun _ => rfl) (fun _ => rfl) fun _ => rfl

instance : Faithful CoreId :=
  .of_field CoreId.number CoreId.mk (fun _ => rfl) (fun _ => rfl) fun _ => rfl

instance : Faithful ThreadId :=
  .of_field ThreadId.number ThreadId.mk (fun _ => rfl) (fun _ => rfl) fun _ => rfl

instance : Faithful EntryIndex :=
  .of_field EntryIndex.number EntryIndex.mk (fun _ => rfl) (fun _ => rfl) fun _ => rfl

instance : Faithful Vaddr :=
  .of_field Vaddr.word Vaddr.mk (fun _ => rfl) (fun _ => rfl) fun _ => rfl

instance : Faithful Paddr :=
  .of_field Paddr.word Paddr.mk (fun _ => rfl) (fun _ => rfl) fun _ => rfl

instance {kind : ObjectKind} : Faithful (Cap kind) where
  writable cap := writable_record (by simp)
  decode_encode cap := by
    show (Fields.ofJson? _ (Json.record _)).bind _ = _
    simp [Fields.ofJson?_record, Fields.required]

end CapabilityBroker
