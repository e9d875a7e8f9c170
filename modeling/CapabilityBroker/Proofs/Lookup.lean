/-
CapabilityBroker/Proofs/Lookup.lean

Looking a manifest up by path, and by typed queries.

A path is any string.  It has a value if it is `captbl_end`, or if it is the name of
one of three sections, a slash, and a spelling of an id that the section has an entry
for (`SpellsId`); the value is then what the typed query of the section answers
(`Section.query?`).  No name of a section has a slash, so the slash behind it is the
first one, and a second one would have to be part of the id.  An id is spelled in
decimal digits, with a plus sign or not and with zeros in front or not, so the form in
which ids are written is read back (`spellsId_zeros`).
-/
import CapabilityBroker.Manifest.Lookup
import CapabilityBroker.Proofs.Json.Numeral

namespace CapabilityBroker

variable {cs before behind : List Char} {id : UInt64} {value : String} {m : Manifest}

/-! ### Cutting a path -/

theorem splitPath?_append (h : '/' ∉ before) :
    splitPath? (before ++ '/' :: behind) = some (before, behind) := by
  induction before with
  | nil => rfl
  | cons c before ih =>
    rw [List.mem_cons, not_or] at h
    obtain ⟨hc, hbefore⟩ := h
    rw [List.cons_append]
    unfold splitPath?
    rw [if_neg (Ne.symm hc), ih hbefore]
    rfl

theorem eq_append_of_splitPath? (h : splitPath? cs = some (before, behind)) :
    cs = before ++ '/' :: behind ∧ '/' ∉ before := by
  induction cs generalizing before with
  | nil => cases h
  | cons c cs ih =>
    unfold splitPath? at h
    split at h
    · next hc =>
      cases h
      exact ⟨congrArg (· :: behind) hc, List.not_mem_nil⟩
    · next hc =>
      obtain ⟨⟨front, back⟩, hcut, hparts⟩ := Option.map_eq_some_iff.1 h
      cases hparts
      obtain ⟨rfl, hfront⟩ := ih hcut
      refine ⟨rfl, ?_⟩
      rw [List.mem_cons, not_or]
      exact ⟨Ne.symm hc, hfront⟩

/-- A path is cut at its first slash. -/
theorem splitPath?_eq_some_iff :
    splitPath? cs = some (before, behind) ↔ cs = before ++ '/' :: behind ∧ '/' ∉ before :=
  ⟨eq_append_of_splitPath?, fun ⟨heq, hbefore⟩ => heq ▸ splitPath?_append hbefore⟩

/-! ### Spellings of an id -/

/-- An optional plus sign and one or more decimal digits that denote the id. -/
def SpellsId (cs : List Char) (id : UInt64) : Prop :=
  ∃ sign digits, cs = sign ++ digits ∧ (sign = [] ∨ sign = ['+']) ∧ digits ≠ [] ∧
    (∀ c ∈ digits, c.isDigit = true) ∧ Nat.ofDigitChars 10 digits 0 = id.toNat

theorem Json.digitsValue?_eq_some_iff {n : Nat} : digitsValue? cs = some n ↔
    cs ≠ [] ∧ (∀ c ∈ cs, c.isDigit = true) ∧ Nat.ofDigitChars 10 cs 0 = n := by
  have hguard : (cs.all Char.isDigit && !cs.isEmpty) = true ↔
      cs ≠ [] ∧ ∀ c ∈ cs, c.isDigit = true := by
    rw [Bool.and_eq_true, List.all_eq_true, Bool.not_eq_true', List.isEmpty_eq_false_iff, and_comm]
  unfold digitsValue?
  rw [← and_assoc, ← hguard, Option.ite_none_right_eq_some, Option.some.injEq]

/-- Digits do not begin with a sign. -/
theorem lenientNumber?_of_digits (h : ∀ c ∈ cs, c.isDigit = true) :
    lenientNumber? cs = (Json.digitsValue? cs).bind word64? := by
  unfold lenientNumber?
  split
  · exact absurd (h '+' List.mem_cons_self) (by decide)
  · rfl

/-- The digits that are read are those behind the sign. -/
theorem exists_digits_of_lenientNumber? (h : lenientNumber? cs = some id) :
    ∃ sign digits, cs = sign ++ digits ∧ (sign = [] ∨ sign = ['+']) ∧
      (Json.digitsValue? digits).bind word64? = some id := by
  unfold lenientNumber? at h
  split at h
  · next rest => exact ⟨['+'], rest, rfl, .inr rfl, h⟩
  · exact ⟨[], _, rfl, .inl rfl, h⟩

theorem lenientNumber?_eq_some_iff : lenientNumber? cs = some id ↔ SpellsId cs id := by
  have hvalue : ∀ digits, (Json.digitsValue? digits).bind word64? = some id ↔
      digits ≠ [] ∧ (∀ c ∈ digits, c.isDigit = true) ∧
        Nat.ofDigitChars 10 digits 0 = id.toNat := by
    intro digits
    simp only [Option.bind_eq_some_iff, word64?_eq_some_iff, Json.digitsValue?_eq_some_iff]
    constructor
    · rintro ⟨_, ⟨hne, hdigits, rfl⟩, hid⟩
      exact ⟨hne, hdigits, hid.symm⟩
    · rintro ⟨hne, hdigits, hid⟩
      exact ⟨_, ⟨hne, hdigits, rfl⟩, hid.symm⟩
  constructor
  · intro h
    obtain ⟨sign, digits, hcs, hsign, hread⟩ := exists_digits_of_lenientNumber? h
    exact ⟨sign, digits, hcs, hsign, (hvalue digits).1 hread⟩
  · rintro ⟨sign, digits, rfl, rfl | rfl, hspelled⟩
    · exact (lenientNumber?_of_digits hspelled.2.1).trans ((hvalue digits).2 hspelled)
    · exact (hvalue digits).2 hspelled

/-- An id is spelled by its decimal form, with zeros in front. -/
theorem spellsId_zeros (zeros : Nat) (id : UInt64) :
    SpellsId (List.replicate zeros '0' ++ Nat.toDigits 10 id.toNat) id := by
  refine ⟨[], _, rfl, .inl rfl, by simp [Nat.toDigits_ne_nil], fun c hc => ?_, ?_⟩
  · rcases List.mem_append.1 hc with hzero | hdigit
    · exact (List.eq_of_mem_replicate hzero).symm ▸ rfl
    · exact Json.isDigit_of_mem_toDigits hdigit
  · show Nat.ofDigitChars 10 (List.replicate zeros '0' ++ Nat.toDigits 10 id.toNat) 0 = _
    rw [Nat.ofDigitChars_append, Nat.ofDigitChars_replicate_zero, Nat.mul_zero,
      Nat.ofDigitChars_ten_toDigits]

/-! ### Sections -/

namespace Manifest

/-- The sections that are looked up by id. -/
inductive Section where
  | names
  | schedulerHierarchy
  | initHierarchy

namespace Section

/-- The name of the section in a path. -/
def name : Section → String
  | names => "names"
  | schedulerHierarchy => "scheduler_hierarchy"
  | initHierarchy => "init_hierarchy"

/-- What the typed query of the section answers, for an id with an entry. -/
def query? (m : Manifest) (id : ComponentId) : Section → Option String
  | names => m.name? id
  | schedulerHierarchy =>
    if id.number ∈ m.schedulerHierarchy then
      some (decimal (m.hierarchicalScheduler id).number.toNat)
    else none
  | initHierarchy =>
    if id.number ∈ m.initHierarchy then some (decimal (m.directScheduler id).number.toNat)
    else none

theorem slash_not_mem (s : Section) : '/' ∉ s.name.toList := by
  cases s with
  | names => decide
  | schedulerHierarchy => decide
  | initHierarchy => decide

end Section

/-- An entry of a table in decimal, if the table has it. -/
theorem map_getElem?_eq (table : NumberTable UInt64) :
    (table[id]?.map fun number => decimal number.toNat) =
      if id ∈ table then some (decimal (table[id]?.getD 0).toNat) else none := by
  by_cases h : id ∈ table
  · obtain ⟨number, hnumber⟩ :=
      Option.isSome_iff_exists.1 (Std.ExtTreeMap.isSome_getElem?_iff_mem.2 h)
    rw [if_pos h, hnumber]
    rfl
  · rw [if_neg h, Std.ExtTreeMap.getElem?_eq_none h]
    rfl

theorem entry?_name (s : Section) : m.entry? s.name id = s.query? m ⟨id⟩ := by
  cases s with
  | names => rfl
  | schedulerHierarchy => exact map_getElem?_eq m.schedulerHierarchy
  | initHierarchy => exact map_getElem?_eq m.initHierarchy

theorem exists_section_of_entry? {sectionName : String}
    (h : m.entry? sectionName id = some value) : ∃ s : Section, sectionName = s.name := by
  unfold entry? at h
  split at h
  · next hname => exact ⟨.names, hname⟩
  · split at h
    · next hname => exact ⟨.schedulerHierarchy, hname⟩
    · split at h
      · next hname => exact ⟨.initHierarchy, hname⟩
      · cases h

/-! ### Paths -/

theorem splitPath?_name (s : Section) (cs : List Char) :
    splitPath? (s.name ++ "/" ++ String.ofList cs).toList = some (s.name.toList, cs) := by
  have hchars : (s.name ++ "/" ++ String.ofList cs).toList = s.name.toList ++ '/' :: cs := by
    simp
  exact splitPath?_eq_some_iff.2 ⟨hchars, s.slash_not_mem⟩

/-- Behind the name of a section, any spelling of an id asks the typed query. -/
theorem value?_of_spellsId (s : Section) (h : SpellsId cs id) :
    m.value? (s.name ++ "/" ++ String.ofList cs) = s.query? m ⟨id⟩ := by
  have hcut := splitPath?_name s cs
  have hend : s.name ++ "/" ++ String.ofList cs ≠ "captbl_end" := by
    intro heq
    have hnone : splitPath? "captbl_end".toList = none := by decide
    rw [heq, hnone] at hcut
    cases hcut
  unfold value?
  rw [if_neg hend, hcut]
  show ((lenientNumber? cs).bind fun id => m.entry? (String.ofList s.name.toList) id) = _
  rw [lenientNumber?_eq_some_iff.2 h, Option.bind_some, String.ofList_toList, entry?_name]

/-- Nothing else has a value. -/
theorem exists_section_of_value? {path : String} (h : m.value? path = some value) :
    (path = "captbl_end" ∧ value = decimal m.captblEnd.toNat) ∨
      ∃ s : Section, ∃ cs id, path = s.name ++ "/" ++ String.ofList cs ∧ SpellsId cs id := by
  unfold value? at h
  split at h
  · next hend => exact .inl ⟨hend, (Option.some.inj h).symm⟩
  · obtain ⟨⟨front, cs⟩, hcut, h⟩ := Option.bind_eq_some_iff.1 h
    obtain ⟨id, hid, h⟩ := Option.bind_eq_some_iff.1 h
    obtain ⟨s, hname⟩ := exists_section_of_entry? h
    obtain ⟨hpath, -⟩ := splitPath?_eq_some_iff.1 hcut
    refine .inr ⟨s, cs, id, ?_, lenientNumber?_eq_some_iff.1 hid⟩
    rw [← hname, ← String.toList_inj, hpath]
    simp

/-! ### Paths and queries agree -/

/-- For every manifest, a path has a value exactly in two cases.  It is `captbl_end`, and
the value is that number in decimal; or it is the name of a section, a slash and a
spelling of an id that the section has an entry for, and the value is this entry.  And
behind the name of a section, the decimal form of any id, with any number of zeros in
front, gives what the typed query answers. -/
theorem paths_agree_with_queries (m : Manifest) :
    (∀ path value, m.value? path = some value ↔
      (path = "captbl_end" ∧ value = decimal m.captblEnd.toNat) ∨
      ∃ s : Section, ∃ cs id, path = s.name ++ "/" ++ String.ofList cs ∧ SpellsId cs id ∧
        s.query? m ⟨id⟩ = some value) ∧
    ∀ (s : Section) (id : ComponentId) (zeros : Nat),
      m.value? (s.name ++ "/" ++
        (String.ofList (List.replicate zeros '0') ++ decimal id.number.toNat)) = s.query? m id := by
  refine ⟨fun path value => ⟨fun h => ?_, ?_⟩, fun s id zeros => ?_⟩
  · rcases exists_section_of_value? h with hend | ⟨s, cs, id, rfl, hid⟩
    · exact .inl hend
    · exact .inr ⟨s, cs, id, rfl, hid, (value?_of_spellsId s hid).symm.trans h⟩
  · rintro (⟨rfl, rfl⟩ | ⟨s, cs, id, rfl, hid, hentry⟩)
    · exact if_pos rfl
    · exact (value?_of_spellsId s hid).trans hentry
  · have hspelled : String.ofList (List.replicate zeros '0') ++ decimal id.number.toNat =
        String.ofList (List.replicate zeros '0' ++ Nat.toDigits 10 id.number.toNat) :=
      String.ofList_append.symm
    rw [hspelled]
    exact value?_of_spellsId s (spellsId_zeros zeros id.number)

/-- A sign and zeros are read over; a second slash, a second sign and 2^64 are not. -/
example :
    let m : Manifest := { Manifest.empty with names := .ofList [((5 : UInt64), "client")] }
    m.value? "names/+005" = some "client" ∧ m.value? "names/5/" = none ∧
      m.value? "names/++5" = none ∧ m.value? "names/18446744073709551621" = none := by
  decide +kernel

end Manifest

end CapabilityBroker
