/-
CapabilityBroker/Proofs/Json/Cutting.lean

What is written is cut into the tokens it was written from.

A word or a number ends only at the character that follows it, so the cut of
a text is not the concatenation of the cuts of its parts.  Two relations keep
the parts apart.  `Spells cs ts` speaks of a text that is read where a token
may start, and says what has been read once a pending word or number is
closed.  `SpellsAfter cs ts` speaks of a text that may follow anything: it
starts with a blank or a punctuation mark, or is empty.  The second is what
`Spells.append` asks of the text that comes after a value.

Both layouts are then settled by one induction over the values that can be
written at all (`Writable`): those whose numerals are numerals and whose
plain characters need no escape.
-/
import CapabilityBroker.Json.Layout
import CapabilityBroker.Proofs.Json.Numeral

namespace CapabilityBroker.Json

/-! ### Reading on -/

namespace Cut

/-- Read more characters. -/
def read (s : Cut) (cs : List Char) : Option Cut := cs.foldlM push s

@[simp] theorem read_nil (s : Cut) : s.read [] = some s := rfl

theorem read_cons (s : Cut) (c : Char) (cs : List Char) :
    s.read (c :: cs) = (s.push c).bind (read · cs) := rfl

theorem read_append (s : Cut) (cs ds : List Char) :
    s.read (cs ++ ds) = (s.read cs).bind (read · ds) := by
  simp [read, List.foldlM_append, Option.bind_eq_bind]

/-- A character that is part of no word and no number is read as the start of
a token, whatever is before it. -/
theorem push_of_close {s : Cut} {c : Char} {before : List Token} (hs : s.close = some before)
    (hw : isWordChar c = false) (hn : isNumberChar c = false) : s.push c = start before c := by
  obtain ⟨tokens, reading⟩ := s
  cases reading with
  | blank =>
    obtain rfl := Option.some.inj hs
    rfl
  | word seen => simp [push, hw, hs]
  | number seen => simp [push, hn, hs]
  | text | escape | code => simp [close] at hs

end Cut

theorem tokens?_eq (cs : List Char) :
    tokens? cs = ((Cut.empty.read cs).bind Cut.close).map List.reverse := rfl

/-! ### Texts and the tokens they spell -/

/-- Read where a token may start, `cs` adds the tokens `ts`. -/
def Spells (cs : List Char) (ts : List Token) : Prop :=
  ∀ before, ∃ s, Cut.read ⟨before, .blank⟩ cs = some s ∧ s.close = some (ts.reverse ++ before)

/-- Read after anything that is not an open string, `cs` adds the tokens
`ts`. -/
def SpellsAfter (cs : List Char) (ts : List Token) : Prop :=
  ∀ (s : Cut) before, s.close = some before →
    ∃ s', s.read cs = some s' ∧ s'.close = some (ts.reverse ++ before)

theorem Spells.tokens?_eq {cs : List Char} {ts : List Token} (h : Spells cs ts) :
    tokens? cs = some ts := by
  obtain ⟨s, hread, hclose⟩ := h []
  rw [Json.tokens?_eq, Cut.empty, hread]
  simp [hclose]

theorem SpellsAfter.spells {cs : List Char} {ts : List Token} (h : SpellsAfter cs ts) :
    Spells cs ts :=
  fun before => h ⟨before, .blank⟩ before rfl

theorem Spells.append {cs ds : List Char} {ts us : List Token} (h : Spells cs ts)
    (h' : SpellsAfter ds us) : Spells (cs ++ ds) (ts ++ us) := by
  intro before
  obtain ⟨s, hs, hclose⟩ := h before
  obtain ⟨s', hs', hclose'⟩ := h' s _ hclose
  exact ⟨s', by simp [Cut.read_append, hs, hs'], by simp [hclose']⟩

theorem spellsAfter_nil : SpellsAfter [] [] := fun s _ hs => ⟨s, rfl, hs⟩

/-- A blank adds no token. -/
theorem Spells.blank {c : Char} {cs : List Char} {ts : List Token} (h : Spells cs ts)
    (hc : isBlank c = true) : SpellsAfter (c :: cs) ts := by
  intro s before hs
  obtain ⟨s', hread, hclose⟩ := h before
  refine ⟨s', ?_, hclose⟩
  have hpush : s.push c = Cut.start before c := by
    simp only [isBlank, Bool.or_eq_true, beq_iff_eq] at hc
    rcases hc with ((rfl | rfl) | rfl) | rfl <;>
      exact Cut.push_of_close hs (by decide) (by decide)
  rw [Cut.read_cons, hpush]
  simp [Cut.start, hc, hread]

/-- A punctuation mark adds its token. -/
theorem Spells.mark {c : Char} {cs : List Char} {t : Token} {ts : List Token} (h : Spells cs ts)
    (hc : punctuation? c = some t) : SpellsAfter (c :: cs) (t :: ts) := by
  intro s before hs
  obtain ⟨s', hread, hclose⟩ := h (t :: before)
  refine ⟨s', ?_, by simpa using hclose⟩
  have hpush : s.push c = some ⟨t :: before, .blank⟩ := by
    unfold punctuation? at hc
    split at hc <;> cases hc <;> exact Cut.push_of_close hs (by decide) (by decide)
  rw [Cut.read_cons, hpush]
  exact hread

theorem Spells.blanks {cs : List Char} {ts : List Token} (h : Spells cs ts) (n : Nat) :
    Spells (List.replicate n ' ' ++ cs) ts := by
  induction n with
  | zero => exact h
  | succ n ih => exact (ih.blank (by decide)).spells

/-- A new line adds no token. -/
theorem Spells.newLine {cs : List Char} {ts : List Token} (h : Spells cs ts) (depth : Nat) :
    SpellsAfter (newLine depth ++ cs) ts :=
  (h.blanks (2 * depth)).blank (by decide)

/-! ### Words, numbers and strings -/

theorem spells_null : Spells "null".toList [.null] := fun _ => ⟨_, rfl, rfl⟩

theorem spells_true : Spells "true".toList [.bool true] := fun _ => ⟨_, rfl, rfl⟩

theorem spells_false : Spells "false".toList [.bool false] := fun _ => ⟨_, rfl, rfl⟩

theorem Cut.read_number {cs : List Char} (h : ∀ c ∈ cs, isNumberChar c = true)
    (before : List Token) (seen : List Char) :
    Cut.read ⟨before, .number seen⟩ cs = some ⟨before, .number (cs.reverse ++ seen)⟩ := by
  induction cs generalizing seen with
  | nil => rfl
  | cons c cs ih =>
    have hc := h c List.mem_cons_self
    rw [Cut.read_cons, Cut.push]
    simp [hc, ih (fun d hd => h d (List.mem_cons_of_mem c hd))]

theorem Cut.start_number {c : Char} (h : isNumberStart c = true) (before : List Token) :
    Cut.start before c = some ⟨before, .number [c]⟩ := by
  have hother : isBlank c = false ∧ c ≠ '"' := by
    simp only [isNumberStart, Char.isDigit, Bool.or_eq_true, Bool.and_eq_true, decide_eq_true_eq,
      beq_iff_eq] at h
    constructor
    · by_contra hb
      simp only [isBlank, Bool.not_eq_false, Bool.or_eq_true, beq_iff_eq] at hb
      rcases hb with ((rfl | rfl) | rfl) | rfl <;> exact absurd h (by decide)
    · rintro rfl
      exact absurd h (by decide)
  simp [Cut.start, hother.1, hother.2, h]

/-- A numeral is cut in one piece. -/
theorem spells_numeral {cs : List Char} (h : isNumeral cs = true) : Spells cs [.number cs] := by
  intro before
  obtain ⟨c, rest, rfl, hc⟩ := numeral_cons h
  have hrest : ∀ d ∈ rest, isNumberChar d = true := fun d hd =>
    numeral_chars h d (List.mem_cons_of_mem c hd)
  refine ⟨⟨before, .number (rest.reverse ++ [c])⟩, ?_, ?_⟩
  · rw [Cut.read_cons, show Cut.push ⟨before, .blank⟩ c = Cut.start before c from rfl,
      Cut.start_number hc]
    exact Cut.read_number hrest before [c]
  · simp [Cut.close, h]

/-- A written string whose plain characters need no escape. -/
def Spelt (t : Text) : Prop := ∀ c, Piece.plain c ∈ t → Text.mustEscape c = false

theorem hexValue?_digitChar {d : Nat} (h : d < 16) : hexValue? (Nat.digitChar d) = some d := by
  revert d
  decide

theorem unitOfEscape?_of_shortEscape? {unit : UInt16} {c : Char}
    (h : shortEscape? unit = some c) : c ≠ 'u' ∧ unitOfEscape? c = some unit := by
  unfold shortEscape? at h
  split_ifs at h <;> cases h <;> subst_vars <;> decide

/-- The four hexadecimal digits of a code unit are read as the code unit. -/
theorem Cut.read_hexDigits (before : List Token) (seen : Text) (unit : UInt16) :
    Cut.read ⟨before, .code seen 4 0⟩ (hexDigits unit) =
      some ⟨before, .text (.escape unit :: seen)⟩ := by
  have hlt : unit.toNat < 65536 := unit.toNat_lt
  have hvalue : 16 * (16 * (16 * (unit.toNat / 4096) + unit.toNat / 256 % 16) +
      unit.toNat / 16 % 16) + unit.toNat % 16 = unit.toNat := by omega
  simp [hexDigits, Cut.read_cons, Cut.push, hvalue, -UInt16.ofNat_add, -UInt16.ofNat_mul,
    hexValue?_digitChar (show unit.toNat / 4096 < 16 by omega),
    hexValue?_digitChar (Nat.mod_lt _ (by decide))]

theorem Cut.read_piece {p : Piece} (h : ∀ c, p = .plain c → Text.mustEscape c = false)
    (before : List Token) (seen : Text) :
    Cut.read ⟨before, .text seen⟩ p.spell = some ⟨before, .text (p :: seen)⟩ := by
  cases p with
  | plain c =>
    have hc := h c rfl
    simp only [Text.mustEscape, Bool.or_eq_false_iff, beq_eq_false_iff_ne, ne_eq,
      decide_eq_false_iff_not] at hc
    obtain ⟨⟨hquote, hslash⟩, hcontrol⟩ := hc
    simp [Piece.spell, Cut.read_cons, Cut.push, hquote, hslash, hcontrol]
  | escape unit =>
    simp only [Piece.spell]
    split
    · next c hc =>
      obtain ⟨hu, hunit⟩ := unitOfEscape?_of_shortEscape? hc
      simp [Cut.read_cons, Cut.push, hu, hunit]
    · rw [Cut.read_cons, show Cut.push ⟨before, .text seen⟩ '\\' = some ⟨before, .escape seen⟩
        from rfl, Option.bind_some, Cut.read_cons]
      exact Cut.read_hexDigits before seen unit

theorem Cut.read_pieces {t : Text} (h : Spelt t) (before : List Token) (seen : Text) :
    Cut.read ⟨before, .text seen⟩ (t.flatMap Piece.spell) =
      some ⟨before, .text (t.reverse ++ seen)⟩ := by
  induction t generalizing seen with
  | nil => rfl
  | cons p t ih =>
    have hp : ∀ c, p = .plain c → Text.mustEscape c = false := fun c hc => h c (by simp [hc])
    have ht : Spelt t := fun c hc => h c (List.mem_cons_of_mem p hc)
    simp [Cut.read_append, Cut.read_piece hp, ih ht]

/-- A written string is cut in one piece. -/
theorem spells_text {t : Text} (h : Spelt t) : Spells t.spell [.text t] := by
  intro before
  refine ⟨⟨.text t :: before, .blank⟩, ?_, rfl⟩
  rw [Text.spell, Cut.read_cons, show Cut.push ⟨before, .blank⟩ '"' = some ⟨before, .text []⟩
    from rfl, Option.bind_some, Cut.read_append, Cut.read_pieces h]
  simp [Cut.read_cons, Cut.push]

theorem spelt_ofString (s : String) : Spelt (Text.ofString s) := by
  intro c hc
  obtain ⟨d, -, hd⟩ := List.mem_map.mp hc
  unfold Text.pieceOf at hd
  split at hd
  · contradiction
  · next hplain =>
    obtain rfl := Piece.plain.inj hd
    exact Bool.eq_false_iff.mpr hplain

/-! ### The tokens of a value -/

mutual

/-- The tokens that spell a value. -/
def tokens : Json → List Token
  | .null => [.null]
  | .bool b => [.bool b]
  | .number numeral => [.number numeral]
  | .text t => [.text t]
  | .list [] => [.openList, .closeList]
  | .list (v :: rest) => .openList :: (tokens v ++ moreItems rest)
  | .object [] => [.openObject, .closeObject]
  | .object ((key, v) :: rest) =>
    .openObject :: .text key :: .colon :: (tokens v ++ moreEntries rest)

/-- The tokens of the items after the first, and the closing bracket. -/
def moreItems : List Json → List Token
  | [] => [.closeList]
  | v :: rest => .comma :: (tokens v ++ moreItems rest)

/-- The tokens of the entries after the first, and the closing brace. -/
def moreEntries : List (Text × Json) → List Token
  | [] => [.closeObject]
  | (key, v) :: rest => .comma :: .text key :: .colon :: (tokens v ++ moreEntries rest)

end

/-- A value that can be written: its numerals are numerals, and its strings
and keys escape what they must. -/
inductive Writable : Json → Prop
  | null : Writable .null
  | bool (b : Bool) : Writable (.bool b)
  | number {numeral : List Char} (h : isNumeral numeral = true) : Writable (.number numeral)
  | text {t : Text} (h : Spelt t) : Writable (.text t)
  | list {items : List Json} (h : ∀ v ∈ items, Writable v) : Writable (.list items)
  | object {entries : List (Text × Json)} (hk : ∀ e ∈ entries, Spelt e.1)
      (h : ∀ e ∈ entries, Writable e.2) : Writable (.object entries)

/-- An entry spells its key, the colon and what follows. -/
theorem spells_entry {key : Text} {cs : List Char} {ts : List Token} (hk : Spelt key)
    (h : Spells cs ts) : Spells (key.spell ++ ':' :: cs) (.text key :: .colon :: ts) :=
  (spells_text hk).append (h.mark rfl)

/-! ### The compact layout -/

/-- The items after the first, each with the comma before it, and the closing
bracket. -/
def compactMore : List Json → List Char
  | [] => [']']
  | v :: rest => ',' :: (compactChars v ++ compactMore rest)

/-- The entries after the first, each with the comma before it, and the
closing brace. -/
def compactMoreEntries : List (Text × Json) → List Char
  | [] => ['}']
  | (key, v) :: rest => ',' :: (key.spell ++ ':' :: (compactChars v ++ compactMoreEntries rest))

theorem compactItems_cons (v : Json) (rest : List Json) :
    compactItems (v :: rest) = compactChars v ++ compactMore rest := by
  induction rest generalizing v with
  | nil => rfl
  | cons w rest ih => rw [compactItems, ih, compactMore]; simp

theorem compactEntries_cons (key : Text) (v : Json) (rest : List (Text × Json)) :
    compactEntries ((key, v) :: rest) =
      key.spell ++ ':' :: (compactChars v ++ compactMoreEntries rest) := by
  induction rest generalizing key v with
  | nil => rfl
  | cons e rest ih => rw [compactEntries, ih, compactMoreEntries]; simp

theorem spellsAfter_compactMore {rest : List Json}
    (h : ∀ v ∈ rest, Spells (compactChars v) (tokens v)) :
    SpellsAfter (compactMore rest) (moreItems rest) := by
  induction rest with
  | nil => exact spellsAfter_nil.spells.mark rfl
  | cons v rest ih =>
    have hv := h v List.mem_cons_self
    have hrest := ih fun w hw => h w (List.mem_cons_of_mem v hw)
    exact (hv.append hrest).mark rfl

theorem spellsAfter_compactMoreEntries {rest : List (Text × Json)} (hk : ∀ e ∈ rest, Spelt e.1)
    (h : ∀ e ∈ rest, Spells (compactChars e.2) (tokens e.2)) :
    SpellsAfter (compactMoreEntries rest) (moreEntries rest) := by
  induction rest with
  | nil => exact spellsAfter_nil.spells.mark rfl
  | cons e rest ih =>
    have hv := h e List.mem_cons_self
    have hrest := ih (fun w hw => hk w (List.mem_cons_of_mem e hw))
      fun w hw => h w (List.mem_cons_of_mem e hw)
    exact (spells_entry (hk e List.mem_cons_self) (hv.append hrest)).mark rfl

theorem Writable.spells_compact {j : Json} (h : Writable j) :
    Spells (compactChars j) (tokens j) := by
  induction h with
  | null => exact spells_null
  | bool b => cases b with
    | true => exact spells_true
    | false => exact spells_false
  | number h => exact spells_numeral h
  | text h => exact spells_text h
  | @list items _ ih =>
    cases items with
    | nil => exact ((spellsAfter_nil.spells.mark rfl).spells.mark rfl).spells
    | cons v rest =>
      have hv := ih v List.mem_cons_self
      have hrest := spellsAfter_compactMore fun w hw => ih w (List.mem_cons_of_mem v hw)
      rw [compactChars, compactItems_cons, tokens]
      exact ((hv.append hrest).mark rfl).spells
  | @object entries hk _ ih =>
    cases entries with
    | nil => exact ((spellsAfter_nil.spells.mark rfl).spells.mark rfl).spells
    | cons e rest =>
      have hv := ih e List.mem_cons_self
      have hrest := spellsAfter_compactMoreEntries
        (fun w hw => hk w (List.mem_cons_of_mem e hw))
        fun w hw => ih w (List.mem_cons_of_mem e hw)
      rw [compactChars, compactEntries_cons, tokens]
      exact ((spells_entry (hk e List.mem_cons_self) (hv.append hrest)).mark
        rfl).spells

/-! ### The indented layout -/

theorem spellsAfter_indentedItems {depth : Nat} {rest : List Json}
    (h : ∀ v ∈ rest, Spells (indentedChars (depth + 1) v) (tokens v)) :
    SpellsAfter (indentedItems depth rest) (moreItems rest) := by
  induction rest with
  | nil => exact (spellsAfter_nil.spells.mark rfl).spells.newLine depth
  | cons v rest ih =>
    have hv := h v List.mem_cons_self
    have hrest := ih fun w hw => h w (List.mem_cons_of_mem v hw)
    exact ((hv.append hrest).newLine (depth + 1)).spells.mark rfl

theorem spellsAfter_indentedEntries {depth : Nat} {rest : List (Text × Json)}
    (hk : ∀ e ∈ rest, Spelt e.1)
    (h : ∀ e ∈ rest, Spells (indentedChars (depth + 1) e.2) (tokens e.2)) :
    SpellsAfter (indentedEntries depth rest) (moreEntries rest) := by
  induction rest with
  | nil => exact (spellsAfter_nil.spells.mark rfl).spells.newLine depth
  | cons e rest ih =>
    have hv := ((h e List.mem_cons_self).append (ih (fun w hw => hk w (List.mem_cons_of_mem e hw))
      fun w hw => h w (List.mem_cons_of_mem e hw))).blank (c := ' ') (by decide)
    exact ((spells_entry (hk e List.mem_cons_self) hv.spells).newLine
      (depth + 1)).spells.mark rfl

theorem Writable.spells_indented {j : Json} (h : Writable j) (depth : Nat) :
    Spells (indentedChars depth j) (tokens j) := by
  induction h generalizing depth with
  | null => exact spells_null
  | bool b => cases b with
    | true => exact spells_true
    | false => exact spells_false
  | number h => exact spells_numeral h
  | text h => exact spells_text h
  | @list items _ ih =>
    cases items with
    | nil => exact ((spellsAfter_nil.spells.mark rfl).spells.mark rfl).spells
    | cons v rest =>
      have hv := ih v List.mem_cons_self (depth + 1)
      have hrest : SpellsAfter (indentedItems depth rest) _ :=
        spellsAfter_indentedItems fun w hw => ih w (List.mem_cons_of_mem v hw) (depth + 1)
      exact (((hv.append hrest).newLine (depth + 1)).spells.mark rfl).spells
  | @object entries hk _ ih =>
    cases entries with
    | nil => exact ((spellsAfter_nil.spells.mark rfl).spells.mark rfl).spells
    | cons e rest =>
      have hrest : SpellsAfter (indentedEntries depth rest) _ :=
        spellsAfter_indentedEntries (fun w hw => hk w (List.mem_cons_of_mem e hw)) fun w hw =>
          ih w (List.mem_cons_of_mem e hw) (depth + 1)
      have hv := ((ih e List.mem_cons_self (depth + 1)).append hrest).blank (c := ' ') (by decide)
      exact (((spells_entry (hk e List.mem_cons_self) hv.spells).newLine
        (depth + 1)).spells.mark rfl).spells

end CapabilityBroker.Json
