import SchemaTyping.Json.Cursor
import SchemaTyping.Proofs.Text.Separated

/-!
# What a reader takes from a text

A reader turns a cursor into a value and a cursor further on. What matters of it for the meaning of a
text is the value and what is left to read; the offsets only serve to report faults. `reading` keeps just
that, and readers put behind one another keep it too. Blanks are what every token may be surrounded by.
-/

namespace SchemaTyping.Json

open Text (StartsWith startsWith_nil startsWith_cons)

variable {ε α β : Type}

/-- What a reading gives and what it leaves, if it does not fail. -/
def reading (result : Except ε (α × Cursor)) : Option (α × List Char) :=
  result.toOption.map fun (x, cursor) => (x, cursor.rest)

@[simp]
theorem reading_ok (x : α) (cursor : Cursor) :
    reading (.ok (x, cursor) : Except ε (α × Cursor)) = some (x, cursor.rest) := rfl

theorem reading_eq_some_iff {result : Except ε (α × Cursor)} {x : α} {rest : List Char} :
    reading result = some (x, rest) ↔ ∃ offset, result = .ok (x, ⟨rest, offset⟩) := by
  constructor
  · intro hreading
    cases result with
    | error error => cases hreading
    | ok read =>
      obtain ⟨_, _, offset⟩ := read
      cases hreading
      exact ⟨offset, rfl⟩
  · rintro ⟨offset, rfl⟩
    rfl

/-- A reader put behind one that does not fail. -/
theorem reading_bind {result : Except ε (α × Cursor)} {next : α × Cursor → Except ε (β × Cursor)} {x : α}
    {rest : List Char} {y : β} {rest' : List Char} (hfirst : reading result = some (x, rest))
    (hnext : ∀ offset, reading (next (x, ⟨rest, offset⟩)) = some (y, rest')) :
    reading (result >>= next) = some (y, rest') := by
  obtain ⟨offset, rfl⟩ := reading_eq_some_iff.1 hfirst
  exact hnext offset

theorem exists_of_bind_ok {result : Except ε α} {next : α → Except ε β} {y : β}
    (hok : result >>= next = .ok y) :
    ∃ x, result = .ok x ∧ next x = .ok y := by
  cases result with
  | error error => cases hok
  | ok x => exact ⟨x, rfl, hok⟩

theorem startsWith_cons_iff {kind : α → Prop} {item : α} {items : List α} :
    StartsWith kind (item :: items) ↔ kind item :=
  ⟨fun hstart => hstart item rfl, fun hkind => startsWith_cons hkind items⟩

/-! ### Blanks -/

/-- The characters that may stand between tokens. -/
def blankChars : List Char := [' ', '\t', '\n', '\r']

def IsBlank (text : List Char) : Prop := ∀ c ∈ text, c ∈ blankChars

-- by the characters that are there, not by all that there are
instance (text : List Char) : Decidable (IsBlank text) := List.decidableBAll (· ∈ blankChars) text

theorem isBlank_nil : IsBlank [] := fun _ hc => absurd hc List.not_mem_nil

theorem mem_blankChars {c : Char} : c ∈ blankChars ↔ c = ' ' ∨ c = '\t' ∨ c = '\n' ∨ c = '\r' := by
  simp [blankChars]

theorem skipBlanksFrom_of_blank {c : Char} (hc : c ∈ blankChars) (rest : List Char) (offset : Nat) :
    Cursor.skipBlanksFrom (c :: rest) offset = Cursor.skipBlanksFrom rest (offset + 1) :=
  if_pos (mem_blankChars.1 hc)

theorem skipBlanks_of_startsWith {cursor : Cursor} (hstart : StartsWith (· ∉ blankChars) cursor.rest) :
    cursor.skipBlanks = cursor := by
  obtain ⟨text, offset⟩ := cursor
  cases text with
  | nil => rfl
  | cons c rest => exact if_neg fun hblank => hstart c rfl (mem_blankChars.2 hblank)

theorem rest_skipBlanks_append {blank rest : List Char} (hblank : IsBlank blank)
    (hstart : StartsWith (· ∉ blankChars) rest) (offset : Nat) :
    ∃ offset', (Cursor.mk (blank ++ rest) offset).skipBlanks = ⟨rest, offset'⟩ := by
  induction blank generalizing offset with
  | nil => exact ⟨offset, skipBlanks_of_startsWith hstart⟩
  | cons c blank ih =>
    obtain ⟨offset', hskip⟩ := ih (fun c hc => hblank c (List.mem_cons_of_mem _ hc)) (offset + 1)
    exact ⟨offset', (skipBlanksFrom_of_blank (hblank c List.mem_cons_self) _ _).trans hskip⟩

theorem skipBlanks_append_cons {blank : List Char} (hblank : IsBlank blank) {c : Char}
    (hc : c ∉ blankChars) (rest : List Char) (offset : Nat) :
    ∃ offset', (Cursor.mk (blank ++ c :: rest) offset).skipBlanks = ⟨c :: rest, offset'⟩ :=
  rest_skipBlanks_append hblank (startsWith_cons_iff.2 hc) offset

/-- Blanks are skipped up to what is none. -/
theorem exists_blank_skipBlanks (cursor : Cursor) :
    ∃ blank, IsBlank blank ∧ cursor.rest = blank ++ cursor.skipBlanks.rest ∧
      StartsWith (· ∉ blankChars) cursor.skipBlanks.rest := by
  obtain ⟨text, offset⟩ := cursor
  induction text generalizing offset with
  | nil => exact ⟨[], isBlank_nil, rfl, startsWith_nil _⟩
  | cons c rest ih =>
    by_cases hc : c ∈ blankChars
    · have hskip : (Cursor.mk (c :: rest) offset).skipBlanks =
          (Cursor.mk rest (offset + 1)).skipBlanks :=
        skipBlanksFrom_of_blank hc rest offset
      obtain ⟨blank, hblank, hrest, hstart⟩ := ih (offset + 1)
      rw [hskip]
      exact ⟨c :: blank, List.forall_mem_cons.2 ⟨hc, hblank⟩, congrArg (List.cons c) hrest, hstart⟩
    · have hstart : StartsWith (· ∉ blankChars) (c :: rest) := startsWith_cons_iff.2 hc
      have hskip : (Cursor.mk (c :: rest) offset).skipBlanks = ⟨c :: rest, offset⟩ :=
        skipBlanks_of_startsWith hstart
      rw [hskip]
      exact ⟨[], isBlank_nil, rfl, hstart⟩

end SchemaTyping.Json
