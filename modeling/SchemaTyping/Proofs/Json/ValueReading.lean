import SchemaTyping.Json.Reader
import SchemaTyping.Proofs.Json.NumeralReading
import SchemaTyping.Proofs.Json.Spelling

/-!
# Every spelling of a value is read

The reader of values takes every spelling of a tree for that tree with its repeated keys settled
(`reading_readValue`). There is one statement for each part of the reader: the words, the marks between
items and members, and the two loops, for which it does not matter what they are loops over.
-/

namespace SchemaTyping.Json

open Text (StartsWith startsWith_cons)

variable {ε α β σ : Type}

theorem reading_readWord (word rest : List Char) (offset : Nat) :
    reading (readWord word ⟨word ++ rest, offset⟩) = some ((), rest) := by
  induction word generalizing offset with
  | nil => rfl
  | cons c word ih =>
    have hstep : readWord (c :: word) ⟨c :: word ++ rest, offset⟩ =
        readWord word ⟨word ++ rest, offset + 1⟩ := if_pos rfl
    rw [hstep]
    exact ih (offset + 1)

theorem reading_readColon {blank : List Char} (hblank : IsBlank blank) (rest : List Char)
    (offset : Nat) :
    reading (readColon ⟨blank ++ ':' :: rest, offset⟩) = some ((), rest) := by
  obtain ⟨offset', hskip⟩ := skipBlanks_append_cons hblank (c := ':') (by decide) rest offset
  simp only [readColon, hskip]
  rfl

theorem reading_nextItem_close {blank : List Char} (hblank : IsBlank blank) (first : Bool)
    (rest : List Char) (offset : Nat) :
    reading (nextItem first ⟨blank ++ ']' :: rest, offset⟩) = some (false, rest) := by
  obtain ⟨offset', hskip⟩ := skipBlanks_append_cons hblank (c := ']') (by decide) rest offset
  simp only [nextItem, hskip]
  rfl

theorem reading_nextItem_item {first : Bool} {lead : List Char} (hlead : Leads first lead) {c : Char}
    (hc : c ∉ blankChars) (hclose : c ≠ ']') (rest : List Char) (offset : Nat) :
    reading (nextItem first ⟨lead ++ c :: rest, offset⟩) = some (true, c :: rest) := by
  cases hlead with
  | first hblank =>
    obtain ⟨offset', hskip⟩ := skipBlanks_append_cons hblank hc rest offset
    simp [nextItem, hskip]
  | @next blank blank' hblank hblank' =>
    obtain ⟨offset', hcomma⟩ :=
      skipBlanks_append_cons hblank (c := ',') (by decide) (blank' ++ c :: rest) offset
    obtain ⟨offset'', hskip⟩ := skipBlanks_append_cons hblank' hc rest (offset' + 1)
    simp [nextItem, hcomma, hskip, hclose]

theorem reading_nextMember_close {blank : List Char} (hblank : IsBlank blank) (first : Bool)
    (rest : List Char) (offset : Nat) :
    reading (nextMember first ⟨blank ++ '}' :: rest, offset⟩) = some (false, rest) := by
  obtain ⟨offset', hskip⟩ := skipBlanks_append_cons hblank (c := '}') (by decide) rest offset
  simp only [nextMember, hskip]
  rfl

theorem reading_nextMember_member {first : Bool} {lead : List Char} (hlead : Leads first lead)
    (rest : List Char) (offset : Nat) :
    reading (nextMember first ⟨lead ++ '"' :: rest, offset⟩) = some (true, rest) := by
  cases hlead with
  | first hblank =>
    obtain ⟨offset', hskip⟩ := skipBlanks_append_cons hblank (c := '"') (by decide) rest offset
    simp [nextMember, hskip]
  | @next blank blank' hblank hblank' =>
    obtain ⟨offset', hcomma⟩ :=
      skipBlanks_append_cons hblank (c := ',') (by decide) (blank' ++ '"' :: rest) offset
    obtain ⟨offset'', hskip⟩ := skipBlanks_append_cons hblank' (c := '"') (by decide) rest (offset' + 1)
    simp [nextMember, hcomma, hskip]

theorem reading_readItems_close {raise : Fault → ε} {item : Nat → Cursor → Except ε (α × Cursor)}
    {index : Nat} {text rest : List Char} {offset : Nat}
    (hnext : reading (nextItem (index == 0) ⟨text, offset⟩) = some (false, rest)) (budget : Nat) :
    reading (readItems raise item (budget + 1) index ⟨text, offset⟩) = some ([], rest) := by
  obtain ⟨offset', hnext⟩ := reading_eq_some_iff.1 hnext
  rw [readItems, hnext]
  rfl

theorem reading_readItems_item {raise : Fault → ε} {item : Nat → Cursor → Except ε (α × Cursor)}
    {index : Nat} {text rest rest' rest'' : List Char} {offset : Nat} {x : α} {xs : List α}
    {budget : Nat} (hnext : reading (nextItem (index == 0) ⟨text, offset⟩) = some (true, rest))
    (hitem : ∀ offset, reading (item index ⟨rest, offset⟩) = some (x, rest'))
    (hmore : ∀ offset,
      reading (readItems raise item budget (index + 1) ⟨rest', offset⟩) = some (xs, rest'')) :
    reading (readItems raise item (budget + 1) index ⟨text, offset⟩) = some (x :: xs, rest'') := by
  obtain ⟨offset', hnext⟩ := reading_eq_some_iff.1 hnext
  rw [readItems, hnext]
  exact reading_bind (hitem offset') fun offset => reading_bind (hmore offset) fun _ => rfl

/-- The loop over a list reads the spellings of its items if the reader of an item does. -/
theorem reading_readItems {spells : β → List Char → Prop} {denotes : β → α} {raise : Fault → ε}
    {item : Nat → Cursor → Except ε (α × Cursor)} {first : Bool} {xs : List β} {text : List Char}
    (hspells : SpellsSequence spells ']' first xs text)
    (hstart : ∀ x text, spells x text → ∃ c rest, text = c :: rest ∧ c ∉ blankChars ∧ c ≠ ']')
    (hitem : ∀ x ∈ xs, ∀ text, spells x text → ∀ rest, EndsValue rest → ∀ index offset,
      reading (item index ⟨text ++ rest, offset⟩) = some (denotes x, rest))
    (rest : List Char) {budget : Nat} (hbudget : text.length ≤ budget) {index : Nat}
    (hfirst : (index == 0) = first) (offset : Nat) :
    reading (readItems raise item budget index ⟨text ++ rest, offset⟩) =
      some (xs.map denotes, rest) := by
  -- on the spelling, not on the budget, which only has to outlast it
  induction hspells generalizing budget index offset with
  | @close first blank hblank =>
    rw [List.length_append, List.length_singleton] at hbudget
    obtain ⟨budget, rfl⟩ : ∃ fewer, budget = fewer + 1 := ⟨budget - 1, by omega⟩
    rw [List.append_assoc]
    exact reading_readItems_close (reading_nextItem_close hblank _ rest offset) budget
  | @item first x xs lead text more hlead hx hxs ih =>
    obtain ⟨c, tail, rfl, hc, hclose⟩ := hstart x text hx
    obtain ⟨hhere, hlater⟩ := List.forall_mem_cons.1 hitem
    have hends : EndsValue (more ++ rest) := hxs.endsValue (startsWith_cons_iff.2 (by decide)) rest
    simp only [List.length_append, List.length_cons] at hbudget
    obtain ⟨budget, rfl⟩ : ∃ fewer, budget = fewer + 1 := ⟨budget - 1, by omega⟩
    have hnext := reading_nextItem_item hlead hc hclose (tail ++ (more ++ rest)) offset
    simp only [List.append_assoc]
    exact reading_readItems_item (hfirst ▸ hnext) (hhere _ hx _ hends index) (ih hlater (by omega) rfl)

theorem reading_readMembers_close {raise : Fault → ε} {member : σ → Cursor → Except ε (σ × Cursor)}
    {first : Bool} {state : σ} {text rest : List Char} {offset : Nat}
    (hnext : reading (nextMember first ⟨text, offset⟩) = some (false, rest)) (budget : Nat) :
    reading (readMembers raise member (budget + 1) first state ⟨text, offset⟩) = some (state, rest) := by
  obtain ⟨offset', hnext⟩ := reading_eq_some_iff.1 hnext
  rw [readMembers, hnext]
  rfl

theorem reading_readMembers_member {raise : Fault → ε} {member : σ → Cursor → Except ε (σ × Cursor)}
    {first : Bool} {state state' : σ} {text rest rest' : List Char} {offset : Nat} {budget : Nat}
    {result : σ × List Char} (hnext : reading (nextMember first ⟨text, offset⟩) = some (true, rest))
    (hmember : ∀ offset, reading (member state ⟨rest, offset⟩) = some (state', rest'))
    (hmore : ∀ offset,
      reading (readMembers raise member budget false state' ⟨rest', offset⟩) = some result) :
    reading (readMembers raise member (budget + 1) first state ⟨text, offset⟩) = some result := by
  obtain ⟨offset', hnext⟩ := reading_eq_some_iff.1 hnext
  rw [readMembers, hnext]
  exact reading_bind (hmember offset') hmore

theorem reading_readMembers {spells : β → List Char → Prop} {take : σ → β → σ} {raise : Fault → ε}
    {member : σ → Cursor → Except ε (σ × Cursor)} {first : Bool} {xs : List β} {text : List Char}
    (hspells : SpellsSequence spells '}' first xs text)
    (hstart : ∀ x text, spells x text → ∃ rest, text = '"' :: rest)
    (hmember : ∀ x ∈ xs, ∀ text, spells x ('"' :: text) → ∀ rest, EndsValue rest → ∀ state offset,
      reading (member state ⟨text ++ rest, offset⟩) = some (take state x, rest))
    (rest : List Char) {budget : Nat} (hbudget : text.length ≤ budget) (state : σ) (offset : Nat) :
    reading (readMembers raise member budget first state ⟨text ++ rest, offset⟩) =
      some (xs.foldl take state, rest) := by
  induction hspells generalizing budget state offset with
  | @close first blank hblank =>
    rw [List.length_append, List.length_singleton] at hbudget
    obtain ⟨budget, rfl⟩ : ∃ fewer, budget = fewer + 1 := ⟨budget - 1, by omega⟩
    rw [List.append_assoc]
    exact reading_readMembers_close (reading_nextMember_close hblank _ rest offset) budget
  | @item first x xs lead text more hlead hx hxs ih =>
    obtain ⟨tail, rfl⟩ := hstart x text hx
    obtain ⟨hhere, hlater⟩ := List.forall_mem_cons.1 hmember
    have hends : EndsValue (more ++ rest) := hxs.endsValue (startsWith_cons_iff.2 (by decide)) rest
    simp only [List.length_append, List.length_cons] at hbudget
    obtain ⟨budget, rfl⟩ : ∃ fewer, budget = fewer + 1 := ⟨budget - 1, by omega⟩
    have hnext := reading_nextMember_member hlead (tail ++ (more ++ rest)) offset
    simp only [List.append_assoc]
    exact reading_readMembers_member hnext (hhere _ hx _ hends state) (ih hlater (by omega) _)

theorem readValueWith_skipBlanks (list object : Cursor → Except Fault (Value × Cursor))
    (cursor : Cursor) :
    readValueWith list object cursor.skipBlanks = readValueWith list object cursor := by
  obtain ⟨blank, _, _, hstart⟩ := exists_blank_skipBlanks cursor
  rw [readValueWith, skipBlanks_of_startsWith hstart, readValueWith]

theorem readValueWith_numeral (list object : Cursor → Except Fault (Value × Cursor)) {c : Char}
    (hc : StartsNumeral c) (rest : List Char) (offset : Nat) :
    readValueWith list object ⟨c :: rest, offset⟩ =
      (readNumber ⟨c :: rest, offset⟩ >>= fun (n, cursor) => .ok (.number n, cursor)) := by
  have hbounds := hc.bounds
  have hstart : StartsWith (· ∉ blankChars) (c :: rest) := by
    refine startsWith_cons_iff.2 fun hblank => ?_
    obtain rfl | rfl | rfl | rfl := mem_blankChars.1 hblank
    all_goals exact absurd hbounds (by decide)
  have hnumeral : c = '-' ∨ (digit? c).isSome = true :=
    hc.imp_right fun hdigit => by rw [digit?_of_isDigit hdigit]; rfl
  rw [readValueWith, skipBlanks_of_startsWith hstart]
  split
  · rename_i hfirst
    cases hfirst
  iterate 6
    · rename_i hfirst
      obtain ⟨rfl, _⟩ := List.cons.inj hfirst
      exact absurd hbounds (by decide)
  · rename_i hfirst
    obtain ⟨rfl, rfl⟩ := List.cons.inj hfirst
    rw [if_pos hnumeral]

/-- Outside lists and objects it does not matter how those are read. -/
theorem reading_readValueWith (list object : Cursor → Except Fault (Value × Cursor)) {value : Value}
    {text : List Char} (hspells : Spells value text) (hscalar : value.NestsWithin 0) {rest : List Char}
    (hends : ∀ n, value = .number n → EndsValue rest) (offset : Nat) :
    reading (readValueWith list object ⟨text ++ rest, offset⟩) = some (value, rest) := by
  cases hspells with
  | null => exact reading_bind (reading_readWord ['u', 'l', 'l'] rest (offset + 1)) fun _ => rfl
  | true => exact reading_bind (reading_readWord ['r', 'u', 'e'] rest (offset + 1)) fun _ => rfl
  | false => exact reading_bind (reading_readWord ['a', 'l', 's', 'e'] rest (offset + 1)) fun _ => rfl
  | @string string body hbody =>
    have htext : '"' :: (body ++ ['"']) ++ rest = '"' :: (body ++ '"' :: rest) := by simp
    rw [htext]
    exact reading_bind (readString_spelling hbody rest (offset + 1)) fun _ => rfl
  | array hitems => exact hscalar.elim
  | object hmembers => exact hscalar.elim
  | @number numeral n hnumber =>
    obtain ⟨c, tail, hchars, hc⟩ := numeral.exists_chars_cons
    have hread := readNumber_chars numeral ((hends n rfl).endsBefore numeral) offset
    rw [hnumber] at hread
    rw [hchars, List.cons_append] at hread ⊢
    rw [readValueWith_numeral list object hc]
    exact reading_bind hread fun _ => rfl

theorem settled_of_nestsWithin_zero {value : Value} (hscalar : value.NestsWithin 0) :
    value.settled = value := by
  cases value with
  | array items => exact hscalar.elim
  | object members => exact hscalar.elim
  | _ => rw [Value.settled]

/-- A member from its key on, taken up into the members before it. -/
def readMember (depth : Nat) (members : Members) (cursor : Cursor) :
    Except Fault (Members × Cursor) := do
  let (key, cursor) ← readString cursor
  let ((), cursor) ← readColon cursor
  let (value, cursor) ← readValue depth cursor
  .ok (members.insert key value, cursor)

theorem readValue_succ (depth : Nat) : readValue (depth + 1) =
    readValueWith
      (fun cursor => readList id (fun _ => readValue depth) cursor >>= fun (items, cursor) =>
        .ok (.array items, cursor))
      (fun cursor => readObject id (readMember depth) [] cursor >>= fun (members, cursor) =>
        .ok (.object members, cursor)) := rfl

theorem reading_readMember {depth : Nat} {key : String} {value : Value} {text rest : List Char}
    (hmember : SpellsMember Spells (key, value) ('"' :: text))
    (hvalue : ∀ text, Spells value text → ∀ blank, IsBlank blank → ∀ offset,
      reading (readValue depth ⟨blank ++ (text ++ rest), offset⟩) = some (value.settled, rest))
        (members : Members) (offset : Nat) :
    reading (readMember depth members ⟨text ++ rest, offset⟩) =
      some (members.insert key value.settled, rest) := by
  cases hmember with
  | @mk _ _ body before after text hkey hbefore hafter htext =>
    have hsplit : body ++ '"' :: (before ++ ':' :: (after ++ text)) ++ rest =
        body ++ '"' :: (before ++ ':' :: (after ++ (text ++ rest))) := by
      simp
    rw [hsplit]
    refine reading_bind (readString_spelling hkey _ offset) fun offset => ?_
    refine reading_bind (reading_readColon hbefore _ offset) fun offset => ?_
    exact reading_bind (hvalue text htext after hafter offset) fun _ => rfl

/-- Every spelling of a tree that nests no deeper than the reader goes is read as that tree, with its
repeated keys settled. -/
theorem reading_readValue {depth : Nat} {value : Value} {text : List Char} (hspells : Spells value text)
    (hdepth : value.NestsWithin depth) {blank : List Char} (hblank : IsBlank blank) {rest : List Char}
    (hends : ∀ n, value = .number n → EndsValue rest) (offset : Nat) :
    reading (readValue depth ⟨blank ++ (text ++ rest), offset⟩) = some (value.settled, rest) := by
  -- the depth is what the reader recurs on; the two loops hand their items back to the induction
  induction depth generalizing value text blank rest offset with
  | zero =>
    obtain ⟨offset', hskip⟩ := rest_skipBlanks_append hblank (hspells.startsWith rest) offset
    rw [readValue, ← readValueWith_skipBlanks, hskip, settled_of_nestsWithin_zero hdepth]
    exact reading_readValueWith _ _ hspells hdepth hends offset'
  | succ depth ih =>
    obtain ⟨offset', hskip⟩ := rest_skipBlanks_append hblank (hspells.startsWith rest) offset
    rw [readValue_succ, ← readValueWith_skipBlanks, hskip]
    have hscalar : ∀ list object, value.NestsWithin 0 →
        reading (readValueWith list object ⟨text ++ rest, offset'⟩) = some (value.settled, rest) := by
      intro list object hscalar
      rw [settled_of_nestsWithin_zero hscalar]
      exact reading_readValueWith list object hspells hscalar hends offset'
    cases hspells with
    | @array items body hitems =>
      have hitem : ∀ item ∈ items, ∀ text, Spells item text → ∀ rest, EndsValue rest →
          ∀ (_ : Nat) (offset : Nat),
          reading (readValue depth ⟨text ++ rest, offset⟩) = some (item.settled, rest) :=
        fun item hmem text htext rest hends _ offset =>
          ih htext (hdepth item hmem) isBlank_nil (fun _ _ => hends) offset
      rw [settled_array]
      exact reading_bind
        (reading_readItems hitems (fun _ _ => Spells.exists_cons) hitem rest (by simp) rfl (offset' + 1))
        fun _ => rfl
    | @object members body hmembers =>
      have hquote : ∀ member text, SpellsMember Spells member text → ∃ rest, text = '"' :: rest := by
        rintro _ _ ⟨⟩
        exact ⟨_, rfl⟩
      have hmember : ∀ member ∈ members, ∀ text, SpellsMember Spells member ('"' :: text) →
          ∀ rest, EndsValue rest →
          ∀ settled offset, reading (readMember depth settled ⟨text ++ rest, offset⟩) =
            some (Members.insert settled member.1 member.2.settled, rest) := by
        intro member hmem text htext rest hends settled offset
        have hpart : member.2.NestsWithin depth := hdepth member.2 (List.mem_map_of_mem hmem)
        exact reading_readMember htext
          (fun text htext blank hblank offset => ih htext hpart hblank (fun _ _ => hends) offset)
          settled offset
      rw [settled_object]
      exact reading_bind (reading_readMembers hmembers hquote hmember rest (by simp) [] (offset' + 1))
        fun _ => rfl
    | _ => exact hscalar _ _ trivial

end SchemaTyping.Json
