import SchemaTyping.Proofs.Json.ValueReading

/-!
# What is read is a spelling

What the reader takes for a value is a spelling of a tree that nests no deeper than the reader goes, and
the value is that tree with its repeated keys settled (`exists_spelling_of_readValue`). Each part of the
reader says what it has moved over.
-/

namespace SchemaTyping.Json

variable {ε α β σ : Type}

theorem rest_of_readWord {word : List Char} {cursor after : Cursor}
    (hread : readWord word cursor = .ok ((), after)) :
    cursor.rest = word ++ after.rest := by
  induction word generalizing cursor with
  | nil =>
    rw [readWord] at hread
    cases hread
    rfl
  | cons c word ih =>
    obtain ⟨_ | ⟨d, rest⟩, offset⟩ := cursor
    · cases hread
    · by_cases hsame : d = c
      · have hstep : readWord (c :: word) ⟨d :: rest, offset⟩ = readWord word ⟨rest, offset + 1⟩ :=
          if_pos hsame
        rw [hstep] at hread
        rw [hsame]
        exact congrArg (List.cons c) (ih hread)
      · have hstop : readWord (c :: word) ⟨d :: rest, offset⟩ =
            .error (Cursor.lookedFault ⟨d :: rest, offset⟩ .expectedWord) :=
          if_neg hsame
        rw [hstop] at hread
        cases hread

theorem exists_blank_of_readColon {cursor after : Cursor} (hread : readColon cursor = .ok ((), after)) :
    ∃ blank, IsBlank blank ∧ cursor.rest = blank ++ ':' :: after.rest := by
  obtain ⟨blank, hblank, hrest, _⟩ := exists_blank_skipBlanks cursor
  unfold readColon at hread
  simp only at hread
  split at hread
  · cases hread
  · rename_i rest hcolon
    cases hread
    exact ⟨blank, hblank, by rw [hrest, hcolon]⟩
  · cases hread

/-- Moving to the next item moves over what leads to it, or over the bracket that closes the list. -/
theorem exists_lead_of_nextItem {first more : Bool} {cursor after : Cursor}
    (hnext : nextItem first cursor = .ok (more, after)) :
    (more = false ∧ ∃ blank, IsBlank blank ∧ cursor.rest = blank ++ ']' :: after.rest) ∨
      more = true ∧ ∃ lead, Leads first lead ∧ cursor.rest = lead ++ after.rest := by
  obtain ⟨blank, hblank, hrest, _⟩ := exists_blank_skipBlanks cursor
  unfold nextItem at hnext
  simp only at hnext
  split at hnext
  · cases hnext
  · rename_i rest hclose
    cases hnext
    exact .inl ⟨rfl, blank, hblank, by rw [hrest, hclose]⟩
  · rename_i c rest _ hc
    split at hnext
    · rename_i hfirst
      cases hnext
      exact .inr ⟨rfl, blank, hfirst ▸ .first hblank, hrest⟩
    · rename_i hfirst
      split at hnext
      · rename_i hcomma
        obtain ⟨blank', hblank', hafter, _⟩ :=
          exists_blank_skipBlanks ⟨rest, cursor.skipBlanks.offset + 1⟩
        split at hnext
        · cases hnext
        · cases hnext
        · cases hnext
          refine .inr ⟨rfl, blank ++ ',' :: blank', ?_, ?_⟩
          · rw [Bool.eq_false_iff.2 hfirst]
            exact .next hblank hblank'
          · have hafter : rest = _ := hafter
            rw [hrest, hc, hcomma, List.append_assoc, List.cons_append, ← hafter]
      · cases hnext

/-- Moving to the next key moves over what leads to it and the quote that opens it, or over the brace
that closes the object. -/
theorem exists_lead_of_nextMember {first more : Bool} {cursor after : Cursor}
    (hnext : nextMember first cursor = .ok (more, after)) :
    (more = false ∧ ∃ blank, IsBlank blank ∧ cursor.rest = blank ++ '}' :: after.rest) ∨
      more = true ∧ ∃ lead, Leads first lead ∧ cursor.rest = lead ++ '"' :: after.rest := by
  obtain ⟨blank, hblank, hrest, _⟩ := exists_blank_skipBlanks cursor
  unfold nextMember at hnext
  simp only at hnext
  split at hnext
  · cases hnext
  · rename_i rest hclose
    cases hnext
    exact .inl ⟨rfl, blank, hblank, by rw [hrest, hclose]⟩
  · rename_i c rest _ hc
    split at hnext
    · rename_i hfirst
      split at hnext
      · rename_i hquote
        cases hnext
        exact .inr ⟨rfl, blank, hfirst ▸ .first hblank, by rw [hrest, hc, hquote]⟩
      · cases hnext
    · rename_i hfirst
      split at hnext
      · rename_i hcomma
        obtain ⟨blank', hblank', hafter, _⟩ :=
          exists_blank_skipBlanks ⟨rest, cursor.skipBlanks.offset + 1⟩
        split at hnext
        · cases hnext
        · rename_i rest' hquote
          cases hnext
          refine .inr ⟨rfl, blank ++ ',' :: blank', ?_, ?_⟩
          · rw [Bool.eq_false_iff.2 hfirst]
            exact .next hblank hblank'
          · have hafter : rest = _ := hafter
            rw [hrest, hc, hcomma, List.append_assoc, List.cons_append, hafter, hquote]
        · cases hnext
        · cases hnext
      · cases hnext

/-- What the loop over a list moves over is a spelling of its items if that holds of the reader of an
item. -/
theorem exists_sequence_of_readItems {spells : β → List Char → Prop} {fits : β → Prop} {denotes : β → α}
    {raise : Fault → ε} {item : Nat → Cursor → Except ε (α × Cursor)}
    (hitem : ∀ index cursor x after, item index cursor = .ok (x, after) →
      ∃ blank text y, IsBlank blank ∧ cursor.rest = blank ++ (text ++ after.rest) ∧ spells y text ∧
        fits y ∧ x = denotes y)
    {budget index : Nat} {cursor after : Cursor} {xs : List α}
    (hread : readItems raise item budget index cursor = .ok (xs, after)) :
    ∃ text ys, cursor.rest = text ++ after.rest ∧ SpellsSequence spells ']' (index == 0) ys text ∧
      (∀ y ∈ ys, fits y) ∧
      xs = ys.map denotes := by
  induction budget generalizing index cursor xs with
  | zero => cases hread
  | succ budget ih =>
    rw [readItems] at hread
    split at hread
    · cases hread
    · rename_i afterLead hnext
      cases hread
      obtain ⟨_, blank, hblank, hrest⟩ | ⟨⟨⟩, _⟩ := exists_lead_of_nextItem hnext
      exact ⟨blank ++ [']'], [],
        by rw [hrest, List.append_assoc, List.singleton_append], .close hblank,
        List.forall_mem_nil _, rfl⟩
    · rename_i afterLead hnext
      obtain ⟨⟨x, afterItem⟩, hx, hread⟩ := exists_of_bind_ok hread
      obtain ⟨⟨xs', after'⟩, hxs, hread⟩ := exists_of_bind_ok hread
      cases hread
      obtain ⟨⟨⟩, _⟩ | ⟨_, lead, hlead, hrest⟩ := exists_lead_of_nextItem hnext
      obtain ⟨blank, text, y, hblank, htext, hy, hfits, rfl⟩ := hitem index afterLead x afterItem hx
      obtain ⟨more, ys, hmore, hys, hfitsMore, rfl⟩ := ih hxs
      -- blanks that the reader of the item skips belong to what leads to it
      refine ⟨lead ++ blank ++ (text ++ more), y :: ys, ?_, .item (hlead.append hblank) hy hys,
        List.forall_mem_cons.2 ⟨hfits, hfitsMore⟩, rfl⟩
      rw [hrest, htext, hmore]
      simp only [List.append_assoc]

theorem exists_sequence_of_readMembers {spells : β → List Char → Prop} {fits : β → Prop}
    {take : σ → β → σ} {raise : Fault → ε} {member : σ → Cursor → Except ε (σ × Cursor)}
    (hmember : ∀ state cursor state' after, member state cursor = .ok (state', after) →
      ∃ text y, cursor.rest = text ++ after.rest ∧ spells y ('"' :: text) ∧ fits y ∧
        state' = take state y)
    {budget : Nat} {first : Bool} {state state' : σ} {cursor after : Cursor}
    (hread : readMembers raise member budget first state cursor = .ok (state', after)) :
    ∃ text ys, cursor.rest = text ++ after.rest ∧ SpellsSequence spells '}' first ys text ∧
      (∀ y ∈ ys, fits y) ∧
      state' = ys.foldl take state := by
  induction budget generalizing first state cursor with
  | zero => cases hread
  | succ budget ih =>
    rw [readMembers] at hread
    split at hread
    · cases hread
    · rename_i afterLead hnext
      cases hread
      obtain ⟨_, blank, hblank, hrest⟩ | ⟨⟨⟩, _⟩ := exists_lead_of_nextMember hnext
      exact ⟨blank ++ ['}'], [],
        by rw [hrest, List.append_assoc, List.singleton_append], .close hblank,
        List.forall_mem_nil _, rfl⟩
    · rename_i afterLead hnext
      obtain ⟨⟨state'', afterMember⟩, hstate, hread⟩ := exists_of_bind_ok hread
      obtain ⟨⟨⟩, _⟩ | ⟨_, lead, hlead, hrest⟩ := exists_lead_of_nextMember hnext
      obtain ⟨text, y, htext, hy, hfits, rfl⟩ := hmember state afterLead state'' afterMember hstate
      obtain ⟨more, ys, hmore, hys, hfitsMore, rfl⟩ := ih hread
      refine ⟨lead ++ ('"' :: text ++ more), y :: ys, ?_, .item hlead hy hys,
        List.forall_mem_cons.2 ⟨hfits, hfitsMore⟩, rfl⟩
      rw [hrest, htext, hmore]
      simp only [List.append_assoc, List.cons_append]

/-- What is read as a value is a value without parts, or what the reader of lists or that of objects
makes of what follows the bracket. -/
theorem exists_spelling_of_readValueWith {list object : Cursor → Except Fault (Value × Cursor)}
    {cursor after : Cursor} {value : Value}
    (hread : readValueWith list object cursor = .ok (value, after)) :
    ∃ blank, IsBlank blank ∧
      ((∃ text, cursor.rest = blank ++ (text ++ after.rest) ∧ Spells value text ∧ value.NestsWithin 0) ∨
        (∃ inner : Cursor, cursor.rest = blank ++ '[' :: inner.rest ∧ list inner = .ok (value, after)) ∨
        ∃ inner : Cursor, cursor.rest = blank ++ '{' :: inner.rest ∧
          object inner = .ok (value, after)) := by
  obtain ⟨blank, hblank, hrest, _⟩ := exists_blank_skipBlanks cursor
  refine ⟨blank, hblank, ?_⟩
  unfold readValueWith at hread
  simp only at hread
  split at hread
  · cases hread
  · rename_i rest hword
    obtain ⟨⟨_, afterWord⟩, hend, hread⟩ := exists_of_bind_ok hread
    cases hread
    have hend : rest = _ := rest_of_readWord hend
    exact .inl ⟨_, by rw [hrest, hword, hend]; rfl, .null, trivial⟩
  · rename_i rest hword
    obtain ⟨⟨_, afterWord⟩, hend, hread⟩ := exists_of_bind_ok hread
    cases hread
    have hend : rest = _ := rest_of_readWord hend
    exact .inl ⟨_, by rw [hrest, hword, hend]; rfl, .true, trivial⟩
  · rename_i rest hword
    obtain ⟨⟨_, afterWord⟩, hend, hread⟩ := exists_of_bind_ok hread
    cases hread
    have hend : rest = _ := rest_of_readWord hend
    exact .inl ⟨_, by rw [hrest, hword, hend]; rfl, .false, trivial⟩
  · rename_i rest hquote
    obtain ⟨⟨text, afterString⟩, hstring, hread⟩ := exists_of_bind_ok hread
    cases hread
    obtain ⟨body, hbody, hspells⟩ := exists_spelling_of_readString hstring
    have hbody : rest = _ := hbody
    exact .inl ⟨_, by rw [hrest, hquote, hbody]; simp, .string hspells, trivial⟩
  · rename_i rest hbracket
    exact .inr (.inl ⟨_, by rw [hrest, hbracket], hread⟩)
  · rename_i rest hbracket
    exact .inr (.inr ⟨_, by rw [hrest, hbracket], hread⟩)
  · split at hread
    · obtain ⟨⟨n, afterNumber⟩, hnumber, hread⟩ := exists_of_bind_ok hread
      cases hread
      obtain ⟨numeral, hchars, hdenotes⟩ := exists_numeral_of_readNumber hnumber
      exact .inl ⟨_, by rw [hrest, hchars], .number hdenotes, trivial⟩
    · cases hread

theorem exists_spelling_of_readMember {depth : Nat} {members members' : Members} {cursor after : Cursor}
    (hvalue : ∀ cursor value after, readValue depth cursor = .ok (value, after) →
      ∃ blank text tree, IsBlank blank ∧ cursor.rest = blank ++ (text ++ after.rest) ∧ Spells tree text ∧
        tree.NestsWithin depth ∧ value = tree.settled)
    (hread : readMember depth members cursor = .ok (members', after)) :
    ∃ text member, cursor.rest = text ++ after.rest ∧ SpellsMember Spells member ('"' :: text) ∧
      member.2.NestsWithin depth ∧ members' = members.insert member.1 member.2.settled := by
  obtain ⟨⟨key, afterKey⟩, hkey, hread⟩ := exists_of_bind_ok hread
  obtain ⟨⟨_, afterColon⟩, hcolon, hread⟩ := exists_of_bind_ok hread
  obtain ⟨⟨value, afterValue⟩, hread', hread⟩ := exists_of_bind_ok hread
  cases hread
  obtain ⟨body, hbody, hspellsKey⟩ := exists_spelling_of_readString hkey
  obtain ⟨before, hbefore, hrest⟩ := exists_blank_of_readColon hcolon
  obtain ⟨blank, text, tree, hblank, htext, hspells, hdepth, rfl⟩ := hvalue _ _ _ hread'
  refine ⟨body ++ '"' :: (before ++ ':' :: (blank ++ text)), (key, tree), ?_,
    .mk hspellsKey hbefore hblank hspells, hdepth, rfl⟩
  have hrest : afterKey.rest = _ := hrest
  have htext : afterColon.rest = _ := htext
  rw [hbody, hrest, htext]
  simp only [List.append_assoc, List.cons_append]

/-- What is read as a value is a spelling of a tree, and the value is that tree with its repeated keys
settled. -/
theorem exists_spelling_of_readValue {depth : Nat} {cursor after : Cursor} {value : Value}
    (hread : readValue depth cursor = .ok (value, after)) :
    ∃ blank text tree, IsBlank blank ∧ cursor.rest = blank ++ (text ++ after.rest) ∧ Spells tree text ∧
      tree.NestsWithin depth ∧ value = tree.settled := by
  induction depth generalizing cursor after value with
  | zero =>
    rw [readValue] at hread
    obtain ⟨blank, hblank, ⟨text, htext, hspells, hscalar⟩ | ⟨_, _, hdeep⟩ | ⟨_, _, hdeep⟩⟩ :=
      exists_spelling_of_readValueWith hread
    · exact ⟨blank, text, value, hblank, htext, hspells, hscalar,
        (settled_of_nestsWithin_zero hscalar).symm⟩
    · cases hdeep
    · cases hdeep
  | succ depth ih =>
    rw [readValue_succ] at hread
    obtain ⟨blank, hblank,
        ⟨text, htext, hspells, hscalar⟩ | ⟨inner, hbracket, hlist⟩ | ⟨inner, hbracket, hobject⟩⟩ :=
      exists_spelling_of_readValueWith hread
    · exact ⟨blank, text, value, hblank, htext, hspells, hscalar.of_zero _,
        (settled_of_nestsWithin_zero hscalar).symm⟩
    · obtain ⟨⟨xs, afterList⟩, hitems, hread⟩ := exists_of_bind_ok hlist
      cases hread
      obtain ⟨text, items, htext, hspells, hdepth, rfl⟩ :=
        exists_sequence_of_readItems (fun _ _ _ _ hitem => ih hitem) hitems
      refine ⟨blank, '[' :: text, .array items, hblank,
        by rw [hbracket, htext]; rfl, .array hspells, hdepth, ?_⟩
      rw [settled_array]
    · obtain ⟨⟨members', afterObject⟩, hmembers, hread⟩ := exists_of_bind_ok hobject
      cases hread
      obtain ⟨text, members, htext, hspells, hdepth, rfl⟩ :=
        exists_sequence_of_readMembers
          (fun _ _ _ _ hmember => exists_spelling_of_readMember (fun _ _ _ hvalue => ih hvalue) hmember)
          hmembers
      refine ⟨blank, '{' :: text, .object members, hblank,
        by rw [hbracket, htext]; rfl, .object hspells, ?_, ?_⟩
      · exact List.forall_mem_map.2 hdepth
      · rw [settled_object]

end SchemaTyping.Json
