import SchemaTyping.Proofs.Json.Derivation
import SchemaTyping.Proofs.Json.NumeralLocality
import SchemaTyping.Proofs.Json.StringLocality

/-!
# Reading a value is local

A value is read without looking further than where the reading stops (`local_readValue`), by induction on
the depth. The two loops are followed for any local reader of an item or a member, whatever their budgets
are: a budget counts the characters that are left, and texts that part may be of different lengths.
-/

namespace SchemaTyping.Json

variable {α σ : Type}

/-! ### Words and marks -/

theorem local_readWord {word : List Char} (hword : (word.all fun c => c.utf8Size == 1) = true) :
    Local (readWord word) := by
  induction word with
  | nil =>
    have hnone : readWord [] = fun cursor => .ok ((), cursor) := funext fun cursor => by rw [readWord]
    rw [hnone]
    exact local_ok ()
  | cons c word ih =>
    rw [List.all_cons, Bool.and_eq_true, beq_iff_eq] at hword
    obtain ⟨hc, hmore⟩ := hword
    refine local_of_special (· = c) _ ?_ (fun _ => .atCursor .endInValue) ?_
      (local_looked .expectedWord) ?_
    · rintro _ rfl
      exact hc
    · rintro d hd n offset rest rest' hrest
      have hstep : ∀ rest, readWord (c :: word) ⟨d :: rest, offset⟩ = readWord word ⟨rest, offset + 1⟩ :=
        fun rest => if_pos hd
      rw [hstep, hstep]
      exact (ih hmore).follows hrest
    · intro d hd rest offset
      exact if_neg hd

theorem local_readColon : Local readColon := by
  refine local_of_skipBlanks (· = ':') _ (fun cursor => ?_) ?_ (fun _ => .atCursor .endInObject) ?_
    (local_looked .expectedColon) ?_
  · simp only [readColon, skipBlanks_skipBlanks]
  · rintro _ rfl
    rfl
  · rintro _ hblank rfl n offset rest rest' hrest
    simp only [readColon, skipBlanks_cons_of_not_blank hblank]
    exact .ok () (.refl _) hrest
  · intro c hblank hc rest offset
    simp [readColon, skipBlanks_cons_of_not_blank hblank, hc]

/-- The next item behind its comma. -/
def itemBehindComma (cursor : Cursor) : Except Fault (Bool × Cursor) :=
  let cursor := cursor.skipBlanks
  match cursor.rest with
  | [] => .error (cursor.lookedFault .endInValue)
  | ']' :: _ => .error (cursor.lookedFault .trailingComma)
  | _ => .ok (true, cursor)

theorem local_itemBehindComma : Local itemBehindComma := by
  refine local_of_skipBlanks (· = ']') _ (fun cursor => ?_) ?_ (fun _ => .atCursor .endInValue) ?_
    (local_ok true) ?_
  · simp only [itemBehindComma, skipBlanks_skipBlanks]
  · rintro _ rfl
    rfl
  · rintro _ hblank rfl n offset rest rest' hrest
    simp only [itemBehindComma, skipBlanks_cons_of_not_blank hblank]
    exact .fault (Nat.le_refl _) (Reaches.refl ⟨rest, offset + 1⟩).le_finish
  · intro c hblank hc rest offset
    simp [itemBehindComma, skipBlanks_cons_of_not_blank hblank, hc]

theorem local_nextItem (first : Bool) : Local (nextItem first) := by
  have hskip : ∀ cursor : Cursor, nextItem first cursor.skipBlanks = nextItem first cursor :=
    fun cursor => by
    simp only [nextItem, skipBlanks_skipBlanks]
  cases first with
  | true =>
    refine local_of_skipBlanks (· = ']') _ hskip ?_ (fun _ => .atCursor .endInList) ?_ (local_ok true) ?_
    · rintro _ rfl
      rfl
    · rintro _ hblank rfl n offset rest rest' hrest
      simp only [nextItem, skipBlanks_cons_of_not_blank hblank]
      exact .ok false (.refl _) hrest
    · intro c hblank hc rest offset
      simp [nextItem, skipBlanks_cons_of_not_blank hblank]
  | false =>
    refine local_of_skipBlanks (fun c => c = ']' ∨ c = ',') _ hskip ?_ (fun _ => .atCursor .endInList) ?_
      (local_looked .expectedCommaOrBracket) ?_
    · rintro c (rfl | rfl) <;> rfl
    · rintro c hblank (rfl | rfl) n offset rest rest' hrest
      · simp only [nextItem, skipBlanks_cons_of_not_blank hblank]
        exact .ok false (.refl _) hrest
      · have hcomma : ∀ rest,
            nextItem false ⟨',' :: rest, offset⟩ = itemBehindComma ⟨rest, offset + 1⟩ := fun rest => by
          rw [nextItem, skipBlanks_cons_of_not_blank hblank]
          rfl
        rw [hcomma, hcomma]
        exact local_itemBehindComma.follows hrest
    · intro c hblank hc rest offset
      obtain ⟨hclose, hcomma⟩ := not_or.1 hc
      simp [nextItem, skipBlanks_cons_of_not_blank hblank, hcomma]

/-- The key of the next member behind its comma. -/
def memberBehindComma (cursor : Cursor) : Except Fault (Bool × Cursor) :=
  let cursor := cursor.skipBlanks
  match cursor.rest with
  | [] => .error (cursor.lookedFault .endInValue)
  | '"' :: rest => .ok (true, ⟨rest, cursor.offset + 1⟩)
  | '}' :: _ => .error (cursor.lookedFault .trailingComma)
  | _ => .error (cursor.lookedFault .keyNotString)

theorem local_memberBehindComma : Local memberBehindComma := by
  refine local_of_skipBlanks (fun c => c = '"' ∨ c = '}') _ (fun cursor => ?_) ?_
    (fun _ => .atCursor .endInValue) ?_
    (local_looked .keyNotString) ?_
  · simp only [memberBehindComma, skipBlanks_skipBlanks]
  · rintro c (rfl | rfl) <;> rfl
  · rintro c hblank (rfl | rfl) n offset rest rest' hrest
    · simp only [memberBehindComma, skipBlanks_cons_of_not_blank hblank]
      exact .ok true (.refl _) hrest
    · simp only [memberBehindComma, skipBlanks_cons_of_not_blank hblank]
      exact .fault (Nat.le_refl _) (Reaches.refl ⟨rest, offset + 1⟩).le_finish
  · intro c hblank hc rest offset
    obtain ⟨hquote, hclose⟩ := not_or.1 hc
    simp [memberBehindComma, skipBlanks_cons_of_not_blank hblank, hquote, hclose]

theorem local_nextMember (first : Bool) : Local (nextMember first) := by
  have hskip : ∀ cursor : Cursor, nextMember first cursor.skipBlanks = nextMember first cursor :=
    fun cursor => by
    simp only [nextMember, skipBlanks_skipBlanks]
  cases first with
  | true =>
    refine local_of_skipBlanks (fun c => c = '}' ∨ c = '"') _ hskip ?_
      (fun _ => .atCursor .endInObject) ?_ (local_looked .keyNotString) ?_
    · rintro c (rfl | rfl) <;> rfl
    · rintro c hblank (rfl | rfl) n offset rest rest' hrest
      · simp only [nextMember, skipBlanks_cons_of_not_blank hblank]
        exact .ok false (.refl _) hrest
      · simp [nextMember, skipBlanks_cons_of_not_blank hblank]
        exact .ok true (.refl _) hrest
    · intro c hblank hc rest offset
      obtain ⟨hclose, hquote⟩ := not_or.1 hc
      simp [nextMember, skipBlanks_cons_of_not_blank hblank, hquote]
  | false =>
    refine local_of_skipBlanks (fun c => c = '}' ∨ c = ',') _ hskip ?_
      (fun _ => .atCursor .endInObject) ?_
      (local_looked .expectedCommaOrBrace) ?_
    · rintro c (rfl | rfl) <;> rfl
    · rintro c hblank (rfl | rfl) n offset rest rest' hrest
      · simp only [nextMember, skipBlanks_cons_of_not_blank hblank]
        exact .ok false (.refl _) hrest
      · have hcomma : ∀ rest,
            nextMember false ⟨',' :: rest, offset⟩ = memberBehindComma ⟨rest, offset + 1⟩ := by
          intro rest
          rw [nextMember, skipBlanks_cons_of_not_blank hblank]
          rfl
        rw [hcomma, hcomma]
        exact local_memberBehindComma.follows hrest
    · intro c hblank hc rest offset
      obtain ⟨hclose, hcomma⟩ := not_or.1 hc
      simp [nextMember, skipBlanks_cons_of_not_blank hblank, hcomma]

/-! ### Loops -/

theorem length_of_nextItem {first more : Bool} {cursor after : Cursor}
    (hnext : nextItem first cursor = .ok (more, after)) :
    after.rest.length ≤ cursor.rest.length := by
  rcases exists_lead_of_nextItem hnext with ⟨_, blank, _, hrest⟩ | ⟨_, lead, _, hrest⟩
  · rw [hrest, List.length_append, List.length_cons]
    omega
  · rw [hrest, List.length_append]
    omega

theorem length_of_nextMember {first more : Bool} {cursor after : Cursor}
    (hnext : nextMember first cursor = .ok (more, after)) :
    after.rest.length < cursor.rest.length := by
  rcases exists_lead_of_nextMember hnext with ⟨_, blank, _, hrest⟩ | ⟨_, lead, _, hrest⟩
  all_goals
    rw [hrest, List.length_append, List.length_cons]
    omega

/-- One item of a list behind the ones before it, or the bracket that closes the list. -/
def readItem (item : Nat → Cursor → Except Fault (α × Cursor)) (index : Nat) (cursor : Cursor) :
    Except Fault (Round Nat (List α) × Cursor) := do
  match ← nextItem (index == 0) cursor with
  | (false, after) => .ok (.done [], after)
  | (true, after) =>
    let (x, after) ← item index after
    .ok (.more (index + 1) (x :: ·), after)

theorem readItems_succ (item : Nat → Cursor → Except Fault (α × Cursor)) (budget index : Nat)
    (cursor : Cursor) :
    readItems id item (budget + 1) index cursor = readItem item index cursor >>=
      Round.rest (readItems id item budget) := by
  rw [readItems, readItem]
  rcases nextItem (index == 0) cursor with fault | ⟨_ | _, after⟩
  · rfl
  · rfl
  · rcases hitem : item index after with fault | ⟨x, afterItem⟩
    · simp only [hitem, Bind.bind, Except.bind]
    · simp only [hitem, Bind.bind, Except.bind]
      rfl

/-- A list is read alike if its items are, each of which has to take a character. -/
theorem loop_readItems {item : Nat → Cursor → Except Fault (α × Cursor)}
    (hitem : ∀ index, Local (item index))
    (hshrinks : ∀ {index cursor x after}, item index cursor = .ok (x, after) →
      after.rest.length < cursor.rest.length) :
    LoopOf (readItems id item) (readItem item) .endInList where
  ended budget index offset := by cases budget <;> rfl
  succ := readItems_succ item
  shrinks {index cursor state' finish after} hround := by
    obtain ⟨⟨more, afterMark⟩, hnext, hround⟩ := exists_of_bind_ok hround
    cases more with
    | false => cases hround
    | true =>
      obtain ⟨⟨x, afterItem⟩, hx, hround⟩ := exists_of_bind_ok hround
      cases hround
      exact Nat.lt_of_lt_of_le (hshrinks hx) (length_of_nextItem hnext)
  isLocal index := by
    refine ⟨fun halike => ((local_nextItem (index == 0)).follows halike).next fun more => ?_⟩
    cases more with
    | false => exact local_ok _
    | true => exact ⟨fun halike => ((hitem index).follows halike).next fun x => local_ok _⟩

/-- One member of an object taken up into those before it, or the brace that closes the object. -/
def readMemberInto (member : σ → Cursor → Except Fault (σ × Cursor)) (state : Bool × σ)
    (cursor : Cursor) :
    Except Fault (Round (Bool × σ) σ × Cursor) := do
  match ← nextMember state.1 cursor with
  | (false, after) => .ok (.done state.2, after)
  | (true, after) =>
    let (members, after) ← member state.2 after
    .ok (.more (false, members) id, after)

theorem readMembers_succ (member : σ → Cursor → Except Fault (σ × Cursor)) (budget : Nat)
    (state : Bool × σ) (cursor : Cursor) :
    readMembers id member (budget + 1) state.1 state.2 cursor =
      readMemberInto member state cursor >>= Round.rest fun state =>
        readMembers id member budget state.1 state.2 := by
  rw [readMembers, readMemberInto]
  rcases nextMember state.1 cursor with fault | ⟨_ | _, after⟩
  · rfl
  · rfl
  · rcases hmember : member state.2 after with fault | ⟨members, afterMember⟩
    · simp only [hmember, Bind.bind, Except.bind]
    · simp only [hmember, Bind.bind, Except.bind, Round.rest]
      rcases readMembers id member budget false members afterMember with fault | ⟨result, afterAll⟩
        <;> rfl

/-- An object is read alike if its members are. -/
theorem loop_readMembers {member : σ → Cursor → Except Fault (σ × Cursor)}
    (hmember : ∀ state, Local (member state))
    (hshrinks : ∀ {state cursor state' after}, member state cursor = .ok (state', after) →
      after.rest.length ≤ cursor.rest.length) :
    LoopOf (fun budget state => readMembers id member budget state.1 state.2)
      (readMemberInto member) .endInObject where
  ended budget state offset := by cases budget <;> rfl
  succ := readMembers_succ member
  shrinks {state cursor state' finish after} hround := by
    obtain ⟨⟨more, afterMark⟩, hnext, hround⟩ := exists_of_bind_ok hround
    cases more with
    | false => cases hround
    | true =>
      obtain ⟨⟨members, afterMember⟩, hmembers, hround⟩ := exists_of_bind_ok hround
      cases hround
      exact Nat.lt_of_le_of_lt (hshrinks hmembers) (length_of_nextMember hnext)
  isLocal state := by
    refine ⟨fun halike => ((local_nextMember state.1).follows halike).next fun more => ?_⟩
    cases more with
    | false => exact local_ok _
    | true => exact ⟨fun halike => ((hmember state.2).follows halike).next fun members => local_ok _⟩

/-! ### Values -/

/-- A number, at a character that starts no other value. -/
def readNumeral (cursor : Cursor) : Except Fault (Value × Cursor) :=
  match cursor.rest with
  | [] => .error (cursor.lookedFault .endInValue)
  | c :: _ =>
    if c = '-' ∨ (digit? c).isSome then do
      let (n, cursor) ← readNumber cursor
      .ok (.number n, cursor)
    else .error (cursor.lookedFault .expectedValue)

theorem local_readNumeral : Local readNumeral := by
  refine local_of_head fun hhead => ?_
  cases hhead with
  | ended offset => exact .atCursor .endInValue
  | @same c rest rest' offset hrest =>
    by_cases hnumeral : c = '-' ∨ (digit? c).isSome = true
    · simp only [readNumeral, if_pos hnumeral]
      exact (local_readNumber.follows (.same c hrest)).next fun n => local_ok (Value.number n)
    · simp only [readNumeral, if_neg hnumeral]
      exact .looked c c rest rest' offset _
  | @cut c d rest rest' offset hc hd hn hn' =>
    have hnone : ∀ c : Char, 1 < c.utf8Size → ¬ (c = '-' ∨ (digit? c).isSome = true) := by
      rintro c hwide (rfl | hdigit)
      · exact absurd hwide (by decide)
      · rw [digit?_of_wide hwide] at hdigit
        cases hdigit
    simp only [readNumeral, if_neg (hnone c hc), if_neg (hnone d hd)]
    exact .looked c d rest rest' offset _

theorem local_readValueWith {list object : Cursor → Except Fault (Value × Cursor)} (hlist : Local list)
    (hobject : Local object) :
    Local (readValueWith list object) := by
  refine local_of_skipBlanks (fun c => c = 'n' ∨ c = 't' ∨ c = 'f' ∨ c = '"' ∨ c = '[' ∨ c = '{') _
    (readValueWith_skipBlanks list object) ?_ (fun _ => .atCursor .endInValue) ?_ local_readNumeral ?_
  · rintro c (rfl | rfl | rfl | rfl | rfl | rfl) <;> rfl
  · rintro c hblank (rfl | rfl | rfl | rfl | rfl | rfl) n offset rest rest' hrest
    · have hword : Local (readWord ['u', 'l', 'l']) := local_readWord rfl
      exact (hword.follows hrest).next fun _ => local_ok Value.null
    · have hword : Local (readWord ['r', 'u', 'e']) := local_readWord rfl
      exact (hword.follows hrest).next fun _ => local_ok (Value.bool true)
    · have hword : Local (readWord ['a', 'l', 's', 'e']) := local_readWord rfl
      exact (hword.follows hrest).next fun _ => local_ok (Value.bool false)
    · exact (local_readString.follows hrest).next fun text => local_ok (Value.string text)
    · exact hlist.follows hrest
    · exact hobject.follows hrest
  · intro c hblank hc rest offset
    simp only [not_or] at hc
    obtain ⟨hnull, htrue, hfalse, hquote, hbracket, hbrace⟩ := hc
    simp [readValueWith, readNumeral, skipBlanks_cons_of_not_blank hblank]

theorem length_of_readValue {depth : Nat} {cursor after : Cursor} {value : Value}
    (hread : readValue depth cursor = .ok (value, after)) :
    after.rest.length < cursor.rest.length := by
  obtain ⟨blank, text, tree, _, hrest, hspells, _⟩ := exists_spelling_of_readValue hread
  obtain ⟨c, text, rfl, _⟩ := hspells.exists_cons
  rw [hrest, List.length_append, List.length_append, List.length_cons]
  omega

theorem length_of_readMember {depth : Nat} {members members' : Members} {cursor after : Cursor}
    (hread : readMember depth members cursor = .ok (members', after)) :
    after.rest.length ≤ cursor.rest.length := by
  obtain ⟨text, member, hrest, _⟩ :=
    exists_spelling_of_readMember (fun _ _ _ hvalue => exists_spelling_of_readValue hvalue) hread
  rw [hrest, List.length_append]
  exact Nat.le_add_left _ _

theorem local_readMember {depth : Nat} (hvalue : Local (readValue depth)) (members : Members) :
    Local (readMember depth members) := by
  refine ⟨fun halike => (local_readString.follows halike).next fun key => ?_⟩
  refine ⟨fun halike => (local_readColon.follows halike).next fun _ => ?_⟩
  exact ⟨fun halike => (hvalue.follows halike).next fun value => local_ok (members.insert key value)⟩

/-- A value is read without looking at any byte behind the one at which the reading stops. -/
theorem local_readValue (depth : Nat) : Local (readValue depth) := by
  -- the depth is what the reader recurs on; the two loops ask for its items one level below
  induction depth with
  | zero => exact local_readValueWith (local_fault .tooDeep) (local_fault .tooDeep)
  | succ depth ih =>
    rw [readValue_succ]
    refine local_readValueWith ⟨fun halike => ?_⟩ ⟨fun halike => ?_⟩
    · have hlist :=
        (loop_readItems (fun _ => ih) length_of_readValue).follows 0 (Nat.le_refl _)
          (Nat.le_refl _) halike
      exact hlist.next fun items => local_ok (Value.array items)
    · have hobject :=
        (loop_readMembers (local_readMember ih) length_of_readMember).follows (true, []) (Nat.le_refl _)
          (Nat.le_refl _) halike
      exact hobject.next fun members => local_ok (Value.object members)

end SchemaTyping.Json
