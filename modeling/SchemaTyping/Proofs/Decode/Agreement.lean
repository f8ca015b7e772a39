import SchemaTyping.Decode.FromText
import SchemaTyping.Proofs.Json.Parsing

/-!
# Readings of a text and of its value that agree

A typed reading of a text never builds the value that the text stands for; the other reading starts from
that value. `Agrees` says what the two may come to at one place when no object repeats a key: the same
result, or the same mismatch, or a fault of the text where the value is refused. `Meets` tells more, and
of every text: which fault that is, and what a repeated key changes. `Placed` says what is needed of the
place: a spelling of a tree, with room for its depth. What the two readings come to is carried through
the loops over lists and objects, for any pair of readers of an item or a member that meet.
-/

namespace SchemaTyping.Decode

open Json

/-! ### Agreement -/

/-- A reading of a text that leaves `rest` agrees with a reading of a value: it gives the same, or fails
where the other does, for the same mismatch if for any. -/
inductive Agrees {α : Type} : Except Failure (α × Cursor) → Except Mismatch α → (rest : List Char) → Prop
  | ok {x : α} {rest : List Char} (offset : Nat) : Agrees (.ok (x, ⟨rest, offset⟩)) (.ok x) rest
  | malformed (fault : Fault) (mismatch : Mismatch) (rest : List Char) :
    Agrees (.error (.malformed fault)) (.error mismatch) rest
  | mismatched (mismatch : Mismatch) (offset : Nat) (rest : List Char) :
    Agrees (.error (.mismatched mismatch offset)) (.error mismatch) rest

/-- What refuses a list as too long for a record. -/
def Reason.IsSurplus (reason : Reason) : Prop :=
  ∃ length, reason = .invalidLength length "fewer elements in array"

/-- What refuses a field given twice. Only a text shows that. -/
def Reason.IsRepeat (reason : Reason) : Prop := ∃ name, reason = .duplicateField name

/-- Results of which nothing is asked. -/
def Whatever {α : Type} : α → α → Prop := fun _ _ => True

/-- Members with the same keys. -/
def SameKeys (taken seen : Members) : Prop := ∀ key, key ∈ taken.keys ↔ key ∈ seen.keys

/-- What a reading of a text that leaves `rest` and a reading of the tree that it spells come to: two
results, a fault for a surplus, the same mismatch, or a repeated field that the text shows. The results
are the `same` in what matters to what follows, and equal if the tree is `distinct` in its keys. -/
inductive Meets {α : Type} (distinct : Prop) (same : α → α → Prop) :
    Except Failure (α × Cursor) → Except Mismatch α → (rest : List Char) → Prop
  | ok {x y : α} {rest : List Char} (offset : Nat) (hsame : same x y) (hequal : distinct → x = y) :
    Meets distinct same (.ok (x, ⟨rest, offset⟩)) (.ok y) rest
  | surplus {mismatch : Mismatch} (place : Nat) (rest : List Char)
    (hsurplus : mismatch.reason.IsSurplus) :
    Meets distinct same (.error (.malformed ⟨.trailingCharacters, place⟩)) (.error mismatch) rest
  | mismatched {mismatch : Mismatch} (offset : Nat) (rest : List Char)
    (hother : ¬ mismatch.reason.IsSurplus) :
    Meets distinct same (.error (.mismatched mismatch offset)) (.error mismatch) rest
  | repeated {mismatch : Mismatch} (offset : Nat) (seen : Except Mismatch α) (rest : List Char)
    (hrepeat : mismatch.reason.IsRepeat) (hagain : ¬ distinct) :
    Meets distinct same (.error (.mismatched mismatch offset)) seen rest

section

variable {α β : Type} {distinct distinct' : Prop} {same : α → α → Prop} {same' : β → β → Prop}
    {read : Except Failure (α × Cursor)}
  {seen : Except Mismatch α} {rest rest' : List Char}

/-- A tree that is distinct in its keys is so in its parts. -/
theorem Meets.part (hmeets : Meets distinct same read seen rest) (hpart : distinct' → distinct) :
    Meets distinct' same read seen rest := by
  cases hmeets with
  | ok offset hsame hequal => exact .ok offset hsame fun hdistinct => hequal (hpart hdistinct)
  | surplus place _ hsurplus => exact .surplus place rest hsurplus
  | mismatched offset _ hother => exact .mismatched offset rest hother
  | repeated offset _ _ hrepeat hagain =>
    exact .repeated offset _ rest hrepeat fun hdistinct => hagain (hpart hdistinct)

theorem Meets.bind {next : α × Cursor → Except Failure (β × Cursor)} {next' : α → Except Mismatch β}
    (hmeets : Meets distinct same read seen rest)
    (hnext : ∀ x y offset, seen = .ok y → same x y → (distinct → x = y) →
      Meets distinct same' (next (x, ⟨rest, offset⟩)) (next' y) rest') :
    Meets distinct same' (read >>= next) (seen >>= next') rest' := by
  cases hmeets with
  | ok offset hsame hequal => exact hnext _ _ offset rfl hsame hequal
  | surplus place _ hsurplus => exact .surplus place rest' hsurplus
  | mismatched offset _ hother => exact .mismatched offset rest' hother
  | repeated offset _ _ hrepeat hagain => exact .repeated offset _ rest' hrepeat hagain

theorem Meets.within (step : Step) (hmeets : Meets distinct same read seen rest) :
    Meets distinct same (read.mapError (·.within step)) (seen.mapError (·.within step)) rest := by
  cases hmeets with
  | ok offset hsame hequal => exact .ok offset hsame hequal
  | surplus place _ hsurplus => exact .surplus place rest hsurplus
  | mismatched offset _ hother => exact .mismatched offset rest hother
  | repeated offset _ _ hrepeat hagain => exact .repeated offset _ rest hrepeat hagain

/-- A part of a text that holds no value of the tree is read in front. -/
theorem Meets.behind {scan : Except Fault (β × Cursor)} {x : β}
    {next : β × Cursor → Except Failure (α × Cursor)} (hscan : reading scan = some (x, rest))
    (hnext : ∀ offset, Meets distinct same (next (x, ⟨rest, offset⟩)) seen rest') :
    Meets distinct same (lift scan >>= next) seen rest' := by
  obtain ⟨offset, rfl⟩ := reading_eq_some_iff.1 hscan
  exact hnext offset

theorem Meets.of_reading {scan : Except Fault (α × Cursor)} {x y : α}
    (hscan : reading scan = some (x, rest)) (hsame : same x y) (hequal : distinct → x = y) :
    Meets distinct same (lift scan) (.ok y) rest := by
  obtain ⟨offset, rfl⟩ := reading_eq_some_iff.1 hscan
  exact .ok offset hsame hequal

/-- Without repeated keys, readings that meet agree. -/
theorem Meets.agrees (hmeets : Meets distinct same read seen rest) (hdistinct : distinct) :
    Agrees read seen rest := by
  cases hmeets with
  | ok offset hsame hequal =>
    obtain rfl := hequal hdistinct
    exact .ok offset
  | surplus place _ hsurplus => exact .malformed _ _ rest
  | mismatched offset _ hother => exact .mismatched _ offset rest
  | repeated offset _ _ hrepeat hagain => exact absurd hdistinct hagain

end

/-! ### Where a tree stands -/

/-- At a cursor, behind blanks, a spelling of a tree that nests no deeper than `depth` stands in front of
`rest`, and if it is a number the text does not go on with it. -/
structure Placed (tree : Value) (depth : Nat) (cursor : Cursor) (rest : List Char) : Prop where
  spelled : ∃ blank body, IsBlank blank ∧ Spells tree body ∧ cursor.rest = blank ++ (body ++ rest)
  nests : tree.NestsWithin depth
  ends : ∀ n, tree = .number n → reading (readValue 0 cursor) = some (tree, rest)

/-- At a cursor, behind blanks, a spelling of a tree stands in front of `rest`: the tree has no repeated
keys and nests no deeper than `depth`, and if it is a number the text does not go on with it. -/
structure Stands (tree : Value) (depth : Nat) (cursor : Cursor) (rest : List Char) : Prop where
  spelled : ∃ blank body, IsBlank blank ∧ Spells tree body ∧ cursor.rest = blank ++ (body ++ rest)
  distinct : tree.DistinctKeys
  nests : tree.NestsWithin depth
  ends : ∀ n, tree = .number n → reading (readValue 0 cursor) = some (tree, rest)

/-- What holds of a reader and a reading of values wherever a tree stands. -/
def ReadsAs (depth : Nat) (read : ValueReader) (seen : Value → Except Mismatch Value)
    (tree : Value) : Prop :=
  ∀ cursor rest, Stands tree depth cursor rest → Agrees (read cursor) (seen tree) rest

/-- What holds of a reader and a reading of values wherever a tree is placed. -/
def MeetsAs (depth : Nat) (read : ValueReader) (seen : Value → Except Mismatch Value)
    (tree : Value) : Prop :=
  ∀ cursor rest, Placed tree depth cursor rest →
    Meets tree.DistinctKeys Whatever (read cursor) (seen tree) rest

theorem placed_of_spells {tree : Value} {depth : Nat} {body blank rest : List Char}
    (hspells : Spells tree body) (hnests : tree.NestsWithin depth) (hblank : IsBlank blank)
    (hends : EndsValue rest) (offset : Nat) :
    Placed tree depth ⟨blank ++ (body ++ rest), offset⟩ rest where
  spelled := ⟨blank, body, hblank, hspells, rfl⟩
  nests := hnests
  ends := by
    rintro n rfl
    have hscalar : (Value.number n).NestsWithin 0 := trivial
    have hread := reading_readValue hspells hscalar hblank (fun _ _ => hends) offset
    rwa [settled_of_nestsWithin_zero hscalar] at hread

theorem Stands.placed {tree : Value} {depth : Nat} {cursor : Cursor} {rest : List Char}
    (hstands : Stands tree depth cursor rest) :
    Placed tree depth cursor rest :=
  ⟨hstands.spelled, hstands.nests, hstands.ends⟩

theorem Placed.stands {tree : Value} {depth : Nat} {cursor : Cursor} {rest : List Char}
    (hplaced : Placed tree depth cursor rest) (hdistinct : tree.DistinctKeys) :
    Stands tree depth cursor rest :=
  ⟨hplaced.spelled, hdistinct, hplaced.nests, hplaced.ends⟩

/-- The first character of a text tells lists, objects and `null` from the other values. -/
theorem exists_head {tree : Value} {body : List Char} (hspells : Spells tree body) :
    ∃ c tail, body = c :: tail ∧ (c = '[' → ∃ items, tree = .array items) ∧
      (c = '{' → ∃ members, tree = .object members) ∧
      (c = 'n' ↔ tree = .null) := by
  cases hspells with
  | null => exact ⟨_, _, rfl, by simp, by simp, by simp⟩
  | true => exact ⟨_, _, rfl, by simp, by simp, by simp⟩
  | false => exact ⟨_, _, rfl, by simp, by simp, by simp⟩
  | string hbody => exact ⟨_, _, rfl, by simp, by simp, by simp⟩
  | array hitems => exact ⟨_, _, rfl, by simp, by simp, by simp⟩
  | object hmembers => exact ⟨_, _, rfl, by simp, by simp, by simp⟩
  | @number numeral n hnumber =>
    obtain ⟨c, tail, hchars, hc⟩ := numeral.exists_chars_cons
    have hbounds := hc.bounds
    refine ⟨c, tail, hchars, ?_, ?_, ?_, nofun⟩
    all_goals
      rintro rfl
      exact absurd hbounds (by decide)

section

variable {tree : Value} {depth : Nat} {cursor : Cursor} {rest : List Char}

theorem Placed.exists_skipBlanks (hplaced : Placed tree depth cursor rest) :
    ∃ body offset, Spells tree body ∧ cursor.skipBlanks = ⟨body ++ rest, offset⟩ := by
  obtain ⟨blank, body, hblank, hspells, hrest⟩ := hplaced.spelled
  obtain ⟨text, offset⟩ := cursor
  obtain rfl : text = blank ++ (body ++ rest) := hrest
  obtain ⟨offset', hskip⟩ := rest_skipBlanks_append hblank (hspells.startsWith rest) offset
  exact ⟨body, offset', hspells, hskip⟩

theorem readValue_skipBlanks (depth : Nat) (cursor : Cursor) :
    readValue depth cursor.skipBlanks = readValue depth cursor := by
  cases depth with
  | zero => exact readValueWith_skipBlanks _ _ cursor
  | succ depth =>
    rw [readValue_succ]
    exact readValueWith_skipBlanks _ _ cursor

/-- A number is read alike at every depth. -/
theorem readValue_numeral {c : Char} (hc : StartsNumeral c) (rest : List Char) (depth offset : Nat) :
    readValue depth ⟨c :: rest, offset⟩ = readValue 0 ⟨c :: rest, offset⟩ := by
  cases depth with
  | zero => rfl
  | succ depth =>
    rw [readValue_succ, readValue, readValueWith_numeral _ _ hc, readValueWith_numeral _ _ hc]

theorem Placed.skipBlanks (hplaced : Placed tree depth cursor rest) :
    Placed tree depth cursor.skipBlanks rest := by
  obtain ⟨body, offset, hspells, hskip⟩ := hplaced.exists_skipBlanks
  refine ⟨⟨[], body, isBlank_nil, hspells, by rw [hskip]; rfl⟩, hplaced.nests, fun n hn => ?_⟩
  rw [readValue_skipBlanks]
  exact hplaced.ends n hn

/-- Where a tree is placed, it is read with its repeated keys settled. -/
theorem Placed.readValue (hplaced : Placed tree depth cursor rest) :
    reading (readValue depth cursor) = some (tree.settled, rest) := by
  obtain ⟨blank, body, hblank, hspells, hrest⟩ := hplaced.spelled
  obtain ⟨text, offset⟩ := cursor
  obtain rfl : text = blank ++ (body ++ rest) := hrest
  by_cases hnumber : ∃ n, tree = .number n
  · obtain ⟨n, rfl⟩ := hnumber
    have hends := hplaced.ends n rfl
    have hscalar : (Value.number n).NestsWithin 0 := trivial
    obtain ⟨offset', hskip⟩ := rest_skipBlanks_append hblank (hspells.startsWith rest) offset
    rw [settled_of_nestsWithin_zero hscalar]
    cases hspells with
    | @number numeral _ hnumber =>
      obtain ⟨c, tail, hchars, hc⟩ := numeral.exists_chars_cons
      rw [← readValue_skipBlanks, hskip, hchars, List.cons_append] at hends ⊢
      rwa [readValue_numeral hc]
  · have hends : ∀ n, tree = .number n → EndsValue rest := fun n hn => absurd ⟨n, hn⟩ hnumber
    exact reading_readValue hspells hplaced.nests hblank hends offset

theorem Placed.scalar (hplaced : Placed tree depth cursor rest) (hscalar : tree.NestsWithin 0) :
    Placed tree 0 cursor rest :=
  ⟨hplaced.spelled, hscalar, hplaced.ends⟩

/-- A value that has been read, judged at the cursor behind it. -/
def judge (target : Target) (read : Value × Cursor) : Except Failure (Value × Cursor) :=
  match target.ofValue read.1 with
  | .ok value => .ok (value, read.2)
  | .error mismatch => .error (.mismatched mismatch read.2.offset)

theorem Placed.exists_readScalar (hplaced : Placed tree depth cursor rest) (hscalar : tree.NestsWithin 0)
    (target : Target) :
    ∃ offset, readScalar target cursor = judge target (tree, ⟨rest, offset⟩) := by
  obtain ⟨body, offset, hspells, hskip⟩ := hplaced.exists_skipBlanks
  obtain ⟨c, tail, rfl, hlist, hbrace, _⟩ := exists_head hspells
  have hread := (hplaced.scalar hscalar).readValue
  rw [settled_of_nestsWithin_zero hscalar, ← readValue_skipBlanks, hskip] at hread
  have hunfolded : readScalar target cursor =
      (lift (Json.readValue 0 ⟨c :: tail ++ rest, offset⟩) >>= judge target) := by
    unfold readScalar
    rw [hskip]
    simp only [List.cons_append]
    split
    · rename_i hfirst
      obtain ⟨items, rfl⟩ := hlist (List.cons.inj hfirst).1
      exact hscalar.elim
    · rename_i hfirst
      obtain ⟨members, rfl⟩ := hbrace (List.cons.inj hfirst).1
      exact hscalar.elim
    · rfl
  obtain ⟨offset', hread⟩ := reading_eq_some_iff.1 hread
  rw [hunfolded, hread]
  exact ⟨offset', rfl⟩

theorem Placed.exists_readScalar_array {items : List Value}
    (hplaced : Placed (.array items) depth cursor rest) (target : Target) :
    ∃ offset, readScalar target cursor = .error (.mismatched (target.mismatch .list) offset) := by
  obtain ⟨body, offset, hspells, hskip⟩ := hplaced.exists_skipBlanks
  cases hspells with
  | @array _ body hitems =>
    rw [readScalar, hskip]
    exact ⟨offset, rfl⟩

theorem Placed.exists_readScalar_object {members : Members}
    (hplaced : Placed (.object members) depth cursor rest) (target : Target) :
    ∃ offset, readScalar target cursor = .error (.mismatched (target.mismatch .map) offset) := by
  obtain ⟨body, offset, hspells, hskip⟩ := hplaced.exists_skipBlanks
  cases hspells with
  | @object _ body hmembers =>
    rw [readScalar, hskip]
    exact ⟨offset, rfl⟩

end

/-! ### Loops -/

/-- The loop over a list meets the reading of each item, for an item reader that does. -/
theorem meets_readItems {distinct : Prop} {read : ValueReader} {seen : Value → Except Mismatch Value}
    {depth : Nat} {first : Bool} {items : List Value} {text : List Char}
    (hspells : SpellsSequence Spells ']' first items text)
    (hitems : ∀ item ∈ items, (distinct → item.DistinctKeys) ∧ item.NestsWithin depth ∧
      MeetsAs depth read seen item) (rest : List Char)
    {budget : Nat} (hbudget : text.length ≤ budget) {index : Nat} (hfirst : (index == 0) = first)
    (offset : Nat) :
    Meets distinct Whatever
      (readItems .malformed (fun index cursor => (read cursor).mapError (·.within (.index index)))
        budget index ⟨text ++ rest, offset⟩) (readEach seen index items) rest := by
  induction hspells generalizing budget index offset with
  | @close first blank hblank =>
    rw [List.length_append, List.length_singleton] at hbudget
    obtain ⟨budget, rfl⟩ : ∃ fewer, budget = fewer + 1 := ⟨budget - 1, by omega⟩
    obtain ⟨offset', hnext⟩ :=
      reading_eq_some_iff.1 (reading_nextItem_close hblank (index == 0) rest offset)
    rw [List.append_assoc, List.singleton_append, readItems, hnext, readEach]
    exact .ok offset' trivial fun _ => rfl
  | @item first item items lead text more hlead hitem hmore ih =>
    obtain ⟨⟨hdistinct, hnests, hread⟩, hlater⟩ := List.forall_mem_cons.1 hitems
    have hends : EndsValue (more ++ rest) := hmore.endsValue (startsWith_cons_iff.2 (by decide)) rest
    obtain ⟨c, tail, htext, hc, hclose⟩ := hitem.exists_cons
    have hpositive : 0 < text.length := by rw [htext]; exact Nat.succ_pos _
    simp only [List.length_append] at hbudget
    obtain ⟨budget, rfl⟩ : ∃ fewer, budget = fewer + 1 := ⟨budget - 1, by omega⟩
    have hlead := reading_nextItem_item (hfirst ▸ hlead) hc hclose (tail ++ (more ++ rest)) offset
    rw [← List.cons_append, ← htext] at hlead
    obtain ⟨offset', hnext⟩ := reading_eq_some_iff.1 hlead
    rw [List.append_assoc, List.append_assoc, readItems, hnext, readEach]
    have hplaced := placed_of_spells hitem hnests isBlank_nil hends offset'
    refine (((hread _ _ hplaced).part hdistinct).within (.index index)).bind fun x y offset _ _ hequal =>
      ?_
    refine (ih hlater (by omega) rfl offset).bind fun xs ys offset _ _ hequals => ?_
    exact .ok offset trivial fun hdistinct => by rw [hequal hdistinct, hequals hdistinct]

/-- What a record takes of a member. A map takes every member. -/
def takeKnown (field : String → Option (Value → Except Mismatch Value)) (taken : Members)
    (member : String × Value) :
    Except Mismatch Members :=
  match field member.1 with
  | none => .ok taken
  | some read => do
    let x ← (read member.2).mapError (·.within (.key member.1))
    .ok (taken ++ [(member.1, x)])

theorem readKnown_cons (field : String → Option (Value → Except Mismatch Value)) (taken : Members)
    (member : String × Value) (members : Members) :
    (readKnown field (member :: members) >>= fun xs => .ok (taken ++ xs)) =
      takeKnown field taken member >>= fun taken => readKnown field members >>= fun xs =>
        .ok (taken ++ xs) := by
  rw [readKnown, takeKnown]
  cases field member.1 with
  | none => rfl
  | some read =>
    simp only [bind_assoc]
    congr 1
    funext x
    cases readKnown field members with
    | error mismatch => rfl
    | ok xs => exact congrArg Except.ok (List.append_cons taken _ xs)

theorem readEachMember_eq_readKnown (seen : Value → Except Mismatch Value) (members : Members) :
    readEachMember seen members = readKnown (fun _ => some seen) members := by
  induction members with
  | nil => rfl
  | cons member members ih => rw [readEachMember, readKnown, ih]

theorem key_of_takeKnown {field : String → Option (Value → Except Mismatch Value)}
    {taken taken' : Members} {member : String × Value}
    (htake : takeKnown field taken member = .ok taken') {key : String} (hkey : key ∈ taken'.keys) :
    key ∈ taken.keys ∨ key = member.1 := by
  unfold takeKnown at htake
  split at htake
  · cases htake
    exact .inl hkey
  · obtain ⟨x, _, htake⟩ := exists_of_bind_ok htake
    cases htake
    simpa [Members.keys] using hkey

/-- What is asked of a reader of members: it meets what is taken of one. What is taken up before may hold
the key of the member only if keys are repeated. -/
def MeetsMember (distinct : Prop) (member : Members → Cursor → Except Failure (Members × Cursor))
    (field : String → Option (Value → Except Mismatch Value)) (one : String × Value) : Prop :=
  ∀ text, SpellsMember Spells one ('"' :: text) → ∀ rest, EndsValue rest →
    ∀ taken seen, SameKeys taken seen →
    (distinct → taken = seen ∧ one.1 ∉ seen.keys) → ∀ offset,
    Meets distinct SameKeys (member taken ⟨text ++ rest, offset⟩) (takeKnown field seen one) rest

/-- The loop over an object meets the reading of the members, for a member reader that does. -/
theorem meets_readMembers {distinct : Prop}
    {member : Members → Cursor → Except Failure (Members × Cursor)}
    {field : String → Option (Value → Except Mismatch Value)} {first : Bool} {members : Members}
    {text : List Char} (hspells : SpellsSequence (SpellsMember Spells) '}' first members text)
    (hmember : ∀ one ∈ members, MeetsMember distinct member field one)
    (hdistinct : distinct → (Members.keys members).Nodup) {taken seen : Members}
    (hsame : SameKeys taken seen) (hequal : distinct → taken = seen)
    (hfresh : distinct → ∀ key ∈ Members.keys members, key ∉ seen.keys) (rest : List Char) {budget : Nat}
    (hbudget : text.length ≤ budget) (offset : Nat) :
    Meets distinct SameKeys (readMembers .malformed member budget first taken ⟨text ++ rest, offset⟩)
      (readKnown field members >>= fun xs => .ok (seen ++ xs)) rest := by
  induction hspells generalizing budget taken seen offset with
  | @close first blank hblank =>
    rw [List.length_append, List.length_singleton] at hbudget
    obtain ⟨budget, rfl⟩ : ∃ fewer, budget = fewer + 1 := ⟨budget - 1, by omega⟩
    obtain ⟨offset', hnext⟩ := reading_eq_some_iff.1 (reading_nextMember_close hblank first rest offset)
    have hnone : (readKnown field [] >>= fun xs => (.ok (seen ++ xs) : Except Mismatch Members)) =
        .ok seen :=
      congrArg Except.ok (List.append_nil seen)
    rw [List.append_assoc, List.singleton_append, readMembers, hnext, hnone]
    exact .ok offset' hsame hequal
  | @item first one members lead text more hlead hone hmore ih =>
    obtain ⟨hhere, hlater⟩ := List.forall_mem_cons.1 hmember
    have hends : EndsValue (more ++ rest) := hmore.endsValue (startsWith_cons_iff.2 (by decide)) rest
    obtain ⟨tail, rfl⟩ : ∃ tail, text = '"' :: tail := by
      cases hone
      exact ⟨_, rfl⟩
    simp only [List.length_append, List.length_cons] at hbudget
    obtain ⟨budget, rfl⟩ : ∃ fewer, budget = fewer + 1 := ⟨budget - 1, by omega⟩
    obtain ⟨offset', hnext⟩ :=
      reading_eq_some_iff.1 (reading_nextMember_member hlead (tail ++ (more ++ rest)) offset)
    rw [List.append_assoc, List.append_assoc, List.cons_append, readMembers, hnext, readKnown_cons]
    have htaken : distinct → taken = seen ∧ one.1 ∉ seen.keys := fun hkeys =>
      ⟨hequal hkeys, hfresh hkeys one.1 List.mem_cons_self⟩
    refine (hhere tail hone _ hends taken seen hsame htaken offset').bind fun taken' seen' offset htake
      hsame' hequal' => ?_
    refine ih hlater (fun hkeys => (hdistinct hkeys).of_cons) hsame' hequal'
      (fun hkeys key hkey hmem => ?_) (by omega) offset
    -- what is taken has keys of earlier members only, so the next key is still new to it
    rcases key_of_takeKnown htake hmem with hbefore | rfl
    · exact hfresh hkeys key (List.mem_cons_of_mem _ hkey) hbefore
    · exact (List.nodup_cons.1 (hdistinct hkeys)).1 hkey

theorem meets_readObject {distinct : Prop}
    {member : Members → Cursor → Except Failure (Members × Cursor)}
    {field : String → Option (Value → Except Mismatch Value)} {members : Members} {text : List Char}
    (hspells : SpellsSequence (SpellsMember Spells) '}' true members text)
    (hmember : ∀ one ∈ members, MeetsMember distinct member field one)
    (hdistinct : distinct → (Members.keys members).Nodup) (rest : List Char) (offset : Nat) :
    Meets distinct SameKeys (readObject .malformed member [] ⟨text ++ rest, offset⟩)
      (readKnown field members) rest := by
  have hlength : text.length ≤ (text ++ rest).length := by simp
  have hfresh : distinct → ∀ key ∈ Members.keys members, key ∉ Members.keys [] :=
    fun _ _ _ => List.not_mem_nil
  have hread :=
    meets_readMembers hspells hmember hdistinct (fun _ => Iff.rfl)
      (fun _ => rfl) hfresh rest hlength offset
  have hall : (readKnown field members >>= fun xs => .ok ([] ++ xs)) = readKnown field members := by
    cases readKnown field members <;> rfl
  rwa [hall] at hread

end SchemaTyping.Decode
