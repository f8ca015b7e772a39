import SchemaTyping.Proofs.Json.Numeral
import SchemaTyping.Proofs.Json.RepeatedKeys
import SchemaTyping.Proofs.Json.StringBody

/-!
# The spellings of a value

A value has many texts. Blanks may stand around its tokens, and its strings have spellings of their own.
`Spells` is the grammar of JSON as a relation between a text and the tree that it writes down, with every
member of an object as written, repeated keys among them. The compact text of a value is one of its
spellings if all its numbers are integers (`spells_chars`).
-/

namespace SchemaTyping.Json

open Text (StartsWith startsWith_nil startsWith_cons)

/-! ### The grammar -/

/-- What stands in front of an item or a member: blanks, and a comma among them unless it is the first
one. -/
inductive Leads : (first : Bool) → List Char → Prop
  | first {blank : List Char} (hblank : IsBlank blank) : Leads true blank
  | next {blank blank' : List Char} (hblank : IsBlank blank) (hblank' : IsBlank blank') :
    Leads false (blank ++ ',' :: blank')

/-- Texts with what leads to each, up to the bracket that closes them. -/
inductive SpellsSequence {α : Type} (spells : α → List Char → Prop) (bracket : Char) :
    (first : Bool) → List α → List Char → Prop
  | close {first : Bool} {blank : List Char} (hblank : IsBlank blank) :
    SpellsSequence spells bracket first [] (blank ++ [bracket])
  | item {first : Bool} {x : α} {xs : List α} {lead text more : List Char} (hlead : Leads first lead)
    (hx : spells x text) (hxs : SpellsSequence spells bracket false xs more) :
    SpellsSequence spells bracket first (x :: xs) (lead ++ (text ++ more))

inductive SpellsMember (spells : Value → List Char → Prop) : String × Value → List Char → Prop
  | mk {key : String} {value : Value} {body before after text : List Char}
    (hkey : SpellsChars key.toList body) (hbefore : IsBlank before) (hafter : IsBlank after)
    (hvalue : spells value text) :
    SpellsMember spells (key, value) ('"' :: (body ++ '"' :: (before ++ ':' :: (after ++ text))))

inductive Spells : Value → List Char → Prop
  | null : Spells .null ['n', 'u', 'l', 'l']
  | true : Spells (.bool true) ['t', 'r', 'u', 'e']
  | false : Spells (.bool false) ['f', 'a', 'l', 's', 'e']
  | number {numeral : Numeral} {n : Number} (hnumber : numeral.number? = some n) :
    Spells (.number n) numeral.chars
  | string {text : String} {body : List Char} (hbody : SpellsChars text.toList body) :
    Spells (.string text) ('"' :: (body ++ ['"']))
  | array {items : List Value} {body : List Char} (hitems : SpellsSequence Spells ']' true items body) :
    Spells (.array items) ('[' :: body)
  | object {members : Members} {body : List Char}
    (hmembers : SpellsSequence (SpellsMember Spells) '}' true members body) :
    Spells (.object members) ('{' :: body)

/-! ### Trees -/

def Value.parts : Value → List Value
  | .array items => items
  | .object members => Members.values members
  | _ => []

theorem Value.mem_parts_of_lookup {members : Members} {key : String} {value : Value}
    (hlookup : members.lookup key = some value) :
    value ∈ (Value.object members).parts := by
  obtain ⟨before, after, rfl, _⟩ := List.lookup_eq_some_iff.1 hlookup
  exact List.mem_map_of_mem (List.mem_append_right before List.mem_cons_self)

theorem Value.sizeOf_part_lt {value part : Value} (hpart : part ∈ value.parts) :
    sizeOf part < sizeOf value := by
  cases value with
  | array items =>
    have hitem : sizeOf part < sizeOf items := List.sizeOf_lt_of_mem hpart
    simp only [Value.array.sizeOf_spec]
    omega
  | object members =>
    obtain ⟨member, hmem, rfl⟩ := List.mem_map.1 hpart
    have hmember := List.sizeOf_lt_of_mem hmem
    obtain ⟨key, value⟩ := member
    simp only [Prod.mk.sizeOf_spec, Value.object.sizeOf_spec] at hmember ⊢
    omega
  | _ => cases hpart

/-- What holds of a value whenever it holds of its parts holds of every value. -/
theorem Value.induction {motive : Value → Prop}
    (step : ∀ value : Value, (∀ part ∈ value.parts, motive part) → motive value) (value : Value) :
    motive value :=
  step value fun part _ => Value.induction step part
termination_by sizeOf value
decreasing_by exact Value.sizeOf_part_lt ‹_›

/-- A property that a value and every value inside it have. -/
inductive Value.Throughout (holds : Value → Prop) : Value → Prop
  | intro {value : Value} (hself : holds value)
    (hparts : ∀ part ∈ value.parts, Value.Throughout holds part) :
    Value.Throughout holds value

theorem Value.Throughout.of_no_parts {holds : Value → Prop} {value : Value} (hself : holds value)
    (hparts : value.parts = []) :
    value.Throughout holds := by
  refine .intro hself ?_
  rw [hparts]
  exact List.forall_mem_nil _

mutual
/-- Checks a value and every value inside it. -/
def Value.check (test : Value → Bool) : Value → Bool
  | .array items => test (.array items) && checkItems test items
  | .object members => test (.object members) && checkMembers test members
  | value => test value

def checkItems (test : Value → Bool) : List Value → Bool
  | [] => true
  | item :: items => item.check test && checkItems test items

def checkMembers (test : Value → Bool) : List (String × Value) → Bool
  | [] => true
  | (_, value) :: members => value.check test && checkMembers test members
end

theorem checkItems_eq_all (test : Value → Bool) (items : List Value) :
    checkItems test items = items.all (Value.check test) := by
  induction items with
  | nil => rw [checkItems, List.all_nil]
  | cons item items ih => rw [checkItems, List.all_cons, ih]

theorem checkMembers_eq_all (test : Value → Bool) (members : Members) :
    checkMembers test members = (Members.values members).all (Value.check test) := by
  induction members with
  | nil => rw [checkMembers, Members.values, List.map_nil, List.all_nil]
  | cons member members ih =>
    rw [checkMembers, ih]
    rfl

theorem Value.check_eq (test : Value → Bool) (value : Value) :
    value.check test = (test value && value.parts.all (Value.check test)) := by
  cases value with
  | array items => rw [Value.check, checkItems_eq_all, Value.parts]
  | object members => rw [Value.check, checkMembers_eq_all, Value.parts]
  | _ => simp [Value.check, Value.parts]

theorem Value.check_iff (holds : Value → Prop) [DecidablePred holds] (value : Value) :
    value.check (fun value => decide (holds value)) = true ↔ value.Throughout holds := by
  induction value using Value.induction with
  | step value ih =>
    rw [Value.check_eq, Bool.and_eq_true, decide_eq_true_iff, List.all_eq_true]
    constructor
    · rintro ⟨hself, hparts⟩
      exact .intro hself fun part hpart => (ih part hpart).1 (hparts part hpart)
    · rintro ⟨hself, hparts⟩
      exact ⟨hself, fun part hpart => (ih part hpart).2 (hparts part hpart)⟩

instance (holds : Value → Prop) [DecidablePred holds] : DecidablePred (Value.Throughout holds) :=
  fun value => decidable_of_iff _ (Value.check_iff holds value)

/-- No more than `depth` lists and objects stand inside one another. -/
def Value.NestsWithin : (depth : Nat) → Value → Prop
  | 0, .array _ => False
  | 0, .object _ => False
  | 0, _ => True
  | depth + 1, value => ∀ part ∈ value.parts, part.NestsWithin depth

instance Value.decidableNestsWithin : (depth : Nat) → (value : Value) →
    Decidable (value.NestsWithin depth)
  | 0, .array _ => .isFalse id
  | 0, .object _ => .isFalse id
  | 0, .null => .isTrue trivial
  | 0, .bool _ => .isTrue trivial
  | 0, .number _ => .isTrue trivial
  | 0, .string _ => .isTrue trivial
  | depth + 1, value =>
    have := decidableNestsWithin depth
    List.decidableBAll (Value.NestsWithin depth) value.parts

theorem Value.NestsWithin.of_zero {value : Value} (hscalar : value.NestsWithin 0) (depth : Nat) :
    value.NestsWithin (depth + 1) := by
  intro part hpart
  cases value with
  | array items => exact hscalar.elim
  | object members => exact hscalar.elim
  | _ => cases hpart

theorem Value.NestsWithin.mono {value : Value} {depth depth' : Nat} (hnests : value.NestsWithin depth)
    (hle : depth ≤ depth') :
    value.NestsWithin depth' := by
  induction depth generalizing value depth' with
  | zero =>
    cases depth' with
    | zero => exact hnests
    | succ depth' => exact hnests.of_zero depth'
  | succ depth ih =>
    obtain ⟨depth', rfl⟩ : ∃ fewer, depth' = fewer + 1 := ⟨depth' - 1, by omega⟩
    exact fun part hpart => ih (hnests part hpart) (by omega)

/-- A number that is an integer of 64 bits, with or without a sign, or a value of another kind. -/
def Value.IntegerIfNumber : Value → Prop
  | .number (.int i) => -2 ^ 63 ≤ i ∧ i < 2 ^ 64
  | .number (.float _) => False
  | _ => True

instance : DecidablePred Value.IntegerIfNumber
  | .number (.int i) => inferInstanceAs (Decidable (-2 ^ 63 ≤ i ∧ i < 2 ^ 64))
  | .number (.float _) => .isFalse id
  | .null | .bool _ | .string _ | .array _ | .object _ => .isTrue trivial

/-- All numbers are integers of 64 bits, with or without a sign. -/
def Value.IntegersOnly (value : Value) : Prop := value.Throughout Value.IntegerIfNumber

instance : DecidablePred Value.IntegersOnly :=
  inferInstanceAs (DecidablePred (Value.Throughout Value.IntegerIfNumber))

def Value.DistinctKeys (value : Value) : Prop :=
  value.Throughout fun part => ∀ members, part = .object members → (Members.keys members).Nodup

instance : DecidablePred fun part : Value => ∀ members, part = .object members →
    (Members.keys members).Nodup
  | .object members => decidable_of_iff (Members.keys members).Nodup (by simp)
  | .null | .bool _ | .number _ | .string _ | .array _ => .isTrue (by simp)

instance : DecidablePred Value.DistinctKeys := inferInstanceAs (DecidablePred (Value.Throughout _))

/-! ### Where texts start and end -/

theorem IsBlank.append {blank blank' : List Char} (hblank : IsBlank blank) (hblank' : IsBlank blank') :
    IsBlank (blank ++ blank') :=
  fun c hc => (List.mem_append.1 hc).elim (hblank c) (hblank' c)

theorem Leads.append {first : Bool} {lead blank : List Char} (hlead : Leads first lead)
    (hblank : IsBlank blank) :
    Leads first (lead ++ blank) := by
  cases hlead with
  | first hbefore => exact .first (hbefore.append hblank)
  | next hbefore hafter =>
    rw [List.append_assoc, List.cons_append]
    exact .next hbefore (hafter.append hblank)

/-- A text that does not go on with a numeral. -/
def EndsValue (rest : List Char) : Prop :=
  StartsWith (fun c => c.isDigit = false ∧ c ∉ ['.', 'e', 'E']) rest

theorem EndsValue.endsBefore {rest : List Char} (hends : EndsValue rest) (numeral : Numeral) :
    numeral.EndsBefore rest where
  digits c hc := (hends c hc).1
  exponent _ c hc := by
    have hc := (hends c hc).2
    simp only [List.mem_cons, not_or] at hc
    exact ⟨hc.2.1, hc.2.2.1⟩
  point _ _ c hc := fun hpoint => (hends c hc).2 (List.mem_cons.2 (.inl hpoint))

theorem endsValue_of_blank {blank : List Char} (hblank : IsBlank blank) {rest : List Char}
    (hrest : EndsValue rest) :
    EndsValue (blank ++ rest) := by
  cases blank with
  | nil => exact hrest
  | cons c blank =>
    have hc := mem_blankChars.1 (hblank c List.mem_cons_self)
    refine startsWith_cons ?_ _
    obtain rfl | rfl | rfl | rfl := hc <;> decide

theorem IsBlank.endsValue {blank : List Char} (hblank : IsBlank blank) : EndsValue blank := by
  have hends := endsValue_of_blank hblank (startsWith_nil _)
  rwa [List.append_nil] at hends

theorem SpellsSequence.endsValue {α : Type} {spells : α → List Char → Prop} {bracket : Char}
    {xs : List α} {text : List Char} (hspells : SpellsSequence spells bracket false xs text)
    (hbracket : EndsValue [bracket]) (rest : List Char) :
    EndsValue (text ++ rest) := by
  cases hspells with
  | close hblank =>
    rw [List.append_assoc]
    exact endsValue_of_blank hblank (startsWith_cons (startsWith_cons_iff.1 hbracket) rest)
  | item hlead hx hxs =>
    cases hlead with
    | next hblank hblank' =>
      rw [List.append_assoc, List.append_assoc]
      exact endsValue_of_blank hblank (startsWith_cons (by decide) _)

def StartsNumeral (c : Char) : Prop := c = '-' ∨ c.isDigit = true

theorem Numeral.exists_chars_cons (numeral : Numeral) :
    ∃ c rest, numeral.chars = c :: rest ∧ StartsNumeral c := by
  cases hwhole : numeral.whole with
  | nil => exact absurd hwhole numeral.nonempty
  | cons d digits =>
    have hd : d.isDigit = true := numeral.allDigits_whole d (by rw [hwhole]; exact List.mem_cons_self)
    cases hnegative : numeral.negative with
    | true =>
      refine ⟨'-', numeral.whole ++ (numeral.fractionChars ++ numeral.exponentChars), ?_, .inl rfl⟩
      rw [Numeral.chars, hnegative]
      rfl
    | false =>
      refine ⟨d, digits ++ (numeral.fractionChars ++ numeral.exponentChars), ?_, .inr hd⟩
      rw [Numeral.chars, hnegative, hwhole]
      rfl

theorem StartsNumeral.bounds {c : Char} (hc : StartsNumeral c) : 0x2D ≤ c.toNat ∧ c.toNat ≤ 0x39 := by
  obtain rfl | hdigit := hc
  · decide
  · obtain ⟨hzero, hnine⟩ := Char.isDigit_iff_toNat.1 hdigit
    have hlow : 0x30 ≤ c.toNat := hzero
    have hhigh : c.toNat ≤ 0x39 := hnine
    omega

/-- Every text of a value starts with a character that is neither blank nor the end of a list. -/
theorem Spells.exists_cons {value : Value} {text : List Char} (hspells : Spells value text) :
    ∃ c rest, text = c :: rest ∧ c ∉ blankChars ∧ c ≠ ']' := by
  cases hspells with
  | null => exact ⟨_, _, rfl, by decide, by decide⟩
  | true => exact ⟨_, _, rfl, by decide, by decide⟩
  | false => exact ⟨_, _, rfl, by decide, by decide⟩
  | string hbody => exact ⟨_, _, rfl, by decide, by decide⟩
  | array hitems => exact ⟨_, _, rfl, by decide, by decide⟩
  | object hmembers => exact ⟨_, _, rfl, by decide, by decide⟩
  | @number numeral n hnumber =>
    obtain ⟨c, rest, hchars, hc⟩ := numeral.exists_chars_cons
    have hbounds := hc.bounds
    refine ⟨c, rest, hchars, ?_, ?_⟩
    · intro hblank
      obtain rfl | rfl | rfl | rfl := mem_blankChars.1 hblank
      all_goals exact absurd hbounds (by decide)
    · rintro rfl
      exact absurd hbounds (by decide)

theorem Spells.startsWith {value : Value} {text : List Char} (hspells : Spells value text)
    (rest : List Char) :
    StartsWith (· ∉ blankChars) (text ++ rest) := by
  obtain ⟨c, tail, rfl, hc, _⟩ := hspells.exists_cons
  exact startsWith_cons_iff.2 hc

/-- An integer is spelled in canonical decimal, and only the integers of 64 bits are spelled at all. -/
theorem spells_int_iff {i : Int} {text : List Char} :
    Spells (.number (.int i)) text ↔ text = Decimal.intChars i ∧ -2 ^ 63 ≤ i ∧ i < 2 ^ 64 := by
  constructor
  · intro hspells
    cases hspells with
    | number hnumber => exact Numeral.chars_of_int hnumber
  · rintro ⟨rfl, hlow, hhigh⟩
    obtain ⟨numeral, hchars, hnumber⟩ := exists_numeral_of_int hlow hhigh
    rw [← hchars]
    exact .number hnumber

/-! ### The compact text -/

theorem spellsUnit_hexDigits (unit : Nat) : SpellsUnit unit (hexDigits unit) := by
  have hlower : ∀ d < 16, (Nat.digitChar d).toLower = Nat.digitChar d := by decide
  have hdigit : ∀ n, (Nat.digitChar (n % 16)).toLower = Nat.digitChar (n % 16) :=
    fun n => hlower _ (Nat.mod_lt n (by decide))
  simp only [SpellsUnit, hexDigits, List.map_cons, List.map_nil, hdigit]

/-- A way to escape characters by letters from a table, and control characters without a letter by
number, spells every character, if quotes and backslashes have letters. -/
theorem spellsChar_of_table {escape : Char → List Char} (table : List (Char × Char))
    (hletters : ∀ entry ∈ table, entry ∈ letterEscapes ∧ escape entry.2 = ['\\', entry.1])
    (hothers : ∀ c, (∀ entry ∈ table, c ≠ entry.2) →
      escape c = if c.toNat < 0x20 then '\\' :: 'u' :: hexDigits c.toNat else [c])
    (hquote : ∃ entry ∈ table, entry.2 = '"') (hbackslash : ∃ entry ∈ table, entry.2 = '\\') (c : Char) :
    SpellsChar c (escape c) := by
  by_cases hshort : ∃ entry ∈ table, entry.2 = c
  · obtain ⟨entry, hentry, rfl⟩ := hshort
    obtain ⟨hletter, hwritten⟩ := hletters entry hentry
    rw [hwritten]
    exact .letter hletter
  · rw [hothers c fun entry hentry hc => hshort ⟨entry, hentry, hc.symm⟩]
    split
    · rename_i hcontrol
      exact .unit (by omega) (spellsUnit_hexDigits _)
    · rename_i hcontrol
      refine .plain (Nat.le_of_not_lt hcontrol) ?_ ?_
      · rintro rfl
        exact hshort hquote
      · rintro rfl
        exact hshort hbackslash

/-- The characters that have a letter to escape them and are written with it, beside that letter. -/
def shortEscapes : List (Char × Char) :=
  [('"', '"'), ('\\', '\\'), ('b', '\x08'), ('t', '\t'), ('n', '\n'), ('f', '\x0c'), ('r', '\r')]

theorem spellsChar_escapeChar (c : Char) : SpellsChar c (escapeChar c) := by
  refine spellsChar_of_table shortEscapes (by decide) (fun c hothers => ?_) (by decide) (by decide) c
  simp only [shortEscapes, List.forall_mem_cons] at hothers
  simp only [escapeChar, hothers, if_false]

theorem SpellsChars.flatMap {escape : Char → List Char} (hescape : ∀ c, SpellsChar c (escape c))
    (cs : List Char) :
    SpellsChars cs (cs.flatMap escape) := by
  induction cs with
  | nil => exact .nil
  | cons c cs ih => exact .cons (hescape c) ih

theorem spellsChars_flatMap (cs : List Char) : SpellsChars cs (cs.flatMap escapeChar) :=
  .flatMap spellsChar_escapeChar cs

theorem spellsMember_compact {key : String} {value : Value} {body text : List Char}
    (hkey : SpellsChars key.toList body) (hvalue : Spells value text) :
    SpellsMember Spells (key, value) ('"' :: body ++ ['"'] ++ ':' :: text) := by
  have hmember : SpellsMember Spells (key, value)
      ('"' :: (body ++ '"' :: ([] ++ ':' :: ([] ++ text)))) :=
    .mk hkey isBlank_nil isBlank_nil hvalue
  simpa using hmember

/-- Texts with a comma in front of each, up to the bracket that closes them. -/
theorem spellsSequence_compact {α : Type} {spells : α → List Char → Prop} {bracket : Char}
    {text : α → List Char} (more : List α → List Char) (hnil : more [] = [bracket])
    (hcons : ∀ x xs, more (x :: xs) = ',' :: (text x ++ more xs)) {xs : List α}
    (hxs : ∀ x ∈ xs, spells x (text x)) : SpellsSequence spells bracket false xs (more xs) := by
  induction xs with
  | nil =>
    rw [hnil]
    exact .close isBlank_nil
  | cons x xs ih =>
    obtain ⟨hx, hxs⟩ := List.forall_mem_cons.1 hxs
    rw [hcons]
    exact .item (.next isBlank_nil isBlank_nil) hx (ih hxs)

theorem spellsMember_chars {key : String} {value : Value} (hvalue : Spells value value.chars) :
    SpellsMember Spells (key, value) (stringChars key ++ ':' :: value.chars) :=
  spellsMember_compact (spellsChars_flatMap _) hvalue

theorem spellsSequence_moreItems {items : List Value} (hitems : ∀ item ∈ items, Spells item item.chars) :
    SpellsSequence Spells ']' false items (moreItems items) :=
  spellsSequence_compact moreItems (by rw [moreItems])
    (fun _ _ => by simp only [moreItems, List.cons_append]) hitems

theorem spellsSequence_moreMembers {members : Members}
    (hmembers : ∀ member ∈ members, Spells member.2 member.2.chars) :
    SpellsSequence (SpellsMember Spells) '}' false members (moreMembers members) :=
  spellsSequence_compact moreMembers (by rw [moreMembers])
    (fun _ _ => by simp only [moreMembers, List.cons_append])
    fun member hmem => spellsMember_chars (hmembers member hmem)

/-- The compact text of a value is one of its spellings. -/
theorem spells_chars {value : Value} (hintegers : value.IntegersOnly) : Spells value value.chars := by
  induction hintegers with
  | @intro value hself hparts ih =>
    -- the printer writes the first item or member by itself, and the others in a loop
    match value with
    | .null => exact .null
    | .bool true => exact .true
    | .bool false => exact .false
    | .number (.int i) =>
      rw [Value.chars, Number.chars]
      exact spells_int_iff.2 ⟨rfl, hself⟩
    | .number (.float x) => exact hself.elim
    | .string text =>
      rw [Value.chars]
      exact .string (spellsChars_flatMap _)
    | .array [] =>
      rw [Value.chars]
      exact .array (.close isBlank_nil)
    | .array (item :: items) =>
      rw [Value.chars]
      obtain ⟨hitem, hitems⟩ := List.forall_mem_cons.1 ih
      exact .array (.item (.first isBlank_nil) hitem (spellsSequence_moreItems hitems))
    | .object [] =>
      rw [Value.chars]
      exact .object (.close isBlank_nil)
    | .object ((key, member) :: members) =>
      obtain ⟨hmember, hmembers⟩ := List.forall_mem_cons.1 ih
      have hfirst := SpellsSequence.item (.first isBlank_nil) (@spellsMember_chars key _ hmember)
        (spellsSequence_moreMembers fun member hmem => hmembers member.2 (List.mem_map_of_mem hmem))
      rw [Value.chars]
      simpa using Spells.object hfirst

end SchemaTyping.Json
