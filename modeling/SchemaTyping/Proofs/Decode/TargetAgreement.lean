import SchemaTyping.Proofs.Decode.Agreement
import SchemaTyping.Proofs.Decode.Skip

/-!
# Every target is read alike from a text and from its value

Wherever a tree is placed, the readings of a text and of the tree meet for every target (`Target.meets`),
by induction on the target; without repeated keys they are alike (`Target.agrees`). Two targets ask for
more than their parts do. A record passes over the members that it has no field for, in the text without
building them, and refuses a field that it has already. And of a list that stands for a record, what
follows the last field is a fault of the text but a mismatch of the value; both refuse it.
-/

namespace SchemaTyping.Decode

open Json

/-! ### Targets -/

/-- What holds of the targets without parts, and of the others whenever it holds of their parts, holds of
every target. -/
theorem Target.induction {motive : Target → Prop} (any : motive .any) (string : motive .string)
    (bool : motive .bool) (int64 : motive .int64) (uint8 : motive .uint8)
    (optional : ∀ value, motive value → motive (.optional value))
    (list : ∀ item, motive item → motive (.list item))
    (map : ∀ value, motive value → motive (.map value))
    (record : ∀ name fields, (∀ field ∈ fields, motive field.2) → motive (.record name fields)) :
    (target : Target) → motive target
  | .any => any
  | .string => string
  | .bool => bool
  | .int64 => int64
  | .uint8 => uint8
  | .optional value =>
    optional value (Target.induction any string bool int64 uint8 optional list map record value)
  | .list item => list item (Target.induction any string bool int64 uint8 optional list map record item)
  | .map value => map value (Target.induction any string bool int64 uint8 optional list map record value)
  | .record name fields =>
    record name fields fun field _ =>
      Target.induction any string bool int64 uint8 optional list map record field.2
termination_by target => sizeOf target
decreasing_by
  all_goals first
    | (simp only [Target.optional.sizeOf_spec, Target.list.sizeOf_spec, Target.map.sizeOf_spec]; omega)
    | (rename_i hfield
       have hsize := List.sizeOf_lt_of_mem hfield
       obtain ⟨key, target⟩ := field
       simp only [Prod.mk.sizeOf_spec, Target.record.sizeOf_spec] at hsize ⊢
       omega)

/-! ### Scalars -/

theorem not_isSurplus_mismatch (target : Target) (found : Found) :
    ¬ (target.mismatch found).reason.IsSurplus := by
  rintro ⟨length, hreason⟩
  cases hreason

theorem not_isSurplus_intWithin {low high : Int} {target : Target} {n : Number} {mismatch : Mismatch}
    (hrefused : target.intWithin low high n = .error mismatch) : ¬ mismatch.reason.IsSurplus := by
  unfold Target.intWithin at hrefused
  split at hrefused
  · split at hrefused
    · cases hrefused
    · cases hrefused
      rintro ⟨length, hreason⟩
      cases hreason
  · cases hrefused
    exact not_isSurplus_mismatch target _

/-- A scalar has no surplus. -/
theorem not_isSurplus_of_scalar {target : Target} {value : Value} (hscalar : value.NestsWithin 0)
    {mismatch : Mismatch} (hrefused : target.ofValue value = .error mismatch) :
    ¬ mismatch.reason.IsSurplus := by
  induction target using Target.induction generalizing mismatch with
  | optional target ih =>
    by_cases hnull : value = .null
    · subst hnull
      rw [Target.ofValue] at hrefused
      cases hrefused
    · rw [Target.ofValue] at hrefused
      · exact ih hrefused
      · exact hnull
  | _ =>
    cases value with
    | array items => exact hscalar.elim
    | object members => exact hscalar.elim
    | _ =>
      -- a value of the target's kind is taken, and then there is nothing left to show
      simp only [Target.ofValue, reduceCtorEq, Except.error.injEq] at hrefused <;>
      first
        | exact not_isSurplus_intWithin hrefused
        | exact hrefused ▸ not_isSurplus_mismatch _ _

/-- A scalar is judged as its value is. A list or an object is refused where it opens, as its value
is. -/
theorem meets_readScalar {target : Target} {tree : Value} {depth : Nat} {cursor : Cursor}
    {rest : List Char} (hplaced : Placed tree depth cursor rest)
    (harray : ∀ items, tree = .array items → target.ofValue tree = .error (target.mismatch .list))
    (hobject : ∀ members, tree = .object members → target.ofValue tree = .error (target.mismatch .map)) :
    Meets tree.DistinctKeys Whatever (readScalar target cursor) (target.ofValue tree) rest := by
  have hscalar : tree.NestsWithin 0 →
      Meets tree.DistinctKeys Whatever (readScalar target cursor) (target.ofValue tree) rest := by
    intro hscalar
    obtain ⟨offset, hread⟩ := hplaced.exists_readScalar hscalar target
    rw [hread, judge]
    cases hseen : target.ofValue tree with
    | ok value => exact .ok offset trivial fun _ => rfl
    | error mismatch => exact .mismatched offset rest (not_isSurplus_of_scalar hscalar hseen)
  cases tree with
  | array items =>
    obtain ⟨offset, hread⟩ := hplaced.exists_readScalar_array target
    rw [hread, harray items rfl]
    exact .mismatched offset rest (not_isSurplus_mismatch target .list)
  | object members =>
    obtain ⟨offset, hread⟩ := hplaced.exists_readScalar_object target
    rw [hread, hobject members rfl]
    exact .mismatched offset rest (not_isSurplus_mismatch target .map)
  | _ => exact hscalar trivial

/-! ### Members -/

theorem isSome_lookup_iff {members : Members} {key : String} :
    (members.lookup key).isSome = true ↔ key ∈ members.keys := by
  rw [List.lookup_isSome_iff, Members.keys, List.mem_map]
  constructor
  · rintro ⟨member, hmember, hkey⟩
    exact ⟨member, hmember, (eq_of_beq hkey).symm⟩
  · rintro ⟨member, hmember, rfl⟩
    exact ⟨member, hmember, beq_self_eq_true _⟩

/-- A member taken up behind others, whatever its value is. -/
theorem SameKeys.insert {taken seen : Members} (hsame : SameKeys taken seen) (key : String)
    (x y : Value) :
    SameKeys (taken.insert key x) (seen ++ [(key, y)]) := by
  intro other
  rw [mem_keys_insert, hsame other]
  simp [Members.keys]

/-- The value of a member is read as the value that is taken, from behind the key's closing quote. -/
theorem meets_readMemberValue {distinct : Prop} {read : ValueReader}
    {seenAs : Value → Except Mismatch Value} {depth : Nat} {key : String} {value : Value}
    {before after text rest : List Char} (hbefore : IsBlank before) (hafter : IsBlank after)
    (hspells : Spells value text) (hdistinct : distinct → value.DistinctKeys)
    (hnests : value.NestsWithin depth) (hread : MeetsAs depth read seenAs value) (hends : EndsValue rest)
    {taken seen : Members} (hsame : SameKeys taken seen)
    (htaken : distinct → taken = seen ∧ key ∉ seen.keys) (offset : Nat) :
    Meets distinct SameKeys
      (readMemberValue read taken key ⟨before ++ ':' :: (after ++ (text ++ rest)), offset⟩)
      (do let x ← (seenAs value).mapError (·.within (.key key)); .ok (seen ++ [(key, x)])) rest := by
  refine .behind (reading_readColon hbefore _ offset) fun offset => ?_
  have hplaced := placed_of_spells hspells hnests hafter hends offset
  refine (((hread _ _ hplaced).part hdistinct).within (.key key)).bind fun x y offset _ _ hequal => ?_
  refine .ok offset (hsame.insert key x y) fun hkeys => ?_
  obtain ⟨rfl, hfresh⟩ := htaken hkeys
  rw [hequal hkeys, insert_of_not_mem hfresh]

theorem meets_readMapMember {distinct : Prop} {read : ValueReader}
    {seenAs : Value → Except Mismatch Value} {depth : Nat} {member : String × Value}
    (hdistinct : distinct → member.2.DistinctKeys) (hnests : member.2.NestsWithin depth)
    (hread : MeetsAs depth read seenAs member.2) :
    MeetsMember distinct (readMapMember read) (fun _ => some seenAs) member := by
  intro text hmember rest hends taken seen hsame htaken offset
  cases hmember with
  | @mk key value body before after text hkey hbefore hafter htext =>
    have hsplit : body ++ '"' :: (before ++ ':' :: (after ++ text)) ++ rest =
        body ++ '"' :: (before ++ ':' :: (after ++ (text ++ rest))) := by
      simp
    rw [hsplit]
    refine .behind (readString_spelling hkey _ offset) fun offset => ?_
    exact meets_readMemberValue hbefore hafter htext hdistinct hnests hread hends hsame htaken offset

/-- A record's readers of a field, from a text and from a value. -/
def FieldsMeet (depth : Nat) (reader : String → Option ValueReader)
    (field : String → Option (Value → Except Mismatch Value)) (member : String × Value) : Prop :=
  (reader member.1 = none ∧ field member.1 = none) ∨
    ∃ read seen, reader member.1 = some read ∧ field member.1 = some seen ∧
      MeetsAs depth read seen member.2

theorem meets_readRecordMember {distinct : Prop} {reader : String → Option ValueReader}
    {field : String → Option (Value → Except Mismatch Value)} {depth : Nat} {member : String × Value}
    (hdistinct : distinct → member.2.DistinctKeys) (hnests : member.2.NestsWithin depth)
    (hfields : FieldsMeet depth reader field member) :
    MeetsMember distinct (readRecordMember reader) field member := by
  intro text hmember rest hends taken seen hsame htaken offset
  cases hmember with
  | @mk key value body before after text hkey hbefore hafter htext =>
    have hsplit : body ++ '"' :: (before ++ ':' :: (after ++ text)) ++ rest =
        body ++ '"' :: (before ++ ':' :: (after ++ (text ++ rest))) := by
      simp
    rw [hsplit]
    refine .behind (readString_spelling hkey _ offset) fun offset => ?_
    rcases hfields with ⟨hreader, hfield⟩ | ⟨read, seenAs, hreader, hfield, hread⟩
    · simp only [takeKnown, hreader, hfield]
      refine .behind (reading_readColon hbefore _ offset) fun offset => ?_
      exact .behind (reading_skipValue htext hafter hends offset) fun offset =>
        .ok offset hsame fun hkeys => (htaken hkeys).1
    · simp only [takeKnown, hreader, hfield]
      split
      · -- a field given before, which no tree shows that is distinct in its keys
        rename_i hgiven
        refine .repeated _ _ rest ⟨key, rfl⟩ fun hkeys => (htaken hkeys).2 ?_
        exact (hsame key).1 (isSome_lookup_iff.1 hgiven)
      · exact meets_readMemberValue hbefore hafter htext hdistinct hnests hread hends hsame htaken offset

/-! ### A list that stands for a record -/

theorem head_ne_comma {value : Value} {c : Char} {text : List Char}
    (hspells : Spells value (c :: text)) : c ≠ ',' := by
  rintro rfl
  generalize hwhole : ',' :: text = whole at hspells
  cases hspells with
  | @number numeral n hnumber =>
    obtain ⟨c, rest, hchars, hc⟩ := numeral.exists_chars_cons
    rw [hchars] at hwhole
    obtain rfl : ',' = c := (List.cons.inj hwhole).1
    exact absurd hc.bounds (by decide)
  | _ => cases (List.cons.inj hwhole).1

/-- An item where a list should close is a surplus. -/
theorem exists_closeList_surplus {first : Bool} {item : Value} {items : List Value} {text : List Char}
    (hspells : SpellsSequence Spells ']' first (item :: items) text) (rest : List Char) (offset : Nat) :
    ∃ place, closeList ⟨text ++ rest, offset⟩ = .error ⟨.trailingCharacters, place⟩ := by
  cases hspells with
  | @item _ _ _ lead text more hlead hitem hmore =>
    obtain ⟨c, tail, rfl, hc, hclose⟩ := hitem.exists_cons
    have hcomma : c ≠ ',' := head_ne_comma hitem
    rw [List.append_assoc]
    cases hlead with
    | first hblank =>
      obtain ⟨offset', hskip⟩ := skipBlanks_append_cons hblank hc (tail ++ more ++ rest) offset
      simp only [List.cons_append, closeList, hskip]
      split
      · rename_i hend
        cases hend
      · rename_i hend
        exact absurd (List.cons.inj hend).1 hclose
      · rename_i hnext
        exact absurd (List.cons.inj hnext).1 hcomma
      · exact ⟨_, rfl⟩
    | @next blank blank' hblank hblank' =>
      obtain ⟨offset', hskip⟩ :=
        skipBlanks_append_cons hblank (c := ',') (by decide)
          (blank' ++ (c :: tail ++ more ++ rest)) offset
      obtain ⟨offset'', hskip'⟩ := skipBlanks_append_cons hblank' hc (tail ++ more ++ rest) (offset' + 1)
      simp only [List.append_assoc, List.cons_append] at hskip hskip' ⊢
      simp only [closeList, hskip, hskip']
      split
      · rename_i hend
        exact absurd (List.cons.inj hend).1 hclose
      · exact ⟨_, rfl⟩

/-- The items of a list meet the fields of a record as far as there are fields. What follows the last of
them is a surplus. -/
theorem meets_readInOrder {distinct : Prop} {fields : List (String × Target)} {depth : Nat}
    (hfields : ∀ field ∈ fields, ∀ tree, MeetsAs depth (field.2.read depth) field.2.ofValue tree)
    {first : Bool} {items : List Value} {text : List Char}
    (hspells : SpellsSequence Spells ']' first items text)
    (hitems : ∀ item ∈ items, (distinct → item.DistinctKeys) ∧ item.NestsWithin depth) (rest : List Char)
    {expected : String} (hexpected : expected ≠ "fewer elements in array") {index : Nat}
    (hfirst : (index == 0) = first) (length offset : Nat) :
    Meets distinct Whatever (readInOrder expected fields index depth ⟨text ++ rest, offset⟩)
      (fieldsOfItems expected index length fields items) rest := by
  induction fields generalizing first items text index offset with
  | nil =>
    cases hspells with
    | @close _ blank hblank =>
      obtain ⟨offset', hskip⟩ := skipBlanks_append_cons hblank (c := ']') (by decide) rest offset
      have hclose : closeList ⟨blank ++ [']'] ++ rest, offset⟩ = .ok ((), ⟨rest, offset' + 1⟩) := by
        rw [List.append_assoc, List.singleton_append, closeList, hskip]
        rfl
      rw [readInOrder, hclose, fieldsOfItems]
      exact .ok _ trivial fun _ => rfl
    | item hlead hitem hmore =>
      obtain ⟨place, hsurplus⟩ := exists_closeList_surplus (.item hlead hitem hmore) rest offset
      rw [readInOrder, hsurplus, fieldsOfItems]
      exact .surplus place rest ⟨length, rfl⟩
  | cons field fields ih =>
    obtain ⟨name, target⟩ := field
    obtain ⟨hhere, hlater⟩ := List.forall_mem_cons.1 hfields
    cases hspells with
    | @close _ blank hblank =>
      obtain ⟨offset', hnext⟩ :=
        reading_eq_some_iff.1 (reading_nextItem_close hblank (index == 0) rest offset)
      rw [List.append_assoc, List.singleton_append, readInOrder, hnext, fieldsOfItems]
      refine .mismatched offset' rest ?_
      rintro ⟨_, hreason⟩
      exact hexpected (Reason.invalidLength.inj hreason).2
    | @item _ item items lead text more hlead hitem hmore =>
      obtain ⟨⟨hdistinct, hnests⟩, hitems⟩ := List.forall_mem_cons.1 hitems
      have hends : EndsValue (more ++ rest) := hmore.endsValue (startsWith_cons_iff.2 (by decide)) rest
      obtain ⟨c, tail, htext, hc, hclose⟩ := hitem.exists_cons
      have hnext := reading_nextItem_item (hfirst ▸ hlead) hc hclose (tail ++ (more ++ rest)) offset
      rw [← List.cons_append, ← htext] at hnext
      rw [List.append_assoc, List.append_assoc, readInOrder, fieldsOfItems]
      refine .behind hnext fun offset => ?_
      have hplaced := placed_of_spells hitem hnests isBlank_nil hends offset
      refine (((hhere item _ _ hplaced).part hdistinct).within (.index index)).bind fun x y offset _ _
        hequal => ?_
      refine (ih hlater hmore hitems rfl offset).bind fun xs ys offset _ _ hequals => ?_
      exact .ok offset trivial fun hkeys => by rw [hequal hkeys, hequals hkeys]

theorem describeLength_ne (name : String) (fields : List (String × Target)) :
    Target.describeLength name fields ≠ "fewer elements in array" := by
  intro hsame
  have hchars := congrArg String.toList hsame
  simp only [Target.describeLength, String.toList_append, List.append_assoc] at hchars
  cases (List.cons.inj hchars).1

/-! ### Fields -/

theorem fieldReader_meets {fields : List (String × Target)} {depth : Nat}
    (hfields : ∀ field ∈ fields, ∀ tree, MeetsAs depth (field.2.read depth) field.2.ofValue tree)
    (member : String × Value) :
    FieldsMeet depth (fieldReader fields depth) (fieldOfValue fields) member := by
  induction fields with
  | nil =>
    refine .inl ⟨?_, ?_⟩
    · rw [fieldReader]
    · rw [fieldOfValue]
  | cons field fields ih =>
    obtain ⟨name, target⟩ := field
    obtain ⟨hhere, hlater⟩ := List.forall_mem_cons.1 hfields
    unfold FieldsMeet
    rw [fieldReader, fieldOfValue]
    by_cases hname : name = member.1
    · rw [if_pos hname, if_pos hname]
      exact .inr ⟨_, _, rfl, rfl, hhere member.2⟩
    · rw [if_neg hname, if_neg hname]
      exact ih hlater

theorem complete_cons {read : Members} {name : String} {target : Target} {value : Value}
    (hvalue : read.lookup name = some value ∨
      (read.lookup name = none ∧ target.isOptional = true ∧ value = .null))
    (fields : List (String × Target)) :
    Target.complete read ((name, target) :: fields) =
      (Target.complete read fields).map ((name, value) :: ·) := by
  rcases hvalue with hgiven | ⟨habsent, hoptional, rfl⟩
  · simp only [Target.complete, hgiven]
    rfl
  · simp only [Target.complete, habsent, hoptional]
    rfl

/-- Whether a record is complete depends on the keys of its members only, and so does which field is
missing. -/
theorem complete_of_sameKeys {taken seen : Members} (hsame : SameKeys taken seen)
    (fields : List (String × Target)) :
    (∃ xs ys, Target.complete taken fields = .ok xs ∧ Target.complete seen fields = .ok ys) ∨
      ∃ name, Target.complete taken fields = .error ⟨[], .missingField name⟩ ∧
        Target.complete seen fields = .error ⟨[], .missingField name⟩ := by
  induction fields with
  | nil => exact .inl ⟨[], [], rfl, rfl⟩
  | cons field fields ih =>
    obtain ⟨name, target⟩ := field
    have hgiven : (taken.lookup name).isSome = true ↔ (seen.lookup name).isSome = true := by
      rw [isSome_lookup_iff, isSome_lookup_iff]
      exact hsame name
    have hfirst : (∃ x y, ∀ fields,
        Target.complete taken ((name, target) :: fields) =
        (Target.complete taken fields).map ((name, x) :: ·) ∧
          Target.complete seen ((name, target) :: fields) =
            (Target.complete seen fields).map ((name, y) :: ·)) ∨
        (taken.lookup name = none ∧ seen.lookup name = none ∧ target.isOptional = false) := by
      cases htaken : taken.lookup name <;> cases hseen : seen.lookup name
        <;> rw [htaken, hseen] at hgiven
      · cases hoptional : target.isOptional with
        | false => exact .inr ⟨rfl, rfl, rfl⟩
        | true =>
          exact .inl ⟨.null, .null, fun fields => ⟨complete_cons (.inr ⟨htaken, hoptional, rfl⟩) fields,
            complete_cons (.inr ⟨hseen, hoptional, rfl⟩) fields⟩⟩
      · exact absurd (hgiven.2 rfl) nofun
      · exact absurd (hgiven.1 rfl) nofun
      · exact .inl ⟨_, _,
          fun fields => ⟨complete_cons (.inl htaken) fields, complete_cons (.inl hseen) fields⟩⟩
    rcases hfirst with ⟨x, y, hboth⟩ | ⟨htaken, hseen, hrequired⟩
    · rw [(hboth fields).1, (hboth fields).2]
      rcases ih with ⟨xs, ys, hxs, hys⟩ | ⟨missing, hxs, hys⟩
      · rw [hxs, hys]
        exact .inl ⟨_, _, rfl, rfl⟩
      · rw [hxs, hys]
        exact .inr ⟨missing, rfl, rfl⟩
    · refine .inr ⟨name, ?_, ?_⟩
      · simp only [Target.complete, htaken, hrequired]
        rfl
      · simp only [Target.complete, hseen, hrequired]
        rfl

/-! ### Targets that meet -/

theorem exists_inner_of_array {items : List Value} {depth : Nat}
    (hnests : (Value.array items).NestsWithin depth) :
    ∃ inner, depth = inner + 1 ∧ ∀ item ∈ items, item.NestsWithin inner := by
  cases depth with
  | zero => exact hnests.elim
  | succ inner => exact ⟨inner, rfl, hnests⟩

theorem exists_inner_of_object {members : Members} {depth : Nat}
    (hnests : (Value.object members).NestsWithin depth) :
    ∃ inner, depth = inner + 1 ∧ ∀ member ∈ members, member.2.NestsWithin inner := by
  cases depth with
  | zero => exact hnests.elim
  | succ inner => exact ⟨inner, rfl, fun member hmember => hnests member.2 (List.mem_map_of_mem hmember)⟩

theorem distinct_of_array {items : List Value} (hdistinct : (Value.array items).DistinctKeys) :
    ∀ item ∈ items, item.DistinctKeys := by
  cases hdistinct with
  | intro hself hparts => exact hparts

theorem distinct_of_object {members : Members} (hdistinct : (Value.object members).DistinctKeys) :
    (Members.keys members).Nodup ∧ ∀ member ∈ members, member.2.DistinctKeys := by
  cases hdistinct with
  | intro hself hparts =>
    exact ⟨hself members rfl, fun member hmember => hparts member.2 (List.mem_map_of_mem hmember)⟩

theorem meetsAs_scalar {target : Target}
    (hread : ∀ depth cursor, target.read depth cursor = readScalar target cursor)
    (harray : ∀ items, target.ofValue (.array items) = .error (target.mismatch .list))
    (hobject : ∀ members, target.ofValue (.object members) = .error (target.mismatch .map)) (depth : Nat)
    (tree : Value) :
    MeetsAs depth (target.read depth) target.ofValue tree := by
  intro cursor rest hplaced
  rw [hread]
  refine meets_readScalar hplaced ?_ ?_
  · rintro items rfl
    exact harray items
  · rintro members rfl
    exact hobject members

theorem meetsAs_optional {target : Target} {depth : Nat} {tree : Value}
    (hvalue : MeetsAs depth (target.read depth) target.ofValue tree) :
    MeetsAs depth ((Target.optional target).read depth) (Target.optional target).ofValue tree := by
  intro cursor rest hplaced
  obtain ⟨body, offset, hspells, hskip⟩ := hplaced.exists_skipBlanks
  obtain ⟨c, tail, rfl, _, _, hnull⟩ := exists_head hspells
  rw [Target.read, hskip]
  -- only `null` starts with the letter that the text is told by
  by_cases htree : tree = .null
  · obtain rfl := hnull.2 htree
    subst htree
    rw [Target.ofValue]
    exact .of_reading (hplaced.scalar trivial).readValue trivial fun _ =>
      settled_of_nestsWithin_zero trivial
  · have hvalueOnly : (Target.optional target).ofValue tree = target.ofValue tree := by
      rw [Target.ofValue]
      exact htree
    rw [hvalueOnly]
    simp only [List.cons_append]
    split
    · rename_i hfirst
      exact absurd (hnull.1 (List.cons.inj hfirst).1) htree
    · exact hvalue cursor rest hplaced

theorem meetsAs_list {target : Target}
    (hitem : ∀ depth tree, MeetsAs depth (target.read depth) target.ofValue tree) (depth : Nat)
    (tree : Value) :
    MeetsAs depth ((Target.list target).read depth) (Target.list target).ofValue tree := by
  intro cursor rest hplaced
  obtain ⟨body, offset, hspells, hskip⟩ := hplaced.exists_skipBlanks
  have hbehind := hskip ▸ hplaced.skipBlanks
  rw [Target.read]
  simp only [hskip]
  by_cases harray : ∃ items, tree = .array items
  · obtain ⟨items, rfl⟩ := harray
    obtain ⟨inner, rfl, hnests⟩ := exists_inner_of_array hplaced.nests
    cases hspells with
    | @array _ body hitems =>
      have hparts : ∀ item ∈ items, ((Value.array items).DistinctKeys → item.DistinctKeys) ∧
          item.NestsWithin inner ∧
          MeetsAs inner (target.read inner) target.ofValue item := fun item hmem =>
        ⟨fun hdistinct => distinct_of_array hdistinct item hmem, hnests item hmem, hitem inner item⟩
      have hread :=
        @meets_readItems _ _ _ inner true items body hitems hparts rest (body ++ rest).length
          (by simp) 0 rfl (offset + 1)
      rw [Target.ofValue]
      exact hread.bind fun xs ys offset _ _ hequal => .ok offset trivial fun hkeys =>
        congrArg Value.array (hequal hkeys)
  · obtain ⟨c, tail, rfl, hbracket, _⟩ := exists_head hspells
    simp only [List.cons_append]
    split
    · rename_i hfirst
      exact absurd (hbracket (List.cons.inj hfirst).1) harray
    · refine meets_readScalar hbehind (fun items htree => absurd ⟨items, htree⟩ harray) ?_
      rintro members rfl
      simp [Target.ofValue, Found.ofValue]

theorem meetsAs_map {target : Target}
    (hvalue : ∀ depth tree, MeetsAs depth (target.read depth) target.ofValue tree) (depth : Nat)
    (tree : Value) :
    MeetsAs depth ((Target.map target).read depth) (Target.map target).ofValue tree := by
  intro cursor rest hplaced
  obtain ⟨body, offset, hspells, hskip⟩ := hplaced.exists_skipBlanks
  have hbehind := hskip ▸ hplaced.skipBlanks
  rw [Target.read]
  simp only [hskip]
  by_cases hobject : ∃ members, tree = .object members
  · obtain ⟨members, rfl⟩ := hobject
    obtain ⟨inner, rfl, hnests⟩ := exists_inner_of_object hplaced.nests
    cases hspells with
    | @object _ body hmembers =>
      have hmember : ∀ member ∈ members,
          MeetsMember (Value.object members).DistinctKeys (readMapMember (target.read inner))
          (fun _ => some target.ofValue) member := fun member hmem =>
        meets_readMapMember (fun hdistinct => (distinct_of_object hdistinct).2 member hmem)
          (hnests member hmem) (hvalue inner member.2)
      have hread :=
        meets_readObject hmembers hmember (fun hdistinct => (distinct_of_object hdistinct).1) rest
          (offset + 1)
      rw [Target.ofValue, readEachMember_eq_readKnown]
      exact hread.bind fun xs ys offset _ _ hequal => .ok offset trivial fun hkeys =>
        congrArg Value.object (hequal hkeys)
  · obtain ⟨c, tail, rfl, _, hbrace, _⟩ := exists_head hspells
    simp only [List.cons_append]
    split
    · rename_i hfirst
      exact absurd (hbrace (List.cons.inj hfirst).1) hobject
    · refine meets_readScalar hbehind ?_ (fun members htree => absurd ⟨members, htree⟩ hobject)
      rintro items rfl
      simp [Target.ofValue, Found.ofValue]

theorem meetsAs_record {name : String} {fields : List (String × Target)}
    (hfields : ∀ field ∈ fields, ∀ depth tree, MeetsAs depth (field.2.read depth) field.2.ofValue tree)
    (depth : Nat) (tree : Value) :
    MeetsAs depth ((Target.record name fields).read depth) (Target.record name fields).ofValue tree := by
  intro cursor rest hplaced
  obtain ⟨body, offset, hspells, hskip⟩ := hplaced.exists_skipBlanks
  have hbehind := hskip ▸ hplaced.skipBlanks
  rw [Target.read]
  simp only [hskip]
  by_cases harray : ∃ items, tree = .array items
  · obtain ⟨items, rfl⟩ := harray
    obtain ⟨inner, rfl, hnests⟩ := exists_inner_of_array hplaced.nests
    cases hspells with
    | @array _ body hitems =>
      have hparts : ∀ item ∈ items, ((Value.array items).DistinctKeys → item.DistinctKeys) ∧
          item.NestsWithin inner := fun item hmem =>
        ⟨fun hdistinct => distinct_of_array hdistinct item hmem, hnests item hmem⟩
      have hstart : (0 == 0) = true := rfl
      have hread :=
        meets_readInOrder (fun field hfield => hfields field hfield inner) hitems hparts rest
          (describeLength_ne name fields)
        hstart items.length (offset + 1)
      rw [Target.ofValue]
      exact hread.bind fun xs ys offset _ _ hequal => .ok offset trivial fun hkeys =>
        congrArg Value.object (hequal hkeys)
  by_cases hobject : ∃ members, tree = .object members
  · obtain ⟨members, rfl⟩ := hobject
    obtain ⟨inner, rfl, hnests⟩ := exists_inner_of_object hplaced.nests
    cases hspells with
    | @object _ body hmembers =>
      have hmember : ∀ member ∈ members,
          MeetsMember (Value.object members).DistinctKeys (readRecordMember (fieldReader fields inner))
          (fieldOfValue fields) member := fun member hmem =>
        meets_readRecordMember (fun hdistinct => (distinct_of_object hdistinct).2 member hmem)
          (hnests member hmem)
          (fieldReader_meets (fun field hfield => hfields field hfield inner) member)
      have hread :=
        meets_readObject hmembers hmember (fun hdistinct => (distinct_of_object hdistinct).1) rest
          (offset + 1)
      rw [Target.ofValue]
      refine hread.bind fun taken seen offset _ hsame hequal => ?_
      rcases complete_of_sameKeys hsame fields with ⟨xs, ys, hxs, hys⟩ | ⟨missing, hxs, hys⟩
      · simp only [hxs, hys]
        refine .ok offset trivial fun hkeys => ?_
        rw [hequal hkeys, hys] at hxs
        cases hxs
        rfl
      · simp only [hxs, hys]
        refine .mismatched offset rest ?_
        rintro ⟨_, hreason⟩
        cases hreason
  · obtain ⟨c, tail, rfl, hbracket, hbrace, _⟩ := exists_head hspells
    simp only [List.cons_append]
    split
    · rename_i hfirst
      exact absurd (hbracket (List.cons.inj hfirst).1) harray
    · rename_i hfirst
      exact absurd (hbrace (List.cons.inj hfirst).1) hobject
    · exact meets_readScalar hbehind (fun items htree => absurd ⟨items, htree⟩ harray)
        (fun members htree => absurd ⟨members, htree⟩ hobject)

/-- Wherever a tree is placed, the readings of a text and of the tree meet for every target. -/
theorem Target.meets (target : Target) (depth : Nat) (tree : Value) :
    MeetsAs depth (target.read depth) target.ofValue tree := by
  induction target using Target.induction generalizing depth tree with
  | any =>
    intro cursor rest hplaced
    rw [Target.read, Target.ofValue]
    exact .of_reading hplaced.readValue trivial settled_of_distinctKeys
  | string =>
    refine meetsAs_scalar (fun _ _ => by rw [Target.read]) (fun items => ?_)
      (fun members => ?_) depth tree
    · simp [Target.ofValue, Found.ofValue]
    · simp [Target.ofValue, Found.ofValue]
  | bool =>
    refine meetsAs_scalar (fun _ _ => by rw [Target.read]) (fun items => ?_)
      (fun members => ?_) depth tree
    · simp [Target.ofValue, Found.ofValue]
    · simp [Target.ofValue, Found.ofValue]
  | int64 =>
    refine meetsAs_scalar (fun _ _ => by rw [Target.read]) (fun items => ?_)
      (fun members => ?_) depth tree
    · simp [Target.ofValue, Found.ofValue]
    · simp [Target.ofValue, Found.ofValue]
  | uint8 =>
    refine meetsAs_scalar (fun _ _ => by rw [Target.read]) (fun items => ?_)
      (fun members => ?_) depth tree
    · simp [Target.ofValue, Found.ofValue]
    · simp [Target.ofValue, Found.ofValue]
  | optional value ih => exact meetsAs_optional (ih depth tree)
  | list item ih => exact meetsAs_list ih depth tree
  | map value ih => exact meetsAs_map ih depth tree
  | record name fields ih => exact meetsAs_record ih depth tree

/-- Wherever a tree without repeated keys stands, a text and the tree are read alike as every target. -/
theorem Target.agrees (target : Target) (depth : Nat) (tree : Value) :
    ReadsAs depth (target.read depth) target.ofValue tree :=
  fun cursor rest hstands => (target.meets depth tree cursor rest hstands.placed).agrees hstands.distinct

end SchemaTyping.Decode
