import SchemaTyping.Proofs.Json.Reading
import SchemaTyping.Proofs.Text.Bytes

/-!
# Readers of texts that share their first bytes

Two texts that share their first bytes are read alike for as long as a reader looks at no other byte.
`Alike` says how far two cursors are from where their texts part: each character is the same, until one
is met that goes on behind that offset; of such a character only the first bytes are shared, so it takes
more than one byte in both texts, and a reader that tells characters apart takes the two for the same.
`Follows` says what a reading of the one text has to do with a reading of the other: it gives the same,
or it has come to where the texts part. A reader is `Local` if all its readings follow. That is kept by
putting readers one behind the other (`Follows.next`), and shown of a reader by its first character
(`local_of_head`).
-/

namespace SchemaTyping.Json

open Text (byteLength byteLength_append bytes bytes_cons length_bytes eq_of_encoded StartsWith)

/-! ### Places in texts that share their first bytes -/

/-- Two texts that are read up to an offset share their bytes up to the offset `n`, or nothing is said of
them because `n` has been reached. -/
inductive Alike (n : Nat) : Cursor → Cursor → Prop
  | behind {cursor other : Cursor} (hbehind : n ≤ cursor.offset) : Alike n cursor other
  | ended (offset : Nat) : Alike n ⟨[], offset⟩ ⟨[], offset⟩
  | same (c : Char) {rest rest' : List Char} {offset : Nat}
    (hrest : Alike n ⟨rest, offset + c.utf8Size⟩ ⟨rest', offset + c.utf8Size⟩) :
    Alike n ⟨c :: rest, offset⟩ ⟨c :: rest', offset⟩
  | cut {c d : Char} (rest rest' : List Char) {offset : Nat} (hc : 1 < c.utf8Size) (hd : 1 < d.utf8Size)
    (hn : n < offset + c.utf8Size) (hn' : n < offset + d.utf8Size) :
    Alike n ⟨c :: rest, offset⟩ ⟨d :: rest', offset⟩

/-- Cursors that are alike, by their first character. -/
inductive HeadAlike (n : Nat) : Cursor → Cursor → Prop
  | ended (offset : Nat) : HeadAlike n ⟨[], offset⟩ ⟨[], offset⟩
  | same (c : Char) {rest rest' : List Char} {offset : Nat}
    (hrest : Alike n ⟨rest, offset + c.utf8Size⟩ ⟨rest', offset + c.utf8Size⟩) :
    HeadAlike n ⟨c :: rest, offset⟩ ⟨c :: rest', offset⟩
  | cut {c d : Char} (rest rest' : List Char) {offset : Nat} (hc : 1 < c.utf8Size) (hd : 1 < d.utf8Size)
    (hn : n < offset + c.utf8Size) (hn' : n < offset + d.utf8Size) :
    HeadAlike n ⟨c :: rest, offset⟩ ⟨d :: rest', offset⟩

theorem Alike.refl (n : Nat) (cursor : Cursor) : Alike n cursor cursor := by
  obtain ⟨text, offset⟩ := cursor
  induction text generalizing offset with
  | nil => exact .ended offset
  | cons c rest ih => exact .same c (ih (offset + c.utf8Size))

theorem HeadAlike.refl (n : Nat) (cursor : Cursor) : HeadAlike n cursor cursor := by
  obtain ⟨_ | ⟨c, rest⟩, offset⟩ := cursor
  · exact .ended offset
  · exact .same c (Alike.refl n _)

theorem Alike.behind_or_head {n : Nat} {cursor other : Cursor} (halike : Alike n cursor other) :
    n ≤ cursor.offset ∨ HeadAlike n cursor other := by
  cases halike with
  | behind hbehind => exact .inl hbehind
  | ended offset => exact .inr (.ended offset)
  | same c hrest => exact .inr (.same c hrest)
  | cut rest rest' hc hd hn hn' => exact .inr (.cut rest rest' hc hd hn hn')

theorem take_bytes_cons {c : Char} {count : Nat} (hsize : c.utf8Size ≤ count) (rest : List Char) :
    (bytes (c :: rest)).take count = String.utf8EncodeChar c ++
      (bytes rest).take (count - c.utf8Size) := by
  have hwhole : (String.utf8EncodeChar c).length ≤ count := by rwa [String.length_utf8EncodeChar]
  rw [bytes_cons, List.take_append, String.length_utf8EncodeChar, List.take_of_length_le hwhole]

/-- A character whose bytes are all shared is the same in both texts. -/
theorem exists_of_take_bytes {c : Char} {rest other : List Char} {count : Nat}
    (hsize : c.utf8Size ≤ count) (hshared : (bytes (c :: rest)).take count = (bytes other).take count) :
    ∃ rest', other = c :: rest' ∧
      (bytes rest).take (count - c.utf8Size) = (bytes rest').take (count - c.utf8Size) := by
  rw [take_bytes_cons hsize] at hshared
  have hother : String.utf8EncodeChar c ++
      ((bytes rest).take (count - c.utf8Size) ++ (bytes other).drop count) = bytes other := by
    rw [← List.append_assoc, hshared, List.take_append_drop]
  cases other with
  | nil => exact absurd (List.append_eq_nil_iff.1 hother).1 String.utf8EncodeChar_ne_nil
  | cons d rest' =>
    obtain rfl : c = d := eq_of_encoded (hother.trans (bytes_cons d rest'))
    rw [take_bytes_cons hsize] at hshared
    exact ⟨rest', rfl, List.append_cancel_left hshared⟩

theorem eq_nil_of_take_bytes {other : List Char} {count : Nat} (hcount : 0 < count)
    (hshared : [] = (bytes other).take count) : other = [] := by
  cases other with
  | nil => rfl
  | cons d rest =>
    have hlength := congrArg List.length hshared
    rw [List.length_nil, List.length_take, length_bytes, byteLength] at hlength
    have hpositive := d.utf8Size_pos
    omega

/-- Texts that share their first bytes are alike at their starts. -/
theorem alike_of_take_bytes {text other : List Char} {count : Nat}
    (hshared : (bytes text).take count = (bytes other).take count) (offset : Nat) :
    Alike (offset + count) ⟨text, offset⟩ ⟨other, offset⟩ := by
  rcases Nat.eq_zero_or_pos count with rfl | hpositive
  · exact .behind (Nat.le_refl offset)
  induction text generalizing other count offset with
  | nil =>
    rw [bytes, List.flatMap_nil, List.take_nil] at hshared
    rw [eq_nil_of_take_bytes hpositive hshared]
    exact .ended offset
  | cons c rest ih =>
    by_cases hsize : c.utf8Size ≤ count
    · obtain ⟨rest', rfl, hrest⟩ := exists_of_take_bytes hsize hshared
      have hoffset : offset + count = offset + c.utf8Size + (count - c.utf8Size) := by omega
      rw [hoffset]
      refine .same c ?_
      rcases Nat.eq_zero_or_pos (count - c.utf8Size) with hnone | hmore
      · rw [hnone]
        exact .behind (Nat.le_refl _)
      · exact ih hrest _ hmore
    · cases other with
      | nil =>
        rw [bytes, bytes, List.flatMap_nil, List.take_nil] at hshared
        cases eq_nil_of_take_bytes hpositive hshared.symm
      | cons d rest' =>
        -- were the other character shared in full, the two would be the same
        have hsize' : ¬ d.utf8Size ≤ count := fun hsize' => by
          obtain ⟨_, hcons, _⟩ := exists_of_take_bytes hsize' hshared.symm
          exact hsize ((List.cons.inj hcons).1 ▸ hsize')
        exact .cut rest rest' (by omega) (by omega) (by omega) (by omega)

theorem Alike.symm {n : Nat} {cursor other : Cursor} (halike : Alike n cursor other)
    (hoffset : other.offset = cursor.offset) :
    Alike n other cursor := by
  induction halike with
  | behind hbehind => exact .behind (hoffset ▸ hbehind)
  | ended offset => exact .ended offset
  | same c hrest ih => exact .same c (ih rfl)
  | cut rest rest' hc hd hn hn' => exact .cut rest' rest hd hc hn' hn

theorem HeadAlike.offset_eq {n : Nat} {cursor other : Cursor} (hhead : HeadAlike n cursor other) :
    other.offset = cursor.offset := by
  cases hhead <;> rfl

/-- What is shared in full stands at the start of both texts. -/
theorem Alike.exists_append {n : Nat} {front more : List Char} {offset : Nat} {other : Cursor}
    (halike : Alike n ⟨front ++ more, offset⟩ other) (hn : offset + byteLength front < n) :
    ∃ more', other = ⟨front ++ more', offset⟩ ∧
      Alike n ⟨more, offset + byteLength front⟩ ⟨more', offset + byteLength front⟩ := by
  induction front generalizing offset other with
  | nil =>
    rcases halike.behind_or_head with hbehind | hhead
    · exact absurd hn (Nat.not_lt.2 hbehind)
    · have hoffset := hhead.offset_eq
      obtain ⟨rest', _⟩ := other
      obtain rfl : _ = offset := hoffset
      exact ⟨rest', rfl, halike⟩
  | cons c front ih =>
    rw [byteLength, ← Nat.add_assoc] at hn ⊢
    cases halike with
    | behind hbehind =>
      have hbehind : n ≤ offset := hbehind
      omega
    | same _ hrest =>
      obtain ⟨more', hother, hmore⟩ := ih hrest hn
      cases hother
      exact ⟨more', rfl, hmore⟩
    | cut rest rest' hc hd hn' hn'' => omega

/-! ### Where readings stop -/

def Cursor.finish (cursor : Cursor) : Nat := cursor.offset + byteLength cursor.rest

/-- Moving on in a text. -/
structure Reaches (cursor after : Cursor) : Prop where
  le : cursor.offset ≤ after.offset
  finish : after.finish = cursor.finish

theorem Reaches.refl (cursor : Cursor) : Reaches cursor cursor := ⟨Nat.le_refl _, rfl⟩

theorem Reaches.trans {first second third : Cursor} (hreaches : Reaches first second)
    (hreaches' : Reaches second third) :
    Reaches first third :=
  ⟨Nat.le_trans hreaches.le hreaches'.le, hreaches'.finish.trans hreaches.finish⟩

theorem reaches_cons (c : Char) (rest : List Char) (offset : Nat) :
    Reaches ⟨c :: rest, offset⟩ ⟨rest, offset + c.utf8Size⟩ :=
  ⟨Nat.le_add_right _ _, Nat.add_assoc _ _ _⟩

theorem reaches_append (front more : List Char) (offset : Nat) :
    Reaches ⟨front ++ more, offset⟩ ⟨more, offset + byteLength front⟩ := by
  refine ⟨Nat.le_add_right _ _, ?_⟩
  rw [Cursor.finish, Cursor.finish, byteLength_append, Nat.add_assoc]

theorem Reaches.le_finish {cursor after : Cursor} (hreaches : Reaches cursor after) :
    after.offset ≤ cursor.finish :=
  hreaches.finish ▸ Nat.le_add_right _ _

/-- A text that ends before the texts part is the same text. -/
theorem Alike.eq_of_finish_lt {n : Nat} {cursor other : Cursor} (halike : Alike n cursor other)
    (hn : cursor.finish < n) :
    other = cursor := by
  obtain ⟨text, offset⟩ := cursor
  have hwhole : Alike n ⟨text ++ [], offset⟩ other := by rwa [List.append_nil]
  obtain ⟨more', rfl, hmore⟩ := hwhole.exists_append hn
  cases hmore with
  | behind hbehind => exact absurd hn (Nat.not_lt.2 hbehind)
  | ended => rw [List.append_nil]

variable {α β : Type}

/-- Where a reading stops: at its fault, or behind what it has read. -/
def place : Except Fault (α × Cursor) → Nat
  | .error fault => fault.offset
  | .ok (_, after) => after.offset

/-- A reading stops within the text that it is given. -/
inductive Within (cursor : Cursor) : Except Fault (α × Cursor) → Prop
  | fault {fault : Fault} (hle : cursor.offset ≤ fault.offset) (hfinish : fault.offset ≤ cursor.finish) :
    Within cursor (.error fault)
  | ok {x : α} {after : Cursor} (hreaches : Reaches cursor after) : Within cursor (.ok (x, after))

theorem Within.le_place {cursor : Cursor} {result : Except Fault (α × Cursor)}
    (hwithin : Within cursor result) :
    cursor.offset ≤ place result := by
  cases hwithin with
  | fault hle hfinish => exact hle
  | ok hreaches => exact hreaches.le

theorem Within.behind {cursor after : Cursor} {result : Except Fault (α × Cursor)}
    (hreaches : Reaches cursor after) (hwithin : Within after result) : Within cursor result := by
  cases hwithin with
  | fault hle hfinish => exact .fault (Nat.le_trans hreaches.le hle) (hreaches.finish ▸ hfinish)
  | ok hreaches' => exact .ok (hreaches.trans hreaches')

/-- What a reading has to do with one of a text that shares the bytes up to the offset `n`: it gives the
same, or it has come to that offset. -/
inductive Follows (n : Nat) (cursor : Cursor) :
    Except Fault (α × Cursor) → Except Fault (α × Cursor) → Prop
  | fault {fault : Fault} (hle : cursor.offset ≤ fault.offset) (hfinish : fault.offset ≤ cursor.finish) :
    Follows n cursor (.error fault) (.error fault)
  | ok (x : α) {after after' : Cursor} (hreaches : Reaches cursor after)
    (halike : Alike n after after') :
    Follows n cursor (.ok (x, after)) (.ok (x, after'))
  | late {result result' : Except Fault (α × Cursor)} (hwithin : Within cursor result)
    (hlate : n ≤ place result) :
    Follows n cursor result result'

section

variable {n : Nat} {cursor after : Cursor} {result result' : Except Fault (α × Cursor)}

theorem Follows.within (hfollows : Follows n cursor result result') : Within cursor result := by
  cases hfollows with
  | fault hle hfinish => exact .fault hle hfinish
  | ok x hreaches halike => exact .ok hreaches
  | late hwithin hlate => exact hwithin

/-- A fault ahead of where the texts part is a fault of both. -/
theorem Follows.eq_of_fault {fault : Fault}
    (hfollows : Follows n cursor (.error fault : Except Fault (α × Cursor)) result')
    (hearly : fault.offset < n) : result' = .error fault := by
  cases hfollows with
  | fault hle hfinish => rfl
  | late hwithin hlate => exact absurd hearly (Nat.not_lt.2 hlate)

theorem Follows.behind (hreaches : Reaches cursor after) (hfollows : Follows n after result result') :
    Follows n cursor result result' := by
  cases hfollows with
  | fault hle hfinish => exact .fault (Nat.le_trans hreaches.le hle) (hreaches.finish ▸ hfinish)
  | ok x hreaches' halike => exact .ok x (hreaches.trans hreaches') halike
  | late hwithin hlate => exact .late (hwithin.behind hreaches) hlate

/-- A fault that is reported at the cursor. -/
theorem Follows.atCursor (cause : Cause) :
    Follows n cursor (.error (cursor.fault cause) : Except Fault (α × Cursor))
    (.error (cursor.fault cause)) :=
  .fault (Nat.le_refl _) (Reaches.refl cursor).le_finish

/-- A fault that is reported at the byte looked at, in both texts. -/
theorem Follows.looked (c d : Char) (rest rest' : List Char) (offset : Nat) (cause : Cause) :
    Follows n ⟨c :: rest, offset⟩
      (.error (Cursor.lookedFault ⟨c :: rest, offset⟩ cause) : Except Fault (α × Cursor))
      (.error (Cursor.lookedFault ⟨d :: rest', offset⟩ cause)) := by
  refine .fault (Nat.le_succ offset) ?_
  have hpositive := c.utf8Size_pos
  have hfinish := (reaches_cons c rest offset).le_finish
  exact Nat.le_trans (Nat.add_le_add_left hpositive offset) hfinish

/-- One reader behind another. Where the first has come to the offset, the second is read to go on from
there. -/
theorem Follows.bind {next next' : α × Cursor → Except Fault (β × Cursor)}
    (hfollows : Follows n cursor result result')
    (hself : ∀ x after, result = .ok (x, after) → Within after (next (x, after)))
    (hnext : ∀ x after after', result = .ok (x, after) → result' = .ok (x, after') →
      Alike n after after' →
      Follows n after (next (x, after)) (next' (x, after'))) : Follows n cursor (result >>= next)
        (result' >>= next') := by
  cases hfollows with
  | fault hle hfinish => exact .fault hle hfinish
  | ok x hreaches halike => exact (hnext x _ _ rfl rfl halike).behind hreaches
  | late hwithin hlate =>
    cases hwithin with
    | fault hle hfinish => exact .late (.fault hle hfinish) hlate
    | ok hreaches =>
      have hwithin := hself _ _ rfl
      exact .late (hwithin.behind hreaches) (Nat.le_trans hlate hwithin.le_place)

end

/-! ### Readers that are local -/

/-- Every reading follows those of the texts that share its first bytes. -/
structure Local (read : Cursor → Except Fault (α × Cursor)) : Prop where
  follows : ∀ {n : Nat} {cursor other : Cursor}, Alike n cursor other →
    Follows n cursor (read cursor) (read other)

theorem Local.within {read : Cursor → Except Fault (α × Cursor)} (hlocal : Local read)
    (cursor : Cursor) : Within cursor (read cursor) :=
  (hlocal.follows (Alike.refl 0 cursor)).within

/-- A local reader behind another reading. -/
theorem Follows.next {n : Nat} {cursor : Cursor} {result result' : Except Fault (α × Cursor)}
    {next : α × Cursor → Except Fault (β × Cursor)} (hfollows : Follows n cursor result result')
    (hnext : ∀ x, Local fun after => next (x, after)) :
    Follows n cursor (result >>= next) (result' >>= next) :=
  hfollows.bind (fun x after _ => (hnext x).within after) fun x _ _ _ _ halike =>
    (hnext x).follows halike

theorem local_ok (x : α) : Local fun after => (.ok (x, after) : Except Fault (α × Cursor)) :=
  ⟨fun halike => .ok x (.refl _) halike⟩

/-- A fault that is reported at the cursor. -/
theorem local_fault (cause : Cause) :
    Local fun after => (.error (after.fault cause) : Except Fault (α × Cursor)) := by
  refine ⟨fun {n cursor other} halike => ?_⟩
  rcases halike.behind_or_head with hbehind | hhead
  · exact .late (.fault (Nat.le_refl _) (Reaches.refl cursor).le_finish) hbehind
  · have hsame : other.fault cause = cursor.fault cause := congrArg (Fault.mk cause) hhead.offset_eq
    simp only [hsame]
    exact .atCursor cause

/-- Behind the offset nothing is asked but that the reading goes on from there, and that is known from
the reading itself. -/
theorem Alike.follows {n : Nat} {cursor other : Cursor} {result result' : Except Fault (α × Cursor)}
    (halike : Alike n cursor other) (hwithin : Within cursor result)
    (hhead : HeadAlike n cursor other → Follows n cursor result result') :
    Follows n cursor result result' := by
  rcases halike.behind_or_head with hbehind | hother
  · exact .late hwithin (Nat.le_trans hbehind hwithin.le_place)
  · exact hhead hother

/-- A reader is local if that can be told by the first character. -/
theorem local_of_head {read : Cursor → Except Fault (α × Cursor)}
    (hhead : ∀ {n : Nat} {cursor other : Cursor}, HeadAlike n cursor other →
      Follows n cursor (read cursor) (read other)) : Local read :=
  ⟨fun halike => halike.follows (hhead (HeadAlike.refl 0 _)).within hhead⟩

/-- Readers that go on from one to the other are local if that can be told by the first character, with
what is behind it known. -/
theorem local_of_tail {σ : Type} {read : σ → Cursor → Except Fault (α × Cursor)}
    (hended : ∀ {state : σ} {n offset : Nat},
      Follows n ⟨[], offset⟩ (read state ⟨[], offset⟩) (read state ⟨[], offset⟩))
    (hcons : ∀ {c : Char} {rest : List Char},
      (∀ {state : σ} {n offset : Nat} {other : Cursor}, Alike n ⟨rest, offset⟩ other →
        Follows n ⟨rest, offset⟩ (read state ⟨rest, offset⟩) (read state other)) →
      ∀ {state : σ} {n offset : Nat} {other : Cursor}, HeadAlike n ⟨c :: rest, offset⟩ other →
        Follows n ⟨c :: rest, offset⟩ (read state ⟨c :: rest, offset⟩) (read state other))
          (state : σ) : Local (read state) := by
  refine ⟨fun {n cursor other} halike => ?_⟩
  obtain ⟨text, offset⟩ := cursor
  induction text generalizing state n offset other with
  | nil =>
    refine halike.follows (hended (n := 0)).within fun hhead => ?_
    cases hhead
    exact hended
  | cons c rest ih =>
    exact halike.follows (hcons (fun halike => ih _ _ halike) (HeadAlike.refl 0 _)).within
      (hcons fun halike => ih _ _ halike)

/-- A fault that is reported at the byte looked at. -/
theorem local_looked (cause : Cause) :
    Local fun after => (.error (after.lookedFault cause) : Except Fault (α × Cursor)) := by
  refine local_of_head fun hhead => ?_
  cases hhead with
  | ended offset => exact .atCursor cause
  | @same c rest rest' offset hrest => exact .looked c c rest rest' offset cause
  | @cut c d rest rest' offset hc hd hn hn' => exact .looked c d rest rest' offset cause

/-- A reader that goes on behind a special character of one byte, and does at any other what another
reader does there. A character that takes more than one byte is none of the special ones. -/
theorem HeadAlike.follows {fits special : Char → Prop} {read other : Cursor → Except Fault (α × Cursor)}
    {n : Nat} {cursor cursor' : Cursor} (hhead : HeadAlike n cursor cursor')
    (hfits : StartsWith fits cursor.rest) (hfits' : StartsWith fits cursor'.rest)
    (hsmall : ∀ c, special c → c.utf8Size = 1)
    (hended : ∀ {n : Nat} (offset : Nat), Follows n ⟨[], offset⟩ (read ⟨[], offset⟩) (read ⟨[], offset⟩))
    (hspecial : ∀ c, fits c → special c → ∀ {n offset : Nat} {rest rest' : List Char},
      Alike n ⟨rest, offset + 1⟩ ⟨rest', offset + 1⟩ →
      Follows n ⟨rest, offset + 1⟩ (read ⟨c :: rest, offset⟩) (read ⟨c :: rest', offset⟩))
    (hlocal : Local other)
    (hother : ∀ c, fits c → ¬ special c → ∀ rest offset,
      read ⟨c :: rest, offset⟩ = other ⟨c :: rest, offset⟩) :
    Follows n cursor (read cursor) (read cursor') := by
  cases hhead with
  | ended offset => exact hended offset
  | @same c rest rest' offset hrest =>
    have hc := startsWith_cons_iff.1 hfits
    by_cases hone : special c
    · have hreaches := reaches_cons c rest offset
      rw [hsmall c hone] at hreaches hrest
      exact (hspecial c hc hone hrest).behind hreaches
    · rw [hother c hc hone, hother c hc hone]
      exact hlocal.follows (.same c hrest)
  | @cut c d rest rest' offset hc hd hn hn' =>
    -- of a character that goes on behind the offset nothing is known but that it is not special, in
    -- either text
    have hnone : ∀ c : Char, 1 < c.utf8Size → ¬ special c := fun c hwide hone => by
      have hsize := hsmall c hone
      omega
    rw [hother c (startsWith_cons_iff.1 hfits) (hnone c hc),
      hother d (startsWith_cons_iff.1 hfits') (hnone d hd)]
    exact hlocal.follows (.cut rest rest' hc hd hn hn')

theorem local_of_special {read : Cursor → Except Fault (α × Cursor)} (special : Char → Prop)
    (other : Cursor → Except Fault (α × Cursor)) (hsmall : ∀ c, special c → c.utf8Size = 1)
    (hended : ∀ {n : Nat} (offset : Nat), Follows n ⟨[], offset⟩ (read ⟨[], offset⟩) (read ⟨[], offset⟩))
    (hspecial : ∀ c, special c → ∀ {n offset : Nat} {rest rest' : List Char},
      Alike n ⟨rest, offset + 1⟩ ⟨rest', offset + 1⟩ →
      Follows n ⟨rest, offset + 1⟩ (read ⟨c :: rest, offset⟩) (read ⟨c :: rest', offset⟩))
    (hlocal : Local other)
    (hother : ∀ c, ¬ special c → ∀ rest offset, read ⟨c :: rest, offset⟩ = other ⟨c :: rest, offset⟩) :
    Local read :=
  have hany : ∀ text : List Char, StartsWith (fun _ => True) text := fun _ _ _ => trivial
  local_of_head fun hhead =>
    hhead.follows (hany _) (hany _) hsmall hended (fun c _ => hspecial c) hlocal fun c _ => hother c

/-! ### Loops -/

/-- What one round of a loop comes to: the loop is over, or it goes on and something is done with what
the rest of it gives. -/
inductive Round (σ β : Type) where
  | done (result : β)
  | more (state : σ) (finish : β → β)

/-- The rest of a loop behind a round. -/
def Round.rest {σ : Type} (loop : σ → Cursor → Except Fault (β × Cursor)) : Round σ β × Cursor →
    Except Fault (β × Cursor)
  | (.done result, after) => .ok (result, after)
  | (.more state finish, after) => do
    let (result, after) ← loop state after
    .ok (finish result, after)

/-- A loop on a budget that consists of local rounds, of which each that goes on has taken a
character. -/
structure LoopOf {σ : Type} (loop : (budget : Nat) → σ → Cursor → Except Fault (β × Cursor))
    (round : σ → Cursor → Except Fault (Round σ β × Cursor)) (cause : Cause) : Prop where
  ended : ∀ budget state offset,
    loop budget state ⟨[], offset⟩ = .error (Cursor.fault ⟨[], offset⟩ cause)
  succ : ∀ budget state cursor, loop (budget + 1) state cursor = round state cursor >>=
    Round.rest (loop budget)
  shrinks : ∀ {state cursor state' finish after}, round state cursor = .ok (.more state' finish, after) →
    after.rest.length < cursor.rest.length
  isLocal : ∀ state, Local (round state)

/-- A loop reads texts alike whatever the budgets are, if they outlast the texts. -/
theorem LoopOf.follows {σ : Type} {loop : (budget : Nat) → σ → Cursor → Except Fault (β × Cursor)}
    {round : σ → Cursor → Except Fault (Round σ β × Cursor)} {cause : Cause}
    (hloop : LoopOf loop round cause) {budget budget' n : Nat} (state : σ) {cursor other : Cursor}
    (hbudget : cursor.rest.length ≤ budget) (hbudget' : other.rest.length ≤ budget')
    (halike : Alike n cursor other) :
    Follows n cursor (loop budget state cursor) (loop budget' state other) := by
  induction budget generalizing budget' n state cursor other with
  | zero =>
    obtain ⟨text, offset⟩ := cursor
    obtain rfl : text = [] := List.eq_nil_of_length_eq_zero (Nat.le_zero.1 hbudget)
    have hself : Follows 0 ⟨[], offset⟩ (loop 0 state ⟨[], offset⟩) (loop 0 state ⟨[], offset⟩) := by
      rw [hloop.ended]
      exact .atCursor cause
    refine halike.follows hself.within fun hhead => ?_
    cases hhead with
    | ended =>
      rw [hloop.ended, hloop.ended]
      exact .atCursor cause
  | succ budget ih =>
    -- a budget that is used up is as good as one more, since the text has ended
    obtain ⟨fewer, hfewer, hsame⟩ : ∃ fewer, other.rest.length ≤ fewer + 1 ∧
        loop budget' state other = loop (fewer + 1) state other := by
      cases budget' with
      | zero =>
        obtain ⟨text, offset⟩ := other
        obtain rfl : text = [] := List.eq_nil_of_length_eq_zero (Nat.le_zero.1 hbudget')
        exact ⟨0, Nat.zero_le 1, by rw [hloop.ended, hloop.ended]⟩
      | succ fewer => exact ⟨fewer, hbudget', rfl⟩
    rw [hsame, hloop.succ, hloop.succ]
    refine ((hloop.isLocal state).follows halike).bind (fun stage after hround => ?_) fun stage after
      after' hround hround' halike => ?_
    · cases stage with
      | done result => exact .ok (.refl after)
      | more state' finish =>
        have hafter : after.rest.length ≤ budget := by
          have hlt := hloop.shrinks hround
          omega
        exact ((ih state' hafter hafter (Alike.refl 0 after)).next fun result =>
          local_ok (finish result)).within
    · cases stage with
      | done result => exact .ok result (.refl after) halike
      | more state' finish =>
        have hafter : after.rest.length ≤ budget := by
          have hlt := hloop.shrinks hround
          omega
        have hafter' : after'.rest.length ≤ fewer := by
          have hlt := hloop.shrinks hround'
          omega
        exact (ih state' hafter hafter' halike).next fun result => local_ok (finish result)

/-! ### Blanks -/

theorem utf8Size_of_blank {c : Char} (hc : c ∈ blankChars) : c.utf8Size = 1 := by
  obtain rfl | rfl | rfl | rfl := mem_blankChars.1 hc
  all_goals rfl

theorem skipBlanks_skipBlanks (cursor : Cursor) : cursor.skipBlanks.skipBlanks = cursor.skipBlanks := by
  obtain ⟨_, _, _, hstart⟩ := exists_blank_skipBlanks cursor
  exact skipBlanks_of_startsWith hstart

theorem skipBlanks_cons_of_blank {c : Char} (hc : c ∈ blankChars) (rest : List Char) (offset : Nat) :
    (Cursor.mk (c :: rest) offset).skipBlanks = (Cursor.mk rest (offset + c.utf8Size)).skipBlanks := by
  rw [utf8Size_of_blank hc]
  exact skipBlanksFrom_of_blank hc rest offset

theorem skipBlanks_cons_of_not_blank {c : Char} (hc : c ∉ blankChars) (rest : List Char) (offset : Nat) :
    (Cursor.mk (c :: rest) offset).skipBlanks = ⟨c :: rest, offset⟩ :=
  skipBlanks_of_startsWith (startsWith_cons_iff.2 hc)

theorem reaches_skipBlanks (cursor : Cursor) : Reaches cursor cursor.skipBlanks := by
  obtain ⟨text, offset⟩ := cursor
  induction text generalizing offset with
  | nil => exact .refl _
  | cons c rest ih =>
    by_cases hc : c ∈ blankChars
    · rw [skipBlanks_cons_of_blank hc]
      exact (reaches_cons c rest offset).trans (ih _)
    · rw [skipBlanks_cons_of_not_blank hc]
      exact .refl _

theorem Alike.skipBlanks {n : Nat} {cursor other : Cursor} (halike : Alike n cursor other) :
    Alike n cursor.skipBlanks other.skipBlanks := by
  induction halike with
  | behind hbehind => exact .behind (Nat.le_trans hbehind (reaches_skipBlanks _).le)
  | ended offset => exact .refl n _
  | same c hrest ih =>
    by_cases hc : c ∈ blankChars
    · rw [skipBlanks_cons_of_blank hc, skipBlanks_cons_of_blank hc]
      exact ih
    · rw [skipBlanks_cons_of_not_blank hc, skipBlanks_cons_of_not_blank hc]
      exact .same c hrest
  | cut rest rest' hc hd hn hn' =>
    rw [skipBlanks_cons_of_not_blank fun hblank => absurd (utf8Size_of_blank hblank) (by omega),
      skipBlanks_cons_of_not_blank fun hblank => absurd (utf8Size_of_blank hblank) (by omega)]
    exact .cut rest rest' hc hd hn hn'

theorem startsWith_of_skipBlanks {cursor : Cursor} (hskip : cursor.skipBlanks = cursor) :
    StartsWith (· ∉ blankChars) cursor.rest := by
  obtain ⟨_, _, _, hstart⟩ := exists_blank_skipBlanks cursor
  rwa [hskip] at hstart

/-- A reader that skips blanks is local if that can be told by the first character that is none. -/
theorem local_of_skipBlanks {read : Cursor → Except Fault (α × Cursor)} (special : Char → Prop)
    (other : Cursor → Except Fault (α × Cursor)) (hskip : ∀ cursor, read cursor.skipBlanks = read cursor)
    (hsmall : ∀ c, special c → c.utf8Size = 1)
    (hended : ∀ {n : Nat} (offset : Nat), Follows n ⟨[], offset⟩ (read ⟨[], offset⟩) (read ⟨[], offset⟩))
    (hspecial : ∀ c, c ∉ blankChars → special c → ∀ {n offset : Nat} {rest rest' : List Char},
      Alike n ⟨rest, offset + 1⟩ ⟨rest', offset + 1⟩ →
      Follows n ⟨rest, offset + 1⟩ (read ⟨c :: rest, offset⟩) (read ⟨c :: rest', offset⟩))
    (hlocal : Local other)
    (hother : ∀ c, c ∉ blankChars → ¬ special c → ∀ rest offset,
      read ⟨c :: rest, offset⟩ = other ⟨c :: rest, offset⟩) : Local read := by
  refine ⟨fun {n cursor cursor'} halike => ?_⟩
  have hfits : ∀ cursor : Cursor, StartsWith (· ∉ blankChars) cursor.skipBlanks.rest :=
    fun cursor => startsWith_of_skipBlanks (skipBlanks_skipBlanks cursor)
  have hhead : ∀ {n : Nat} {cursor' : Cursor}, HeadAlike n cursor.skipBlanks cursor'.skipBlanks →
      Follows n cursor.skipBlanks (read cursor.skipBlanks) (read cursor'.skipBlanks) := fun hhead =>
    hhead.follows (hfits _) (hfits _) hsmall hended hspecial hlocal hother
  rw [← hskip cursor, ← hskip cursor']
  exact (halike.skipBlanks.follows (hhead (HeadAlike.refl 0 cursor.skipBlanks)).within hhead).behind
    (reaches_skipBlanks cursor)

end SchemaTyping.Json
