import SchemaTyping.Proofs.Decode.AnyText
import SchemaTyping.Proofs.Json.ValueLocality

/-!
# Faults are local to their places

What makes a text no JSON is told by the bytes up to the place of its fault and the one behind it. No
reader looks further (`Json.local_readValue`), and a fault is reported at most one byte ahead of what was
looked at. So a text that shares these bytes, or ends where this one ends, has the fault too
(`readFirst_fault`); and since the line and the column of a place are told by the bytes before it, it has
it at the same line and column.
-/

namespace SchemaTyping.Json

open Text (bytes byteLength)

/-- A fault lies within its text, and every text that shares the bytes up to it and the one behind it has
the same fault. -/
theorem readFirst_fault {text : List Char} {fault : Fault} (hfault : readFirst text = .error fault) :
    fault.offset ≤ byteLength text ∧
      ∀ other, (bytes other).take (fault.offset + 1) = (bytes text).take (fault.offset + 1) →
        readFirst other = .error fault := by
  have hread : readValue depthLimit ⟨text, 0⟩ = .error fault := hfault
  constructor
  · have hwithin := (local_readValue depthLimit).within ⟨text, 0⟩
    rw [hread] at hwithin
    cases hwithin with
    | fault _ hfinish => rwa [Cursor.finish, Nat.zero_add] at hfinish
  · intro other hshared
    have hfollows := (local_readValue depthLimit).follows (alike_of_take_bytes hshared.symm 0)
    rw [hread] at hfollows
    exact hfollows.eq_of_fault (by omega)

end SchemaTyping.Json

namespace SchemaTyping.Decode

open Json (LocatedFault Fault parse readFirst readFirst_fault)
open Text (StartsLine utf8 utf8_eq_bytes lineFeed length_bytes ofOffset_eq ofOffset_congr)

theorem ofText_any_eq_malformed_iff {text : String} {fault : LocatedFault} :
    ofText .any text = .error (.malformed fault) ↔ ∃ raised, readFirst text.toList = .error raised ∧
      raised.locate text.toList = fault := by
  rw [ofText_any, parse]
  cases readFirst text.toList with
  | error raised => simp [Except.mapError]
  | ok read => simp [Except.mapError]

/-- A text that is not JSON has its fault at an offset among its bytes: the line counts the line feeds
before it, and the column goes back to where the line starts. Every text that has the same bytes up to
that offset and the same one behind it, or ends there as this one does, has the same fault at the same
line and column. -/
theorem malformed_local {text : String} {fault : LocatedFault}
    (hfault : ofText .any text = .error (.malformed fault)) :
    ∃ offset start, offset ≤ (utf8 text).length ∧ StartsLine (utf8 text) offset start ∧
      fault.location = ⟨1 + ((utf8 text).take offset).count lineFeed, offset - start⟩ ∧
      ∀ other, (utf8 other).take (offset + 1) = (utf8 text).take (offset + 1) →
        ofText .any other = .error (.malformed fault) := by
  obtain ⟨raised, hraised, rfl⟩ := ofText_any_eq_malformed_iff.1 hfault
  obtain ⟨hwithin, hother⟩ := readFirst_fault hraised
  obtain ⟨start, hstart, hlocation⟩ := ofOffset_eq text.toList hwithin
  simp only [utf8_eq_bytes]
  refine ⟨raised.offset, start, (length_bytes text.toList).symm ▸ hwithin, hstart, hlocation,
    fun other hshared => ?_⟩
  refine ofText_any_eq_malformed_iff.2 ⟨raised, hother _ hshared, ?_⟩
  -- the bytes that tell the place are among those that are shared
  have hbefore := congrArg (List.take raised.offset) hshared
  rw [List.take_take, List.take_take, Nat.min_eq_left (Nat.le_succ _)] at hbefore
  exact congrArg (LocatedFault.mk raised.cause) (ofOffset_congr hbefore)

/-- A list whose second line lacks a comma. -/
def commaMissing : String := "[1,\n2 \"é\"]"

theorem commaMissing_local :
    ofText .any commaMissing = .error (.malformed ⟨.expectedCommaOrBracket, ⟨2, 3⟩⟩) ∧
      ∃ offset start, offset ≤ (utf8 commaMissing).length ∧ StartsLine (utf8 commaMissing) offset start ∧
        ⟨2, 3⟩ = (⟨1 + ((utf8 commaMissing).take offset).count lineFeed, offset - start⟩ :
          Text.Location) ∧
        ∀ other, (utf8 other).take (offset + 1) = (utf8 commaMissing).take (offset + 1) →
          ofText .any other = .error (.malformed ⟨.expectedCommaOrBracket, ⟨2, 3⟩⟩) := by
  have hread : ofText .any commaMissing = .error (.malformed ⟨.expectedCommaOrBracket, ⟨2, 3⟩⟩) := by cbv
  exact ⟨hread, malformed_local hread⟩

end SchemaTyping.Decode
