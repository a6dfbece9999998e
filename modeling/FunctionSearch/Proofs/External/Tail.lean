import FunctionSearch.External.Program
import FunctionSearch.Proofs.Text.Boundary
import FunctionSearch.Proofs.Text.Lines

/-!
# The end of an error stream

What is quoted of an error stream are its last lines.

* `tail?` takes them from an index on that has to lie within the list of lines, and `tail?_eq` says
  that it always does.
* `tailOf_append_feed`: behind a line feed, enough lines are all that matters of a stream.
* `LastLines` says which text the last lines of another one are, and `stderrTail_depends_on_end`
  that this is what is quoted, of any bytes.
-/

namespace FunctionSearch.External

open Text

/-! ## The last lines -/

/-- The elements of a list from an index on, which must not lie behind its end. -/
def sliceFrom? {α : Type} (start : Nat) (l : List α) : Option (List α) :=
  if start ≤ l.length then some (l.drop start) else none

/-- The last `count` lines of a byte stream, if they can be taken from the list of all. -/
def tail? (stream : Bytes) (count : Nat) : Option String :=
  let lines := lines (Utf8.decodeLossy stream)
  (sliceFrom? (lines.length - count) lines).map fun last => .ofList (unlines last)

/-- **The last lines can be taken from any stream.** -/
theorem tail?_eq (stream : Bytes) (count : Nat) :
    tail? stream count = some (tailOf stream count) := by
  rw [tail?, sliceFrom?, if_pos (Nat.sub_le _ count)]
  rfl

/-- A text that is the last `count` lines of another one, or all of them if it has no more, with a
line feed between any two. -/
def LastLines (count : Nat) (text : List Char) (tail : String) : Prop :=
  ∃ earlier last, Lined text (earlier ++ last) ∧
    last.length = min count (earlier ++ last).length ∧
    tail = "\n".intercalate (last.map String.ofList)

theorem ofList_unlines (ls : List (List Char)) :
    String.ofList (unlines ls) = "\n".intercalate (ls.map String.ofList) := by
  rw [← String.toList_inj, String.toList_ofList, String.toList_intercalate, List.map_map]
  have hid : String.toList ∘ String.ofList = id := funext fun _ => String.toList_ofList
  rw [hid, List.map_id]
  rfl

theorem lastLines_tailOf (stream : Bytes) (count : Nat) :
    LastLines count (Utf8.decodeLossy stream) (tailOf stream count) := by
  have hlined := lined_lines (Utf8.decodeLossy stream)
  rw [tailOf, ofList_unlines]
  generalize lines (Utf8.decodeLossy stream) = ls at hlined
  refine ⟨ls.take (ls.length - count), ls.drop (ls.length - count), ?_, ?_, rfl⟩
  · rwa [List.take_append_drop]
  · rw [List.take_append_drop, List.length_drop]
    omega

/-! ## Cutting a stream -/

/-- **What stands in front of a line feed does not matter**, if enough lines stand behind it. -/
theorem tailOf_append_feed {front behind : Bytes} {count : Nat}
    (h : count ≤ (lines (Utf8.decodeLossy behind)).length) :
    tailOf (front ++ 0x0A :: behind) count = tailOf behind count := by
  rw [tailOf, tailOf, Utf8.decodeLossy_append_feed, lines_append_feed_append]
  generalize lines (Utf8.decodeLossy front ++ ['\n']) = before
  generalize lines (Utf8.decodeLossy behind) = ls at h
  have hlength : (before ++ ls).length - count = before.length + (ls.length - count) := by
    rw [List.length_append]
    omega
  simp only [hlength, List.drop_length_add_append]

/-- **What is quoted of an error stream depends on the end of it only.** It is the last lines of the
stream, which can always be taken, of bytes that are a text and of bytes that are none. A part of
the stream in front of a line feed does not matter if there are enough lines behind it. -/
theorem stderrTail_depends_on_end :
    (∀ (whole rest : Output) (front : Bytes) (count : Nat) (ls : List (List Char)),
      whole.stderr = front ++ 0x0A :: rest.stderr →
      Lined (Utf8.decodeLossy rest.stderr) ls → count ≤ ls.length →
      whole.stderrTail count = rest.stderrTail count) ∧
    (∀ (output : Output) (count : Nat),
      tail? output.stderr count = some (output.stderrTail count) ∧
      LastLines count (Utf8.decodeLossy output.stderr) (output.stderrTail count)) := by
  refine ⟨fun whole rest front count ls hcut hlined hle => ?_, fun output count => ?_⟩
  · rw [← lines_eq_iff] at hlined
    rw [Output.stderrTail, hcut]
    exact tailOf_append_feed (hlined ▸ hle)
  · exact ⟨tail?_eq output.stderr count, lastLines_tailOf output.stderr count⟩

/-- A stream in which a character is broken off in front of the cut. -/
theorem stderrTail_depends_on_end_broken :
    Lined (Utf8.decodeLossy [0x61, 0x0D, 0x0A, 0xFF]) [['a'], ['\uFFFD']] ∧
    (⟨.exited 1, [], [0xE2, 0x82, 0x0A, 0x61, 0x0D, 0x0A, 0xFF]⟩ : Output).stderrTail 2 =
      (⟨.exited 1, [], [0x61, 0x0D, 0x0A, 0xFF]⟩ : Output).stderrTail 2 := by
  have hlined : Lined (Utf8.decodeLossy [0x61, 0x0D, 0x0A, 0xFF]) [['a'], ['\uFFFD']] :=
    lines_eq_iff.mp (by decide +kernel)
  refine ⟨hlined, ?_⟩
  exact stderrTail_depends_on_end.1 ⟨.exited 1, [], _⟩ ⟨.exited 1, [], _⟩ [0xE2, 0x82] 2 _ rfl
    hlined (Nat.le_refl 2)

end FunctionSearch.External
