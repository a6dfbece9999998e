import FunctionSearch.Files.Path
import FunctionSearch.Proofs.Text.Pieces

/-!
# The parts of paths

What stands between the slashes of the path of a name in a directory: the parts of the path of the
directory, and the name (`parts_child`, `exists_parts_child`).
-/

namespace FunctionSearch

namespace Path

variable {path : Path} {name : Name}

/-- A name that can stand in a path. -/
structure IsPart (name : Name) : Prop where
  nonempty : name ≠ []
  slash_notMem : slash ∉ name

instance (name : Name) : Decidable (IsPart name) :=
  decidable_of_iff (name ≠ [] ∧ slash ∉ name) ⟨fun ⟨h₁, h₂⟩ => ⟨h₁, h₂⟩, fun h => ⟨h.1, h.2⟩⟩

/-- No part of a path holds a slash. -/
theorem slash_notMem_of_mem_parts {part : Name} (h : part ∈ path.parts) : slash ∉ part :=
  fun hslash => absurd (beq_self_eq_true slash)
    (Bool.eq_false_iff.mp (Text.eq_false_of_mem_splitWhere (p := (· == slash)) h hslash))

theorem IsPart.parts (h : IsPart name) : Path.parts ⟨name⟩ = [name] := by
  rw [Path.parts, Text.splitWhere_eq_splitOnP]
  refine List.splitOnP_eq_singleton fun a ha => ?_
  simp only [beq_eq_false_iff_ne]
  rintro rfl
  exact h.slash_notMem ha

theorem IsPart.isAbsolute (h : IsPart name) : Path.isAbsolute ⟨name⟩ = false := by
  cases name with
  | nil => rfl
  | cons a rest =>
    simp only [Path.isAbsolute, List.head?_cons, beq_eq_false_iff_ne, ne_eq, Option.some.injEq]
    rintro rfl
    exact h.slash_notMem List.mem_cons_self

/-- A slash stands between the parts on its two sides. -/
theorem parts_append_slash (front back : Bytes) :
    Path.parts ⟨front ++ slash :: back⟩ = Path.parts ⟨front⟩ ++ Path.parts ⟨back⟩ := by
  simp only [Path.parts, Text.splitWhere_eq_splitOnP]
  exact List.splitOnP_append_cons front back (beq_self_eq_true slash)

/-- A name in a directory whose path has no slash at its end. -/
theorem bytes_child (hname : IsPart name) (hne : path.bytes ≠ [])
    (hlast : path.bytes.getLast? ≠ some slash) :
    (path.child name).bytes = path.bytes ++ slash :: name := by
  have hends : (path.bytes.isEmpty || path.bytes.getLast? == some slash) = false := by
    simp [hne, hlast]
  rw [child, join, hname.isAbsolute, hends]
  rfl

theorem parts_child (hname : IsPart name) (hne : path.bytes ≠ [])
    (hlast : path.bytes.getLast? ≠ some slash) :
    (path.child name).parts = path.parts ++ [name] := by
  have hparts := parts_append_slash path.bytes name
  rwa [← bytes_child hname hne hlast, hname.parts] at hparts

/-- A path seen from a directory, with a slash between them or the one that was there. -/
theorem parts_child_cases (hrelative : isAbsolute ⟨name⟩ = false) (hne : path.bytes ≠ []) :
    (path.child name).parts = path.parts ++ parts ⟨name⟩ ∨
      ∃ front, path.parts = front ++ [[]] ∧ (path.child name).parts = front ++ parts ⟨name⟩ := by
  by_cases hlast : path.bytes.getLast? = some slash
  · obtain ⟨init, hinit⟩ := List.getLast?_eq_some_iff.mp hlast
    have hchild : path.child name = ⟨init ++ slash :: name⟩ := by
      rw [child, join, hrelative, hlast]
      simp [hinit]
    refine .inr ⟨parts ⟨init⟩, ?_, ?_⟩
    · have hparts := parts_append_slash init []
      rwa [← hinit] at hparts
    · rw [hchild, parts_append_slash]
  · refine .inl ?_
    have hchild : path.child name = ⟨path.bytes ++ slash :: name⟩ := by
      rw [child, join, hrelative, if_neg Bool.false_ne_true, if_neg (by simp [hne, hlast])]
    rw [hchild, parts_append_slash]

/-- A path seen from a directory is that of the directory, perhaps a slash, and the path. -/
theorem exists_bytes_child (path : Path) (hrelative : isAbsolute ⟨name⟩ = false) :
    ∃ between, (between = [] ∨ between = [slash]) ∧
      path.child name = ⟨path.bytes ++ (between ++ name)⟩ := by
  rw [child, join, hrelative, if_neg Bool.false_ne_true]
  split
  · exact ⟨[], .inl rfl, rfl⟩
  · exact ⟨[slash], .inr rfl, rfl⟩

/-- The last part of the path of a name in a directory is the name. -/
theorem exists_parts_child (path : Path) (hname : IsPart name) :
    ∃ parts, (path.child name).parts = parts ++ [name] := by
  by_cases hne : path.bytes = []
  · have hchild : path.child name = ⟨name⟩ := by
      rw [child, join, hname.isAbsolute, hne]
      rfl
    exact ⟨[], by rw [hchild, hname.parts, List.nil_append]⟩
  · have hcases := parts_child_cases hname.isAbsolute hne
    rw [hname.parts] at hcases
    obtain h | ⟨parts, -, h⟩ := hcases
    · exact ⟨_, h⟩
    · exact ⟨_, h⟩

end Path

end FunctionSearch
