import FunctionSearch.Proofs.Decompiler.Copies
import FunctionSearch.Proofs.Decompiler.Schedule
import Mathlib.Data.List.Dedup
import Mathlib.Data.Nat.Find

/-!
# The first binary with each content

Of the binaries with one digest, the first in the list is decompiled and the others are passed over
for it. Binaries that cannot be read have no digest and change nothing for the others.

* `IsFirst`: a place with a digest that no place in front of it has.
* `getElem?_assign`: the outcome that is known beforehand of the binary at a place, told from the
  binaries in front of it.
* `getElem?_assign_eq_duplicate_iff` and `mem_jobsOf_assign_iff`: which binaries are passed over,
  and which are to be decompiled.
* `perm_digests_jobsOf`: there is one job for every digest.
-/

namespace FunctionSearch.Batch

variable {tree : FileTree} {binaries : List Path}

/-- The digest of the binary at a place, if there is one that can be read. -/
def digestAt? (tree : FileTree) (binaries : List Path) (i : Nat) : Option String :=
  binaries[i]?.bind (digest? tree)

/-- The binary at place `i` is the first one with this digest. -/
structure IsFirst (tree : FileTree) (binaries : List Path) (digest : String) (i : Nat) : Prop where
  here : digestAt? tree binaries i = some digest
  fresh : ∀ j < i, digestAt? tree binaries j ≠ some digest

instance (tree : FileTree) (binaries : List Path) (digest : String) (i : Nat) :
    Decidable (IsFirst tree binaries digest i) :=
  decidable_of_iff (digestAt? tree binaries i = some digest ∧
    ∀ j < i, digestAt? tree binaries j ≠ some digest)
    ⟨fun ⟨h₁, h₂⟩ => ⟨h₁, h₂⟩, fun h => ⟨h.1, h.2⟩⟩

theorem digest?_of_read_error {binary : Path} {cause : IoError}
    (h : tree.read binary = .error cause) : digest? tree binary = none := by
  simp [digest?, h, Except.toOption]

theorem digest?_of_read_ok {binary : Path} {content : Bytes} (h : tree.read binary = .ok content) :
    digest? tree binary = some (Digest.Sha256.hex content) := by
  simp [digest?, h, Except.toOption]

/-! ## Outcomes that are known beforehand -/

/-- The first of some binaries with this digest. -/
def firstWith? (tree : FileTree) (earlier : List Path) (digest : String) : Option Path :=
  earlier.find? (digest? tree · == some digest)

/-- What is known beforehand of a binary, from the binaries in front of it. -/
def knownBehind (tree : FileTree) (earlier : List Path) (binary : Path) : Option BinaryOutcome :=
  match tree.read binary with
  | .error cause => some (.failed (.io binary cause))
  | .ok content => (firstWith? tree earlier (Digest.Sha256.hex content)).map .duplicate

theorem firstWith?_concat (earlier : List Path) (binary : Path) (digest : String) :
    firstWith? tree (earlier ++ [binary]) digest =
      (firstWith? tree earlier digest).or
        (if digest? tree binary = some digest then some binary else none) := by
  rw [firstWith?, List.find?_append, ← firstWith?]
  by_cases h : digest? tree binary = some digest <;> simp [h]

/-- What happens to the head of a list of binaries: its outcome is known or not, and the first
binaries with each digest are kept up to date. -/
theorem exists_assignFrom_cons {seen : List (String × Path)} {earlier : List Path}
    (hseen : ∀ digest, seen.lookup digest = firstWith? tree earlier digest) (binary : Path)
    (rest : List Path) :
    ∃ next, (∀ digest, next.lookup digest = firstWith? tree (earlier ++ [binary]) digest) ∧
      assignFrom tree seen (binary :: rest) =
        (binary, knownBehind tree earlier binary) :: assignFrom tree next rest := by
  cases hread : tree.read binary with
  | error cause =>
    refine ⟨seen, fun digest => ?_, by rw [assignFrom, knownBehind, hread]⟩
    rw [firstWith?_concat, digest?_of_read_error hread, if_neg (by simp), Option.or_none, hseen]
  | ok content =>
    have hdigest := digest?_of_read_ok hread
    simp only [assignFrom, knownBehind, hread, ← hseen]
    generalize Digest.Sha256.hex content = digest at hdigest ⊢
    cases hfirst : seen.lookup digest with
    | some first =>
      refine ⟨seen, fun other => ?_, rfl⟩
      rw [firstWith?_concat, hdigest, ← hseen]
      by_cases heq : digest = other
      · rw [← heq, hfirst, Option.some_or]
      · rw [if_neg (by simpa using heq), Option.or_none]
    | none =>
      refine ⟨(digest, binary) :: seen, fun other => ?_, rfl⟩
      rw [firstWith?_concat, hdigest, ← hseen, List.lookup_cons]
      by_cases heq : other = digest
      · subst heq
        simp [hfirst]
      · simp [beq_false_of_ne heq, Ne.symm heq]

theorem getElem?_assignFrom {seen : List (String × Path)} {earlier rest : List Path}
    (hseen : ∀ digest, seen.lookup digest = firstWith? tree earlier digest) {i : Nat}
    {binary : Path} (h : rest[i]? = some binary) :
    (assignFrom tree seen rest)[i]? =
      some (binary, knownBehind tree (earlier ++ rest.take i) binary) := by
  induction rest generalizing seen earlier i with
  | nil => cases h
  | cons other rest ih =>
    obtain ⟨next, hnext, hcons⟩ := exists_assignFrom_cons hseen other rest
    rw [hcons]
    cases i with
    | zero =>
      obtain rfl : other = binary := Option.some.inj h
      simp
    | succ i => simpa using ih hnext h

/-- **What is known beforehand of the binary at a place.** -/
theorem getElem?_assign {i : Nat} {binary : Path} (h : binaries[i]? = some binary) :
    (assign tree binaries)[i]? = some (binary, knownBehind tree (binaries.take i) binary) := by
  have hseen : ∀ digest, ([] : List (String × Path)).lookup digest = firstWith? tree [] digest :=
    fun _ => rfl
  exact getElem?_assignFrom hseen h

/-! ## The first ones -/

theorem digestAt?_of_getElem? {i : Nat} {binary : Path} (h : binaries[i]? = some binary) :
    digestAt? tree binaries i = digest? tree binary := by
  rw [digestAt?, h, Option.bind_some]

/-- A digest that some place has is one that a first place has. -/
theorem exists_isFirst {i : Nat} {digest : String} (h : digestAt? tree binaries i = some digest) :
    ∃ j ≤ i, IsFirst tree binaries digest j := by
  have hsome : ∃ j, digestAt? tree binaries j = some digest := ⟨i, h⟩
  exact ⟨Nat.find hsome, Nat.find_min' hsome h, Nat.find_spec hsome, fun _ => Nat.find_min hsome⟩

/-- No two places are the first one with the same digest. -/
theorem IsFirst.unique {i j : Nat} {digest : String} (hi : IsFirst tree binaries digest i)
    (hj : IsFirst tree binaries digest j) : i = j := by
  obtain hlt | rfl | hlt := Nat.lt_trichotomy i j
  · exact absurd hi.here (hj.fresh i hlt)
  · rfl
  · exact absurd hj.here (hi.fresh j hlt)

theorem firstWith?_take_eq_some_iff {i : Nat} {digest : String} {first : Path} :
    firstWith? tree (binaries.take i) digest = some first ↔
      ∃ j < i, IsFirst tree binaries digest j ∧ binaries[j]? = some first := by
  simp only [firstWith?, List.find?_eq_some_iff_getElem, List.length_take, List.getElem_take,
    beq_iff_eq, Bool.not_eq_true', beq_eq_false_iff_ne]
  constructor
  · rintro ⟨hdigest, j, hj, rfl, hfresh⟩
    have hlt : j < i ∧ j < binaries.length := by omega
    have hget := List.getElem?_eq_getElem hlt.2
    refine ⟨j, hlt.1, ⟨(digestAt?_of_getElem? hget).trans hdigest, fun k hk => ?_⟩, hget⟩
    rw [digestAt?_of_getElem? (List.getElem?_eq_getElem (hk.trans hlt.2))]
    exact hfresh k hk
  · rintro ⟨j, hj, hfirst, hget⟩
    obtain ⟨hlt, rfl⟩ := List.getElem?_eq_some_iff.mp hget
    refine ⟨(digestAt?_of_getElem? hget).symm.trans hfirst.here, j, by omega, rfl, fun k hk => ?_⟩
    rw [← digestAt?_of_getElem? (List.getElem?_eq_getElem (hk.trans hlt))]
    exact hfirst.fresh k hk

theorem firstWith?_take_eq_none_iff {i : Nat} {digest : String} :
    firstWith? tree (binaries.take i) digest = none ↔
      ∀ j < i, digestAt? tree binaries j ≠ some digest := by
  rw [Option.eq_none_iff_forall_ne_some]
  simp only [ne_eq, firstWith?_take_eq_some_iff]
  constructor
  · intro h j hj hdigest
    obtain ⟨k, hk, hfirst⟩ := exists_isFirst hdigest
    obtain ⟨first, hget, -⟩ := Option.bind_eq_some_iff.mp hfirst.here
    exact h first ⟨k, by omega, hfirst, hget⟩
  · rintro h first ⟨j, hj, hfirst, -⟩
    exact h j hj hfirst.here

/-! ## Which binaries are passed over, and which are not -/

theorem getElem?_assign_of_read_error {i : Nat} {binary : Path} {cause : IoError}
    (h : binaries[i]? = some binary) (hread : tree.read binary = .error cause) :
    (assign tree binaries)[i]? = some (binary, some (.failed (.io binary cause))) := by
  rw [getElem?_assign h, knownBehind, hread]

/-- **A binary is passed over exactly for the first one with its digest**, if that one stands in
front of it. -/
theorem getElem?_assign_eq_duplicate_iff {i : Nat} {binary first : Path}
    (h : binaries[i]? = some binary) :
    (assign tree binaries)[i]? = some (binary, some (.duplicate first)) ↔
      ∃ digest, digestAt? tree binaries i = some digest ∧
        ∃ j < i, IsFirst tree binaries digest j ∧ binaries[j]? = some first := by
  rw [getElem?_assign h, digestAt?_of_getElem? h, knownBehind]
  cases hread : tree.read binary with
  | error cause => simp [digest?_of_read_error hread]
  | ok content =>
    simp [digest?_of_read_ok hread, firstWith?_take_eq_some_iff]

/-- **There is a job for a binary exactly if it is the first one with some digest.** -/
theorem mem_jobsOf_assign_iff {job : Job} :
    job ∈ Pool.jobsOf (assign tree binaries) ↔
      binaries[job.place]? = some job.binary ∧
        ∃ digest, IsFirst tree binaries digest job.place := by
  rw [mem_jobsOf]
  constructor
  · intro h
    have hget : binaries[job.place]? = some job.binary := by
      rw [← map_fst_assign tree binaries, List.getElem?_map, h]
      rfl
    refine ⟨hget, ?_⟩
    rw [getElem?_assign hget, knownBehind] at h
    cases hread : tree.read job.binary with
    | error cause => simp [hread] at h
    | ok content =>
      simp only [hread, Option.some.injEq, Prod.mk.injEq, true_and, Option.map_eq_none_iff] at h
      exact ⟨_, (digestAt?_of_getElem? hget).trans (digest?_of_read_ok hread),
        firstWith?_take_eq_none_iff.mp h⟩
  · rintro ⟨hget, digest, hfirst⟩
    have hdigest := (digestAt?_of_getElem? hget).symm.trans hfirst.here
    rw [getElem?_assign hget, knownBehind]
    cases hread : tree.read job.binary with
    | error cause => simp [digest?_of_read_error hread] at hdigest
    | ok content =>
      rw [digest?_of_read_ok hread, Option.some.injEq] at hdigest
      simp [hdigest, firstWith?_take_eq_none_iff.mpr hfirst.fresh]

theorem mem_digests_iff {digest : String} :
    digest ∈ binaries.filterMap (digest? tree) ↔ ∃ i, digestAt? tree binaries i = some digest := by
  simp only [List.mem_filterMap, digestAt?, Option.bind_eq_some_iff]
  constructor
  · rintro ⟨binary, hmem, hdigest⟩
    obtain ⟨i, hget⟩ := List.mem_iff_getElem?.mp hmem
    exact ⟨i, binary, hget, hdigest⟩
  · rintro ⟨i, binary, hget, hdigest⟩
    exact ⟨binary, List.mem_of_getElem? hget, hdigest⟩

/-- A job is for the first binary with the digest of its own. -/
theorem isFirst_of_mem_jobsOf {job : Job} {digest : String}
    (hjob : job ∈ Pool.jobsOf (assign tree binaries)) (h : digest? tree job.binary = some digest) :
    IsFirst tree binaries digest job.place := by
  obtain ⟨hget, other, hfirst⟩ := mem_jobsOf_assign_iff.mp hjob
  obtain rfl : other = digest :=
    Option.some.inj (hfirst.here.symm.trans ((digestAt?_of_getElem? hget).trans h))
  exact hfirst

/-- The binary of a job can be read. -/
theorem exists_digest_of_mem_jobsOf {job : Job}
    (hjob : job ∈ Pool.jobsOf (assign tree binaries)) :
    ∃ digest, digest? tree job.binary = some digest := by
  obtain ⟨hget, digest, hfirst⟩ := mem_jobsOf_assign_iff.mp hjob
  exact ⟨digest, (digestAt?_of_getElem? hget).symm.trans hfirst.here⟩

/-- **There is one job for every digest.** -/
theorem perm_digests_jobsOf :
    ((Pool.jobsOf (assign tree binaries)).map fun job => digest? tree job.binary).Perm
      ((binaries.filterMap (digest? tree)).dedup.map some) := by
  have hinj : ∀ job ∈ Pool.jobsOf (assign tree binaries),
      ∀ other ∈ Pool.jobsOf (assign tree binaries),
        digest? tree job.binary = digest? tree other.binary → job = other := by
    intro job hjob other hother heq
    obtain ⟨digest, hdigest⟩ := exists_digest_of_mem_jobsOf hjob
    have hplace : job.place = other.place :=
      (isFirst_of_mem_jobsOf hjob hdigest).unique
        (isFirst_of_mem_jobsOf hother (heq.symm.trans hdigest))
    have hget := (mem_jobsOf_assign_iff.mp hjob).1
    rw [hplace, (mem_jobsOf_assign_iff.mp hother).1] at hget
    exact Job.mk.injEq .. ▸ ⟨hplace, (Option.some.inj hget).symm⟩
  refine (List.perm_ext_iff_of_nodup ?_ ?_).mpr fun digest? => ?_
  · exact nodup_map_place_jobsOf.of_map.map_on hinj
  · exact (List.nodup_dedup _).map fun _ _ => Option.some.inj
  · simp only [List.mem_map, List.mem_dedup, mem_digests_iff]
    constructor
    · rintro ⟨job, hjob, rfl⟩
      obtain ⟨digest, hdigest⟩ := exists_digest_of_mem_jobsOf hjob
      exact ⟨digest, ⟨job.place, (isFirst_of_mem_jobsOf hjob hdigest).here⟩, hdigest.symm⟩
    · rintro ⟨digest, ⟨i, hi⟩, rfl⟩
      obtain ⟨j, -, hfirst⟩ := exists_isFirst hi
      obtain ⟨binary, hget, hdigest⟩ := Option.bind_eq_some_iff.mp hfirst.here
      exact ⟨⟨j, binary⟩, mem_jobsOf_assign_iff.mpr ⟨hget, digest, hfirst⟩, hdigest⟩

end FunctionSearch.Batch
