import FunctionSearch.Proofs.Decompiler.Firsts

/-!
# Each content is decompiled once

What a pool comes to for any decompiler, also one whose answers change from call to call.

* `Orderly` says what the slots and the reports on their way may hold: the outcome that is known
  beforehand, or an answer of the decompiler for the binary in question. Every step keeps this
  (`Orderly.next`), and where no step is left every slot is filled (`Orderly.forall₂_reported`).
* `exists_reaches_sequential`: the sequential batch is what one worker comes to.
* `Deduplicated` and `deduplicated_of_every_schedule`: which binaries fail because they cannot be
  read, which are passed over and for whom, and for which ones the decompiler is called.
-/

namespace FunctionSearch.Batch

open Pool

variable {σ : Type} {decompiler : Decompiler σ} {output : Path}
  {items : List (Path × Option BinaryOutcome)} {pool pool' : Pool σ}

namespace Pool

/-! ## What every step keeps -/

/-- An answer that the decompiler gives for a binary in some world. -/
def Answers (decompiler : Decompiler σ) (output binary : Path)
    (answer : Except DecompileError DecompileReport) : Prop :=
  ∃ world, (decompiler.decompile binary output world).1 = answer

/-- A report that will do for the binary at its place. -/
def Delivers (decompiler : Decompiler σ) (output : Path)
    (items : List (Path × Option BinaryOutcome)) (delivery : Delivery) : Prop :=
  ∃ item, items[delivery.place]? = some item ∧
    Reported (Answers decompiler output) item delivery.report

/-- How the parts of a pool fit together that works on these items. -/
structure Orderly (decompiler : Decompiler σ) (output : Path)
    (items : List (Path × Option BinaryOutcome)) (pool : Pool σ) : Prop
    extends Staffed (jobsOf items) pool where
  held : ∀ worker ∈ pool.workers, ∀ delivery, worker = .reporting delivery →
    Delivers decompiler output items delivery
  sent : ∀ delivery ∈ pool.results, Delivers decompiler output items delivery
  filled : List.Forall₂ (fun item slot => ∀ report ∈ slot,
    Reported (Answers decompiler output) item report) items pool.slots
  awaited : ∀ i, pool.slots[i]? = some none → i ∈ pool.pending

/-- A slot that a step leaves empty is still on its way. -/
theorem mem_pending_of_next (hnext : Next decompiler output pool pool')
    (h : ∀ i, pool.slots[i]? = some none → i ∈ pool.pending) :
    ∀ i, pool'.slots[i]? = some none → i ∈ pool'.pending := by
  intro i hslot
  cases hnext with
  | take hworkers hqueue =>
    have hi := h i hslot
    simp only [pending, hworkers, hqueue, List.mem_append, List.map_cons, List.mem_cons,
      List.filterMap_append, List.filterMap_cons, Worker.place?_ready,
      Worker.place?_working] at hi ⊢
    tauto
  | decompile hworkers =>
    have hi := h i hslot
    simpa only [pending, hworkers, List.filterMap_append, List.filterMap_cons,
      Worker.place?_working, Worker.place?_reporting] using hi
  | send hworkers =>
    have hi := h i hslot
    simp only [pending, hworkers, List.mem_append, List.map_append, List.map_cons, List.map_nil,
      List.mem_cons, List.filterMap_append, List.filterMap_cons, Worker.place?_ready,
      Worker.place?_reporting] at hi ⊢
    tauto
  | leave hworkers hqueue =>
    have hi := h i hslot
    simpa only [pending, hworkers, List.filterMap_append, List.filterMap_cons,
      Worker.place?_ready, Worker.place?_gone] using hi
  | @receive delivery results hresults =>
    rw [List.getElem?_set] at hslot
    by_cases hplace : delivery.place = i
    · split at hslot <;> simp_all
    · have hi := h i (by simpa [hplace] using hslot)
      simpa [pending, hresults, Ne.symm hplace] using hi

/-- A report that is received fills the slot of its binary. -/
theorem forall₂_set {α β : Type} {R : α → β → Prop} {l : List α} {m : List β}
    (h : List.Forall₂ R l m) {i : Nat} {a : α} {b : β} (ha : l[i]? = some a) (hR : R a b) :
    List.Forall₂ R l (m.set i b) := by
  induction h generalizing i with
  | nil => cases ha
  | cons hfirst hrest ih =>
    cases i with
    | zero =>
      obtain rfl := Option.some.inj ha
      exact .cons hR hrest
    | succ i => exact .cons hfirst (ih ha)

/-- **Every step keeps a pool orderly.** -/
theorem Orderly.next (h : Orderly decompiler output items pool)
    (hnext : Next decompiler output pool pool') : Orderly decompiler output items pool' := by
  have hstaffed := h.toStaffed.next hnext
  have hawaited := mem_pending_of_next hnext h.awaited
  cases hnext with
  | take hworkers hqueue =>
    exact ⟨hstaffed, forall_mem_replace (hworkers ▸ h.held) (by simp), h.sent, h.filled, hawaited⟩
  | @decompile before after job hworkers =>
    refine ⟨hstaffed, forall_mem_replace (hworkers ▸ h.held) fun delivery hdelivery => ?_, h.sent,
      h.filled, hawaited⟩
    obtain rfl := Worker.reporting.inj hdelivery
    have hjob : job ∈ jobsOf items := h.called.subset (by simp [hworkers])
    exact ⟨(job.binary, none), mem_jobsOf.mp hjob,
      .answered ⟨pool.world, rfl⟩ (answered_outcomeOf job.binary _)⟩
  | @send before after delivery hworkers =>
    refine ⟨hstaffed, forall_mem_replace (hworkers ▸ h.held) (by simp), ?_, h.filled, hawaited⟩
    rw [List.forall_mem_append, List.forall_mem_singleton]
    exact ⟨h.sent, h.held _ (by simp [hworkers]) delivery rfl⟩
  | leave hworkers hqueue =>
    exact ⟨hstaffed, forall_mem_replace (hworkers ▸ h.held) (by simp), h.sent, h.filled, hawaited⟩
  | @receive delivery results hresults =>
    have hsent := h.sent
    rw [hresults, List.forall_mem_cons] at hsent
    obtain ⟨⟨item, hitem, hreported⟩, hrest⟩ := hsent
    exact ⟨hstaffed, h.held, hrest, forall₂_set h.filled hitem (by simpa using hreported), hawaited⟩

/-- **The pool in which work starts is orderly.** -/
theorem orderly_start (decompiler : Decompiler σ) (output : Path) (workers : Nat)
    (binaries : List Path) (world : World σ) :
    Orderly decompiler output (assign world.files binaries) (start workers binaries world) where
  toStaffed := staffed_start workers binaries world
  held worker hworker delivery hdelivery := by
    rw [List.eq_of_mem_replicate hworker] at hdelivery
    cases hdelivery
  sent delivery hdelivery := absurd hdelivery List.not_mem_nil
  filled := by
    rw [start, slotsOf, List.forall₂_map_right_iff, List.forall₂_same]
    rintro ⟨binary, outcome⟩ - report hreport
    obtain ⟨known, rfl, rfl⟩ := Option.map_eq_some_iff.mp hreport
    exact .known binary known
  awaited i hslot := by
    have hjob : i ∈ (jobsOf (assign world.files binaries)).map Job.place :=
      getElem?_slotsOf_eq_none_iff.mp hslot
    simp only [pending, start, List.mem_append]
    exact .inl (.inl hjob)

theorem orderly_of_reaches {workers : Nat} {binaries : List Path} {world : World σ}
    (h : Reaches decompiler output (start workers binaries world) pool) :
    Orderly decompiler output (assign world.files binaries) pool := by
  induction h with
  | refl => exact orderly_start decompiler output workers binaries world
  | tail _ hnext ih => exact ih.next hnext

/-! ## The end -/

theorem forall₂_zipWith_reportOf {R : Path × Option BinaryOutcome → BinaryReport → Prop}
    {slots : List (Option BinaryReport)}
    (h : List.Forall₂ (fun item slot => ∀ report ∈ slot, R item report) items slots)
    (hfull : ∀ slot ∈ slots, slot ≠ none) :
    List.Forall₂ R items (List.zipWith reportOf slots (items.map Prod.fst)) := by
  induction h with
  | nil => exact .nil
  | @cons item slot items slots hslot hrest ih =>
    rw [List.forall_mem_cons] at hfull
    obtain ⟨report, rfl⟩ := Option.ne_none_iff_exists'.mp hfull.1
    exact .cons (hslot report rfl) (ih hfull.2)

/-- **Where an orderly pool stops, every binary is reported** with what is known beforehand or with
an answer of the decompiler. -/
theorem Orderly.forall₂_reported {tree : FileTree} {binaries : List Path}
    (h : Orderly decompiler output (assign tree binaries) pool)
    (hstuck : Stuck decompiler output pool) :
    List.Forall₂ (Reported (Answers decompiler output)) (assign tree binaries)
      (pool.report binaries).binaries := by
  obtain ⟨hqueue, hworkers, hresults⟩ := h.left hstuck
  have hfull : ∀ slot ∈ pool.slots, slot ≠ none := by
    rintro _ hmem rfl
    obtain ⟨i, hslot⟩ := List.mem_iff_getElem?.mp hmem
    have hpending := h.awaited i hslot
    simp only [pending, hqueue, hresults, List.map_nil, List.nil_append, List.append_nil,
      List.mem_filterMap] at hpending
    obtain ⟨worker, hworker, hplace⟩ := hpending
    rw [hworkers worker hworker] at hplace
    cases hplace
  have hreported := forall₂_zipWith_reportOf h.filled hfull
  rwa [map_fst_assign] at hreported

/-! ## One worker -/

/-- One worker takes the next job, calls the decompiler and sends the report, which is received. -/
theorem reaches_next_job (decompiler : Decompiler σ) (output : Path) {job : Job} {queue : List Job}
    (hqueue : pool.queue = job :: queue) (hworkers : pool.workers = [.ready])
    (hresults : pool.results = []) :
    ∃ after : Pool σ, Reaches decompiler output pool after ∧
      after.queue = queue ∧ after.workers = [.ready] ∧ after.results = [] ∧
      after.slots = pool.slots.set job.place
        (some (decompileOne decompiler output job.binary pool.world).1) ∧
      after.world = (decompileOne decompiler output job.binary pool.world).2 := by
  obtain ⟨_, _, _, slots, completed, progress, calls, world⟩ := pool
  dsimp only at hqueue hworkers hresults ⊢
  subst hqueue hworkers hresults
  have htake : Reaches decompiler output
      ⟨job :: queue, [.ready], [], slots, completed, progress, calls, world⟩
      ⟨queue, [] ++ .working job :: [], [], slots, completed, progress, calls, world⟩ :=
    .single (.take (show [Worker.ready] = [] ++ .ready :: [] from rfl) rfl)
  have hreceive := ((htake.tail (.decompile rfl)).tail (.send rfl)).tail (.receive rfl)
  exact ⟨_, hreceive, rfl, rfl, rfl, rfl, rfl⟩

/-- **One worker comes to what work on one item after the other comes to.** -/
theorem reaches_settle {done : List BinaryReport}
    (hqueue : pool.queue = (items.zipIdx done.length).filterMap fun ((binary, outcome), place) =>
      if outcome.isNone then some ⟨place, binary⟩ else none)
    (hworkers : pool.queue ≠ [] → pool.workers = [.ready]) (hresults : pool.results = [])
    (hslots : pool.slots = done.map some ++ slotsOf items) :
    ∃ after : Pool σ, Reaches decompiler output pool after ∧
      after.queue = [] ∧ after.workers = pool.workers ∧ after.results = [] ∧
      after.slots = (done ++ (settle decompiler output items pool.world).1).map some ∧
      after.world = (settle decompiler output items pool.world).2 := by
  induction items generalizing pool done with
  | nil => exact ⟨pool, .refl, hqueue, rfl, hresults, by simp [hslots, slotsOf, settle], rfl⟩
  | cons item items ih =>
    obtain ⟨binary, outcome⟩ := item
    cases outcome with
    | some outcome =>
      obtain ⟨after, hreaches, hafter⟩ := @ih pool (done ++ [⟨binary, outcome⟩])
        (by simpa [List.zipIdx_cons] using hqueue) hworkers hresults
        (by simpa [slotsOf] using hslots)
      exact ⟨after, hreaches, by simpa [settle] using hafter⟩
    | none =>
      have hnext : pool.queue = ⟨done.length, binary⟩ ::
          (items.zipIdx (done.length + 1)).filterMap fun ((binary, outcome), place) =>
            if outcome.isNone then some ⟨place, binary⟩ else none := by
        simpa [List.zipIdx_cons] using hqueue
      have hready := hworkers (by simp [hnext])
      obtain ⟨between, hreaches, hqueue', hworkers', hresults', hslots', hworld'⟩ :=
        reaches_next_job decompiler output hnext hready hresults
      generalize hone : decompileOne decompiler output binary pool.world = one at hslots' hworld'
      obtain ⟨after, hreaches', hafter⟩ := @ih between (done ++ [one.1])
        (by rw [hqueue', List.length_append, List.length_singleton]) (fun _ => hworkers') hresults'
        (by rw [hslots', hslots]; simp [slotsOf])
      refine ⟨after, hreaches.trans hreaches', ?_⟩
      rw [hworkers', hworld'] at hafter
      rw [hready, settle, hone]
      simpa using hafter

end Pool

/-- **The sequential batch is what one worker comes to.** -/
theorem exists_reaches_sequential (decompiler : Decompiler σ) (output : Path)
    (binaries : List Path) (world : World σ) :
    ∃ pool, Reaches decompiler output (start 1 binaries world) pool ∧
      Stuck decompiler output pool ∧
      pool.report binaries = (decompileAll decompiler binaries output world).1.report ∧
      pool.world = (decompileAll decompiler binaries output world).2 := by
  have hone : jobsOf (assign world.files binaries) ≠ [] →
      (start 1 binaries world).workers = [.ready] := by
    intro hne
    have hlength : min (max 1 1) (jobsOf (assign world.files binaries)).length = 1 := by
      have := List.length_pos_iff.mpr hne
      omega
    exact congrArg (List.replicate · Worker.ready) hlength
  obtain ⟨after, hreaches, hqueue, hworkers, hresults, hslots, hworld⟩ :=
    @reaches_settle _ decompiler output (assign world.files binaries) (start 1 binaries world) []
      rfl hone rfl rfl
  have hreport : List.zipWith reportOf after.slots binaries =
      (settle decompiler output (assign world.files binaries) world).1 := by
    rw [hslots, List.nil_append]
    exact zipWith_reportOf_map_some ((settles_settle _ _ _ _).length_eq.symm.trans
      (length_assign world.files binaries))
  by_cases hne : jobsOf (assign world.files binaries) = []
  · have hnone : after.workers = [] := by
      rw [hworkers]
      simp [start, hne]
    exact ⟨after, hreaches, stuck_of_left (by simp [hnone]) hresults,
      congrArg BatchReport.mk hreport, hworld⟩
  · have hready : after.workers = [] ++ .ready :: [] := hworkers.trans (hone hne)
    exact ⟨_, hreaches.tail (.leave hready hqueue), stuck_of_left (by simp) hresults,
      congrArg BatchReport.mk hreport, hworld⟩

/-! ## What a batch comes to -/

/-- A batch in which each content is decompiled once, told by its reports, which stand in the order
of the binaries, and by the calls of the decompiler. -/
structure Deduplicated (decompiler : Decompiler σ) (output : Path) (tree : FileTree)
    (binaries : List Path) (reports : List BinaryReport) (calls : List Job) : Prop where
  named : reports.map BinaryReport.binary = binaries
  /-- A binary that cannot be read fails with the cause. -/
  unreadable : ∀ (i : Nat) binary cause, binaries[i]? = some binary →
    tree.read binary = .error cause → reports[i]? = some ⟨binary, .failed (.io binary cause)⟩
  /-- A binary is passed over exactly for the first one with its digest, if that one stands in front
  of it. -/
  copied : ∀ (i : Nat) binary first, binaries[i]? = some binary →
    (reports[i]? = some ⟨binary, .duplicate first⟩ ↔
      ∃ digest, digestAt? tree binaries i = some digest ∧
        ∃ j < i, IsFirst tree binaries digest j ∧ binaries[j]? = some first)
  /-- The decompiler is called for the first binary with each digest and for no other. -/
  called : ∀ job, job ∈ calls ↔
    binaries[job.place]? = some job.binary ∧ ∃ digest, IsFirst tree binaries digest job.place
  /-- Such a binary is reported with what the decompiler answered. -/
  answered : ∀ job ∈ calls, ∃ world report,
    Answered job.binary (decompiler.decompile job.binary output world).1 report ∧
      reports[job.place]? = some report
  /-- There is one call for every digest. -/
  once : (calls.map fun job => digest? tree job.binary).Perm
    ((binaries.filterMap (digest? tree)).dedup.map some)
  /-- What a binary is passed over for is one that the decompiler was called for, which is neither
  passed over itself nor unreadable. -/
  origin : ∀ report ∈ reports, ∀ first, report.outcome = .duplicate first →
    ∃ job ∈ calls, job.binary = first ∧ (∃ content, tree.read first = .ok content) ∧
      ∀ other, reports[job.place]? = some other → other.outcome.isDuplicate = false

namespace Pool

/-- What stands at a place of the first of two lists that correspond has its counterpart at this
place of the second. -/
theorem exists_getElem?_of_forall₂ {α β : Type} {R : α → β → Prop} {l : List α} {m : List β}
    (h : List.Forall₂ R l m) {i : Nat} {a : α} (ha : l[i]? = some a) :
    ∃ b, m[i]? = some b ∧ R a b := by
  induction h generalizing i with
  | nil => cases ha
  | cons hfirst hrest ih =>
    cases i with
    | zero =>
      obtain rfl := Option.some.inj ha
      exact ⟨_, rfl, hfirst⟩
    | succ i => exact ih ha

/-- A binary is reported as a copy exactly if it is known beforehand to be one. -/
theorem getElem?_eq_duplicate_iff {reports : List BinaryReport}
    (h : List.Forall₂ (Reported (Answers decompiler output)) items reports) {i : Nat}
    {binary first : Path} :
    reports[i]? = some ⟨binary, .duplicate first⟩ ↔
      items[i]? = some (binary, some (.duplicate first)) := by
  constructor
  · intro hreport
    obtain ⟨item, hitem, hreported⟩ := exists_getElem?_of_forall₂ h.flip hreport
    obtain _ | ⟨-, hanswered⟩ := hreported
    · exact hitem
    · cases hanswered
  · intro hitem
    obtain ⟨report, hreport, ⟨⟩⟩ := exists_getElem?_of_forall₂ h hitem
    exact hreport

/-- **Where an orderly pool stops, each content was decompiled once.** -/
theorem Orderly.deduplicated {tree : FileTree} {binaries : List Path}
    (h : Orderly decompiler output (assign tree binaries) pool)
    (hstuck : Stuck decompiler output pool) :
    Deduplicated decompiler output tree binaries (pool.report binaries).binaries pool.calls := by
  have hreported := h.forall₂_reported hstuck
  obtain ⟨hqueue, hworkers, -⟩ := h.left hstuck
  have hcalls := h.perm_calls hqueue hworkers
  generalize (pool.report binaries).binaries = reports at hreported ⊢
  have hnamed : reports.map BinaryReport.binary = binaries := by
    rw [← map_fst_assign tree binaries, eq_comm, ← List.forall₂_eq_eq_eq,
      List.forall₂_map_left_iff, List.forall₂_map_right_iff]
    exact hreported.imp fun _ _ hreport => hreport.binary_eq.symm
  have hcopied : ∀ (i : Nat) binary first, binaries[i]? = some binary →
      (reports[i]? = some ⟨binary, .duplicate first⟩ ↔
        ∃ digest, digestAt? tree binaries i = some digest ∧
          ∃ j < i, IsFirst tree binaries digest j ∧ binaries[j]? = some first) :=
    fun i binary first hget =>
      (getElem?_eq_duplicate_iff hreported).trans (getElem?_assign_eq_duplicate_iff hget)
  have hcalled : ∀ job, job ∈ pool.calls ↔
      binaries[job.place]? = some job.binary ∧ ∃ digest, IsFirst tree binaries digest job.place :=
    fun job => hcalls.mem_iff.trans mem_jobsOf_assign_iff
  have hanswered : ∀ job ∈ pool.calls, ∃ world report,
      Answered job.binary (decompiler.decompile job.binary output world).1 report ∧
        reports[job.place]? = some report := by
    intro job hjob
    obtain ⟨report, hreport, hdue⟩ :=
      exists_getElem?_of_forall₂ hreported (mem_jobsOf.mp (hcalls.mem_iff.mp hjob))
    obtain _ | ⟨⟨world, rfl⟩, hanswered⟩ := hdue
    exact ⟨world, report, hanswered, hreport⟩
  refine ⟨hnamed, fun i binary cause hget hread => ?_, hcopied, hcalled, hanswered,
    (hcalls.map _).trans perm_digests_jobsOf, fun report hmem first houtcome => ?_⟩
  · obtain ⟨report, hreport, ⟨⟩⟩ :=
      exists_getElem?_of_forall₂ hreported (getElem?_assign_of_read_error hget hread)
    exact hreport
  · obtain ⟨i, hreport⟩ := List.mem_iff_getElem?.mp hmem
    have hget : binaries[i]? = some report.binary := by
      rw [← hnamed, List.getElem?_map, hreport, Option.map_some]
    have hduplicate : reports[i]? = some ⟨report.binary, .duplicate first⟩ := by
      rw [hreport, ← houtcome]
    obtain ⟨digest, -, j, -, hfirst, hj⟩ := (hcopied i _ first hget).mp hduplicate
    have hjob : ⟨j, first⟩ ∈ pool.calls := (hcalled _).mpr ⟨hj, digest, hfirst⟩
    refine ⟨_, hjob, rfl, ?_, fun other hother => ?_⟩
    · have hdigest := (digestAt?_of_getElem? hj).symm.trans hfirst.here
      cases hread : tree.read first with
      | error cause => simp [digest?_of_read_error hread] at hdigest
      | ok content => exact ⟨content, rfl⟩
    · obtain ⟨world, report, hanswer, hplace⟩ := hanswered _ hjob
      obtain rfl := Option.some.inj (hother.symm.trans hplace)
      exact hanswer.isDuplicate_eq_false

end Pool

/-- **Each content is decompiled once.** The sequential batch is one of the runs of a pool, and
every run that stops, with any number of workers and its steps in any order, has decompiled the
first binary with each digest, passed over the others for it, and failed for those that cannot be
read. A decompiler that keeps what it is given has kept the binaries of the calls. -/
theorem deduplicated_of_every_schedule (decompiler : Decompiler σ) (output : Path)
    (binaries : List Path) (world : World σ) :
    (∃ pool, Reaches decompiler output (start 1 binaries world) pool ∧
      Stuck decompiler output pool ∧
      pool.report binaries = (decompileAll decompiler binaries output world).1.report ∧
      pool.world = (decompileAll decompiler binaries output world).2) ∧
    (∀ workers (run : Nat → Pool σ), run 0 = start workers binaries world →
      ¬ ∀ n, Next decompiler output (run n) (run (n + 1))) ∧
    (∀ workers recorded,
      Reaches decompiler.recording output (start workers binaries (world.keeping [])) recorded ↔
        ∃ pool, Reaches decompiler output (start workers binaries world) pool ∧
          recorded = pool.recorded) ∧
    ∀ workers pool, Reaches decompiler output (start workers binaries world) pool →
      Stuck decompiler output pool →
      Deduplicated decompiler output world.files binaries (pool.report binaries).binaries
        pool.calls :=
  ⟨exists_reaches_sequential decompiler output binaries world, fun _ run _ => not_forall_next run,
    fun _ _ => reaches_recording_iff,
    fun _ _ hreaches hstuck => (orderly_of_reaches hreaches).deduplicated hstuck⟩

/-- Two workers and six binaries: one content twice, one path twice, a path that leads nowhere, and
a file with the same content that cannot be read. -/
theorem deduplicated_of_every_schedule_repeated :
    let binaries : List Path := [.ofString "a", .ofString "x", .ofString "b", .ofString "c",
      .ofString "a", .ofString "y"]
    let world := rootWorld [("a", .file [1] false), ("b", .file [1] false), ("c", .file [2] false),
      ("y", .file [1] ⟨false, false⟩)]
    (∃ pool, Reaches refusing (.ofString "out") (start 2 binaries world) pool ∧
      Stuck refusing (.ofString "out") pool) ∧
    ∀ pool, Reaches refusing (.ofString "out") (start 2 binaries world) pool →
      Stuck refusing (.ofString "out") pool →
      (pool.report binaries).binaries[1]? =
        some ⟨.ofString "x", .failed (.io (.ofString "x") .notFound)⟩ ∧
      (pool.report binaries).binaries[2]? = some ⟨.ofString "b", .duplicate (.ofString "a")⟩ ∧
      (pool.report binaries).binaries[4]? = some ⟨.ofString "a", .duplicate (.ofString "a")⟩ ∧
      (pool.report binaries).binaries[5]? =
        some ⟨.ofString "y", .failed (.io (.ofString "y") .accessDenied)⟩ ∧
      pool.calls.length = 2 := by
  refine ⟨exists_reaches_stuck _, fun pool hreaches hstuck => ?_⟩
  have h :=
    (deduplicated_of_every_schedule refusing (.ofString "out") _ _).2.2.2 _ _ hreaches hstuck
  refine ⟨h.unreadable 1 _ .notFound rfl (by decide +kernel), (h.copied 2 _ _ rfl).mpr ?_,
    (h.copied 4 _ _ rfl).mpr ?_, h.unreadable 5 _ .accessDenied rfl (by decide +kernel), ?_⟩
  · exact ⟨Digest.Sha256.hex [1], by decide +kernel, 0, by decide, by decide +kernel, rfl⟩
  · exact ⟨Digest.Sha256.hex [1], by decide +kernel, 0, by decide, by decide +kernel, rfl⟩
  · rw [← List.length_map, h.once.length_eq]
    decide +kernel

end FunctionSearch.Batch
