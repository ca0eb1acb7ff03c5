import ImportAtlas.Scan.Run
import Mathlib.Tactic.Lemma

/-!
# How a scan ends

A scan comes to nothing if its root is no directory, or if the system does not start its workers.
Otherwise it ends with the outcome of a schedule of all files that the walk finds. So what holds of
all schedules holds of every scan that does not come to nothing.

## Main definitions

* `ImportAtlas.ScanPlan.Fails`: the reasons why a scan comes to nothing.

## Main results

* `ImportAtlas.Schedule.files_forWorkers`: workers share all files.
* `ImportAtlas.exists_scan_iff`: a scan succeeds just if its root is a directory and its workers
  start.
* `ImportAtlas.exists_scan_error_iff`: a scan comes to nothing for just these reasons.
* `ImportAtlas.forall_scan`, `ImportAtlas.forall_scan_pair`, `ImportAtlas.forall_scan_jobs`: what
  holds of schedules holds of scans, of two plans for the same files, and of two numbers of workers.
-/

namespace ImportAtlas

variable {workers : Workers} {t : FileTree} {plan : ScanPlan}

/-! ### Sharing files -/

namespace Schedule

/-- The pieces of a list make up the list. -/
lemma flatten_pieces {α : Type} (size : Nat) (l : List α) : (pieces size l).flatten = l := by
  induction l using pieces.induct size with
  | case1 => simp [pieces]
  | case2 x rest ih => simp [pieces, ih]

/-- Workers that share the files have all files between them, in their order. -/
lemma files_forWorkers (workers : Nat) (fs : List FoundFile) :
    (forWorkers workers fs).files = fs := by
  have hjoin : ∀ (parts : List (List FoundFile)) (s : Schedule),
      (parts.foldl (fun s piece => .join s (.part piece)) s).files = s.files ++ parts.flatten := by
    intro parts
    induction parts with
    | nil => simp
    | cons part rest ih =>
      intro s
      rw [List.foldl_cons, ih]
      simp [Schedule.files]
  unfold forWorkers
  split
  · rfl
  · rw [hjoin, flatten_pieces]
    rfl

end Schedule

/-! ### Roots -/

/-- A directory exists. -/
lemma FileTree.exists?_of_isDirectory {path : Path} (h : t.isDirectory path = true) :
    t.exists? path = true := by
  unfold isDirectory at h
  unfold exists?
  split at h
  · rename_i hentry
    rw [hentry]
    rfl
  · cases h

/-- What is wrong with a root that is no directory. -/
def FileTree.rootError (t : FileTree) (root : Path) : RootError :=
  if t.exists? root then .notDirectory root else .missing root

/-- Nothing is scanned below a root that is no directory. -/
lemma scan_of_not_isDirectory (h : t.isDirectory plan.root = false) :
    scan workers t plan = .error ⟨.root (t.rootError plan.root), []⟩ := by
  unfold scan FileTree.rootError
  cases t.exists? plan.root <;> simp [h]

/-- Below a directory the files are scanned, if the workers start. -/
lemma scan_of_isDirectory (h : t.isDirectory plan.root = true) :
    scan workers t plan =
      match plan.start workers with
      | .error cause => .error ⟨.workers cause, plan.opening
          (foundFiles t plan.root plan.noIgnore).1 (foundFiles t plan.root plan.noIgnore).2⟩
      | .ok () => .ok (scanFiles plan
          (.forWorkers plan.jobs (foundFiles t plan.root plan.noIgnore).1)
          (foundFiles t plan.root plan.noIgnore).2) := by
  rw [scan, FileTree.exists?_of_isDirectory h, h]
  rfl

/-! ### Successes and failures -/

/-- **A scan succeeds just if its root is a directory and its workers start.** -/
lemma exists_scan_iff :
    (∃ o, scan workers t plan = .ok o) ↔
      t.isDirectory plan.root = true ∧ plan.start workers = .ok () := by
  cases hroot : t.isDirectory plan.root with
  | false => simp [scan_of_not_isDirectory hroot]
  | true =>
    rw [scan_of_isDirectory hroot]
    cases plan.start workers <;> simp

/-- Why the scan of a file tree by a plan comes to nothing. -/
inductive ScanPlan.Fails (workers : Workers) (t : FileTree) (plan : ScanPlan) :
    ScanError → Prop where
  /-- The root does not exist. -/
  | missing (h : t.exists? plan.root = false) : Fails workers t plan (.root (.missing plan.root))
  /-- The root is something else than a directory. -/
  | notDirectory (hexists : t.exists? plan.root = true) (h : t.isDirectory plan.root = false) :
      Fails workers t plan (.root (.notDirectory plan.root))
  /-- The root is a directory, and the system does not start the workers that the plan has a number
  of. -/
  | workers {cause : String} (hroot : t.isDirectory plan.root = true) (hjobs : plan.jobs ≠ 0)
      (h : workers plan.jobs = .error cause) : Fails workers t plan (.workers cause)

/-- **A scan comes to nothing for just these reasons.**

**Proof sketch.** Forwards, the root is looked at first and the workers start after it, so that the
two tests of the root and the start of the workers tell which exit was taken. Backwards, each reason
takes its exit. -/
lemma exists_scan_error_iff {cause : ScanError} :
    (∃ events, scan workers t plan = .error ⟨cause, events⟩) ↔ plan.Fails workers t cause := by
  constructor
  · rintro ⟨events, hscan⟩
    cases hroot : t.isDirectory plan.root with
    | false =>
      rw [scan_of_not_isDirectory hroot, FileTree.rootError] at hscan
      cases hexists : t.exists? plan.root with
      | false =>
        obtain rfl : ScanError.root (.missing plan.root) = cause := by simp_all
        exact .missing hexists
      | true =>
        obtain rfl : ScanError.root (.notDirectory plan.root) = cause := by simp_all
        exact .notDirectory hexists hroot
    | true =>
      rw [scan_of_isDirectory hroot, ScanPlan.start] at hscan
      by_cases hjobs : plan.jobs = 0
      · simp [hjobs] at hscan
      rw [if_neg hjobs] at hscan
      cases hworkers : workers plan.jobs with
      | ok started => simp [hworkers] at hscan
      | error told =>
        obtain rfl : ScanError.workers told = cause := by simp_all
        exact .workers hroot hjobs hworkers
  · intro hfails
    cases hfails with
    | missing h => exact ⟨[], by simp [scan, h]⟩
    | notDirectory hexists h => exact ⟨[], by simp [scan, hexists, h]⟩
    | workers hroot hjobs h =>
      rw [scan_of_isDirectory hroot, ScanPlan.start, if_neg hjobs, h]
      exact ⟨_, rfl⟩

/-- A root that is no directory is a reason. -/
lemma ScanPlan.Fails.of_root (workers : Workers) (h : t.isDirectory plan.root = false) :
    plan.Fails workers t (.root (t.rootError plan.root)) :=
  exists_scan_error_iff.1 ⟨[], scan_of_not_isDirectory h⟩

/-- Workers that do not start are a reason. -/
lemma ScanPlan.Fails.of_start {cause : String} (hroot : t.isDirectory plan.root = true)
    (h : plan.start workers = .error cause) : plan.Fails workers t (.workers cause) :=
  exists_scan_error_iff.1 ⟨_, by rw [scan_of_isDirectory hroot, h]⟩

/-! ### What holds of all scans -/

/-- What holds of all schedules, whatever their files, holds of the scan of a file tree with the
files that the walk finds. Without a scan there is a reason for it. -/
lemma forall_scan {P : ScanOutcome → List FoundFile → Prop}
    (h : ∀ schedule failures, P (scanFiles plan schedule failures) schedule.files)
    (workers : Workers) (t : FileTree) :
    match scan workers t plan with
    | .ok outcome => P outcome (foundFiles t plan.root plan.noIgnore).1
    | .error e => plan.Fails workers t e.cause := by
  cases hscan : scan workers t plan with
  | error e => exact exists_scan_error_iff.1 ⟨e.events, hscan⟩
  | ok outcome =>
    obtain ⟨hroot, hstart⟩ := exists_scan_iff.1 ⟨outcome, hscan⟩
    rw [scan_of_isDirectory hroot, hstart] at hscan
    obtain rfl := Except.ok.inj hscan
    have hfiles := h (.forWorkers plan.jobs (foundFiles t plan.root plan.noIgnore).1)
      (foundFiles t plan.root plan.noIgnore).2
    rwa [Schedule.files_forWorkers] at hfiles

/-- What holds of two plans whenever they scan the same files, in whatever order, holds of the scans
of a file tree by two plans that find the same files, if the workers of both start or neither. If
one of them fails, so does the other, for the same reason. -/
lemma forall_scan_pair {p q : ScanPlan} {P : ScanOutcome → ScanOutcome → Prop}
    (hroot : p.root = q.root) (hignore : p.noIgnore = q.noIgnore)
    (hstart : p.start workers = q.start workers)
    (h : ∀ s t failures, s.files.Perm t.files → P (scanFiles p s failures) (scanFiles q t failures))
    (t : FileTree) :
    match scan workers t p, scan workers t q with
    | .ok o, .ok o' => P o o'
    | .error e, .error e' => e.cause = e'.cause
    | _, _ => False := by
  cases hdirectory : t.isDirectory q.root with
  | false =>
    rw [scan_of_not_isDirectory hdirectory, scan_of_not_isDirectory (hroot ▸ hdirectory), hroot]
  | true =>
    rw [scan_of_isDirectory hdirectory, scan_of_isDirectory (hroot ▸ hdirectory), hstart]
    cases q.start workers with
    | error cause => rfl
    | ok started =>
      simp only [hroot, hignore]
      apply h
      rw [Schedule.files_forWorkers, Schedule.files_forWorkers]

/-- What holds of a plan whenever it scans the same files, in whatever order, holds of the scans of
a file tree by two numbers of workers that both start. If one of them fails, so does the other, in
the same way. -/
lemma forall_scan_jobs {P : ScanOutcome → ScanOutcome → Prop} {jobs : Nat}
    (hstart : plan.start workers = .ok ())
    (hstart' : { plan with jobs := jobs }.start workers = .ok ())
    (h : ∀ s t failures, s.files.Perm t.files →
      P (scanFiles plan s failures) (scanFiles plan t failures))
    (t : FileTree) :
    match scan workers t plan, scan workers t { plan with jobs := jobs } with
    | .ok o, .ok o' => P o o'
    | .error e, .error e' => e = e'
    | _, _ => False := by
  cases hroot : t.isDirectory plan.root with
  | false =>
    have hother : t.isDirectory { plan with jobs := jobs }.root = false := hroot
    rw [scan_of_not_isDirectory hroot, scan_of_not_isDirectory hother]
  | true =>
    have hother : t.isDirectory { plan with jobs := jobs }.root = true := hroot
    rw [scan_of_isDirectory hroot, scan_of_isDirectory hother, hstart, hstart']
    apply h
    rw [Schedule.files_forWorkers, Schedule.files_forWorkers]

end ImportAtlas
