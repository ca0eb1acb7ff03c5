import ImportAtlas.Command.Run
import ImportAtlas.Proofs.Scan.Endings

/-!
# Refused commands

A command that comes to nothing leaves the file tree as it is. It comes to nothing if its settings
cannot be used, if one of its patterns is refused, if its root is no directory, or if its workers do
not start, and this is also the order in which it is told what is wrong. Commands that only ask
leave the tree as it is in any case.

## Main definitions

* `ImportAtlas.Command.scan?`: the scan that a command asks for.
* `ImportAtlas.Command.OnlyAsks`: a command that writes nothing.
* `ImportAtlas.CommandOutcome.Refuses`: the outcome of a command that comes to nothing.

## Main results

* `ImportAtlas.Request.run_refuses`: when a request is refused, with which complaint, and that the
  tree stays as it is.
-/

namespace ImportAtlas

/-- The scan that a command asks for, if it asks for one. -/
def Command.scan? : Command → Option ScanRequest
  | .build r => some r.scan
  | .modules r _ => some r
  | .query r _ _ => some r
  | .completions _ => none

/-- A command that writes nothing. Only drawings are written. -/
def Command.OnlyAsks (c : Command) : Prop := ∀ r, c ≠ .build r

/-- A command came to nothing: it failed with a complaint, printed nothing and left the tree as it
was. -/
structure CommandOutcome.Refuses (o : CommandOutcome) (t : FileTree) (c : Complaint) : Prop where
  /-- The exit code is that of a failure. -/
  code : o.code = 1
  /-- The complaint says why. -/
  complaint : o.complaint = some c
  /-- Nothing is printed. -/
  output : o.output = ""
  /-- No file is created, changed or removed. -/
  tree : o.tree = t

variable {t : FileTree}

/-- A command that failed without a trace came to nothing. -/
lemma CommandOutcome.refuses_failure (t : FileTree) (c : Complaint) (events : List Event) :
    (CommandOutcome.failure t c events).Refuses t c := ⟨rfl, rfl, rfl, rfl⟩

/-! ### Plans -/

/-- A request can be planned just if its settings can be used and its patterns are accepted, and the
plan is what it comes to under them. -/
lemma ScanRequest.plan_eq_ok_iff {s : ScanRequest} {plan : ScanPlan} {settings : Settings} :
    s.plan t = .ok (plan, settings) ↔ s.findSettings t = .ok settings ∧
      ∃ rules, s.rules settings.scanOrDefault = .ok rules ∧
        plan = s.settle settings.scanOrDefault rules := by
  unfold ScanRequest.plan
  cases s.findSettings t with
  | error e => simp
  | ok found =>
    simp only [Except.ok.injEq]
    constructor
    · intro h
      cases hrules : s.rules found.scanOrDefault with
      | error e => simp [hrules] at h
      | ok rules =>
        simp only [hrules, Except.ok.injEq, Prod.mk.injEq] at h
        obtain ⟨rfl, rfl⟩ := h
        exact ⟨rfl, rules, hrules, rfl⟩
    · rintro ⟨rfl, rules, hrules, rfl⟩
      simp only [hrules]

/-- The root of a planned scan is the one that was asked for. -/
lemma ScanRequest.root_of_plan {s : ScanRequest} {plan : ScanPlan} {settings : Settings}
    (h : s.plan t = .ok (plan, settings)) : plan.root = s.root := by
  obtain ⟨-, rules, -, rfl⟩ := plan_eq_ok_iff.1 h
  rfl

/-! ### Commands -/

/-- A request whose scan comes to nothing comes to nothing itself, whatever it asks for. -/
lemma Request.run_eq_andThen {r : Request} {s : ScanRequest} (host : Host) (t : FileTree)
    (h : r.command.scan? = some s) :
    ∃ next, r.run host t = s.andThen host.workers t next := by
  obtain ⟨voice, command⟩ := r
  cases command with
  | build b =>
    obtain rfl : b.scan = s := Option.some.inj h
    exact ⟨_, rfl⟩
  | modules b format =>
    obtain rfl : b = s := Option.some.inj h
    exact ⟨_, rfl⟩
  | query b question format =>
    obtain rfl : b = s := Option.some.inj h
    exact ⟨_, rfl⟩
  | completions shell => cases h

section Refused

variable {workers : Workers} {s : ScanRequest} {plan : ScanPlan} {settings : Settings}

/-- A request that cannot be planned is refused. -/
lemma ScanRequest.refuses_of_plan_error {e : PlanError} (workers : Workers)
    (next : ScanPlan → Settings → ScanOutcome → CommandOutcome) (h : s.plan t = .error e) :
    (s.andThen workers t next).Refuses t (e.complaint.introduce "Configuration error: ") := by
  rw [andThen, h]
  exact CommandOutcome.refuses_failure t _ _

/-- A request for a scan that comes to nothing is refused, if it can be planned. -/
lemma ScanRequest.refuses_of_fails {cause : ScanError}
    (next : ScanPlan → Settings → ScanOutcome → CommandOutcome)
    (h : s.plan t = .ok (plan, settings)) (hfails : plan.Fails workers t cause) :
    (s.andThen workers t next).Refuses t (cause.complaint.introduce "Build failed: ") := by
  obtain ⟨events, hscan⟩ := exists_scan_error_iff.2 hfails
  simp only [andThen, h, hscan]
  exact CommandOutcome.refuses_failure t _ _

/-- What only prints leaves the tree as it is, and fails just if there is no scan.

**Proof sketch.** Either there is no plan, or there is one and no scan, or the text is printed. In
the first two cases the request is refused, and in the last it succeeds. -/
lemma ScanRequest.andThen_printing (workers : Workers) (t : FileTree) (s : ScanRequest)
    (text : ScanOutcome → List String) :
    (s.andThen workers t fun _ _ o => o.printing t (text o)).tree = t ∧
      ((s.andThen workers t fun _ _ o => o.printing t (text o)).code = 0 ↔
        ∃ plan settings, s.plan t = .ok (plan, settings) ∧ t.isDirectory s.root = true ∧
          plan.start workers = .ok ()) := by
  cases hplan : s.plan t with
  | error e =>
    have hrefuses := refuses_of_plan_error workers
      (fun _ _ o => o.printing t (text o)) hplan
    exact ⟨hrefuses.tree, by simp [hrefuses.code]⟩
  | ok planned =>
    obtain ⟨plan, settings⟩ := planned
    have hroot := s.root_of_plan hplan
    have hsucceeds : (∃ o, scan workers t plan = .ok o) ↔
        t.isDirectory s.root = true ∧ plan.start workers = .ok () := hroot ▸ exists_scan_iff
    cases hscan : scan workers t plan with
    | error e =>
      have hrefuses := refuses_of_fails (fun _ _ o => o.printing t (text o)) hplan
        (exists_scan_error_iff.1 ⟨e.events, hscan⟩)
      refine ⟨hrefuses.tree, ?_⟩
      rw [hrefuses.code]
      simpa [hscan] using hsucceeds
    | ok o =>
      have hok := hsucceeds.1 ⟨o, hscan⟩
      simp [andThen, hplan, hscan, ScanOutcome.printing, CommandOutcome.code, hok]

end Refused

/-- **A request that comes to nothing leaves the tree as it is, and so does one that only asks.**

A request for a scan is refused with the complaint about its settings if they cannot be used, with
the complaint about a pattern if the settings can be used and the pattern cannot, with the complaint
about its root if all this is well and the root is no directory, and with what the system says if
nothing is wrong but that the workers do not start. A request that only asks leaves the tree as it
is in any case, and fails just if it is refused.

**Proof sketch.** A request for a scan is the scan with something behind it. What is behind it does
not run if the settings, a pattern, the root or the workers are in the way. The commands that only
ask have nothing but printing behind it. -/
theorem Request.run_refuses (r : Request) (host : Host) (t : FileTree) :
    (∀ s, r.command.scan? = some s →
      (∀ e, s.findSettings t = .error e →
        (r.run host t).Refuses t
          ((PlanError.settings e).complaint.introduce "Configuration error: ")) ∧
      (∀ settings e, s.findSettings t = .ok settings → s.rules settings.scanOrDefault = .error e →
        (r.run host t).Refuses t
          ((PlanError.rule e).complaint.introduce "Configuration error: ")) ∧
      (∀ settings rules, s.findSettings t = .ok settings →
        s.rules settings.scanOrDefault = .ok rules →
        (t.isDirectory s.root = false → (r.run host t).Refuses t
          ((t.rootError s.root).complaint.introduce "Build failed: ")) ∧
        ∀ cause, t.isDirectory s.root = true →
          (s.settle settings.scanOrDefault rules).start host.workers = .error cause →
          (r.run host t).Refuses t
            ((ScanError.workers cause).complaint.introduce "Build failed: "))) ∧
    (r.command.OnlyAsks → (r.run host t).tree = t ∧
      ((r.run host t).code = 0 ↔ ∀ s, r.command.scan? = some s →
        ∃ plan settings, s.plan t = .ok (plan, settings) ∧ t.isDirectory s.root = true ∧
          plan.start host.workers = .ok ())) := by
  refine ⟨fun s hs => ?_, fun hasks => ?_⟩
  · obtain ⟨next, hrun⟩ := r.run_eq_andThen host t hs
    rw [hrun]
    refine ⟨fun e he => ?_, fun settings e hsettings he => ?_,
      fun settings rules hsettings hrules => ?_⟩
    · exact s.refuses_of_plan_error host.workers next (by simp [ScanRequest.plan, he])
    · exact s.refuses_of_plan_error host.workers next (by simp [ScanRequest.plan, hsettings, he])
    · have hplan : s.plan t = .ok (s.settle settings.scanOrDefault rules, settings) := by
        simp [ScanRequest.plan, hsettings, hrules]
      exact ⟨fun hroot => s.refuses_of_fails next hplan (.of_root host.workers hroot),
        fun cause hroot hstart => s.refuses_of_fails next hplan (.of_start hroot hstart)⟩
  · obtain ⟨voice, command⟩ := r
    cases command with
    | build b => exact absurd rfl (hasks b)
    | modules s format =>
      obtain ⟨htree, hcode⟩ :=
        s.andThen_printing host.workers t fun o => [format.registryText o.registry]
      exact ⟨htree, hcode.trans (by simp [Command.scan?])⟩
    | query s question format =>
      obtain ⟨htree, hcode⟩ :=
        s.andThen_printing host.workers t fun o => [question.answer o.graph format]
      exact ⟨htree, hcode.trans (by simp [Command.scan?])⟩
    | completions shell =>
      exact ⟨rfl, by simp [Command.scan?, run, Command.run, CommandOutcome.code]⟩

end ImportAtlas
