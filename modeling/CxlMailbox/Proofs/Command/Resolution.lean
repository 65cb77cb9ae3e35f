/-
# CxlMailbox.Proofs.Command.Resolution — a command is resolved once

A command fetches its catalog at most once and is looked up in it at most once:

* a query without a catalog is one exchange if the backend fails the first round, and else two,
  the second offering as many slots as the first counted; a query that fails leaves the command
  as it was (`query_error`);
* a cached catalog stays, and no later operation queries (`performAll_cached`);
* a resolution other than `notRun` stays, and so do the index and the id (`performAll_resolved`);
* the index is there exactly for a command that was found (`Command.InStep`), so an unsupported
  command refuses everything without asking the backend (`unsupported_refuses`).

`resolution_settles` says all of it for every session, hence for every point of every history.
-/
import CxlMailbox.Proofs.Command.Frame
import CxlMailbox.Proofs.Command.Step
import CxlMailbox.Proofs.Exchange
import CxlMailbox.Script

namespace CxlMailbox

set_option autoImplicit false

variable {δ : Type}

/-! ## What every step keeps -/

/-- Whether a look-up has found the id. -/
def Resolution.isFound : Resolution → Bool
  | found => true
  | _ => false

theorem Resolution.isFound_iff {resolution : Resolution} :
    resolution.isFound = true ↔ resolution = .found := by
  cases resolution <;> simp [isFound]

namespace Command

variable {c c' : Command}

/-- The index is there for a command that was found in its catalog, and for no other. -/
def InStep (c : Command) : Prop := c.index?.isSome = c.resolution.isFound

theorem InStep.index?_eq_none (inStep : c.InStep) (unfound : c.resolution.isFound = false) :
    c.index? = none := by
  rwa [InStep, unfound, Option.isSome_eq_false_iff, Option.isNone_iff_eq_none] at inStep

theorem queryVerdict?_eq_none_iff :
    c.queryVerdict? = none ↔ c.resolution = .notRun ∧ c.catalog = none := by
  rcases at_ : c.resolution with _ | _ | _ <;> simp [queryVerdict?, at_]

/-- Only a command that was found in its catalog can be sent. -/
theorem sendFault?_eq_none_iff : c.sendFault? = none ↔ c.resolution.isFound = true := by
  rcases at_ : c.resolution with _ | _ | _ <;> simp [sendFault?, at_, Resolution.isFound]

/-- A step brings the catalog, or looks the id up in it, or concerns payloads and status only. -/
theorem Step.settles (step : c.Step c') :
    (c.queryVerdict? = none ∧ ∃ catalog, c' = c.receiveCatalog catalog) ∨
    (∃ id, c' = (c.validate id).2) ∨
    ∃ input output outSize status, c' = { c with input, output, outSize, status } := by
  cases step with
  | fetched unsettled catalog => exact .inl ⟨unsettled, catalog, rfl⟩
  | validated id => exact .inr (.inl ⟨id, rfl⟩)
  | allocated id =>
      obtain ⟨_, _, _, same⟩ := c.allocSend_eq id
      exact .inr (.inr ⟨_, _, _, _, same⟩)
  | inputSet buffer? size =>
      obtain ⟨_, same⟩ := c.setInput_eq buffer? size
      exact .inr (.inr ⟨_, _, _, _, same⟩)
  | outputSet buffer? size =>
      obtain ⟨_, _, same⟩ := c.setOutput_eq buffer? size
      exact .inr (.inr ⟨_, _, _, _, same⟩)
  | inputWritten data =>
      obtain ⟨_, same⟩ := c.writeInput_eq data
      exact .inr (.inr ⟨_, _, _, _, same⟩)
  | same | undelivered | delivered => exact .inr (.inr ⟨_, _, _, _, rfl⟩)

theorem Step.catalog (step : c.Step c') {catalog : List CatalogEntry}
    (cached : c.catalog = some catalog) : c'.catalog = some catalog := by
  rcases step.settles with ⟨unsettled, -, -⟩ | ⟨id, rfl⟩ | ⟨_, _, _, _, rfl⟩
  · simp [(queryVerdict?_eq_none_iff.mp unsettled).2] at cached
  · obtain ⟨_, _, _, same⟩ := c.validate_eq id
    rw [same, ← cached]
  · exact cached

theorem Step.resolved (step : c.Step c') (resolved : c.resolution ≠ .notRun) :
    c'.resolution = c.resolution ∧ c'.index? = c.index? ∧ c'.id = c.id := by
  rcases step.settles with ⟨unsettled, -, -⟩ | ⟨id, rfl⟩ | ⟨_, _, _, _, rfl⟩
  · exact absurd (queryVerdict?_eq_none_iff.mp unsettled).1 resolved
  · simp [validate_resolved resolved]
  · exact ⟨rfl, rfl, rfl⟩

/-- A look-up writes the index together with the resolution. -/
theorem validate_inStep (inStep : c.InStep) (id : UInt32) : (c.validate id).2.InStep := by
  by_cases resolved : c.resolution = .notRun
  · simp only [validate, resolved]
    split
    · exact inStep
    · split <;> rfl
  · rw [validate_resolved resolved]
    exact inStep

theorem Step.inStep (step : c.Step c') (inStep : c.InStep) : c'.InStep := by
  rcases step.settles with ⟨-, catalog, rfl⟩ | ⟨id, rfl⟩ | ⟨_, _, _, _, rfl⟩
  · exact inStep
  · exact validate_inStep inStep id
  · exact inStep

end Command

/-! ## Histories -/

namespace Operation

variable {backend : Backend δ} {s : Session δ}

/-- Once the catalog is cached, it stays and nobody asks for it again. -/
theorem performAll_cached {catalog : List CatalogEntry} (cached : s.command.catalog = some catalog)
    (ops : List Operation) :
    (performAll backend ops s).command.catalog = some catalog ∧
      ∀ exchange ∈ (performAll backend.recorded ops s.recording).exchanges,
        exchange.isQuery = false := by
  constructor
  · exact performAll_keeps (P := fun t => t.command.catalog = some catalog)
      (fun op t => (op.perform_step backend t).catalog) ops cached
  · refine (performAll_keeps (P := fun t => t.command.catalog = some catalog ∧
      ∀ exchange ∈ t.exchanges, exchange.isQuery = false) ?_ ops ⟨cached, by simp⟩).2
    rintro op t ⟨cached, silent⟩
    refine ⟨(op.perform_step backend.recorded t).catalog cached, ?_⟩
    obtain ⟨new, made, talks⟩ := op.perform_exchanges backend t
    rw [made]
    intro exchange member
    rcases List.mem_append.mp member with old | fresh
    · exact silent exchange old
    · rcases talks exchange fresh with ⟨-, -, unsettled⟩ | ⟨sends, -, -⟩
      · simp [(Command.queryVerdict?_eq_none_iff.mp unsettled).2] at cached
      · cases exchange
        · cases sends
        · rfl

/-- Once a command is resolved, its resolution, its index and its id stay. -/
theorem performAll_resolved (backend : Backend δ) {s : Session δ}
    (resolved : s.command.resolution ≠ .notRun) (ops : List Operation) :
    (performAll backend ops s).command.resolution = s.command.resolution ∧
      (performAll backend ops s).command.index? = s.command.index? ∧
      (performAll backend ops s).command.id = s.command.id := by
  refine performAll_keeps (P := fun t => t.command.resolution = s.command.resolution ∧
    t.command.index? = s.command.index? ∧ t.command.id = s.command.id) ?_ ops ⟨rfl, rfl, rfl⟩
  rintro op t ⟨sameResolution, sameIndex, sameId⟩
  obtain ⟨resolution, index, id⟩ :=
    (op.perform_step backend t).resolved (by rwa [sameResolution])
  exact ⟨resolution.trans sameResolution, index.trans sameIndex, id.trans sameId⟩

/-- The index stays in step with the resolution. -/
theorem performAll_inStep (inStep : s.command.InStep) (ops : List Operation) :
    (performAll backend ops s).command.InStep :=
  performAll_keeps (P := fun t => t.command.InStep)
    (fun op t => (op.perform_step backend t).inStep) ops inStep

end Operation

namespace Session

variable {backend : Backend δ} {s : Session δ}

theorem query_error {e : Error} (failed : (query backend s).1 = .error e) :
    (query backend s).2.command = s.command := by
  rcases settled : s.command.queryVerdict? with _ | verdict
  · rcases query_cases backend settled with
      ⟨e, log, -, ran⟩ | ⟨count, -, ⟨e, log, -, ran⟩ | ⟨header, log, -, ran⟩⟩
    · rw [ran, moved_command]
    · rw [ran, moved_command]
    · rw [ran] at failed
      cases failed
  · rw [query_settled settled]

/-- A look-up of a resolved command leaves the session as it is. -/
theorem validate_of_resolved (resolved : s.command.resolution ≠ .notRun) (id : UInt32) :
    validate id s = ((s.command.validate id).1, s) := by
  have quiet : ¬(s.command.resolution = .notRun ∧ s.command.catalog.isSome = true) :=
    fun h => resolved h.1
  rw [validate, Effect.bind_ok (current_apply s)]
  simp only [quiet, if_false]
  rw [inCommand_apply, Command.validate_resolved resolved]
  rfl

theorem validate_found (found : s.command.resolution = .found) (id : UInt32) :
    validate id s =
      if id = s.command.id then (.ok (), s) else (.error (.invalidState .alreadyValidated), s) := by
  rw [validate_of_resolved (by simp [found])]
  simp only [Command.validate, found]
  split <;> rfl

/-- An unsupported command refuses everything, and the session stays as it is. -/
theorem unsupported_refuses (backend : Backend δ) {s : Session δ}
    (unsupported : s.command.resolution = .unsupported) (inStep : s.command.InStep) (id : UInt32) :
    query backend s = (.error (.unsupported s.command.id), s) ∧
      validate id s = (.error (.unsupported s.command.id), s) ∧
      submit backend s = (.error (.unsupported s.command.id), s) ∧
      allocSend id s = (.error (.invalidState .notValidated), s) := by
  refine ⟨query_settled (by simp [Command.queryVerdict?, unsupported]), ?_,
    submit_refused (by simp [Command.sendFault?, unsupported]), ?_⟩
  · rw [validate_of_resolved (by simp [unsupported])]
    simp [Command.validate, unsupported]
  · have absent : s.command.index? = none := inStep.index?_eq_none (by rw [unsupported]; rfl)
    rw [allocSend_apply]
    simp [Command.allocSend, Command.entry?, absent, withCommand]

/-- A look-up that finds no entry makes the command unsupported, under the id it did not find. -/
theorem validate_missing {catalog : List CatalogEntry} (unresolved : s.command.resolution = .notRun)
    (cached : s.command.catalog = some catalog) {id : UInt32}
    (missing : ∀ entry ∈ catalog, entry.id ≠ id) :
    (validate id s).1 = .error (.unsupported id) ∧
      (validate id s).2.command.resolution = .unsupported ∧
      (validate id s).2.command.id = id := by
  have unmatched : (catalog.findIdx? fun entry => entry.id == id) = none := by
    simpa [List.findIdx?_eq_none_iff] using missing
  obtain ⟨log, ran⟩ := validate_apply id s
  rw [ran]
  simp [Command.validate, unresolved, cached, unmatched]

end Session

/-- **A command fetches one catalog and is resolved in it for good.** -/
theorem resolution_settles (backend : Backend δ) (s : Session δ) :
    -- A query that has to be made is one exchange if the first round fails, and else two.
    (s.command.resolution = .notRun → s.command.catalog = none →
      (∃ e written,
        (Session.query backend s).1 = .error e ∧
        Drive.exchanges (Session.query backend.recorded) s =
          [.query s.command.device (.withCapacity 0) (.error e) written]) ∨
      ∃ count written verdict written',
        (Session.query backend s).1 = verdict.map (fun _ => ()) ∧
        Drive.exchanges (Session.query backend.recorded) s =
          [.query s.command.device (.withCapacity 0) (.ok count) written,
            .query s.command.device (.withCapacity count) verdict written']) ∧
    (∀ e, (Session.query backend s).1 = .error e →
      (Session.query backend s).2.command = s.command) ∧
    -- A cached catalog is never fetched again.
    (∀ catalog, s.command.catalog = some catalog → ∀ ops,
      (Operation.performAll backend ops s).command.catalog = some catalog ∧
      ∀ exchange ∈ (Operation.performAll backend.recorded ops s.recording).exchanges,
        exchange.isQuery = false) ∧
    -- A resolved command keeps its resolution, its index and its id.
    (s.command.resolution ≠ .notRun → ∀ ops,
      (Operation.performAll backend ops s).command.resolution = s.command.resolution ∧
      (Operation.performAll backend ops s).command.index? = s.command.index? ∧
      (Operation.performAll backend ops s).command.id = s.command.id) ∧
    (s.command.resolution = .found → ∀ id,
      Session.validate id s =
        if id = s.command.id then (.ok (), s)
        else (.error (.invalidState .alreadyValidated), s)) ∧
    -- A new command has no index, and only a look-up that finds its id brings one.
    ((∀ info, (Command.unvalidated info).InStep) ∧
      (s.command.InStep → ∀ ops, (Operation.performAll backend ops s).command.InStep)) ∧
    -- An unsupported command names the id that was not found, and asks nobody.
    (∀ catalog id, s.command.resolution = .notRun → s.command.catalog = some catalog →
      (∀ entry ∈ catalog, entry.id ≠ id) →
      (Session.validate id s).1 = .error (.unsupported id) ∧
      (Session.validate id s).2.command.resolution = .unsupported ∧
      (Session.validate id s).2.command.id = id) ∧
    (s.command.resolution = .unsupported → s.command.InStep → ∀ ops id,
      let t := Operation.performAll backend ops s
      Session.query backend t = (.error (.unsupported s.command.id), t) ∧
      Session.validate id t = (.error (.unsupported s.command.id), t) ∧
      Session.submit backend t = (.error (.unsupported s.command.id), t) ∧
      Session.allocSend id t = (.error (.invalidState .notValidated), t)) := by
  refine ⟨?_, fun e => Session.query_error,
    fun catalog cached => Operation.performAll_cached cached,
    Operation.performAll_resolved backend, Session.validate_found,
    ⟨fun _ => rfl, fun inStep ops => Operation.performAll_inStep inStep ops⟩,
    fun catalog id unresolved cached => Session.validate_missing unresolved cached, ?_⟩
  · intro unresolved uncached
    have unsettled : s.recording.command.queryVerdict? = none :=
      Command.queryVerdict?_eq_none_iff.mpr ⟨unresolved, uncached⟩
    have answer := (Session.query_follows backend.recorded_follows).answer_recording s
    rw [answer.1]
    exact Session.query_exchanges backend unsettled
  · intro unsupported inStep ops id
    have resolved : s.command.resolution ≠ .notRun := by simp [unsupported]
    have kept := Operation.performAll_resolved backend resolved ops
    have refuses := Session.unsupported_refuses backend (kept.1.trans unsupported)
      (Operation.performAll_inStep inStep ops) id
    rwa [kept.2.2] at refuses

/-! ## One catalog, looked up twice -/

/-- A new command of a device that offers label reads only. -/
def Session.fresh : Session Script :=
  ⟨.unvalidated {},
    { device := { catalog? := some [.enabled CommandId.getLabels 8 variableSize] } }⟩

/-- The same command after its catalog was fetched and an id looked up. -/
def Session.lookedUp (id : UInt32) : Session Script :=
  Operation.performAll Script.backend [.query, .validate id] .fresh

/-- The new command asks the device, the look-up that found its entry stays at it, and the one
that did not is refused under its id, whatever is done in between. -/
theorem lookups_settled :
    Drive.exchanges (Session.query Script.backend.recorded) .fresh ≠ [] ∧
      (∀ ops, (Operation.performAll Script.backend ops
        (.lookedUp CommandId.getLabels)).command.index? = some 0) ∧
      ∀ ops, (Session.submit Script.backend (Operation.performAll Script.backend ops
        (.lookedUp CommandId.setLabels))).1 = .error (.unsupported CommandId.setLabels) := by
  refine ⟨?_, fun ops => ?_, fun ops => ?_⟩
  · rcases (resolution_settles Script.backend .fresh).1 rfl rfl with
      ⟨e, written, -, made⟩ | ⟨count, written, verdict, written', -, made⟩ <;>
      simp [made]
  · obtain ⟨-, -, -, keeps, -⟩ :=
      resolution_settles Script.backend (.lookedUp CommandId.getLabels)
    exact (keeps (by decide +kernel) ops).2.1
  · obtain ⟨-, -, -, -, -, -, -, refuses⟩ :=
      resolution_settles Script.backend (.lookedUp CommandId.setLabels)
    exact congrArg Prod.fst (refuses rfl rfl ops 0).2.2.1

end CxlMailbox
