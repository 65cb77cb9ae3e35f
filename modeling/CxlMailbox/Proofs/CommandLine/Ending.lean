/-
# CxlMailbox.Proofs.CommandLine.Ending — how a run ends

A run opens a backend, looks its device up and carries its command out; `Succeeds` is a run whose
steps all succeed, and `FailsAt` one that fails in a step, with a failure.  What is told of a
failure depends on the step (`Step.told`):

* `serve_ending`: a run on an open backend ends as the look-up or the command does;
* `FailsAt.early`: the failures in front of a command are of four kinds, and
  `Early.diagnosis_ne_message` tells their diagnosis from their message;
* `run_ends`: a run ends with code 0 and no report, or with code 1 and the report of its failure;
  this is the failure's message exactly if the command itself failed.  Neither the host with its
  driver nor what reads the command line matters.

`missing_device_diagnosed` is a run whose report is not the message.
-/
import CxlMailbox.Proofs.CommandLine.Backend

namespace CxlMailbox.CommandLine

set_option autoImplicit false

open Effect

/-! ## Steps -/

/-- The steps of a run. -/
inductive Step where
  | opening
  | lookUp
  | command
  deriving DecidableEq, Repr

/-- What is told of a failure in a step. -/
def Step.told : Step → Failure → String
  | .opening, failure | .lookUp, failure => failure.diagnosis
  | .command, failure => failure.message

section

variable {δ : Type}

/-- The devices that a new registry finds, and the world after the search. -/
def search (backend : Backend δ) (world : World δ) : List DeviceInfo × World δ :=
  let ((devices, _), found) := (Registry.create >>= Registry.devices backend) world
  (devices, found)

/-- The command that a request stands for, if its device is there. -/
def commandOf (backend : Backend δ) (now : UInt64) (devices : List DeviceInfo) :
    Request → Except Failure (Task δ Failure Unit)
  | .list asJson => .ok (Report.list asJson devices)
  | .on name operation =>
    (Report.findDevice devices name).map fun info => Report.perform backend info now operation

/-- A run on a backend ends as the look-up or else the command does. -/
theorem serve_ending (backend : Backend δ) (now : UInt64) (request : Request) (world : World δ) :
    (serve backend now request world).1 =
      match commandOf backend now (search backend world).1 request with
      | .error failure => .notStarted failure
      | .ok task => .ofResult (task (search backend world).2).1 := by
  rcases created : Registry.create world with ⟨registry, made⟩
  rcases searched : Registry.devices backend registry made with ⟨⟨devices, after⟩, found⟩
  have known : search backend world = (devices, found) := by
    simp only [search, bind, StateT.bind, created, searched]
  rw [known]
  cases request with
  | list asJson =>
      simp only [serve, bind, StateT.bind, created, searched]
      rfl
  | on name operation =>
      simp only [serve, commandOf, bind, StateT.bind, created, searched]
      cases Report.findDevice devices name <;> rfl

end

section

variable {σ ω : Type}

/-- A backend is open for a command line, in this world. -/
inductive Opens (host : Host σ) (invocation : Invocation) :
    {δ : Type} → Backend δ → World δ → Prop where
  | host {roots : SysfsRoots} {world : World σ}
      (chose : choose invocation host.world = (.ok (.host roots), world)) :
      Opens host invocation (Sysfs.backend roots host.driver) world
  | emulated {world : World σ} (chose : choose invocation host.world = (.ok .emulated, world)) :
      Opens host invocation Emulator.backend { world with device := Emulator.ofConfigs [{}] }

/-- The world of a run after the emulated backend was opened. -/
def emulatedWorld (host : Host σ) (invocation : Invocation) : World Emulator :=
  { (choose invocation host.world).2 with device := Emulator.ofConfigs [{}] }

theorem opens_emulated {host : Host σ} {invocation : Invocation}
    (chosen : answer invocation = .ok .emulated) :
    Opens host invocation Emulator.backend (emulatedWorld host invocation) := by
  obtain ⟨log, chose⟩ := choose_yields invocation host.world
  have first := congrArg Prod.fst chose
  rw [chosen] at first
  exact .emulated (Prod.ext first rfl)

/-- A run that fails in a step. -/
inductive FailsAt (host : Host σ) (invocation : Invocation) : Step → Failure → Prop where
  | opening {failure : Failure} {world : World σ}
      (refused : choose invocation host.world = (.error failure, world)) :
      FailsAt host invocation .opening failure
  | lookUp {δ : Type} {backend : Backend δ} {world : World δ} {failure : Failure}
      (opens : Opens host invocation backend world)
      (absent : commandOf backend host.now (search backend world).1 invocation.request =
        .error failure) :
      FailsAt host invocation .lookUp failure
  | command {δ : Type} {backend : Backend δ} {world : World δ} {task : Task δ Failure Unit}
      {failure : Failure} (opens : Opens host invocation backend world)
      (present : commandOf backend host.now (search backend world).1 invocation.request = .ok task)
      (failed : (task (search backend world).2).1 = .error failure) :
      FailsAt host invocation .command failure

/-- A run whose steps all succeed. -/
inductive Succeeds (host : Host σ) (invocation : Invocation) : Prop where
  | done {δ : Type} {backend : Backend δ} {world : World δ} {task : Task δ Failure Unit}
      (opens : Opens host invocation backend world)
      (present : commandOf backend host.now (search backend world).1 invocation.request = .ok task)
      (did : (task (search backend world).2).1 = .ok ())

variable {host : Host σ} {invocation : Invocation}

/-- On an open backend a command line ends as the backend is served. -/
theorem execute_of_opens {δ : Type} {backend : Backend δ} {world : World δ}
    (opens : Opens host invocation backend world) :
    let ending := (serve backend host.now invocation.request world).1
    (execute host invocation).exitCode = ending.exitCode ∧
      (execute host invocation).stderr = ending.report := by
  cases opens with
  | host chose | emulated chose =>
      simp only [execute, ExceptT.run, chose]
      exact ⟨rfl, rfl⟩

/-- A run whose steps do not all succeed fails in one of them. -/
theorem succeeds_or_failsAt (host : Host σ) (invocation : Invocation) :
    Succeeds host invocation ∨ ∃ step failure, FailsAt host invocation step failure := by
  -- behind the opening the steps are the same on every backend
  have served {δ : Type} {backend : Backend δ} {world : World δ}
      (opens : Opens host invocation backend world) :
      Succeeds host invocation ∨ ∃ step failure, FailsAt host invocation step failure := by
    rcases begun : commandOf backend host.now (search backend world).1 invocation.request with
      failure | task
    · exact .inr ⟨_, _, .lookUp opens begun⟩
    · rcases ended : (task (search backend world).2).1 with failure | ⟨⟩
      · exact .inr ⟨_, _, .command opens begun ended⟩
      · exact .inl (.done opens begun ended)
  rcases chose : choose invocation host.world with ⟨failure | roots | _, world⟩
  · exact .inr ⟨_, _, .opening chose⟩
  · exact served (.host chose)
  · exact served (.emulated chose)

end

/-! ## Failures in front of a command -/

/-- The failures that keep a command from being started. -/
inductive Early : Failure → Prop where
  | malformedSetting (piece : String) : Early (.malformedSetting piece)
  | unknownBackend (name : String) : Early (.unknownBackend name)
  | invalidParameter (parameter reason : String) :
      Early (.sysfs (.invalidParameter parameter reason))
  | deviceNotFound (name : String) : Early (.deviceNotFound name)

theorem append_ne_append {front front' : String} (n : Nat)
    (long : n ≤ front.toList.length ∧ n ≤ front'.toList.length)
    (differ : front.toList.take n ≠ front'.toList.take n) (back back' : String) :
    front ++ back ≠ front' ++ back' := by
  intro same
  have taken := congrArg (fun text => text.toList.take n) same
  simp only [String.toList_append] at taken
  rw [List.take_append_of_le_length long.1, List.take_append_of_le_length long.2] at taken
  exact differ taken

/-- The diagnosis of such a failure is another text than its message. -/
theorem Early.diagnosis_ne_message {failure : Failure} (early : Early failure) :
    failure.diagnosis ≠ failure.message := by
  -- in every case the two texts differ within their first eight characters
  cases early with
  | malformedSetting piece =>
      change "InvalidParameter" ++ "(" ++ Text.quoted piece ++ ")" ≠
        "Invalid parameter format: '" ++ piece ++ "' (expected key=value)"
      simp only [String.append_assoc]
      exact append_ne_append 8 (by decide) (by decide) _ _
  | unknownBackend name =>
      change "UnknownBackend" ++ "(" ++ Text.quoted name ++ ")" ≠ "Unknown backend '" ++ name ++ "'"
      simp only [String.append_assoc]
      exact append_ne_append 8 (by decide) (by decide) _ _
  | invalidParameter parameter reason =>
      change "InvalidParameter \x7b name: " ++ Text.quoted parameter ++ ", message: " ++
        Text.quoted reason ++ " \x7d" ≠ "Invalid parameter '" ++ parameter ++ "': " ++ reason
      simp only [String.append_assoc]
      exact append_ne_append 8 (by decide) (by decide) _ _
  | deviceNotFound name =>
      change "MemdevNotFound" ++ "(" ++ Text.quoted name ++ ")" ≠
        "No CXL memory device matching '" ++ name ++ "'"
      simp only [String.append_assoc]
      exact append_ne_append 8 (by decide) (by decide) _ _

/-- Nothing else is wrong with the text of a backend and the options for the roots. -/
theorem early_of_answer {invocation : Invocation} {failure : Failure}
    (refused : answer invocation = .error failure) : Early failure := by
  obtain ⟨name, pieces, spelled⟩ := exists_spelled invocation.backend
  rw [answer, parseBackend_of_spelled spelled] at refused
  rcases first : firstMalformed? pieces with _ | piece
  · obtain ⟨settings, all⟩ := exists_settings first
    rw [mapM_of_isSetting all] at refused
    simp only [Except.map, bind, Except.bind, taken_rootSettings] at refused
    split at refused
    · rcases void : Sysfs.firstVoid? (settings ++ rootSettings invocation) with _ | setting <;>
        rw [void] at refused <;> cases refused
      exact .invalidParameter _ _
    · split at refused <;> cases refused
      exact .unknownBackend name
  · rw [mapM_of_firstMalformed first] at refused
    cases refused
    exact .malformedSetting piece

theorem early_of_commandOf {δ : Type} {backend : Backend δ} {now : UInt64}
    {devices : List DeviceInfo} {request : Request} {failure : Failure}
    (absent : commandOf backend now devices request = .error failure) : Early failure := by
  cases request with
  | list => cases absent
  | on name operation =>
      rw [commandOf, Report.findDevice] at absent
      split at absent <;> cases absent
      exact .deviceNotFound name

section

variable {σ ω : Type} {host : Host σ} {invocation : Invocation} {step : Step} {failure : Failure}

theorem FailsAt.early (fails : FailsAt host invocation step failure) (before : step ≠ .command) :
    Early failure := by
  cases fails with
  | @opening _ world refused =>
      obtain ⟨log, chose⟩ := choose_yields invocation host.world
      rw [refused] at chose
      exact early_of_answer (congrArg Prod.fst chose).symm
  | lookUp opens absent => exact early_of_commandOf absent
  | command => exact absurd rfl before

theorem FailsAt.told_eq_message_iff (fails : FailsAt host invocation step failure) :
    step.told failure = failure.message ↔ step = .command := by
  cases step with
  | opening | lookUp => exact iff_of_false (fails.early nofun).diagnosis_ne_message nofun
  | command => exact iff_of_true rfl rfl

/-! ## Reports -/

theorem execute_of_succeeds (succeeds : Succeeds host invocation) :
    (execute host invocation).exitCode = 0 ∧ (execute host invocation).stderr = "" := by
  obtain ⟨opens, present, did⟩ := succeeds
  obtain ⟨code, told⟩ := execute_of_opens opens
  rw [serve_ending, present] at code told
  simp only [did] at code told
  exact ⟨code, told⟩

theorem execute_of_failsAt (fails : FailsAt host invocation step failure) :
    (execute host invocation).exitCode = 1 ∧
      (execute host invocation).stderr = "Error: " ++ step.told failure ++ "\n" := by
  cases fails with
  | opening refused =>
      simp only [execute, ExceptT.run, refused]
      exact ⟨rfl, rfl⟩
  | lookUp opens absent =>
      obtain ⟨code, told⟩ := execute_of_opens opens
      rw [serve_ending, absent] at code told
      exact ⟨code, told⟩
  | command opens present failed =>
      obtain ⟨code, told⟩ := execute_of_opens opens
      rw [serve_ending, present] at code told
      simp only [failed] at code told
      exact ⟨code, told⟩

/-- **Every run ends in one of two ways**, on every host, with any driver behind its nodes, and
whatever reads the command line.  If its steps succeed, it ends with code 0 and reports nothing.  If
a step fails, it ends with code 1 and reports what is told of the failure in this step; that is the
message of the failure exactly if the step is the command itself. -/
theorem run_ends (host : Host σ) (parse : ω → Except Refusal Invocation) {words : ω}
    (read : parse words = .ok invocation) :
    let outcome := run parse host words
    (Succeeds host invocation ∨ ∃ step failure, FailsAt host invocation step failure) ∧
    (Succeeds host invocation → outcome.exitCode = 0 ∧ outcome.stderr = "") ∧
    ∀ step failure, FailsAt host invocation step failure →
      outcome.exitCode = 1 ∧ outcome.stderr = "Error: " ++ step.told failure ++ "\n" ∧
      (outcome.stderr = "Error: " ++ failure.message ++ "\n" ↔ step = .command) := by
  have ran : run parse host words = execute host invocation := by rw [run, read]
  rw [ran]
  refine ⟨succeeds_or_failsAt host invocation, execute_of_succeeds, ?_⟩
  intro step failure fails
  obtain ⟨code, told⟩ := execute_of_failsAt fails
  have reported : (execute host invocation).stderr = "Error: " ++ failure.message ++ "\n" ↔
      step.told failure = failure.message := by
    rw [told, String.append_left_inj, String.append_right_inj]
  exact ⟨code, told, reported.trans fails.told_eq_message_iff⟩

end

/-- A host without files and without devices, long ago. -/
def bareHost : Host Unit := { now := 0, files := .empty, driver := .absent, device := () }

/-- A raw command that fails is told by the message. -/
theorem reserved_opcode_told :
    ∃ invocation, Invocation.ofWords ["-b", "dummy", "raw", "mem0", "0"] = .ok invocation ∧
      FailsAt bareHost invocation .command (.mailbox .reservedOpcode) ∧
      let outcome := run Invocation.ofWords bareHost ["-b", "dummy", "raw", "mem0", "0"]
      outcome.exitCode = 1 ∧ outcome.stderr = "Error: Raw opcode 0 is reserved\n" := by
  let invocation : Invocation := { request := .on "mem0" (.raw 0 none none), backend := "dummy" }
  let world := emulatedWorld bareHost invocation
  have read : Invocation.ofWords ["-b", "dummy", "raw", "mem0", "0"] = .ok invocation := by
    decide +kernel
  have opens : Opens bareHost invocation Emulator.backend world := opens_emulated (by decide +kernel)
  have found : Report.findDevice (search Emulator.backend world).1 "mem0" =
      .ok ({} : DeviceConfig).info := by decide +kernel
  have present : commandOf Emulator.backend 0 (search Emulator.backend world).1
      (.on "mem0" (.raw 0 none none)) =
      .ok (Report.raw Emulator.backend ({} : DeviceConfig).info 0 none none) := by
    rw [commandOf, found]
    rfl
  have fails : FailsAt bareHost invocation .command (.mailbox .reservedOpcode) :=
    .command opens present (by decide +kernel)
  obtain ⟨code, told, -⟩ := (run_ends bareHost Invocation.ofWords read).2.2 _ _ fails
  exact ⟨invocation, read, fails, code, told⟩

/-- The look-up of a device that is not there is not told by the message. -/
theorem missing_device_diagnosed :
    ∃ invocation, Invocation.ofWords ["-b", "dummy", "identify", "mem7"] = .ok invocation ∧
      FailsAt bareHost invocation .lookUp (.deviceNotFound "mem7") ∧
      let outcome := run Invocation.ofWords bareHost ["-b", "dummy", "identify", "mem7"]
      outcome.stderr = "Error: MemdevNotFound(\"mem7\")\n" ∧
        outcome.stderr ≠ "Error: " ++ (Failure.deviceNotFound "mem7").message ++ "\n" := by
  let invocation : Invocation := { request := .on "mem7" .identify, backend := "dummy" }
  let world := emulatedWorld bareHost invocation
  have opens : Opens bareHost invocation Emulator.backend world := opens_emulated (by decide +kernel)
  have found : Report.findDevice (search Emulator.backend world).1 "mem7" =
      .error (.deviceNotFound "mem7") := by decide +kernel
  have absent : commandOf Emulator.backend 0 (search Emulator.backend world).1
      (.on "mem7" .identify) = .error (.deviceNotFound "mem7") := by
    rw [commandOf, found]
    rfl
  exact ⟨invocation, by decide +kernel, .lookUp opens absent, by decide +kernel, by decide +kernel⟩

end CxlMailbox.CommandLine
