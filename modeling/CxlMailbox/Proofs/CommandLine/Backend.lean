/-
# CxlMailbox.Proofs.CommandLine.Backend — which backend a command line chooses

The text of a backend is a name and, behind the first colon, pieces between commas (`Spelled`); a
piece is a setting if it has an equals sign (`IsSetting`).  Its settings and then the options of the
command line are taken one after the other:

* `mapM_of_firstMalformed`: the first piece that is no setting refuses them all;
* `Sysfs.foldlM_applyOption`: the first root without a path refuses the rest; if there is none, the
  last value of each root counts (`Sysfs.taken`);
* `choose_yields`: no world changes the choice, which only logs;
* `Sysfs.Rearranged.valuesOf_eq`: settings that are rearranged leave the values of each root in
  their order, and so what is chosen (`answer_of_rearranged`).

`backend_settings_decide` is all of it for whole command lines.
-/
import CxlMailbox.CommandLine.Program
import CxlMailbox.Proofs.Effect
import CxlMailbox.Proofs.Text.Utf8
import Mathlib.Data.List.Forall2
import Mathlib.Data.List.TakeWhile

namespace CxlMailbox

set_option autoImplicit false

open Effect

/-! ## Answers that no world changes -/

/-- A task yields this answer in every world, and only logs. -/
def Yields {δ ε α : Type} (task : Task δ ε α) (answer : Except ε α) : Prop :=
  ∀ world, ∃ log, task world = (answer, { world with log })

namespace Yields

variable {δ ε ε' α β : Type}

theorem except (answer : Except ε α) : Yields (liftM answer : Task δ ε α) answer :=
  fun world => ⟨world.log, except_apply answer world⟩

theorem pure (value : α) : Yields (pure value : Task δ ε α) (.ok value) :=
  fun world => ⟨world.log, rfl⟩

theorem throw (e : ε) : Yields (throw e : Task δ ε α) (.error e) := fun world => ⟨world.log, rfl⟩

theorem bind {task : Task δ ε α} {answer : Except ε α} {next : α → Task δ ε β}
    {then_ : α → Except ε β} (first : Yields task answer)
    (rest : ∀ value, Yields (next value) (then_ value)) :
    Yields (task >>= next) (answer >>= then_) := by
  intro world
  obtain ⟨log, ran⟩ := first world
  rw [bind_apply, ran]
  rcases answer with e | value
  · exact ⟨log, rfl⟩
  · exact rest value _

/-- A line that is logged first changes no answer. -/
theorem logged {next : Unit → Task δ ε α} {answer : Except ε α} (rest : Yields (next ()) answer)
    (level : Level) (message : String) : Yields (Task.log level message >>= next) answer :=
  fun world => rest (world.logged level message)

theorem adapt {task : Task δ ε α} {answer : Except ε α} (first : Yields task answer)
    (name : ε → ε') : Yields (task.adapt name) (answer.mapError name) := by
  intro world
  obtain ⟨log, ran⟩ := first world
  refine ⟨log, ?_⟩
  change ((task world).1.mapError name, (task world).2) = _
  rw [ran]

/-- Steps that each yield their answer in every world do so together. -/
theorem foldlM {step : α → β → Task δ ε α} {answer : α → β → Except ε α}
    (each : ∀ a b, Yields (step a b) (answer a b)) (a : α) (bs : List β) :
    Yields (bs.foldlM step a) (bs.foldlM answer a) := by
  induction bs generalizing a with
  | nil => exact pure a
  | cons b bs ih =>
    rw [List.foldlM_cons, List.foldlM_cons]
    exact (each a b).bind ih

end Yields

/-! ## Settings of roots -/

namespace Sysfs

/-- A setting, as key and value. -/
abbrev Setting := String × String

/-- The setting is for one of the two roots. -/
def IsRoot (key : String) : Prop := key = "sysfs" ∨ key = "dev"

instance (key : String) : Decidable (IsRoot key) := inferInstanceAs (Decidable (_ ∨ _))

/-- The setting asks for a root without a path. -/
def IsVoid (setting : Setting) : Prop := IsRoot setting.1 ∧ setting.2 = ""

instance (setting : Setting) : Decidable (IsVoid setting) := inferInstanceAs (Decidable (_ ∧ _))

/-- The values that settings give to a key, in their order. -/
def valuesOf (key : String) (settings : List Setting) : List String :=
  (settings.filter fun setting => setting.1 = key).map Prod.snd

/-- The refusal of a root without a path. -/
def voidRoot (key : String) : SysfsError := .invalidParameter key "path must not be empty"

/-- The first setting that asks for a root without a path. -/
def firstVoid? (settings : List Setting) : Option Setting :=
  settings.find? fun setting => IsVoid setting

/-- What settings make of roots: the last value of each counts, if none is void. -/
def taken (roots : SysfsRoots) (settings : List Setting) : Except SysfsError SysfsRoots :=
  match firstVoid? settings with
  | some setting => .error (voidRoot setting.1)
  | none => .ok {
      attributes := (valuesOf "sysfs" settings).getLast?.getD roots.attributes
      nodes := (valuesOf "dev" settings).getLast?.getD roots.nodes }

theorem applyOption_eq (roots : SysfsRoots) (setting : Setting) :
    applyOption roots setting.1 setting.2 =
      if IsVoid setting then .error (voidRoot setting.1)
      else .ok {
        attributes := if setting.1 = "sysfs" then setting.2 else roots.attributes
        nodes := if setting.1 = "dev" then setting.2 else roots.nodes } := by
  obtain ⟨key, value⟩ := setting
  unfold applyOption IsVoid IsRoot
  by_cases sysfs : key = "sysfs"
  · subst sysfs
    by_cases void : value = "" <;> simp [void, voidRoot]
  · by_cases dev : key = "dev"
    · subst dev
      by_cases void : value = "" <;> simp [void, voidRoot]
    · simp [sysfs, dev]

/-- The last of the values that settings give to a key, or else the one it had. -/
theorem getLast?_valuesOf_cons (key given : String) (setting : Setting) (settings : List Setting) :
    (valuesOf key (setting :: settings)).getLast?.getD given =
      (valuesOf key settings).getLast?.getD (if setting.1 = key then setting.2 else given) := by
  by_cases same : setting.1 = key
  · simp [valuesOf, same, List.getLast?_cons]
  · simp [valuesOf, same]

/-- The first setting is taken before the others. -/
theorem taken_cons (roots : SysfsRoots) (setting : Setting) (settings : List Setting) :
    taken roots (setting :: settings) =
      (applyOption roots setting.1 setting.2 >>= fun next => taken next settings) := by
  rw [applyOption_eq, taken, firstVoid?, List.find?_cons]
  by_cases void : IsVoid setting
  · simp [void, bind, Except.bind]
  · simp only [void, decide_false, if_false, bind, Except.bind, taken, firstVoid?,
      getLast?_valuesOf_cons]

/-- Settings that are taken one after the other leave what they make of the roots. -/
theorem foldlM_applyOption (roots : SysfsRoots) (settings : List Setting) :
    settings.foldlM (fun roots setting => applyOption roots setting.1 setting.2) roots =
      taken roots settings := by
  induction settings generalizing roots with
  | nil => rfl
  | cons setting settings ih =>
    rw [List.foldlM_cons, taken_cons]
    exact congrArg (applyOption roots setting.1 setting.2 >>= ·) (funext ih)

theorem chooseRoots_yields {δ : Type} (settings : List Setting) :
    Yields (chooseRoots settings : Task δ SysfsError SysfsRoots) (taken {} settings) := by
  have parsed : Yields (parseOptions settings : Task δ SysfsError SysfsRoots)
      (taken {} settings) := by
    rw [← foldlM_applyOption]
    refine .foldlM (fun roots setting => ?_) _ settings
    split
    · exact (Yields.except _).logged _ _
    · exact .except _
  rw [← bind_pure (taken {} settings)]
  exact parsed.bind fun roots => (Yields.pure roots).logged _ _

/-- Settings with other keys are added or move, and settings of different roots change places. -/
inductive Rearranged : List Setting → List Setting → Prop where
  | refl (settings : List Setting) : Rearranged settings settings
  | insert {setting : Setting} (other : ¬ IsRoot setting.1) (front back : List Setting) :
      Rearranged (front ++ back) (front ++ setting :: back)
  | swap {first second : Setting} (apart : IsRoot first.1 → first.1 ≠ second.1)
      (front back : List Setting) :
      Rearranged (front ++ first :: second :: back) (front ++ second :: first :: back)
  | trans {first second third : List Setting} (before : Rearranged first second)
      (after : Rearranged second third) : Rearranged first third

/-- The values of each root stay in their order. -/
theorem Rearranged.valuesOf_eq {key : String} (root : IsRoot key) {first second : List Setting}
    (moved : Rearranged first second) : valuesOf key first = valuesOf key second := by
  induction moved with
  | refl => rfl
  | @insert setting other front back =>
      have skipped : setting.1 ≠ key := fun same => other (same ▸ root)
      simp [valuesOf, skipped]
  | @swap first second apart front back =>
      by_cases same : first.1 = key
      · have skipped : second.1 ≠ key := same ▸ (apart (same ▸ root)).symm
        simp [valuesOf, same, skipped]
      · simp [valuesOf, same, List.filter_cons]
  | trans _ _ before after => exact before.trans after

theorem firstVoid?_eq_none_iff {settings : List Setting} :
    firstVoid? settings = none ↔ ∀ key, IsRoot key → "" ∉ valuesOf key settings := by
  simp only [firstVoid?, List.find?_eq_none, decide_eq_true_eq, valuesOf, List.mem_map,
    List.mem_filter]
  constructor
  · rintro none_ key root ⟨setting, ⟨mem, rfl⟩, void⟩
    exact none_ setting mem ⟨root, void⟩
  · rintro none_ setting mem ⟨root, void⟩
    exact none_ setting.1 root ⟨setting, ⟨mem, rfl⟩, void⟩

theorem valuesOf_append (key : String) (first second : List Setting) :
    valuesOf key (first ++ second) = valuesOf key first ++ valuesOf key second := by
  simp [valuesOf]

/-- Rearranged settings have a void root in front of the same others, or none. -/
theorem Rearranged.firstVoid?_eq_none {first second : List Setting}
    (moved : Rearranged first second) (others : List Setting)
    (none_ : firstVoid? (first ++ others) = none) : firstVoid? (second ++ others) = none := by
  rw [firstVoid?_eq_none_iff] at none_ ⊢
  intro key root
  rw [valuesOf_append, ← moved.valuesOf_eq root, ← valuesOf_append]
  exact none_ key root

end Sysfs

/-! ## Names, pieces and settings -/

namespace CommandLine

/-- A piece is a setting: its key ends at the first equals sign. -/
def IsSetting (piece : String) (setting : Sysfs.Setting) : Prop :=
  piece = setting.1 ++ "=" ++ setting.2 ∧ '=' ∉ setting.1.toList

/-- A text is a name and, behind the first colon, pieces between commas; nothing between two commas
is no piece. -/
structure Spelled (text name : String) (pieces : List String) : Prop where
  plain : ':' ∉ name.toList
  behind : (text = name ∧ pieces = []) ∨
    ∃ parts : List String, text = name ++ ":" ++ ",".intercalate parts ∧
      (∀ part ∈ parts, ',' ∉ part.toList) ∧ pieces = parts.filter (· ≠ "")

section

variable {mark : Char} {text front back : String}

theorem forall_ne_of_not_mem {chars : List Char} (absent : mark ∉ chars) :
    ∀ c ∈ chars, decide (c ≠ mark) = true :=
  fun _ mem => decide_eq_true fun same => absent (same ▸ mem)

theorem splitAt?_of_not_mem (absent : mark ∉ text.toList) : splitAt? mark text = (text, none) := by
  have all := forall_ne_of_not_mem absent
  rw [splitAt?, List.takeWhile_eq_self_iff.mpr all, List.dropWhile_eq_nil_iff.mpr all,
    String.ofList_toList]

theorem splitAt?_of_eq_append (absent : mark ∉ front.toList)
    (written : text.toList = front.toList ++ mark :: back.toList) :
    splitAt? mark text = (front, some back) := by
  have all := forall_ne_of_not_mem absent
  rw [splitAt?, written, List.takeWhile_append_of_pos all, List.dropWhile_append_of_pos all]
  simp

theorem exists_split (among : mark ∈ text.toList) : ∃ front back : String,
    text.toList = front.toList ++ mark :: back.toList ∧ mark ∉ front.toList := by
  obtain ⟨front, back, written, absent⟩ := List.eq_append_cons_of_mem among
  refine ⟨.ofList front, .ofList back, ?_, ?_⟩
  · rw [String.toList_ofList, String.toList_ofList, written]
  · rwa [String.toList_ofList]

end

theorem parseSetting_of_isSetting {piece : String} {setting : Sysfs.Setting}
    (spelled : IsSetting piece setting) : parseSetting piece = .ok setting := by
  obtain ⟨rfl, plain⟩ := spelled
  have written : (setting.1 ++ "=" ++ setting.2).toList =
      setting.1.toList ++ '=' :: setting.2.toList := by simp
  rw [parseSetting, splitAt?_of_eq_append plain written]

theorem parseSetting_of_not_mem {piece : String} (absent : '=' ∉ piece.toList) :
    parseSetting piece = .error (.malformedSetting piece) := by
  rw [parseSetting, splitAt?_of_not_mem absent]

theorem exists_isSetting {piece : String} (among : '=' ∈ piece.toList) :
    ∃ setting, IsSetting piece setting := by
  obtain ⟨key, value, written, plain⟩ := exists_split among
  refine ⟨(key, value), String.toList_inj.mp ?_, plain⟩
  rw [written]
  simp

theorem mapM_of_isSetting {pieces : List String} {settings : List Sysfs.Setting}
    (spelled : List.Forall₂ IsSetting pieces settings) :
    pieces.mapM parseSetting = .ok settings := by
  induction spelled with
  | nil => rfl
  | cons first _ ih =>
    rw [List.mapM_cons, parseSetting_of_isSetting first, ih]
    rfl

/-- The first piece without an equals sign, if there is one. -/
def firstMalformed? (pieces : List String) : Option String :=
  pieces.find? fun piece => '=' ∉ piece.toList

theorem exists_settings {pieces : List String} (fine : firstMalformed? pieces = none) :
    ∃ settings, List.Forall₂ IsSetting pieces settings := by
  induction pieces with
  | nil => exact ⟨[], .nil⟩
  | cons piece pieces ih =>
    rw [firstMalformed?, List.find?_eq_none, List.forall_mem_cons] at fine
    obtain ⟨among, later⟩ := fine
    obtain ⟨setting, first⟩ := exists_isSetting (by simpa using among)
    obtain ⟨settings, rest⟩ := ih (List.find?_eq_none.mpr later)
    exact ⟨setting :: settings, .cons first rest⟩

/-- The first piece that is no setting refuses them all. -/
theorem mapM_of_firstMalformed {pieces : List String} {piece : String}
    (first : firstMalformed? pieces = some piece) :
    pieces.mapM parseSetting = .error (.malformedSetting piece) := by
  induction pieces with
  | nil => cases first
  | cons head pieces ih =>
    rw [firstMalformed?, List.find?_cons] at first
    rw [List.mapM_cons]
    by_cases among : '=' ∈ head.toList
    · obtain ⟨setting, spelled⟩ := exists_isSetting among
      rw [parseSetting_of_isSetting spelled, ih (by simpa [firstMalformed?, among] using first)]
      rfl
    · obtain rfl : head = piece := by simpa [among] using first
      rw [parseSetting_of_not_mem among]
      rfl

/-- No part of a text between marks has a mark. -/
theorem not_mem_of_mem_splitOn (mark : Char) (chars : List Char) :
    ∀ part ∈ chars.splitOn mark, mark ∉ part := by
  induction chars with
  | nil => simp [List.splitOn_nil]
  | cons c chars ih =>
    rw [List.splitOn_cons_eq_if_modifyHead]
    split
    case isTrue => simpa using ih
    case isFalse other =>
      -- a character that is no mark goes in front of the first part
      generalize chars.splitOn mark = parts at ih
      cases parts with
      | nil => exact ih
      | cons part parts =>
        have first : mark ∉ c :: part := by
          rw [List.mem_cons]
          rintro (rfl | among)
          · exact other (beq_self_eq_true _)
          · exact ih part List.mem_cons_self among
        exact List.forall_mem_cons.mpr ⟨first, fun part mem => ih part (.tail _ mem)⟩

theorem exists_spelled (text : String) : ∃ name pieces, Spelled text name pieces := by
  by_cases among : ':' ∈ text.toList
  · obtain ⟨name, rest, written, plain⟩ := exists_split among
    refine ⟨name, _, plain, .inr ⟨(rest.toList.splitOn ',').map String.ofList, ?_, ?_, rfl⟩⟩
    · apply String.toList_inj.mp
      simp [written, Function.comp_def, String.toList_intercalate, List.intercalate_splitOn]
    · rintro _ mem
      obtain ⟨part, between, rfl⟩ := List.mem_map.mp mem
      rw [String.toList_ofList]
      exact not_mem_of_mem_splitOn ',' _ part between
  · exact ⟨text, [], among, .inl ⟨rfl, rfl⟩⟩

theorem commaPieces_intercalate {parts : List String} (plain : ∀ part ∈ parts, ',' ∉ part.toList) :
    commaPieces (",".intercalate parts) = parts.filter (· ≠ "") := by
  rcases parts with _ | ⟨part, parts⟩
  -- an empty text has one part, which is no piece
  · rfl
  · have lists : ∀ chars ∈ (part :: parts).map String.toList, ',' ∉ chars := by
      rintro _ mem
      obtain ⟨part, given, rfl⟩ := List.mem_map.mp mem
      exact plain part given
    rw [commaPieces, String.toList_intercalate]
    change ((List.splitOn ',' ([','].intercalate _)).map _).filter _ = _
    rw [List.splitOn_intercalate ',' lists (List.cons_ne_nil _ _)]
    simp [Function.comp_def]

/-- A text is read as the name and the settings that it is spelled of. -/
theorem parseBackend_of_spelled {text name : String} {pieces : List String}
    (spelled : Spelled text name pieces) :
    parseBackend text = (pieces.mapM parseSetting).map fun settings => (name, settings) := by
  obtain ⟨plain, ⟨rfl, rfl⟩ | ⟨parts, rfl, commaless, rfl⟩⟩ := spelled
  · rw [parseBackend, splitAt?_of_not_mem plain]
    rfl
  · have written : (name ++ ":" ++ ",".intercalate parts).toList =
        name.toList ++ ':' :: (",".intercalate parts).toList := by simp
    rw [parseBackend, splitAt?_of_eq_append plain written]
    simp only [Option.getD_some, commaPieces_intercalate commaless]
    cases (parts.filter (· ≠ "")).mapM parseSetting <;> rfl

/-! ## The choice -/

open Sysfs Text.Utf8

/-- An option of the command line counts, as text, or else the last setting of the backend. -/
def chosenRoots (invocation : Invocation) (settings : List Setting) : SysfsRoots where
  attributes := ((invocation.sysfsRoot?.map lossyText).or (valuesOf "sysfs" settings).getLast?).getD
    "/sys/bus/cxl/devices"
  nodes := ((invocation.devRoot?.map lossyText).or (valuesOf "dev" settings).getLast?).getD "/dev/cxl"

theorem taken_rootSettings (invocation : Invocation) (settings : List Setting) :
    taken {} (settings ++ rootSettings invocation) =
      match firstVoid? (settings ++ rootSettings invocation) with
      | some setting => .error (voidRoot setting.1)
      | none => .ok (chosenRoots invocation settings) := by
  obtain ⟨sysfs, dev⟩ : valuesOf "sysfs" (rootSettings invocation) =
        (invocation.sysfsRoot?.map lossyText).toList ∧
      valuesOf "dev" (rootSettings invocation) = (invocation.devRoot?.map lossyText).toList := by
    cases sysfs : invocation.sysfsRoot? <;> cases dev : invocation.devRoot? <;>
      simp [rootSettings, valuesOf, sysfs, dev]
  have last (root? : Option String) : root?.toList.getLast? = root? := by cases root? <;> rfl
  rw [taken]
  simp only [valuesOf_append, sysfs, dev, List.getLast?_append, last, chosenRoots]

/-- What the text of a backend and the options for the roots choose. -/
def answer (invocation : Invocation) : Except Failure Choice := do
  let (name, settings) ← parseBackend invocation.backend
  if name = "linux" then
    let roots ← (taken {} (settings ++ rootSettings invocation)).mapError .sysfs
    return .host roots
  else if name = "dummy" then return .emulated
  else throw (.unknownBackend name)

theorem choose_yields {δ : Type} (invocation : Invocation) :
    Yields (choose invocation : Task δ Failure Choice) (answer invocation) := by
  refine (Yields.except _).bind fun (name, settings) => .logged ?_ _ _
  dsimp only
  split
  · exact ((chooseRoots_yields _).adapt _).bind fun roots => .pure (Choice.host roots)
  split
  · split
    · exact (Yields.pure Choice.emulated).logged _ _
    · exact .pure _
  · exact .throw _

/-- The command line starts nothing: every run of it, on every host and by every reader that reads it
so, ends with the diagnosis of the failure. -/
structure Refuses (invocation : Invocation) (failure : Failure) : Prop where
  choice : ∀ {δ : Type}, Yields (choose invocation : Task δ Failure Choice) (.error failure)
  ends : ∀ {δ ω : Type} (parse : ω → Except Refusal Invocation) (host : Host δ) (words : ω),
    parse words = .ok invocation →
    let outcome := run parse host words
    outcome.exitCode = 1 ∧ outcome.stdout = "" ∧
      outcome.stderr = "Error: " ++ failure.diagnosis ++ "\n" ∧ outcome.files = host.files

/-- Every run of the command line is served by the devices of its host at the roots. -/
structure Chooses (invocation : Invocation) (roots : SysfsRoots) : Prop where
  choice : ∀ {δ : Type}, Yields (choose invocation : Task δ Failure Choice) (.ok (.host roots))
  runs : ∀ {δ ω : Type} (parse : ω → Except Refusal Invocation) (host : Host δ) (words : ω),
    parse words = .ok invocation → ∃ log,
    let served := serve (Sysfs.backend roots host.driver) host.now invocation.request
      { host.world with log }
    run parse host words = finish invocation.verbosity served.1 served.2

variable {invocation : Invocation}

theorem refuses_of_answer {failure : Failure} (refused : answer invocation = .error failure) :
    Refuses invocation failure := by
  refine ⟨fun {δ} => refused ▸ choose_yields invocation, fun parse host words read => ?_⟩
  obtain ⟨log, chose⟩ := choose_yields invocation host.world
  rw [refused] at chose
  have ran : run parse host words =
      finish invocation.verbosity (.notStarted failure) { host.world with log } := by
    simp only [run, read, execute, ExceptT.run, chose]
  simp only [ran]
  exact ⟨rfl, rfl, rfl, rfl⟩

theorem chooses_of_answer {roots : SysfsRoots} (chosen : answer invocation = .ok (.host roots)) :
    Chooses invocation roots := by
  refine ⟨fun {δ} => chosen ▸ choose_yields invocation, fun parse host words read => ?_⟩
  obtain ⟨log, chose⟩ := choose_yields invocation host.world
  rw [chosen] at chose
  refine ⟨log, ?_⟩
  simp only [run, read, execute, ExceptT.run, chose]
  rfl

/-- Pieces of the host's backend that are all settings choose its roots. -/
theorem answer_of_settings {pieces : List String} {settings : List Setting}
    (spelled : Spelled invocation.backend "linux" pieces)
    (all : List.Forall₂ IsSetting pieces settings) :
    answer invocation = match firstVoid? (settings ++ rootSettings invocation) with
      | some void => .error (.sysfs (voidRoot void.1))
      | none => .ok (.host (chosenRoots invocation settings)) := by
  rw [answer, parseBackend_of_spelled spelled, mapM_of_isSetting all]
  simp only [Except.map, bind, Except.bind, if_true, taken_rootSettings]
  cases firstVoid? (settings ++ rootSettings invocation) <;> rfl

/-- Rearranged settings choose the same roots. -/
theorem answer_of_rearranged {text : String} {pieces : List String}
    {settings settings' : List Setting} (spelled : Spelled text "linux" pieces)
    (all : List.Forall₂ IsSetting pieces settings') (moved : Rearranged settings settings')
    (none_ : firstVoid? (settings ++ rootSettings invocation) = none) :
    answer { invocation with backend := text } = .ok (.host (chosenRoots invocation settings)) := by
  have none' : firstVoid? (settings' ++ rootSettings { invocation with backend := text }) = none :=
    moved.firstVoid?_eq_none _ none_
  have sysfs := moved.valuesOf_eq (.inl rfl)
  have dev := moved.valuesOf_eq (.inr rfl)
  have chosen := @answer_of_settings { invocation with backend := text } _ _ spelled all
  rw [none'] at chosen
  rw [chosen, chosenRoots, chosenRoots, sysfs, dev]

/-- **Which setting wins.**  The text of a backend is spelled of a name and pieces.  The first
piece that is no setting is refused.  If all are settings and the name is that of the host's
backend, then the first root without a path is refused, those of the command line after those of
the pieces; if there is none, an option of the command line counts, or else the last setting of its
root, or else the standard root.  Then settings may be rearranged, and nothing else is chosen.  An
option that is a text counts as this text. -/
theorem backend_settings_decide (invocation : Invocation) :
    (∃ name pieces, Spelled invocation.backend name pieces) ∧
    (∀ root settings,
      (invocation.sysfsRoot? = some (encode root) →
        (chosenRoots invocation settings).attributes = root) ∧
      (invocation.devRoot? = some (encode root) →
        (chosenRoots invocation settings).nodes = root)) ∧
    ∀ name pieces, Spelled invocation.backend name pieces →
      match firstMalformed? pieces with
      | some piece => Refuses invocation (.malformedSetting piece)
      | none => (∃ settings, List.Forall₂ IsSetting pieces settings) ∧
          ∀ settings, List.Forall₂ IsSetting pieces settings → name = "linux" →
            match firstVoid? (settings ++ rootSettings invocation) with
            | some void => Refuses invocation (.sysfs (voidRoot void.1))
            | none => Chooses invocation (chosenRoots invocation settings) ∧
                ∀ text pieces' settings', Spelled text "linux" pieces' →
                  List.Forall₂ IsSetting pieces' settings' → Rearranged settings settings' →
                  Chooses { invocation with backend := text }
                    (chosenRoots invocation settings) := by
  refine ⟨exists_spelled _, fun root settings => ⟨?_, ?_⟩, fun name pieces spelled => ?_⟩
  · intro given
    simp [chosenRoots, given]
  · intro given
    simp [chosenRoots, given]
  split
  case h_1 piece first =>
    apply refuses_of_answer
    rw [answer, parseBackend_of_spelled spelled, mapM_of_firstMalformed first]
    rfl
  case h_2 fine =>
    refine ⟨exists_settings fine, fun settings all host => ?_⟩
    subst host
    have chosen := answer_of_settings spelled all
    split
    case h_1 void first =>
      rw [first] at chosen
      exact refuses_of_answer chosen
    case h_2 none_ =>
      rw [none_] at chosen
      exact ⟨chooses_of_answer chosen, fun text pieces' settings' spelled' all' moved =>
        chooses_of_answer (answer_of_rearranged spelled' all' moved none_)⟩

/-- The last path of a root counts, also one with an equals sign; an option of the command line
counts more. -/
theorem last_setting_counts :
    let text := "linux:sysfs=/a,note=,,sysfs=/b=c,dev=/e"
    ∃ invocation, Invocation.ofWords ["-b", text, "--dev-root", "/d", "list"] = .ok invocation ∧
      Chooses invocation { attributes := "/b=c", nodes := "/d" } := by
  let invocation : Invocation :=
    { request := .list false, backend := "linux:sysfs=/a,note=,,sysfs=/b=c,dev=/e",
      devRoot? := some (encode "/d") }
  have spelled : Spelled invocation.backend "linux"
      ["sysfs=/a", "note=", "sysfs=/b=c", "dev=/e"] :=
    ⟨by decide, .inr ⟨["sysfs=/a", "note=", "", "sysfs=/b=c", "dev=/e"], by decide, by decide,
      by decide⟩⟩
  have settings : List.Forall₂ IsSetting ["sysfs=/a", "note=", "sysfs=/b=c", "dev=/e"]
      [("sysfs", "/a"), ("note", ""), ("sysfs", "/b=c"), ("dev", "/e")] := by
    simp [IsSetting]
  have decided := (backend_settings_decide invocation).2.2 _ _ spelled
  have fine : firstMalformed? ["sysfs=/a", "note=", "sysfs=/b=c", "dev=/e"] = none := by decide
  have option : rootSettings invocation = [("dev", "/d")] := by simp [rootSettings, invocation]
  have some_ : firstVoid? ([("sysfs", "/a"), ("note", ""), ("sysfs", "/b=c"), ("dev", "/e")] ++
      rootSettings invocation) = none := by
    rw [option]
    decide
  have roots : chosenRoots invocation
      [("sysfs", "/a"), ("note", ""), ("sysfs", "/b=c"), ("dev", "/e")] =
      { attributes := "/b=c", nodes := "/d" } := by
    simp [chosenRoots, invocation, valuesOf]
  rw [fine] at decided
  have chosen := decided.2 _ settings rfl
  rw [some_] at chosen
  exact ⟨invocation, ok_of_toOption (by decide +kernel), roots ▸ chosen.1⟩

end CommandLine

end CxlMailbox
