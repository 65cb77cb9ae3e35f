/-
# CxlMailbox.Proofs.Registry — what a registry finds and answers

A registry keeps the list it found and answers every lookup from it.  Said without the list that it
keeps, an answer is about the list that discovery returned: the devices that no earlier one has the
number of (`unrepeated`), the first device with a number, and for a name, if it is no number, the
first of the unrepeated devices that has it (`Lookup.Answered`).

* `firstById_eq`: what is kept are the unrepeated devices;
* `byId?_firstById`: a number picks from these what it picks from the list itself, and
  `first_of_firstById`: each of them is the first of all with its number;
* `Use.performAll_remembers`: what a registry has found once, all lookups are answered from, and it
  searches no more;
* `lookups_exact`: of every history of a registry, shared by any number of handles, all lookups are
  answered from one list, and that is the only one it searched for.

The searches are those of `Backend.searching`, the backend with a record of them.
-/
import CxlMailbox.Registry
import CxlMailbox.Proofs.Simulation
import CxlMailbox.Proofs.Text.Numeral

namespace CxlMailbox

set_option autoImplicit false

variable {δ : Type}

/-! ## The record of searches -/

/-- The state of a backend with what it found in each search of one registry. -/
structure Searched (δ : Type) where
  device : δ
  searches : List (List DeviceInfo)

/-- The backend with a record of the searches. -/
def Backend.searching (backend : Backend δ) : Backend (Searched δ) where
  discover files state :=
    let reply := backend.discover files state.device
    { found := reply.found, log := reply.log
      device := ⟨reply.device, state.searches ++ [reply.found]⟩ }
  query files info buffer state :=
    let reply := backend.query files info buffer state.device
    { verdict := reply.verdict, written := reply.written, log := reply.log
      device := { state with device := reply.device } }
  send files info request state :=
    let reply := backend.send files info request state.device
    { verdict := reply.verdict, written := reply.written, log := reply.log
      device := { state with device := reply.device } }

/-- The world with a record. -/
def World.searching (world : World δ) (searches : List (List DeviceInfo)) : World (Searched δ) :=
  world.mapDevice fun device => { device, searches }

/-- The world without its record. -/
def World.unrecorded (world : World (Searched δ)) : World δ := world.mapDevice Searched.device

namespace Registry

/-! ## The devices that are kept -/

/-- The devices of a list whose number no earlier one has. -/
def unrepeated (found : List DeviceInfo) : List DeviceInfo :=
  (found.zipIdx.filter fun entry =>
    entry.1.id ∉ (found.take entry.2).map (·.id)).map Prod.fst

/-- Those are kept whose number is not in `seen`, and no earlier one has. -/
theorem firstById_eq_filter (seen : List UInt32) (found : List DeviceInfo) :
    firstById seen found = (found.zipIdx.filter fun entry =>
      entry.1.id ∉ seen ++ (found.take entry.2).map (·.id)).map Prod.fst := by
  induction found generalizing seen with
  | nil => rfl
  | cons head rest ih =>
      have shifted (entry : DeviceInfo × Nat) :
          entry.1.id ∉ seen ++ ((head :: rest).take (entry.2 + 1)).map (·.id) ↔
            entry.1.id ∉ head.id :: seen ++ (rest.take entry.2).map (·.id) := by
        simp only [List.take_succ_cons, List.map_cons, List.mem_append, List.mem_cons]
        tauto
      rw [firstById, List.zipIdx_cons', List.filter_cons, List.filter_map, Function.comp_def]
      simp only [Prod.map_fst, Prod.map_snd, id, shifted, List.take_zero, List.map_nil,
        List.append_nil, decide_eq_true_eq]
      by_cases known : head.id ∈ seen
      · have absorbed (id : UInt32) (ids : List UInt32) :
            id ∉ head.id :: seen ++ ids ↔ id ∉ seen ++ ids := by
          simp only [List.mem_append, List.mem_cons]
          grind
        simp only [known, not_true_eq_false, if_true, if_false, absorbed, ih, List.map_map]
        rfl
      · simp only [known, not_false_eq_true, if_true, if_false, ih, List.map_cons, List.map_map]
        rfl

theorem firstById_eq (found : List DeviceInfo) : firstById [] found = unrepeated found :=
  firstById_eq_filter [] found

theorem byId?_firstById (seen : List UInt32) (found : List DeviceInfo) (id : UInt32) :
    byId? (firstById seen found) id =
      if id ∈ seen then none else found.find? fun info => info.id == id := by
  induction found generalizing seen with
  | nil => simp [firstById, byId?]
  | cons head rest ih =>
      unfold byId? at ih ⊢
      rw [firstById, List.find?_cons]
      by_cases same : head.id = id
      · subst same
        by_cases known : head.id ∈ seen <;> simp [known, ih]
      · have other : (head.id == id) = false := beq_false_of_ne same
        by_cases known : head.id ∈ seen <;> simp [known, other, Ne.symm same, ih]

/-- A record that is kept is the first of all with its number, and no earlier list had it. -/
theorem first_of_firstById {seen : List UInt32} {found : List DeviceInfo}
    {info : DeviceInfo} (kept : info ∈ firstById seen found) :
    info.id ∉ seen ∧ found.find? (fun other => other.id == info.id) = some info := by
  induction found generalizing seen with
  | nil => cases kept
  | cons head rest ih =>
      rw [firstById] at kept
      by_cases known : head.id ∈ seen
      · rw [if_pos known] at kept
        obtain ⟨fresh, first⟩ := ih kept
        have other : (head.id == info.id) = false :=
          beq_false_of_ne fun same => fresh (same ▸ known)
        exact ⟨fresh, by rw [List.find?_cons, other]; exact first⟩
      · rw [if_neg known] at kept
        rcases List.mem_cons.mp kept with rfl | later
        · exact ⟨known, by rw [List.find?_cons, beq_self_eq_true]⟩
        · obtain ⟨fresh, first⟩ := ih later
          obtain ⟨different, fresh⟩ := List.ne_and_not_mem_of_not_mem_cons fresh
          have other : (head.id == info.id) = false := beq_false_of_ne (Ne.symm different)
          exact ⟨fresh, by rw [List.find?_cons, other]; exact first⟩

/-- No two kept devices have one number. -/
theorem nodup_firstById (seen : List UInt32) (found : List DeviceInfo) :
    ((firstById seen found).map (·.id)).Nodup := by
  induction found generalizing seen with
  | nil => exact List.nodup_nil
  | cons head rest ih =>
      rw [firstById]
      split
      · exact ih seen
      · refine List.nodup_cons.mpr ⟨fun again => ?_, ih _⟩
        obtain ⟨info, kept, same⟩ := List.mem_map.mp again
        exact (first_of_firstById kept).1 (same ▸ List.mem_cons_self)

/-! ## What is done to a registry -/

theorem devices_known {backend : Backend δ} {registry : Registry} {known : List DeviceInfo}
    (found : registry.known? = some known) (world : World δ) :
    registry.devices backend world = ((known, registry), world) := by
  simp only [devices, found]
  rfl

theorem devices_unknown {backend : Backend δ} {registry : Registry}
    (unasked : registry.known? = none) (world : World δ) :
    let reply := backend.discover world.files world.device
    registry.devices backend world =
      ((firstById [] reply.found, { registry with known? := some (firstById [] reply.found) }),
        { world with
          device := reply.device, log := world.log ++ reply.log ++ keptLines [] reply.found }) := by
  simp only [devices, unasked]
  rfl

theorem drop_apply (registry : Registry) (world : World δ) :
    registry.drop world = ({ registry with handles := registry.handles - 1 },
      if registry.handles = 1 then
        world.logged .info s!"context released ({(registry.known?.getD []).length} memdevs)"
      else world) := by
  unfold drop
  split <;> rfl

/-- Recording changes nothing of what is found. -/
theorem devices_searching (backend : Backend δ) (registry : Registry)
    (world : World (Searched δ)) :
    let recorded := registry.devices backend.searching world
    registry.devices backend world.unrecorded = (recorded.1, recorded.2.unrecorded) := by
  rcases asked : registry.known? with _ | known
  · simp only [devices_unknown asked]
    rfl
  · simp only [devices_known asked]

/-! ## Lookups -/

/-- What a registry is asked for. -/
inductive Lookup where
  | devices
  | byId (id : UInt32)
  | find (name : String)

inductive Answer where
  | devices (known : List DeviceInfo)
  | device (info? : Option DeviceInfo)

namespace Lookup

/-- The answer from the devices that are known. -/
def answer (known : List DeviceInfo) : Lookup → Answer
  | devices => .devices known
  | byId id => .device (byId? known id)
  | find name => .device (find? known name)

/-- The answer is right for the list that discovery returned. -/
def Answered (found : List DeviceInfo) : Lookup → Answer → Prop
  | devices, answer => answer = .devices (unrepeated found)
  | byId id, answer => answer = .device (found.find? (·.id == id))
  | find name, answer =>
      (∀ n, Text.IsNumeral 10 name.toList n → n < 2 ^ 32 →
        answer = .device (found.find? (·.id.toNat == n))) ∧
      ((∀ n, Text.IsNumeral 10 name.toList n → 2 ^ 32 ≤ n) →
        answer = .device ((unrepeated found).find? (·.name == name)))

theorem answered (found : List DeviceInfo) (lookup : Lookup) :
    lookup.Answered found (lookup.answer (firstById [] found)) := by
  have picked (id : UInt32) : byId? (firstById [] found) id = found.find? (·.id == id) :=
    (byId?_firstById [] found id).trans (if_neg List.not_mem_nil)
  have numeral {text : List Char} {n : Nat} : Text.readNumeral 10 UInt32.size text = .ok n ↔
      Text.IsNumeral 10 text n ∧ n < 2 ^ 32 :=
    Text.readNumeral_eq_ok_iff (by decide) (by decide)
  cases lookup with
  | devices => exact congrArg Answer.devices (firstById_eq found)
  | byId id => exact congrArg Answer.device (picked id)
  | find name =>
      constructor
      · intro n spelled small
        have same (info : DeviceInfo) : (info.id == UInt32.ofNat n) = (info.id.toNat == n) := by
          rw [Bool.eq_iff_iff, beq_iff_eq, beq_iff_eq, ← UInt32.toNat_inj,
            UInt32.toNat_ofNat_of_lt' small]
        simp only [answer, find?, numeral.mpr ⟨spelled, small⟩, picked, same]
      · intro large
        rcases read : Text.readNumeral 10 UInt32.size name.toList with fault | n
        · simp only [answer, find?, read, firstById_eq]
        · obtain ⟨spelled, small⟩ := numeral.mp read
          exact absurd small (Nat.not_lt_of_le (large n spelled))

end Lookup

/-! ## Histories -/

/-- What happens to a registry, through whichever of its handles, and around it. -/
inductive Use (δ : Type) where
  | ask (lookup : Lookup)
  | clone
  | drop
  | elsewhere (change : World δ → World δ)

namespace Use

def lookup? : Use δ → Option Lookup
  | ask lookup => some lookup
  | _ => none

theorem eq_ask_of_lookup? {use : Use δ} {lookup : Lookup} (asked : use.lookup? = some lookup) :
    use = ask lookup := by
  cases use with
  | ask => exact congrArg ask (Option.some.inj asked)
  | clone | drop | elsewhere => cases asked

/-- The answer, if it is a lookup, and the registry afterwards. -/
def perform (backend : Backend δ) (registry : Registry) :
    Use δ → StateM (World δ) (Option Answer × Registry)
  | ask lookup => do
      let (known, registry) ← registry.devices backend
      return (some (lookup.answer known), registry)
  | clone => return (none, registry.clone)
  | drop => return (none, ← registry.drop)
  | elsewhere change => do
      modify change
      return (none, registry)

/-- The answers to all lookups, in order. -/
def performAll (backend : Backend δ) (registry : Registry) :
    List (Use δ) → StateM (World δ) (List Answer × Registry)
  | [] => return ([], registry)
  | use :: uses => do
      let (answer?, registry) ← use.perform backend registry
      let (answers, registry) ← performAll backend registry uses
      return (answer?.toList ++ answers, registry)

theorem performAll_cons (backend : Backend δ) (registry : Registry) (use : Use δ)
    (uses : List (Use δ)) (world : World δ) :
    performAll backend registry (use :: uses) world =
      let first := use.perform backend registry world
      let rest := performAll backend first.1.2 uses first.2
      ((first.1.1.toList ++ rest.1.1, rest.1.2), rest.2) := rfl

/-- The answers of a new registry. -/
def history (backend : Backend δ) (uses : List (Use δ)) : StateM (World δ) (List Answer) := do
  let registry ← create
  let (answers, _) ← performAll backend registry uses
  return answers

/-- The same use where searches are recorded.  What happens elsewhere is no search. -/
def searching : Use δ → Use (Searched δ)
  | ask lookup => .ask lookup
  | clone => .clone
  | drop => .drop
  | elsewhere change =>
      .elsewhere fun world => (change world.unrecorded).searching world.device.searches

variable (backend : Backend δ)

/-- Recording changes nothing. -/
theorem perform_searching (use : Use δ) (registry : Registry) (world : World (Searched δ)) :
    let recorded := use.searching.perform backend.searching registry world
    use.perform backend registry world.unrecorded = (recorded.1, recorded.2.unrecorded) := by
  cases use with
  | ask lookup =>
      simp only [perform, searching, bind, StateT.bind, devices_searching]
      rfl
  | clone => rfl
  | drop =>
      simp only [perform, searching, bind, StateT.bind, drop_apply]
      split <;> rfl
  | elsewhere change => rfl

theorem performAll_searching (uses : List (Use δ)) (registry : Registry)
    (world : World (Searched δ)) :
    let recorded := performAll backend.searching registry (uses.map searching) world
    performAll backend registry uses world.unrecorded =
      (recorded.1, recorded.2.unrecorded) := by
  induction uses generalizing registry world with
  | nil => rfl
  | cons use uses ih =>
      simp only [List.map_cons, performAll, bind, StateT.bind, perform_searching, ih]
      rfl

/-! ## One search -/

/-- The registry has made one search, and keeps what it found, or it has made none. -/
def Remembers (found? : Option (List DeviceInfo)) (registry : Registry)
    (world : World (Searched δ)) : Prop :=
  registry.known? = found?.map (firstById []) ∧ world.device.searches = found?.toList

variable {found? : Option (List DeviceInfo)} {registry : Registry}
  {world : World (Searched δ)}

/-- A lookup is answered from what the registry remembers, or from what it then will remember. -/
theorem perform_ask (lookup : Lookup) (remembers : Remembers found? registry world) :
    let ran := (ask lookup).perform backend.searching registry world
    ∃ found, (∀ earlier ∈ found?, found = earlier) ∧
      ran.1.1 = some (lookup.answer (firstById [] found)) ∧
      Remembers (some found) ran.1.2 ran.2 := by
  obtain ⟨known, searches⟩ := remembers
  simp only [perform, bind, StateT.bind]
  rcases found? with _ | found
  · rw [devices_unknown known]
    exact ⟨_, nofun, rfl, rfl, congrArg (· ++ _) searches⟩
  · rw [devices_known known]
    exact ⟨found, fun _ same => Option.some.inj same, rfl, known, searches⟩

/-- Whatever else happens, the registry remembers the same. -/
theorem perform_quiet {use : Use δ} (quiet : use.lookup? = none)
    (remembers : Remembers found? registry world) :
    let ran := use.searching.perform backend.searching registry world
    ran.1.1 = none ∧ Remembers found? ran.1.2 ran.2 := by
  cases use with
  | ask => cases quiet
  | clone => exact ⟨rfl, remembers⟩
  | drop =>
      simp only [perform, searching, bind, StateT.bind, drop_apply]
      refine ⟨rfl, remembers.1, ?_⟩
      split <;> exact remembers.2
  | elsewhere change => exact ⟨rfl, remembers⟩

/-- The lookups among what happens. -/
def lookups (uses : List (Use δ)) : List Lookup := uses.filterMap lookup?

/-- By induction on the history: all lookups are answered from what was found first. -/
theorem performAll_remembers (uses : List (Use δ)) (remembers : Remembers found? registry world) :
    let ran := performAll backend.searching registry (uses.map searching) world
    ∃ found, (∀ earlier ∈ found?, found = earlier) ∧
      ran.2.device.searches = (if lookups uses = [] then found?.toList else [found]) ∧
      List.Forall₂ (Lookup.Answered found) (lookups uses) ran.1.1 := by
  induction uses generalizing found? registry world with
  | nil =>
      refine ⟨found?.getD [], fun earlier known => ?_, remembers.2, .nil⟩
      rw [known]
      rfl
  | cons use uses ih =>
      rcases asked : use.lookup? with _ | lookup
      · obtain ⟨silent, remembers'⟩ := perform_quiet backend asked remembers
        obtain ⟨found, earlier, searches, answers⟩ := ih remembers'
        rw [show lookups (use :: uses) = lookups uses from List.filterMap_cons_none asked]
        refine ⟨found, earlier, searches, ?_⟩
        simp only [List.map_cons, performAll_cons, silent]
        exact answers
      · obtain rfl := eq_ask_of_lookup? asked
        obtain ⟨found, earlier, answer, remembers'⟩ :=
          perform_ask backend lookup remembers
        obtain ⟨_, again, searches, answers⟩ := ih remembers'
        obtain rfl := again found rfl
        rw [show lookups (ask lookup :: uses) = lookup :: lookups uses from rfl]
        refine ⟨_, earlier, ?_, ?_⟩
        · rw [if_neg (List.cons_ne_nil _ _)]
          exact searches.trans (ite_self _)
        · simp only [List.map_cons, performAll_cons]
          rw [show (ask lookup : Use δ).searching = ask lookup from rfl, answer]
          exact .cons (lookup.answered _) answers

end Use

/-- **A registry searches once, and answers from what it found.**  Whatever is done with the handles
of a new registry and whatever else happens meanwhile, it searches at most once, and it does if
anything is looked up; all lookups are answered from the list that was found then, and no two
devices that are listed have one number. -/
theorem lookups_exact (backend : Backend δ) (uses : List (Use δ)) (world : World δ) :
    let answers := (Use.history backend uses world).1
    let recorded := Use.history backend.searching (uses.map Use.searching) (world.searching [])
    ∃ found, recorded.2.device.searches = (if Use.lookups uses = [] then [] else [found]) ∧
      List.Forall₂ (Lookup.Answered found) (Use.lookups uses) answers ∧
      ((unrepeated found).map (·.id)).Nodup := by
  have started : Use.Remembers none {} ((world.logged .info "context created").searching []) :=
    ⟨rfl, rfl⟩
  obtain ⟨found, -, searches, answers⟩ := Use.performAll_remembers backend uses started
  have same := Use.performAll_searching backend uses {}
    ((world.logged .info "context created").searching [])
  refine ⟨found, searches, ?_, ?_⟩
  · have unrecorded : (Use.history backend uses world).1 = _ :=
      congrArg (fun ran => ran.1.1) same
    rwa [unrecorded]
  · rw [← firstById_eq]
    exact nodup_firstById [] found

end Registry

end CxlMailbox
