/-
# CxlMailbox.Proofs.Command.Catalog — where the entries of a catalog come from

The second round of a query offers as many slots as the first has counted, all of them blank.  Three
numbers may differ after it: the slots offered, the slots that the backend has written, and the
count that it leaves in front of them.  The catalog is cut to the offered and the counted slots, and
nobody asks how many were written.

* `reported_fill_withCapacity`: the catalog is what was written, as far as it is offered and
  counted, and then a blank entry for each slot that is counted without having been written;
* `Command.validate_ok_iff`: a look-up succeeds exactly for the ids of the catalog;
* `fetched_catalog`: over every backend, and for every pair of answers, these are the entries and
  the ids that a command gets.

The blank entry has id 0.  A set of commands that shrinks between the rounds puts it in the catalog
(`shrunken_catalog_padded`).
-/
import CxlMailbox.Proofs.Command.Resolution
import Mathlib.Control.Monad.Basic

namespace CxlMailbox

set_option autoImplicit false

variable {δ : Type}

/-! ## Slots -/

/-- A slot that was not written. -/
def CatalogEntry.blank : CatalogEntry := {}

namespace QueryBuffer

variable {count header : UInt32} {written : List CatalogEntry}

/-- What a backend has written to the `count` slots that it was offered, up to the number that it
leaves in front of them. -/
def received (count header : UInt32) (written : List CatalogEntry) : List CatalogEntry :=
  (written.take count.toNat).take header.toNat

/-- The number of slots that are offered and counted, but were not written. -/
def blanks (count header : UInt32) (written : List CatalogEntry) : Nat :=
  min count.toNat header.toNat - written.length

theorem reported_fill_withCapacity (count header : UInt32) (written : List CatalogEntry) :
    ((withCapacity count).fill header written).reported =
      received count header written ++ List.replicate (blanks count header written) .blank := by
  have left : min (header.toNat - min count.toNat written.length) (count.toNat - written.length) =
      blanks count header written := by
    unfold blanks
    omega
  simp only [reported, fill, withCapacity, overlay, received, List.length_replicate,
    List.drop_replicate, List.take_append, List.length_take, List.take_replicate, left]
  rfl

theorem mem_of_mem_received {entry : CatalogEntry} (member : entry ∈ received count header written) :
    entry ∈ written.take count.toNat :=
  List.mem_of_mem_take member

/-- Nothing is blank if no more is counted than was written. -/
theorem blanks_eq_zero_iff :
    blanks count header written = 0 ↔ min count.toNat header.toNat ≤ written.length := by
  unfold blanks
  omega

/-- An id is reported if an entry with it was written, or if it is 0 and there are blanks. -/
theorem exists_reported_iff {id : UInt32} :
    (∃ entry ∈ ((withCapacity count).fill header written).reported, entry.id = id) ↔
      (∃ entry ∈ received count header written, entry.id = id) ∨
        (id = 0 ∧ blanks count header written ≠ 0) := by
  rw [reported_fill_withCapacity]
  constructor
  · rintro ⟨entry, member, same⟩
    rcases List.mem_append.mp member with here | blank
    · exact .inl ⟨entry, here, same⟩
    · obtain ⟨some_, rfl⟩ := List.mem_replicate.mp blank
      exact .inr ⟨same.symm, some_⟩
  · rintro (⟨entry, here, same⟩ | ⟨rfl, some_⟩)
    · exact ⟨entry, List.mem_append_left _ here, same⟩
    · exact ⟨.blank, List.mem_append_right _ (List.mem_replicate.mpr ⟨some_, rfl⟩), rfl⟩

end QueryBuffer

/-! ## Look-ups -/

/-- The look-up in a catalog succeeds for the ids of its entries. -/
theorem Command.validate_ok_iff {c : Command} {catalog : List CatalogEntry}
    (unresolved : c.resolution = .notRun) (cached : c.catalog = some catalog) {id : UInt32} :
    (c.validate id).1 = .ok () ↔ ∃ entry ∈ catalog, entry.id = id := by
  have found : (catalog.findIdx? fun entry => entry.id == id).isSome ↔
      ∃ entry ∈ catalog, entry.id = id := by
    simp [List.findIdx?_isSome]
  rw [← found]
  rcases looked : catalog.findIdx? fun entry => entry.id == id with _ | index
  · simp [Command.validate, unresolved, cached, looked]
  · simp [Command.validate, unresolved, cached, looked]

/-- So does the look-up of a session. -/
theorem Session.validate_ok_iff {s : Session δ} {catalog : List CatalogEntry}
    (unresolved : s.command.resolution = .notRun) (cached : s.command.catalog = some catalog)
    {id : UInt32} : (Session.validate id s).1 = .ok () ↔ ∃ entry ∈ catalog, entry.id = id := by
  obtain ⟨log, ran⟩ := Session.validate_apply id s
  rw [ran]
  exact Command.validate_ok_iff unresolved cached

/-! ## Queries -/

/-- A query that succeeds has made both rounds, and the command has what the second reports. -/
theorem Session.query_receives (backend : Backend δ) {s : Session δ}
    (unsettled : s.command.queryVerdict? = none) (answered : (query backend s).1 = .ok ()) :
    ∃ count first header second,
      Drive.exchanges (query backend.recorded) s =
        [.query s.command.device (.withCapacity 0) (.ok count) first,
          .query s.command.device (.withCapacity count) (.ok header) second] ∧
      (query backend s).2.command = s.command.receiveCatalog
        ((QueryBuffer.withCapacity count).fill header second).reported := by
  obtain ⟨answer, command⟩ := (query_follows backend.recorded_follows).answer_recording s
  rw [answer] at answered
  rw [command]
  let first := backend.query s.world.files s.command.device (.withCapacity 0) s.world.device
  rcases query_cases backend.recorded (s := s.recording) unsettled with
    ⟨e, log, failed, ran⟩ | ⟨count, counted, ⟨e, log, failed, ran⟩ | ⟨header, log, done, ran⟩⟩
  · rw [ran] at answered
    cases answered
  · rw [ran] at answered
    cases answered
  · let second := backend.query s.world.files s.command.device (.withCapacity count) first.device
    refine ⟨count, first.written, header, second.written, ?_, ?_⟩
    · rw [Drive.exchanges, ran, ← counted, ← done]
      rfl
    · rw [ran]
      rfl

/-- **A catalog has what the backend reported**, and blank entries if it counts more than it has
written: over every backend, the catalog that a successful query brings is the entries written in
the second round, cut to the slots offered and to the count in front of them, and then as many blank
entries as are missing.  A look-up succeeds for the ids of the former, and for id 0 if there are any
of the latter. -/
theorem fetched_catalog (backend : Backend δ) {s : Session δ}
    (unsettled : s.command.queryVerdict? = none)
    (answered : (Session.query backend s).1 = .ok ()) :
    let t := (Session.query backend s).2
    ∃ count first header second,
      Drive.exchanges (Session.query backend.recorded) s =
        [.query s.command.device (.withCapacity 0) (.ok count) first,
          .query s.command.device (.withCapacity count) (.ok header) second] ∧
      t.command.catalog = some (QueryBuffer.received count header second ++
        List.replicate (QueryBuffer.blanks count header second) .blank) ∧
      (∀ id, (Session.validate id t).1 = .ok () ↔
        (∃ entry ∈ QueryBuffer.received count header second, entry.id = id) ∨
          (id = 0 ∧ QueryBuffer.blanks count header second ≠ 0)) ∧
      -- With every counted slot written, nothing comes from anywhere else.
      (min count.toNat header.toNat ≤ second.length →
        (∀ entry ∈ t.command.entries, entry ∈ second.take count.toNat) ∧
        ∀ id, (Session.validate id t).1 = .ok () →
          ∃ entry ∈ second.take count.toNat, entry.id = id) := by
  intro t
  obtain ⟨count, first, header, second, asked, command⟩ :=
    Session.query_receives backend unsettled answered
  have unresolved : t.command.resolution = .notRun := by
    rw [command]
    exact (Command.queryVerdict?_eq_none_iff.mp unsettled).1
  have cached : t.command.catalog =
      some ((QueryBuffer.withCapacity count).fill header second).reported := by
    rw [command]
    rfl
  have looked (id : UInt32) : (Session.validate id t).1 = .ok () ↔
      (∃ entry ∈ QueryBuffer.received count header second, entry.id = id) ∨
        (id = 0 ∧ QueryBuffer.blanks count header second ≠ 0) :=
    (Session.validate_ok_iff unresolved cached).trans QueryBuffer.exists_reported_iff
  refine ⟨count, first, header, second, asked, ?_, looked, ?_⟩
  · rw [cached, QueryBuffer.reported_fill_withCapacity]
  · intro enough
    have none_ : QueryBuffer.blanks count header second = 0 :=
      QueryBuffer.blanks_eq_zero_iff.mpr enough
    constructor
    · intro entry member
      rw [Command.entries, cached, QueryBuffer.reported_fill_withCapacity, none_] at member
      exact QueryBuffer.mem_of_mem_received (by simpa using member)
    · intro id validated
      rcases (looked id).mp validated with ⟨entry, member, same⟩ | ⟨-, some_⟩
      · exact ⟨entry, QueryBuffer.mem_of_mem_received member, same⟩
      · exact absurd none_ some_

/-! ## A set of commands that shrinks -/

/-- A device that counts two commands, and then has one of them left.  It may leave another number
in front of it. -/
def World.shrinking (header? : Option UInt32) : World Script :=
  { device :=
      { queries :=
          [.ok { count? := some 2 },
            .ok { count? := header?, entries := [.enabled CommandId.identify 0 4] }] } }

/-- A new command of that device. -/
def Session.shrinking (header? : Option UInt32) : Session Script :=
  ⟨.unvalidated { payloadMax := 16 }, .shrinking header?⟩

/-- If the device says that one is left, then one is there, and id 0 is not found. -/
theorem fetched_catalog_shrinking :
    let s := Session.shrinking (some 1)
    let t := (Session.query Script.backend s).2
    (Session.query Script.backend s).1 = .ok () ∧
      t.command.catalog = some [.enabled CommandId.identify 0 4] ∧
      (∀ id, (Session.validate id t).1 = .ok () → id = CommandId.identify) := by
  intro s t
  have answered : (Session.query Script.backend s).1 = .ok () := by decide +kernel
  obtain ⟨count, first, header, second, asked, catalog, looked, -⟩ :=
    fetched_catalog Script.backend (s := s) rfl answered
  have made : Drive.exchanges (Session.query Script.backend.recorded) s =
      [.query { payloadMax := 16 } (.withCapacity 0) (.ok 2) [],
        .query { payloadMax := 16 } (.withCapacity 2) (.ok 1)
          [.enabled CommandId.identify 0 4]] := rfl
  rw [made] at asked
  cases asked
  refine ⟨answered, catalog, ?_⟩
  intro id validated
  rcases (looked id).mp validated with ⟨entry, member, same⟩ | ⟨-, some_⟩
  · obtain rfl := List.mem_singleton.mp member
    exact same.symm
  · exact absurd rfl some_

/-- If it leaves the count alone, a blank entry is behind it, and id 0 is found. -/
theorem shrunken_catalog_padded :
    let s := Session.shrinking none
    let t := (Session.query Script.backend s).2
    Drive.exchanges (Session.query Script.backend.recorded) s =
        [.query { payloadMax := 16 } (.withCapacity 0) (.ok 2) [],
          .query { payloadMax := 16 } (.withCapacity 2) (.ok 2)
            [.enabled CommandId.identify 0 4]] ∧
      (Session.query Script.backend s).1 = .ok () ∧
      t.command.catalog = some [.enabled CommandId.identify 0 4, .blank] ∧
      (Session.validate 0 t).1 = .ok () := by
  intro s t
  exact ⟨rfl, by decide +kernel, by decide +kernel, by decide +kernel⟩

end CxlMailbox
