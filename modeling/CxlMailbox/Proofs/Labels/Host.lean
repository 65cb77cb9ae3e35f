/-
# CxlMailbox.Proofs.Labels.Host — label operations, seen from the host

A label operation changes nothing of the host but the log: no file, and nothing that was printed.
Every step of a drive keeps both (`Session.OnHost`), so every call does
(`LabelCall.perform_onHost`).
-/
import CxlMailbox.Proofs.Labels.Request

namespace CxlMailbox

set_option autoImplicit false

open Effect Session

variable {δ : Type}

/-! ## What belongs to the host -/

/-- Files and printed text of a world. -/
def World.OnHost (files : FileTree) (printed : String) (world : World δ) : Prop :=
  world.files = files ∧ world.printed = printed

namespace Session

variable {files : FileTree} {printed : String}

/-- Files and printed text around a command. -/
def OnHost (files : FileTree) (printed : String) (s : Session δ) : Prop :=
  s.world.OnHost files printed

theorem query_onHost (backend : Backend δ) : Keeps (OnHost files printed) (query backend) := by
  intro s held
  rcases settled : s.command.queryVerdict? with _ | verdict
  · rcases query_cases backend settled with
      ⟨e, log, -, ran⟩ | ⟨count, -, ⟨e, log, -, ran⟩ | ⟨header, log, -, ran⟩⟩ <;>
      rw [ran] <;> exact held
  · rw [query_settled settled]
    exact held

theorem validate_onHost (id : UInt32) : Keeps (OnHost (δ := δ) files printed) (validate id) := by
  intro s held
  obtain ⟨log, ran⟩ := validate_apply id s
  rw [ran]
  exact held

theorem prepare_onHost (backend : Backend δ) (id : UInt32) :
    Keeps (OnHost files printed) (prepare backend id) :=
  (query_onHost backend).bind fun _ => (validate_onHost id).bind fun _ _ held => held

theorem submit_onHost (backend : Backend δ) : Keeps (OnHost files printed) (submit backend) := by
  intro s held
  rcases fault : s.command.sendFault? with _ | e
  · obtain ⟨log, ran⟩ := submit_sends backend fault
    rw [ran]
    dsimp only
    split <;> exact held
  · rw [submit_refused fault]
    exact held

end Session

namespace Labels

theorem requireSuccess_onHost {files : FileTree} {printed : String} (operation : String) :
    Keeps (OnHost (δ := δ) files printed) (requireSuccess operation) := by
  intro s held
  obtain ⟨log, ran⟩ := requireSuccess_apply operation s
  rw [ran]
  exact held

variable {files : FileTree} {printed : String}

theorem fetch_onHost (backend : Backend δ) (buffer : Bytes) (offset : UInt32) (n : Nat) :
    Keeps (OnHost files printed) (fetch backend buffer offset n) := by
  refine (prepare_onHost backend _).bind fun _ => .bind (fun _ held => held) fun _ =>
    .bind (fun _ held => held) fun _ => .bind (fun _ held => held) fun _ =>
      (submit_onHost backend).bind fun _ => .bind (requireSuccess_onHost _) fun _ =>
        .bind (fun _ held => held) fun c => ?_
  split
  · exact .bind (fun _ held => held) fun _ => .throw _
  · exact .pure _

theorem store_onHost (backend : Backend δ) (data : Bytes) (offset : UInt32) (n : Nat) :
    Keeps (OnHost files printed) (store backend data offset n) :=
  (prepare_onHost backend _).bind fun _ => .bind (fun _ held => held) fun _ =>
    .bind (fun _ held => held) fun _ => (submit_onHost backend).bind fun _ =>
      requireSuccess_onHost _

end Labels

/-! ## Whole operations -/

namespace LabelCall

variable {files : FileTree} {printed : String}

theorem drive_onHost (backend : Backend δ) (n : Nat) (call : LabelCall) :
    Keeps (OnHost files printed) (call.drive backend n) := by
  cases call with
  | read buffer offset length => exact Labels.fetch_onHost backend _ offset n
  | write data offset length => exact Labels.store_onHost backend _ offset n
  | zero offset length => exact Labels.store_onHost backend _ offset n

/-- A call leaves the host's files and what was printed as they were. -/
theorem perform_onHost (backend : Backend δ) (info : DeviceInfo) (call : LabelCall)
    {world : World δ} (held : world.OnHost files printed) :
    (call.perform backend info world).2.OnHost files printed := by
  rcases faulty : call.fault? info with _ | fault
  · obtain ⟨n, resolved, covers⟩ := fault?_eq_none_iff.mp faulty
    obtain ⟨log, ran⟩ := perform_driven backend resolved covers world
    rw [ran]
    exact call.drive_onHost backend n _ held
  · obtain ⟨log, ran⟩ := perform_fault backend faulty world
    rw [ran]
    exact held

end LabelCall

end CxlMailbox
