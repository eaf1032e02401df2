import MessageProxy.Endpoint.Directory
import MessageProxy.Endpoint.Messages
import MessageProxy.Proofs.Endpoint.Effect

/-!
What the directory, the attributes and the messages of an endpoint leave alone.

Each of these operations keeps the endpoint's buffer and every property of the world that is steady
under the calls which the operation makes. Without a buffer, each fails and changes nothing.
-/

namespace MessageProxy.Endpoint

variable {σ α β : Type} {platform : Platform σ} {buffer : SharedBuffer} {allowed : Call → Prop}
  {P : World σ → Prop}

/-- The endpoint has the given buffer, and its world the given property. -/
def Holding (buffer : SharedBuffer) (P : World σ → Prop) (endpoint : Endpoint σ) : Prop :=
  endpoint.buffer = some buffer ∧ P endpoint.world

theorem keeps_note (hsteady : World.Steady platform buffer allowed P) (notice : Notice) :
    Keeps (Holding buffer P) (note notice : Action σ Unit) := by
  rintro endpoint ⟨hbuffer, hworld⟩
  exact ⟨hbuffer, hsteady.noted endpoint.world notice hworld⟩

theorem keeps_refuse (hsteady : World.Steady platform buffer allowed P) (reason : Refusal) :
    Keeps (Holding buffer P) (refuse reason : Action σ α) := by
  rintro endpoint ⟨hbuffer, hworld⟩
  exact ⟨hbuffer, hsteady.noted endpoint.world _ hworld⟩

theorem keeps_request (hsteady : World.Steady platform buffer allowed P) {call : Call}
    (hcall : allowed call) :
    Keeps (Holding buffer P)
      (liftM (ExceptT.run (Supervisor.request platform call)) : Action σ _) := by
  rintro endpoint ⟨hbuffer, hworld⟩
  exact ⟨hbuffer, hsteady.called endpoint.world call hcall hworld⟩

theorem keeps_command (hsteady : World.Steady platform buffer allowed P) {call : Call}
    (hcall : allowed call) :
    Keeps (Holding buffer P) (liftM (Supervisor.command platform call) : Action σ Unit) := by
  rintro endpoint ⟨hbuffer, hworld⟩
  rw [run_lift_supervisor, run_command]
  exact ⟨hbuffer, hsteady.called endpoint.world call hcall hworld⟩

theorem keeps_fetch (count : Nat) :
    Keeps (Holding buffer P) (buffer.fetch count : Action σ Bytes) :=
  fun _ hholding => hholding

theorem keeps_write (hsteady : World.Steady platform buffer allowed P) (bytes : Bytes) :
    Keeps (Holding buffer P) (buffer.write bytes : Action σ Unit) := by
  rintro endpoint ⟨hbuffer, hworld⟩
  rw [run_write]
  split
  · exact ⟨hbuffer, hworld⟩
  · exact ⟨hbuffer, hsteady.stored endpoint.world bytes (by omega) hworld⟩

theorem keeps_read (count : Nat) :
    Keeps (Holding buffer P) (buffer.read count : Action σ Bytes) :=
  .ite (.throw _) (keeps_fetch count)

theorem keeps_readWords (first count : UInt32) :
    Keeps (Holding buffer P) (buffer.readWords first count : Action σ (List UInt32)) :=
  .ite (.pure _) (.ite (.throw _) (.bind (keeps_fetch _) fun _ => .pure _))

theorem keeps_readWord (index : UInt32) :
    Keeps (Holding buffer P) (buffer.readWord index : Action σ UInt32) := by
  refine .ite (.throw _) (.bind (keeps_fetch _) fun bytes => ?_)
  cases Bytes.words (bytes.drop (4 * index.toNat)) with
  | nil => exact .throw _
  | cons word rest => exact .pure _

theorem keeps_withBuffer {absent : Fault} {use : SharedBuffer → Action σ α}
    (huse : Keeps (Holding buffer P) (use buffer)) :
    Keeps (Holding buffer P) (Action.withBuffer absent use) := by
  intro endpoint hholding
  rw [run_withBuffer hholding.1]
  exact huse endpoint hholding

theorem keeps_channelIds (hsteady : World.Steady platform buffer allowed P)
    (hlist : ∀ start, allowed (.listChannels start)) (start : UInt32) :
    Keeps (Holding buffer P) (channelIds platform start) := by
  refine keeps_withBuffer (.bind (keeps_command hsteady (hlist start)) fun _ => ?_)
  refine .bind (keeps_readWord 0) fun remaining => .bind (keeps_readWord 1) fun returned => ?_
  have hpage : Keeps (Holding buffer P) (do
      let ids ← buffer.readWords 2 returned
      note (.listed start returned remaining)
      return { ids := ids.map ChannelId.mk, remaining, returned } : Action σ Page) :=
    .bind (keeps_readWords 2 returned) fun _ => .bind (keeps_note hsteady _) fun _ => .pure _
  exact .ite hpage (.bind (keeps_refuse hsteady _) fun _ => hpage)

theorem keeps_channelIdsFrom (hsteady : World.Steady platform buffer allowed P)
    (hlist : ∀ start, allowed (.listChannels start)) (budget : Nat) (start : UInt32) :
    Keeps (Holding buffer P) (channelIdsFrom platform budget start) := by
  induction budget generalizing start with
  | zero => exact .pure none
  | succ budget ih =>
    refine .bind (keeps_channelIds hsteady hlist start) fun page => ?_
    exact .ite (.pure _) (.ite_bind (.throw _) (.bind (ih _) fun _ => .pure _))

theorem keeps_readAttributes (hsteady : World.Steady platform buffer allowed P)
    (hread : ∀ channel first count, allowed (.readAttributes channel first count))
    (channel : ChannelId) (first count : UInt32) :
    Keeps (Holding buffer P) (readAttributes platform channel first count) := by
  refine keeps_withBuffer (.ite_bind (.throw _) ?_)
  exact .bind (keeps_command hsteady (hread channel first count)) fun _ => keeps_readWords 0 count

theorem keeps_writeAttributes (hsteady : World.Steady platform buffer allowed P)
    (hwrite : ∀ channel first count, allowed (.writeAttributes channel first count))
    (channel : ChannelId) (first : UInt32) (values : List UInt32) :
    Keeps (Holding buffer P) (writeAttributes platform channel first values) := by
  refine keeps_withBuffer (.ite_bind (.throw _) ?_)
  exact .bind (keeps_write hsteady _) fun _ => keeps_command hsteady (hwrite _ _ _)

theorem keeps_openChannel (hsteady : World.Steady platform buffer allowed P)
    (hread : ∀ channel first count, allowed (.readAttributes channel first count))
    (channel : ChannelId) : Keeps (Holding buffer P) (openChannel platform channel) := by
  refine .bind (keeps_readAttributes hsteady hread _ _ _) fun values => ?_
  cases ChannelInfo.ofAttributes? values with
  | none => exact .throw _
  | some info => exact .bind (keeps_note hsteady _) fun _ => .pure _

theorem keeps_firstWith (hsteady : World.Steady platform buffer allowed P)
    (hread : ∀ channel first count, allowed (.readAttributes channel first count))
    (key value : UInt32) (channels : List ChannelId) :
    Keeps (Holding buffer P) (firstWith platform key value channels) := by
  induction channels with
  | nil => exact .pure none
  | cons channel rest ih =>
    refine .bind (.observing (keeps_readAttributes hsteady hread _ _ _)) fun outcome => ?_
    cases outcome with
    | error fault => exact .bind (keeps_note hsteady _) fun _ => ih
    | ok values => exact .ite (.bind (keeps_note hsteady _) fun _ => .pure _) ih

theorem keeps_findChannelFrom (hsteady : World.Steady platform buffer allowed P)
    (hlist : ∀ start, allowed (.listChannels start))
    (hread : ∀ channel first count, allowed (.readAttributes channel first count))
    (key value : UInt32) (budget : Nat) (start : UInt32) :
    Keeps (Holding buffer P) (findChannelFrom platform key value budget start) := by
  induction budget generalizing start with
  | zero => exact .pure none
  | succ budget ih =>
    refine .bind (keeps_channelIds hsteady hlist start) fun page => ?_
    refine .ite_bind (keeps_refuse hsteady _) ?_
    refine .bind (keeps_firstWith hsteady hread key value page.ids) fun found => ?_
    cases found with
    | some channel => exact .pure _
    | none => exact .ite_bind (keeps_refuse hsteady _) (ih _)

theorem keeps_stage (hsteady : World.Steady platform buffer allowed P) (request : Bytes) :
    Keeps (Holding buffer P) (stage buffer request : Action σ Unit) :=
  .ite_bind (.throw _) (keeps_write hsteady request)

theorem keeps_send (hsteady : World.Steady platform buffer allowed P)
    (hsend : ∀ channel message length, allowed (.send channel message length))
    (channel : ChannelId) (message : UInt32) (request : Bytes) (capacity : Nat) :
    Keeps (Holding buffer P) (send platform channel message request capacity) := by
  refine keeps_withBuffer (.bind (keeps_stage hsteady request) fun _ => ?_)
  refine .bind (keeps_request hsteady (hsend _ _ _)) fun outcome => ?_
  cases outcome with
  | error status => exact .bind (keeps_note hsteady _) fun _ => .throw _
  | ok length =>
    refine .ite (.pure _) (.ite_bind (keeps_refuse hsteady _) (.ite_bind (.throw _) ?_))
    exact .bind (keeps_read _) fun _ => .bind (keeps_note hsteady _) fun _ => .pure _

theorem keeps_post (hsteady : World.Steady platform buffer allowed P)
    (hpost : ∀ channel message length, allowed (.post channel message length))
    (channel : ChannelId) (message : UInt32) (request : Bytes) :
    Keeps (Holding buffer P) (post platform channel message request) :=
  keeps_withBuffer (.bind (keeps_stage hsteady request) fun _ =>
    keeps_command hsteady (hpost _ _ _))

end MessageProxy.Endpoint
