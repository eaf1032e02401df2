import MessageProxy.Proofs.Endpoint.Opening
import MessageProxy.Proofs.Remote.Attributes

/-!
Opening the channels of a remote.

The standard attributes of a channel travel through the shared memory as one block of words. The
remote shows zero for those that were never set, so the block is always complete, and each word of
it is the attribute at its place.
-/

namespace MessageProxy.Remote

open Endpoint

variable {κ α : Type} {setup : Setup κ} {allocate : UInt64 → α → Option Region × α}
  {endpoint : Endpoint (State κ × α)} {buffer : SharedBuffer} {channel : ChannelId}
  {entry : Channel κ}

/-- What the values of its attributes say about a channel. -/
def describing (value : UInt32 → UInt32) : ChannelInfo where
  protocolId := value 0
  protocolVersion := value 1
  maxMessageLength := value 2
  sendTimeout := value 3
  completionTimeout := value 4
  capability := .ofBits (value 5)
  eventId := value 6

/-- The standard attributes can all be read, whether they have been set or not. -/
theorem attributes_standard (hchannel : setup.channel? channel.raw = some entry)
    (hfault : entry.readFault = none) (held : UInt32 → UInt32 → Option UInt32) :
    setup.attributes held channel.raw 0 Attribute.standardCount =
      .ok ((List.range 12).map fun index => (held channel.raw index.toUInt32).getD 0) := by
  have hattributes : setup.attributes held channel.raw 0 Attribute.standardCount =
      valuesFrom (held channel.raw) 12 0 := by
    simp only [Setup.attributes, hchannel, hfault]
    rfl
  -- an attribute that was never set is still readable below the standard count
  have hstandard : ∀ index < 12, 0 + index.toUInt32 < Attribute.standardCount := by decide
  rw [hattributes, valuesFrom_of_readable fun index hindex => .inr (hstandard index hindex)]
  simp only [UInt32.zero_add]

/-- Opening a channel reads its standard attributes in one call and returns what they say. -/
theorem openChannel_connected (allocate : UInt64 → α → Option Region × α)
    (release : Region → α → α) (hconnected : Connected setup buffer endpoint)
    (hchannel : setup.channel? channel.raw = some entry) (hfault : entry.readFault = none)
    (hsize : 48 ≤ setup.size.toNat) :
    let info := describing fun key => (endpoint.world.state.1.held channel.raw key).getD 0
    ∃ opened, (openChannel (platform setup allocate release) channel).run endpoint =
        (.ok info, opened) ∧
      Received [.readAttributes channel 0 12] endpoint opened := by
  intro info
  have hroom : 4 * Attribute.standardCount.toNat ≤ setup.size.toNat := hsize
  obtain ⟨hread, hreceived⟩ := readAttributes_of_ok allocate release hconnected (by decide) hroom
    (attributes_standard hchannel hfault endpoint.world.state.1.held)
  exact ⟨_, run_openChannel_of_read (Prod.ext hread rfl) rfl, hreceived.noted _⟩

/-- Opening a channel reflects its attributes, whatever an endpoint that is alone on a remote has
done before. With room for the standard attributes, they are read in one call, and what they say is
returned: zero where nothing has been set, and the bits of the capability that have a meaning. A
channel is one for requests if its protocol is RPMI and it sends with a response; every other is
unsupported. Without room for them, nothing is called and nothing changes. The standard attributes
are never too few to describe a channel, from any firmware. The remote is assumed not to refuse to
set the shared memory with the code that means success. -/
theorem opening_reflects_attributes (hreports : setup.Reports) (hgrants : Grants allocate)
    (release : Region → α → α) (agents : κ) (pages : α) (before : List Operation)
    (channel : ChannelId) :
    let platform := platform setup allocate release
    let start := afterAll platform
      { buffer := none, world := .fresh (.initial setup agents, pages) } before
    let value (key : UInt32) := (start.world.state.1.held channel.raw key).getD 0
    let info : ChannelInfo :=
      { protocolId := value 0, protocolVersion := value 1, maxMessageLength := value 2
        sendTimeout := value 3, completionTimeout := value 4, capability := ⟨value 5 &&& 0x3F⟩
        eventId := value 6 }
    let opened := (openChannel platform channel).run start
    let requested := (openRequestChannel platform channel).run start
    (start.isInitialized = true →
      (∀ entry, setup.channel? channel.raw = some entry → entry.readFault = none →
        48 ≤ setup.size.toNat →
        opened.1 = .ok info ∧ Received [.readAttributes channel 0 12] start opened.2 ∧
          requested.1 = (if value 0 = 0 ∧ value 5 &&& 8 = 8 then .ok info
            else .error .unsupported) ∧
          Received [.readAttributes channel 0 12] start requested.2) ∧
      (setup.size.toNat < 48 → opened = (.error .invalidParameter, start) ∧
        requested = (.error .invalidParameter, start))) ∧
    ∀ (τ : Type) (firmware : Platform τ) (endpoint : Endpoint τ) (values : List UInt32),
      ((Endpoint.readAttributes firmware channel 0 12).run endpoint).1 = .ok values →
        (ChannelInfo.ofAttributes? values).isSome = true := by
  intro platform start value info opened requested
  refine ⟨fun hinitialized => ?_, ?_⟩
  · obtain ⟨buffer, hconnected⟩ :=
      connected_of_isInitialized hreports hgrants release agents pages before hinitialized
    refine ⟨?_, ?_⟩
    · intro entry hchannel hfault hsize
      obtain ⟨left, hopen, hreceived⟩ :=
        openChannel_connected allocate release hconnected hchannel hfault hsize
      have hrequests : info.isRequestChannel = true ↔ value 0 = 0 ∧ value 5 &&& 8 = 8 :=
        ChannelInfo.isRequestChannel_iff rfl
      have hopened : opened = (.ok info, left) := hopen
      have hrequested : requested = if info.isRequestChannel then (.ok info, left) else _ :=
        run_openRequestChannel_of_open hopen
      rw [hopened]
      refine ⟨rfl, hreceived, ?_⟩
      rw [hrequested]
      by_cases hrequest : info.isRequestChannel = true
      · rw [if_pos hrequest, if_pos (hrequests.1 hrequest)]
        exact ⟨rfl, hreceived⟩
      · rw [if_neg hrequest, if_neg fun hbits => hrequest (hrequests.2 hbits)]
        exact ⟨rfl, hreceived.noted _⟩
    · intro hsize
      have hsmall : buffer.size.toNat < 4 * Attribute.standardCount.toNat := by
        rw [hconnected.fits.size]
        exact hsize
      have hopened : opened = (.error .invalidParameter, start) :=
        run_openChannel_of_error (run_readAttributes_of_lt hconnected.holds hsmall channel 0)
      exact ⟨hopened, run_openRequestChannel_of_error hopened⟩
  · intro τ firmware endpoint values hread
    have hlength : values.length = Attribute.standardCount.toNat := length_of_readAttributes hread
    exact ChannelInfo.isSome_ofAttributes? (Nat.le_of_eq hlength.symm)

/-- A remote with a channel that has meaningless bits in its capability, and one that has nothing
set. -/
def Setup.described (size : UInt64) : Setup Unit :=
  { size
    channels := [(4, { Channel.bare with attributes := [(1, 0x10000), (2, 512), (5, 0xFFFFFFCA),
      (6, 0x40000010)] }), (5, .bare)] }

/-- The send timeout has been written before. Only the first channel is one for requests, and
neither can be opened where there is no room for twelve words. -/
theorem opening_reflects_attributes_written :
    let firmware (size : UInt64) := platform (.described size) Heap.allocate Heap.release
    let start (size : UInt64) := afterAll (firmware size)
      { buffer := none, world := .fresh (.initial (.described size) (), Heap.fresh) }
      [.init, .writeAttributes ⟨4⟩ 3 [77]]
    let info : ChannelInfo :=
      { protocolId := 0, protocolVersion := 0x10000, maxMessageLength := 512, sendTimeout := 77
        completionTimeout := 0, capability := ⟨0xA⟩, eventId := 0x40000010 }
    (start 48).isInitialized = true ∧ (start 47).isInitialized = true ∧
      ((openRequestChannel (firmware 48) ⟨4⟩).run (start 48)).1 = .ok info ∧
      ((openChannel (firmware 48) ⟨5⟩).run (start 48)).1 = .ok (describing fun _ => 0) ∧
      ((openRequestChannel (firmware 48) ⟨5⟩).run (start 48)).1 = .error .unsupported ∧
      (openChannel (firmware 47) ⟨4⟩).run (start 47) = (.error .invalidParameter, start 47) ∧
      ∃ values, ((Endpoint.readAttributes (firmware 48) ⟨4⟩ 0 12).run (start 48)).1 = .ok values ∧
        (ChannelInfo.ofAttributes? values).isSome = true := by
  intro firmware start info
  have hreports (size : UInt64) : (Setup.described size).Reports :=
    ⟨by rintro _ ⟨⟩, by rintro _ ⟨⟩⟩
  have hreflects (size : UInt64) (channel : ChannelId) :=
    opening_reflects_attributes (hreports size) grants_heap Heap.release () Heap.fresh
      [.init, .writeAttributes ⟨4⟩ 3 [77]] channel
  have hlarge : (start 48).isInitialized = true := by decide
  have hsmall : (start 47).isInitialized = true := by decide
  obtain ⟨-, -, hrequested, -⟩ := ((hreflects 48 ⟨4⟩).1 hlarge).1 _ rfl rfl (by decide)
  obtain ⟨hopened, -, hrefused, -⟩ := ((hreflects 48 ⟨5⟩).1 hlarge).1 _ rfl rfl (by decide)
  obtain ⟨hunread, -⟩ := ((hreflects 47 ⟨4⟩).1 hsmall).2 (by decide)
  obtain ⟨buffer, hconnected⟩ := connected_of_isInitialized (hreports 48) grants_heap Heap.release
    () Heap.fresh [.init, .writeAttributes ⟨4⟩ 3 [77]] hlarge
  have hroom : 4 * Attribute.standardCount.toNat ≤ (Setup.described 48).size.toNat := by decide
  obtain ⟨hread, -⟩ := readAttributes_of_ok Heap.allocate Heap.release hconnected (by decide) hroom
    (attributes_standard (rfl : (Setup.described 48).channel? (ChannelId.mk 4).raw = _) rfl _)
  have hcomplete := (hreflects 48 ⟨4⟩).2 _ (firmware 48) (start 48) _ hread
  refine ⟨hlarge, hsmall, ?_, ?_, ?_, hunread, _, hread, hcomplete⟩
  · exact hrequested.trans rfl
  · exact hopened.trans rfl
  · exact hrefused.trans rfl

end MessageProxy.Remote
