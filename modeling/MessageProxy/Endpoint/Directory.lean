import MessageProxy.Endpoint.Attributes

/-!
The directory of channels, which the firmware lists page by page.

A page starts with the number of ids still pending and the number of ids on it. A walk over the
directory asks for the next page where the last one ended. The firmware decides how long that goes
on, so a walk has a budget of pages, and returns nothing when it spends them all.
-/

namespace MessageProxy.Endpoint

variable {σ : Type}

/-- One page of the directory. -/
structure Page where
  ids : List ChannelId
  /-- Ids still pending after this page. -/
  remaining : UInt32
  /-- The number of ids on this page. -/
  returned : UInt32
deriving DecidableEq

/-- Whether a page with `returned` ids fits into `size` bytes. -/
def Page.fits (returned : UInt32) (size : UInt64) : Bool :=
  4 * (returned.toNat + 2) ≤ size.toNat

/-- The index behind a page, which stops at the largest index. -/
def Page.next (start returned : UInt32) : UInt32 :=
  if start.toNat + returned.toNat < UInt32.size then start + returned else 0xFFFFFFFF

/-- The page of channel ids that starts at index `start`. -/
def channelIds (platform : Platform σ) (start : UInt32) : Action σ Page :=
  Action.withBuffer .deviceError fun buffer => do
    Supervisor.command platform (.listChannels start)
    let remaining ← buffer.readWord 0
    let returned ← buffer.readWord 1
    unless Page.fits returned buffer.size do
      refuse (.listingOverflow returned)
    let ids ← buffer.readWords 2 returned
    note (.listed start returned remaining)
    return { ids := ids.map ChannelId.mk, remaining, returned }

/-- Every channel id from index `start` on, in order, from at most `budget` pages. -/
def channelIdsFrom (platform : Platform σ) : Nat → UInt32 → Action σ (Option (List ChannelId))
  | 0, _ => pure none
  | budget + 1, start => do
    let page ← channelIds platform start
    if page.remaining = 0 then return some page.ids
    if page.returned = 0 then throw .unsupported
    let rest ← channelIdsFrom platform budget (Page.next start page.returned)
    return rest.map (page.ids ++ ·)

/-- Every channel id. -/
def allChannelIds (platform : Platform σ) (budget : Nat) : Action σ (Option (List ChannelId)) :=
  channelIdsFrom platform budget 0

/-- The first of the given channels whose attribute `key` reads as `value`; channels whose
attribute cannot be read are skipped. -/
def firstWith (platform : Platform σ) (key value : UInt32) :
    List ChannelId → Action σ (Option ChannelId)
  | [] => pure none
  | channel :: rest => do
    match ← observing (readAttributes platform channel key 1) with
    | .ok values =>
      if values.head? = some value then
        note (.found channel key value)
        return some channel
      firstWith platform key value rest
    | .error fault =>
      note (.skipped channel fault)
      firstWith platform key value rest

/-- The first channel from index `start` on whose attribute `key` reads as `value`, from at most
`budget` pages. -/
def findChannelFrom (platform : Platform σ) (key value : UInt32) :
    Nat → UInt32 → Action σ (Option ChannelId)
  | 0, _ => pure none
  | budget + 1, start => do
    let page ← channelIds platform start
    if page.returned = 0 then refuse (.noChannel key value)
    match ← firstWith platform key value page.ids with
    | some channel => return some channel
    | none =>
      if page.remaining = 0 then refuse (.noChannel key value)
      findChannelFrom platform key value budget (Page.next start page.returned)

/-- The first channel whose attribute `key` reads as `value`. -/
def findChannel (platform : Platform σ) (budget : Nat) (key value : UInt32) :
    Action σ (Option ChannelId) :=
  findChannelFrom platform key value budget 0

end MessageProxy.Endpoint
