import MessageProxy.Endpoint.Directory
import MessageProxy.Proofs.Endpoint.Effect

/-!
Reading words from the start of a shared buffer, and a page of the directory from such words.
-/

namespace MessageProxy.Endpoint

variable {σ : Type}

/-- The memory of that region starts with the given words. -/
def Shows (region : Region) (words : List UInt32) (world : World σ) : Prop :=
  ∀ count ≤ 4 * words.length,
    world.memory.fetch region.base count = (Bytes.ofWords words).take count

theorem shows_store {world : World σ} {memory : Memory} {region : Region} {words : List UInt32}
    (hmemory : world.memory = memory.store region.base (Bytes.ofWords words)) :
    Shows region words world := by
  intro count hcount
  rw [hmemory]
  exact Memory.fetch_store_of_le memory region.base (by rw [Bytes.length_ofWords]; exact hcount)

theorem toNat_wordEnd {index : UInt64} (hindex : index.toNat < 0x200000000) :
    (SharedBuffer.wordEnd index).toNat = 4 * (index.toNat + 1) := by
  have hfour : (4 : UInt64).toNat = 4 := rfl
  unfold SharedBuffer.wordEnd
  rw [UInt64.toNat_add, UInt64.toNat_mul, hfour]
  omega

/-- The end of `count` words from the one with index `first` on. -/
theorem toNat_wordEnd_last {first count : UInt32} (hcount : count ≠ 0) :
    (SharedBuffer.wordEnd (first.toUInt64 + count.toUInt64 - 1)).toNat =
      4 * (first.toNat + count.toNat) := by
  have hfirst := first.toNat_lt
  have hbound := count.toNat_lt
  have hpositive : 0 < count.toNat := by
    rw [Nat.pos_iff_ne_zero]
    intro hzero
    exact hcount (UInt32.toNat_inj.1 hzero)
  have hsum : (first.toUInt64 + count.toUInt64).toNat = first.toNat + count.toNat := by
    rw [UInt64.toNat_add, UInt32.toNat_toUInt64, UInt32.toNat_toUInt64]
    omega
  have hone : (1 : UInt64).toNat = 1 := rfl
  have hlast : (first.toUInt64 + count.toUInt64 - 1).toNat = first.toNat + count.toNat - 1 := by
    rw [UInt64.toNat_sub_of_le _ _ (UInt64.le_iff_toNat_le.2 (by omega)), hsum, hone]
  rw [toNat_wordEnd (by omega), hlast]
  omega

variable {endpoint : Endpoint σ} {buffer : SharedBuffer} {words : List UInt32}

theorem run_fetch (buffer : SharedBuffer) (count : Nat) (endpoint : Endpoint σ) :
    (buffer.fetch count : Action σ Bytes).run endpoint =
      (.ok (endpoint.world.memory.fetch buffer.region.base count), endpoint) :=
  rfl

theorem run_readWord (hshows : Shows buffer.region words endpoint.world) (index word : UInt32)
    (hword : words[index.toNat]? = some word) (hsize : 4 * (index.toNat + 1) ≤ buffer.size.toNat) :
    (buffer.readWord index : Action σ UInt32).run endpoint = (.ok word, endpoint) := by
  have hlength : index.toNat < words.length := (List.getElem?_eq_some_iff.1 hword).1
  have hindex := index.toNat_lt
  have hend : ¬SharedBuffer.wordEnd index.toUInt64 > buffer.size := by
    rw [gt_iff_lt, UInt64.lt_iff_toNat_lt, toNat_wordEnd (by rw [UInt32.toNat_toUInt64]; omega),
      UInt32.toNat_toUInt64]
    omega
  have hfetch := hshows (4 * (index.toNat + 1)) (by omega)
  have hdrop : (words.take (index.toNat + 1)).drop index.toNat = [word] := by
    rw [List.drop_take, Nat.add_sub_cancel_left, List.take_one, List.head?_drop, hword]
    rfl
  have hread : Bytes.words ((endpoint.world.memory.fetch buffer.region.base
      (4 * (index.toNat + 1))).drop (4 * index.toNat)) = [word] := by
    rw [hfetch, Bytes.take_ofWords, Bytes.drop_ofWords, Bytes.words_ofWords, hdrop]
  unfold SharedBuffer.readWord
  rw [if_neg hend, run_bind]
  simp only [run_fetch, hread, run_pure]

/-- A word that the size cuts off is not read. -/
theorem run_readWord_of_lt {index : UInt32} (hsize : buffer.size.toNat < 4 * (index.toNat + 1)) :
    (buffer.readWord index : Action σ UInt32).run endpoint = (.error .deviceError, endpoint) := by
  have hindex := index.toNat_lt
  have hend : SharedBuffer.wordEnd index.toUInt64 > buffer.size := by
    rw [gt_iff_lt, UInt64.lt_iff_toNat_lt, toNat_wordEnd (by rw [UInt32.toNat_toUInt64]; omega),
      UInt32.toNat_toUInt64]
    exact hsize
  unfold SharedBuffer.readWord
  rw [if_pos hend, run_throw]

theorem run_readWords (hshows : Shows buffer.region words endpoint.world) (first count : UInt32)
    (hlength : first.toNat + count.toNat ≤ words.length)
    (hsize : 4 * (first.toNat + count.toNat) ≤ buffer.size.toNat) :
    (buffer.readWords first count : Action σ (List UInt32)).run endpoint =
      (.ok ((words.drop first.toNat).take count.toNat), endpoint) := by
  unfold SharedBuffer.readWords
  by_cases hzero : count = 0
  · subst hzero
    simp
  have hend : ¬SharedBuffer.wordEnd (first.toUInt64 + count.toUInt64 - 1) > buffer.size := by
    rw [gt_iff_lt, UInt64.lt_iff_toNat_lt, toNat_wordEnd_last hzero]
    omega
  have hfetch := hshows (4 * (first.toNat + count.toNat)) (by omega)
  rw [if_neg hzero, if_neg hend, run_bind, run_fetch]
  dsimp only
  rw [run_pure, hfetch, Bytes.take_ofWords, Bytes.drop_ofWords, Bytes.words_ofWords, List.drop_take,
    Nat.add_sub_cancel_left]

/-- Words of which the size cuts off the last are not read. -/
theorem run_readWords_of_lt {first count : UInt32} (hcount : count ≠ 0)
    (hsize : buffer.size.toNat < 4 * (first.toNat + count.toNat)) :
    (buffer.readWords first count : Action σ (List UInt32)).run endpoint =
      (.error .deviceError, endpoint) := by
  have hend : SharedBuffer.wordEnd (first.toUInt64 + count.toUInt64 - 1) > buffer.size := by
    rw [gt_iff_lt, UInt64.lt_iff_toNat_lt, toNat_wordEnd_last hcount]
    exact hsize
  unfold SharedBuffer.readWords
  rw [if_neg hcount, if_pos hend, run_throw]

/-- When the firmware answers with the words of a page, that page is read. -/
theorem run_channelIds_of_shows {platform : Platform σ} (hbuffer : endpoint.buffer = some buffer)
    {start remaining returned : UInt32} {ids : List UInt32} {world : World σ}
    (hcommand : (liftM (Supervisor.command platform (.listChannels start)) : Action σ Unit).run
      endpoint = (.ok (), { endpoint with world }))
    (hshows : Shows buffer.region (remaining :: returned :: ids) world)
    (hreturned : returned.toNat = ids.length)
    (hsize : 4 * (ids.length + 2) ≤ buffer.size.toNat) :
    (channelIds platform start).run endpoint =
      (.ok { ids := ids.map ChannelId.mk, remaining, returned },
        { endpoint with world := world.noted (.listed start returned remaining) }) := by
  have hafter : Shows buffer.region (remaining :: returned :: ids)
      (Endpoint.mk endpoint.buffer world).world := hshows
  have hzero : (0 : UInt32).toNat = 0 := rfl
  have hone : (1 : UInt32).toNat = 1 := rfl
  have htwo : (2 : UInt32).toNat = 2 := rfl
  have hlength : (remaining :: returned :: ids).length = ids.length + 2 := rfl
  have hfirst := run_readWord hafter 0 remaining rfl (by omega)
  have hsecond := run_readWord hafter 1 returned rfl (by omega)
  have hids := run_readWords hafter 2 returned (by omega) (by omega)
  have hpage : ((remaining :: returned :: ids).drop 2).take ids.length = ids :=
    List.take_length
  rw [hreturned, htwo, hpage] at hids
  have hfits : Page.fits returned buffer.size = true := by
    rw [Page.fits, decide_eq_true_eq]
    omega
  rw [channelIds, run_withBuffer hbuffer, run_bind, hcommand]
  simp only [run_bind, hfirst, hsecond, hfits, if_true, hids, run_note, run_pure]

end MessageProxy.Endpoint
