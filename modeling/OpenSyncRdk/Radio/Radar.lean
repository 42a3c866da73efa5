import OpenSyncRdk.Radio.ChanEvents
import Mathlib.Data.List.Basic

/-!
The radar information against the radar events, for every way in which the event loop cuts the sequence
of events into batches.
-/

namespace OpenSyncRdk
namespace Radio

abbrev Stamped := HalCbEntry × Drained

def Stamped.isRadar (stamped : Stamped) : Bool :=
  stamped.2.entry.isRadar

def Stamped.radar (stamped : Stamped) : RadarInfo :=
  { lastChannel := decimal stamped.2.entry.channel.toNat
    numDetected := cstr "1"
    time := decimal (unsignedInt stamped.1.tvSec)
  }

def Stamped.update (stamped : Stamped) : RadioUpdate :=
  { radioIndex := stamped.2.entry.radioIndex
    event := stamped.2.entry
    radar := if stamped.2.stateGet then some stamped.radar else none
  }

def stampedBatch (batch : List Drained) : List Stamped :=
  batch.map (fun drained => (firstOf batch, drained))

def radarsOf (events : List Stamped) : List Stamped :=
  events.filter Stamped.isRadar

def RightlyStamped (stamped : Stamped) : Prop :=
  unsignedInt stamped.1.tvSec = unsignedInt stamped.2.entry.tvSec

structure Bookkept (events : List HalCbEntry) (t : Dfs) : Prop where
  last : ∀ entry, (events.filter HalCbEntry.isRadar).getLast? = some entry →
    t.lastChannel = decimal entry.channel.toNat ∧ t.radarTimestamp = unsignedInt entry.tvSec
  published : ∀ update ∈ t.updates, update.event.isRadar = true →
    ∀ radar, update.radar = some radar →
      radar.lastChannel = decimal update.event.channel.toNat
        ∧ radar.time = decimal (unsignedInt update.event.tvSec)

structure Tracks (s : Dfs) (events : List Stamped) (t : Dfs) : Prop where
  untouched : radarsOf events = [] →
    t.lastChannel = s.lastChannel ∧ t.radarTimestamp = s.radarTimestamp
  last : ∀ stamped, (radarsOf events).getLast? = some stamped →
    t.lastChannel = decimal stamped.2.entry.channel.toNat
      ∧ t.radarTimestamp = unsignedInt stamped.1.tvSec
  updates : t.updates.filter (fun update => update.event.isRadar)
      =
    s.updates.filter (fun update => update.event.isRadar) ++ (radarsOf events).map Stamped.update

theorem tracks_nil (s : Dfs)
    : Tracks s [] s := by
  constructor <;> simp [radarsOf]

theorem radarsOf_concat_of_radar (events : List Stamped) (stamped : Stamped)
    (hradar : stamped.isRadar = true)
    : radarsOf (events ++ [stamped]) = radarsOf events ++ [stamped] := by
  unfold radarsOf
  rw [List.filter_append, List.filter_singleton, hradar, cond_true]

theorem radarsOf_concat_of_not_radar (events : List Stamped) (stamped : Stamped)
    (hradar : stamped.isRadar = false)
    : radarsOf (events ++ [stamped]) = radarsOf events := by
  unfold radarsOf
  rw [List.filter_append, List.filter_singleton, hradar, cond_false, List.append_nil]

/-- An event that is no radar event may be published, but it leaves the radar information alone. -/
theorem Tracks.of_not_radar {s t u : Dfs} {events : List Stamped} (htracks : Tracks s events t)
    (stamped : Stamped) (hradar : stamped.isRadar = false)
    (hchannel : u.lastChannel = t.lastChannel) (htime : u.radarTimestamp = t.radarTimestamp)
    (hupdates : u.updates.filter (fun update => update.event.isRadar)
      = t.updates.filter (fun update => update.event.isRadar))
    : Tracks s (events ++ [stamped]) u := by
  have ⟨hnone, hlast, hold⟩ := htracks
  constructor
  . rw [radarsOf_concat_of_not_radar events stamped hradar, hchannel, htime]
    exact hnone
  . rw [radarsOf_concat_of_not_radar events stamped hradar, hchannel, htime]
    exact hlast
  . rw [radarsOf_concat_of_not_radar events stamped hradar, hupdates, hold]

theorem updateRadarInfo_radar (s : Dfs) (stamped : Stamped)
    : updateRadarInfo
        { s with
          lastChannel := decimal stamped.2.entry.channel.toNat
          numDetected := cstr "1"
          radarTimestamp := unsignedInt stamped.1.tvSec
        }
        =
      stamped.radar := by
  have hpos : 0 < (decimal stamped.2.entry.channel.toNat).length := by
    unfold decimal
    rw [List.length_map]
    exact Nat.length_toDigits_pos
  unfold updateRadarInfo Stamped.radar
  dsimp only
  rw [if_pos hpos]
  rfl

theorem Tracks.chanEvent {s t : Dfs} {events : List Stamped} (htracks : Tracks s events t)
    (first : HalCbEntry) (synchronized : Bool) (drained : Drained)
    : Tracks s (events ++ [(first, drained)])
        (Radio.chanEvent first (t, synchronized) drained).1 := by
  unfold Radio.chanEvent
  cases hevent : drained.entry.event with
  | channelsChanged =>
    have hradar : drained.entry.isRadar = false := by
      simp [HalCbEntry.isRadar, hevent]
    dsimp only
    split
    . refine htracks.of_not_radar (first, drained) hradar ?_ ?_ ?_
      . rfl
      . rfl
      . simp [Dfs.radioStateUpdate, hradar]
    . exact htracks.of_not_radar (first, drained) hradar rfl rfl rfl
  | dfsRadarDetected =>
    have hradar : drained.entry.isRadar = true := by
      simp [HalCbEntry.isRadar, hevent]
    have hconcat := radarsOf_concat_of_radar events (first, drained) hradar
    constructor
    . intro hnone
      rw [hconcat] at hnone
      simp at hnone
    . intro stamped hlast
      rw [hconcat, List.getLast?_concat] at hlast
      injection hlast with hlast
      rw [← hlast]
      exact ⟨rfl, rfl⟩
    . have hinfo := updateRadarInfo_radar t (first, drained)
      rw [hconcat, List.map_append, ← List.append_assoc, ← htracks.updates, List.map_singleton]
      dsimp only [Dfs.radioStateUpdate]
      rw [hinfo, List.filter_append, List.filter_singleton, hradar, cond_true]
      rfl
  | other val =>
    have hradar : drained.entry.isRadar = false := by
      simp [HalCbEntry.isRadar, hevent]
    exact htracks.of_not_radar (first, drained) hradar rfl rfl rfl

theorem Tracks.batch {s t : Dfs} {events : List Stamped} (htracks : Tracks s events t)
    (first : HalCbEntry) (synchronized : Bool) (batch : List Drained)
    : Tracks s (events ++ batch.map (fun drained => (first, drained)))
        (batch.foldl (Radio.chanEvent first) (t, synchronized)).1 := by
  induction batch generalizing t events synchronized with
  | nil =>
    rw [List.map_nil, List.append_nil]
    exact htracks
  | cons drained batch ih =>
    rw [List.map_cons, List.append_cons, List.foldl_cons]
    exact ih (htracks.chanEvent first synchronized drained) _

theorem Tracks.batches {s t : Dfs} {events : List Stamped} (htracks : Tracks s events t)
    (batches : List (List Drained))
    : Tracks s (events ++ batches.flatMap stampedBatch) (batches.foldl chanEventAsyncCb t) := by
  induction batches generalizing t events with
  | nil =>
    rw [List.flatMap_nil, List.append_nil]
    exact htracks
  | cons batch batches ih =>
    rw [List.flatMap_cons, ← List.append_assoc, List.foldl_cons]
    exact ih (htracks.batch (firstOf batch) false batch)

theorem flatten_entries (batches : List (List Drained))
    : (batches.flatten.map Drained.entry).filter HalCbEntry.isRadar
        =
      (radarsOf (batches.flatMap stampedBatch)).map (fun stamped => stamped.2.entry) := by
  have hbatch : batches.flatten = (batches.flatMap stampedBatch).map Prod.snd := by
    induction batches with
    | nil => rfl
    | cons batch batches ih =>
      simp [stampedBatch, ih, Function.comp_def]
  rw [hbatch, List.map_map, List.filter_map]
  rfl

/--
The timestamp is taken from the first event of a batch. It is right if every radar event that is
published has that of the first event of its batch, and so has the last radar event of all.
-/
theorem bookkept_iff (batches : List (List Drained)) (s : Dfs) (hupdates : s.updates = [])
    : Bookkept (batches.flatten.map Drained.entry) (batches.foldl chanEventAsyncCb s)
        ↔
      (∀ stamped ∈ radarsOf (batches.flatMap stampedBatch),
          stamped.2.stateGet = true → RightlyStamped stamped)
        ∧ ∀ stamped, (radarsOf (batches.flatMap stampedBatch)).getLast? = some stamped →
            RightlyStamped stamped := by
  have ⟨_, hlast, hradars⟩ := (tracks_nil s).batches batches
  rw [List.nil_append] at hlast hradars
  rw [hupdates, List.filter_nil, List.nil_append] at hradars
  constructor
  . intro ⟨hlast', hpublished⟩
    constructor
    . intro stamped hstamped hstateGet
      have hmem : stamped.update ∈ (batches.foldl chanEventAsyncCb s).updates := by
        apply List.mem_of_mem_filter (p := fun update => update.event.isRadar)
        rw [hradars]
        exact List.mem_map_of_mem hstamped
      have hradar : stamped.isRadar = true := List.of_mem_filter hstamped
      have hright := (hpublished stamped.update hmem hradar stamped.radar (if_pos hstateGet)).2
      exact decimal_injective hright
    . intro stamped hstamped
      have hentry := hlast' stamped.2.entry (by rw [flatten_entries, List.getLast?_map, hstamped]; rfl)
      have hright := (hlast stamped hstamped).2
      exact hright.symm.trans hentry.2
  . intro ⟨hpublished, hlast'⟩
    constructor
    . intro entry hentry
      rw [flatten_entries, List.getLast?_map, Option.map_eq_some_iff] at hentry
      have ⟨stamped, hstamped, heq⟩ := hentry
      have ⟨hchannel, htime⟩ := hlast stamped hstamped
      rw [← heq, hchannel, htime]
      exact ⟨rfl, hlast' stamped hstamped⟩
    . intro update hupdate hradar radar hpublishes
      have hmem : update ∈ (radarsOf (batches.flatMap stampedBatch)).map Stamped.update := by
        rw [← hradars]
        exact List.mem_filter.mpr ⟨hupdate, hradar⟩
      have ⟨stamped, hstamped, heq⟩ := List.mem_map.mp hmem
      rw [← heq] at hpublishes ⊢
      unfold Stamped.update at hpublishes
      dsimp only at hpublishes
      split at hpublishes
      . next hstateGet =>
        injection hpublishes with hpublishes
        rw [← hpublishes]
        refine ⟨rfl, ?_⟩
        exact congrArg decimal (hpublished stamped hstamped hstateGet)
      . contradiction

def Dfs.initial : Dfs :=
  { lastChannel := [], numDetected := [], radarTimestamp := 0, updates := [] }

def changeAt (tvSec : Int) : Drained :=
  { entry := { radioIndex := 1, event := .channelsChanged, channel := 100, tvSec }, stateGet := true }

def radarAt (tvSec : Int) : Drained :=
  { entry := { radioIndex := 1, event := .dfsRadarDetected, channel := 100, tvSec }, stateGet := true }

theorem bookkept_iff_apart
    : let batches := [[changeAt 1700000000], [radarAt 1700000001, radarAt 1700000001]]
      Bookkept (batches.flatten.map Drained.entry) (batches.foldl chanEventAsyncCb .initial) := by
  intro batches
  apply (bookkept_iff batches .initial rfl).mpr
  have hradars : radarsOf (batches.flatMap stampedBatch)
      = List.replicate 2 ((radarAt 1700000001).entry, radarAt 1700000001) := by
    rfl
  rw [hradars]
  refine ⟨?_, ?_⟩
  . intro stamped hmem _
    rw [List.eq_of_mem_replicate hmem]
    rfl
  . intro stamped hlast
    injection hlast with hlast
    rw [← hlast]
    rfl

theorem not_bookkept_together
    : let batches := [[changeAt 1700000000, radarAt 1700000001]]
      ¬ Bookkept (batches.flatten.map Drained.entry) (batches.foldl chanEventAsyncCb .initial) := by
  intro batches ⟨hlast, _⟩
  have htime := (hlast (radarAt 1700000001).entry (by decide)).2
  exact absurd htime (by decide)

end Radio
end OpenSyncRdk
