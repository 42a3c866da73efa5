import OpenSyncRdk.Radio.ChanEvents
import Mathlib.Data.List.Basic

/-!
The radios that `chan_event_async_cb` publishes anew. Its flag `state_already_synchronized` stands for
one radio, while a batch may have events of several.
-/

namespace OpenSyncRdk
namespace Radio

def HalCbEntry.isKnown (entry : HalCbEntry) : Bool :=
  entry.isChange || entry.isRadar

def updating : Bool → List Drained → List HalCbEntry
  | _, [] => []
  | synchronized, drained :: batch =>
    match drained.entry.event with
    | .channelsChanged =>
      if synchronized then updating true batch else drained.entry :: updating true batch
    | .dfsRadarDetected => drained.entry :: updating synchronized batch
    | .other _ => updating synchronized batch

def Republishes (s : Dfs) (batch : List Drained) : Prop :=
  ∀ drained ∈ batch, drained.entry.isKnown = true →
    ∃ update ∈ (chanEventAsyncCb s batch).updates.drop s.updates.length,
      update.radioIndex = drained.entry.radioIndex

def RadarOf (batch : List Drained) (radioIndex : Nat) : Prop :=
  ∃ drained ∈ batch, drained.entry.isRadar = true ∧ drained.entry.radioIndex = radioIndex

def FirstChangeOf (batch : List Drained) (radioIndex : Nat) : Prop :=
  ∃ drained, batch.find? (fun drained => drained.entry.isChange) = some drained
    ∧ drained.entry.radioIndex = radioIndex

theorem foldl_chanEvent_updates (first : HalCbEntry) (s : Dfs) (synchronized : Bool)
    (batch : List Drained)
    : (batch.foldl (chanEvent first) (s, synchronized)).1.updates.map RadioUpdate.radioIndex
        =
      s.updates.map RadioUpdate.radioIndex
        ++ (updating synchronized batch).map HalCbEntry.radioIndex := by
  induction batch generalizing s synchronized with
  | nil => simp [updating]
  | cons drained batch ih =>
    rw [List.foldl_cons]
    unfold updating
    cases hevent : drained.entry.event with
    | channelsChanged =>
      cases synchronized with
      | true => simp [chanEvent, hevent, ih]
      | false => simp [chanEvent, hevent, ih, Dfs.radioStateUpdate]
    | dfsRadarDetected => simp [chanEvent, hevent, ih, Dfs.radioStateUpdate]
    | other val => simp [chanEvent, hevent, ih]

theorem radarOf_cons (drained : Drained) (batch : List Drained) (radioIndex : Nat)
    : RadarOf (drained :: batch) radioIndex
        ↔ (drained.entry.isRadar = true ∧ drained.entry.radioIndex = radioIndex)
            ∨ RadarOf batch radioIndex := by
  simp [RadarOf]

theorem firstChangeOf_cons (drained : Drained) (batch : List Drained) (radioIndex : Nat)
    : FirstChangeOf (drained :: batch) radioIndex
        ↔ if drained.entry.isChange then drained.entry.radioIndex = radioIndex
          else FirstChangeOf batch radioIndex := by
  unfold FirstChangeOf
  rw [List.find?_cons]
  split
  . next hchange => simp [hchange]
  . next hchange => simp [hchange]

theorem mem_updating_true_iff (batch : List Drained) (radioIndex : Nat)
    : radioIndex ∈ (updating true batch).map HalCbEntry.radioIndex ↔ RadarOf batch radioIndex := by
  induction batch with
  | nil => simp [updating, RadarOf]
  | cons drained batch ih =>
    rw [radarOf_cons, updating]
    cases hevent : drained.entry.event with
    | channelsChanged =>
      simp only [HalCbEntry.isRadar, hevent, ↓reduceIte, ih]
      grind
    | dfsRadarDetected =>
      simp only [HalCbEntry.isRadar, hevent, List.map_cons, List.mem_cons, ih]
      grind
    | other val =>
      simp only [HalCbEntry.isRadar, hevent, ih]
      grind

theorem mem_updating_false_iff (batch : List Drained) (radioIndex : Nat)
    : radioIndex ∈ (updating false batch).map HalCbEntry.radioIndex
        ↔ RadarOf batch radioIndex ∨ FirstChangeOf batch radioIndex := by
  induction batch with
  | nil => simp [updating, RadarOf, FirstChangeOf]
  | cons drained batch ih =>
    rw [radarOf_cons, firstChangeOf_cons, updating]
    cases hevent : drained.entry.event with
    | channelsChanged =>
      -- from here on the flag is set
      have htrue := mem_updating_true_iff batch radioIndex
      simp only [HalCbEntry.isRadar, HalCbEntry.isChange, hevent, List.map_cons, List.mem_cons,
        Bool.false_eq_true, ↓reduceIte, decide_true, htrue]
      grind
    | dfsRadarDetected =>
      simp only [HalCbEntry.isRadar, HalCbEntry.isChange, hevent, List.map_cons, List.mem_cons, ih]
      grind
    | other val =>
      simp only [HalCbEntry.isRadar, HalCbEntry.isChange, hevent, ih]
      grind

theorem chanEventAsyncCb_updates (s : Dfs) (batch : List Drained)
    : ((chanEventAsyncCb s batch).updates.drop s.updates.length).map RadioUpdate.radioIndex
        =
      (updating false batch).map HalCbEntry.radioIndex := by
  unfold chanEventAsyncCb
  rw [List.map_drop, foldl_chanEvent_updates]
  have hlength : (s.updates.map RadioUpdate.radioIndex).length = s.updates.length := by
    rw [List.length_map]
  rw [← hlength, List.drop_left]

/--
A radio whose channel changed is published if it is that of the first channel change of the batch, or if
it has a radar event in the batch.
-/
theorem republishes_iff (s : Dfs) (batch : List Drained)
    : Republishes s batch
        ↔
      ∀ drained ∈ batch, drained.entry.isChange = true →
        FirstChangeOf batch drained.entry.radioIndex ∨ RadarOf batch drained.entry.radioIndex := by
  have hpublished : ∀ radioIndex,
      (∃ update ∈ (chanEventAsyncCb s batch).updates.drop s.updates.length,
          update.radioIndex = radioIndex)
        ↔ RadarOf batch radioIndex ∨ FirstChangeOf batch radioIndex := by
    intro radioIndex
    rw [← mem_updating_false_iff, ← chanEventAsyncCb_updates s, List.mem_map]
  unfold Republishes
  simp only [hpublished]
  constructor
  . intro hall drained hdrained hchange
    exact (hall drained hdrained (by simp [HalCbEntry.isKnown, hchange])).symm
  . intro hchanges drained hdrained hknown
    rw [HalCbEntry.isKnown, Bool.or_eq_true] at hknown
    rcases hknown with hchange | hradar
    . exact (hchanges drained hdrained hchange).symm
    . exact Or.inl ⟨drained, hdrained, hradar, rfl⟩

def changeOf (radioIndex : Nat) : Drained :=
  { entry := { radioIndex, event := .channelsChanged, channel := 36, tvSec := 1700000000 }
    stateGet := true
  }

theorem not_republishes_second
    : ¬ Republishes { lastChannel := [], numDetected := [], radarTimestamp := 0, updates := [] }
          [changeOf 0, changeOf 1] := by
  intro hall
  have ⟨update, hupdate, hindex⟩ := hall (changeOf 1) (by simp) (by decide)
  have hmem := List.mem_map_of_mem (f := RadioUpdate.radioIndex) hupdate
  rw [hindex] at hmem
  exact absurd hmem (by decide)

end Radio
end OpenSyncRdk
