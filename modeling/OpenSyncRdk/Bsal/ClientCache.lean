import Mathlib.Data.List.Nodup
import OpenSyncRdk.Bsal.Routing

/-!
For which clients the cache of client infos has an entry, over runs of steering events and of queries.
-/

namespace OpenSyncRdk
namespace Bsal

open Clients (MacAddr)

def macs (list : ClientInfoList) : List MacAddr :=
  list.map ClientInfoCache.mac

theorem bsalFindClientInfo_isSome (list : ClientInfoList) (mac : MacAddr)
    : (bsalFindClientInfo list mac).isSome ↔ mac ∈ macs list := by
  unfold bsalFindClientInfo macs
  rw [List.find?_isSome]
  simp [eq_comm]

theorem macs_setClientInfo (list : ClientInfoList) (mac : MacAddr) (client : ClientInfo)
    : macs (setClientInfo list mac client) = macs list := by
  unfold setClientInfo macs
  rcases Slots.replaceFirst_cases (fun cache => decide (mac = cache.mac)) { mac, client } list
    with ⟨_, hnone⟩ | ⟨pre, old, post, hlist, _, hold, _, _, hsome⟩
  . rw [hnone]
    rfl
  . rw [decide_eq_true_eq] at hold
    rw [hsome, hlist]
    simp [hold]

theorem macs_updateClientInfo (setBands : EvConnect → ClientInfo → ClientInfo) (calloc : Bool)
    (list : ClientInfoList) (connect : EvConnect)
    : macs (updateClientInfo setBands calloc list connect)
        =
      if connect.clientMac ∉ macs list ∧ calloc then
        macs list ++ [connect.clientMac]
      else
        macs list := by
  have hfind := bsalFindClientInfo_isSome list connect.clientMac
  unfold updateClientInfo
  split
  . next cache hcache =>
    rw [hcache, Option.isSome_some] at hfind
    rw [macs_setClientInfo]
    simp [← hfind]
  . next hnone =>
    rw [hnone, Option.isSome_none] at hfind
    have hnew : connect.clientMac ∉ macs list := by
      simp [← hfind]
    cases calloc with
    | false => simp
    | true =>
      simp only [↓reduceIte, hnew, not_false_eq_true, and_self]
      simp [macs]

theorem macs_bsalClientInfoRemove (list : ClientInfoList) (mac : MacAddr)
    : macs (bsalClientInfoRemove list mac) = (macs list).erase mac := by
  unfold bsalClientInfoRemove macs
  rw [List.erase_eq_eraseP', List.eraseP_map]
  congr 2
  funext cache
  rw [Bool.eq_iff_iff, Function.comp_apply, beq_iff_eq, decide_eq_true_eq]
  apply eq_comm

theorem macs_bsalClientSetConnected (hasAssocReqIes : Bool) (devices : Option (List AssociatedDev))
    (list : ClientInfoList) (mac : MacAddr)
    : macs (bsalClientSetConnected hasAssocReqIes devices list mac).1 = macs list := by
  unfold bsalClientSetConnected
  split
  . rfl
  . split
    . rfl
    . split
      . apply macs_setClientInfo
      . rfl

def associate (assoc : MacAddr → Option Int) (event : HalEvent) : MacAddr → Option Int :=
  match event.data with
  | .clientConnect connect =>
    fun mac => if mac = connect.clientMac then some event.apIndex else assoc mac
  | .clientDisconnect left _ _ _ =>
    fun mac => if mac = left ∧ assoc mac = some event.apIndex then none else assoc mac
  | _ => assoc

inductive CacheInput where
  | event (env : EventEnv) (event : HalEvent)
  | setConnected (hasAssocReqIes : Bool) (devices : Option (List AssociatedDev)) (mac : MacAddr)

structure Tracking where
  list : ClientInfoList
  assoc : MacAddr → Option Int

def Tracking.init : Tracking :=
  { list := [], assoc := fun _ => none }

def track (group : Group) (t : Tracking) : CacheInput → Option Tracking
  | .event env event =>
    some { list := (processEvent env group t.list event).1, assoc := associate t.assoc event }
  | .setConnected hasAssocReqIes devices mac =>
    some { t with list := (bsalClientSetConnected hasAssocReqIes devices t.list mac).1 }

structure Follows (macs : List MacAddr) (assoc : MacAddr → Option Int) : Prop where
  nodup : macs.Nodup
  assoc : ∀ mac, mac ∈ macs ↔ (assoc mac).isSome

def CacheInput.Orderly (t : Tracking) : CacheInput → Prop
  | .event env halEvent =>
    match halEvent.data with
    | .clientConnect connect =>
      (t.assoc connect.clientMac).isSome ∨ (env.registered ∧ env.callocEvent ∧ env.callocClient)
    | .clientDisconnect mac _ _ _ =>
      (t.assoc mac).isSome → (Delivers env halEvent ↔ t.assoc mac = some halEvent.apIndex)
    | _ => True
  | .setConnected .. => True

theorem processEvent_list (env : EventEnv) (group : Group) (list : ClientInfoList) (event : HalEvent)
    : (processEvent env group list event).1
        =
      if env.registered ∧ env.callocEvent then
        (switchType (bsalClientInfoUpdate env.callocClient) list event.data).1
      else
        list := by
  unfold processEvent
  cases env.registered <;> cases env.callocEvent <;> rfl

theorem switchType_disconnect (update : ClientInfoList → EvConnect → ClientInfoList)
    (list : ClientInfoList) (mac : MacAddr) (source : HalDiscSource) (type : HalDiscType)
    (reason : Nat)
    : (switchType update list (.clientDisconnect mac source type reason)).1
        =
      if (HalEventData.clientDisconnect mac source type reason).known then
        bsalClientInfoRemove list mac
      else
        list := by
  cases source <;> cases type <;> rfl

theorem switchType_rssiXing (update : ClientInfoList → EvConnect → ClientInfoList)
    (list : ClientInfoList) (mac : MacAddr) (rssi : Nat) (inactve high low : HalRssiXing)
    : (switchType update list (.rssiXing mac rssi inactve high low)).1 = list := by
  cases inactve <;> cases high <;> cases low <;> rfl

theorem macs_connect (env : EventEnv) (group : Group) (list : ClientInfoList) (apIndex : Int)
    (connect : EvConnect)
    : macs (processEvent env group list ⟨apIndex, .clientConnect connect⟩).1
        =
      if connect.clientMac ∉ macs list ∧ env.registered ∧ env.callocEvent ∧ env.callocClient then
        macs list ++ [connect.clientMac]
      else
        macs list := by
  rw [processEvent_list]
  split
  . next hhandled =>
    simp only [switchType, bsalClientInfoUpdate, macs_updateClientInfo, hhandled, true_and]
  . next hdropped =>
    split
    . next hhandled =>
      exact absurd ⟨hhandled.2.1, hhandled.2.2.1⟩ hdropped
    . rfl

theorem macs_disconnect (env : EventEnv) (group : Group) (list : ClientInfoList) (apIndex : Int)
    (mac : MacAddr) (source : HalDiscSource) (type : HalDiscType) (reason : Nat)
    : macs (processEvent env group list ⟨apIndex, .clientDisconnect mac source type reason⟩).1
        =
      if Delivers env ⟨apIndex, .clientDisconnect mac source type reason⟩ then
        (macs list).erase mac
      else
        macs list := by
  rw [processEvent_list]
  simp only [switchType_disconnect, Delivers, Bool.and_eq_true]
  by_cases hhandled : env.registered ∧ env.callocEvent
  . simp only [hhandled, true_and, and_self, ↓reduceIte]
    split
    . apply macs_bsalClientInfoRemove
    . rfl
  . simp only [hhandled, false_and, ↓reduceIte]

section

variable {macs : List MacAddr} {assoc : MacAddr → Option Int} {mac : MacAddr} {apIndex : Int}

theorem Follows.connect (hfollows : Follows macs assoc) (hmem : mac ∈ macs)
    : Follows macs (fun other => if other = mac then some apIndex else assoc other) := by
  constructor
  . exact hfollows.nodup
  . intro other
    split
    . next hother =>
      simp [hother, hmem]
    . apply hfollows.assoc

theorem Follows.append (hfollows : Follows macs assoc) (hmem : mac ∉ macs)
    : Follows (macs ++ [mac]) (fun other => if other = mac then some apIndex else assoc other) := by
  constructor
  . rw [← List.concat_eq_append]
    apply hfollows.nodup.concat hmem
  . intro other
    rw [List.mem_append, List.mem_singleton, hfollows.assoc other]
    split
    . next hother => simp [hother]
    . next hother => simp [hother]

theorem Follows.erase (hfollows : Follows macs assoc)
    : Follows (macs.erase mac)
        (fun other => if other = mac ∧ assoc other = some apIndex then none else assoc other)
        ↔
      ((assoc mac).isSome → assoc mac = some apIndex) := by
  constructor
  . intro hnext hsome
    have hgone := hnext.assoc mac
    rw [hfollows.nodup.mem_erase_iff] at hgone
    apply Decidable.byContradiction
    intro hne
    simp [hne, hsome] at hgone
  . intro hassoc
    constructor
    . apply hfollows.nodup.erase
    . intro other
      rw [hfollows.nodup.mem_erase_iff, hfollows.assoc other]
      by_cases hother : other = mac
      . by_cases hsome : (assoc mac).isSome
        . simp [hother, hassoc hsome]
        . rw [Option.not_isSome_iff_eq_none] at hsome
          simp [hother, hsome]
      . simp [hother]

theorem Follows.keep (hfollows : Follows macs assoc)
    : Follows macs (fun other => if other = mac ∧ assoc other = some apIndex then none else assoc other)
        ↔
      assoc mac ≠ some apIndex := by
  constructor
  . intro hnext hhere
    have hstays := hnext.assoc mac
    rw [hfollows.assoc] at hstays
    simp [hhere] at hstays
  . intro helsewhere
    constructor
    . exact hfollows.nodup
    . intro other
      rw [hfollows.assoc]
      split
      . next hother =>
        rw [hother.1] at hother
        exact absurd hother.2 helsewhere
      . rfl

end

def Tracking.Follows (t : Tracking) : Prop :=
  Bsal.Follows (macs t.list) t.assoc

section

variable {group : Group} {t : Tracking} {env : EventEnv} {apIndex : Int}

theorem Tracking.follows_connect (hfollows : t.Follows) (connect : EvConnect)
    : Bsal.Follows (macs (processEvent env group t.list ⟨apIndex, .clientConnect connect⟩).1)
        (associate t.assoc ⟨apIndex, .clientConnect connect⟩)
        ↔
      (t.assoc connect.clientMac).isSome ∨ (env.registered ∧ env.callocEvent ∧ env.callocClient) := by
  have hmem := hfollows.assoc connect.clientMac
  rw [macs_connect, ← hmem]
  simp only [associate]
  by_cases hknown : connect.clientMac ∈ macs t.list
  . simp only [hknown, not_true_eq_false, false_and, ↓reduceIte, true_or, iff_true]
    apply hfollows.connect hknown
  . simp only [hknown, not_false_eq_true, true_and, false_or]
    split
    . next hhandled =>
      apply iff_of_true (hfollows.append hknown) hhandled
    . next hdropped =>
      apply iff_of_false _ hdropped
      intro hnext
      have hnew := hnext.assoc connect.clientMac
      simp [hknown] at hnew

theorem Tracking.follows_disconnect (hfollows : t.Follows) (mac : MacAddr) (source : HalDiscSource)
    (type : HalDiscType) (reason : Nat)
    : let event : HalEvent := ⟨apIndex, .clientDisconnect mac source type reason⟩
      Bsal.Follows (macs (processEvent env group t.list event).1) (associate t.assoc event)
        ↔
      ((t.assoc mac).isSome → (Delivers env event ↔ t.assoc mac = some apIndex)) := by
  intro event
  rw [macs_disconnect]
  simp only [associate]
  split
  . next hhandled =>
    rw [hfollows.erase]
    simp [event, hhandled]
  . next hdropped =>
    rw [hfollows.keep]
    simp only [event, hdropped, Bool.false_eq_true, false_iff, ne_eq]
    constructor
    . intro helsewhere _
      exact helsewhere
    . intro helsewhere hhere
      apply helsewhere _ hhere
      rw [hhere]
      rfl

theorem Tracking.follows_step (hfollows : t.Follows) (input : CacheInput)
    : (∃ t', track group t input = some t' ∧ t'.Follows) ↔ input.Orderly t := by
  cases input with
  | event env event =>
    rcases event with ⟨apIndex, data⟩
    simp only [track, Option.some.injEq, exists_eq_left', Tracking.Follows]
    cases data with
    | clientConnect connect => apply follows_connect hfollows
    | clientDisconnect mac source type reason => apply follows_disconnect hfollows
    | rssiXing mac rssi inactve high low =>
      rw [processEvent_list, switchType_rssiXing]
      simp only [ite_self, associate, CacheInput.Orderly, iff_true]
      exact hfollows
    | _ =>
      rw [processEvent_list]
      simp only [switchType, ite_self, associate, CacheInput.Orderly, iff_true]
      exact hfollows
  | setConnected hasAssocReqIes devices mac =>
    simp only [track, Option.some.injEq, exists_eq_left', Tracking.Follows,
      macs_bsalClientSetConnected, CacheInput.Orderly, iff_true]
    exact hfollows

end

/--
The cache follows the associations in exactly the runs of orderly inputs. A late disconnect from the
access point that a client has left by roaming is not orderly, it removes the entry.
-/
theorem always_follows_iff (group : Group) (inputs : List CacheInput)
    : Machine.Always (track group) Tracking.Follows Tracking.init inputs
        ↔
      Machine.AllSteps (track group) (fun t input => input.Orderly t) Tracking.init inputs := by
  apply Machine.always_iff_allSteps
  . intro t input hfollows
    apply Tracking.follows_step hfollows
  . constructor
    . apply List.nodup_nil
    . intro mac
      simp [Tracking.init, macs]

def plainConnect (clientMac : MacAddr) : EvConnect :=
  { clientMac, isBTMSupported := true, isRRMSupported := true, bandsCap := some .freq5
    bandCap2G := false, bandCap5G := true, datarateInfo := DatarateInfo.zero
    rrmCaps := RrmCaps.zero }

def roam (mac : MacAddr) : List CacheInput :=
  [.event allOk ⟨0, .clientConnect (plainConnect mac)⟩,
    .event allOk ⟨1, .clientConnect (plainConnect mac)⟩,
    .event allOk ⟨0, .clientDisconnect mac .remote .disassoc 8⟩]

theorem not_always_follows_roam
    : ¬∀ (group : Group) (inputs : List CacheInput),
        Machine.Always (track group) Tracking.Follows Tracking.init inputs := by
  intro hall
  let mac : MacAddr := ⟨2, 0, 0, 0, 0, 1⟩
  have ⟨t, ht, hfollows⟩ := hall pairGroup (roam mac) (roam mac) List.prefix_rfl
  have hempty : (Machine.run (track pairGroup) Tracking.init (roam mac)).map
      (fun t => (t.list, t.assoc mac)) = some ([], some 1) := by
    decide
  rw [ht] at hempty
  injection hempty with hempty
  injection hempty with hlist hassoc
  have hiff := hfollows.assoc mac
  rw [hlist, hassoc] at hiff
  simp [macs] at hiff

end Bsal
end OpenSyncRdk
