import Mathlib.Data.List.Pairwise
import Mathlib.Data.List.Perm.Basic
import OpenSyncRdk.Bsal.AssocIes

/-!
Whether the order of the elements of an association request matters. `Ie` is an element by itself, and
`AssocReq.ofIes` an association request that consists of some.
-/

namespace OpenSyncRdk
namespace Bsal

structure Ie where
  id : UInt8
  data : List UInt8
  deriving DecidableEq

def Ie.bytes (ie : Ie) : List UInt8 :=
  ie.id :: UInt8.ofNat ie.data.length :: ie.data

structure Ie.WellFormed (ie : Ie) : Prop where
  datalen : ie.data.length < 256
  full : bytesRead ie.id ≤ ie.data.length

def AssocReq.ofIes (behind : Mem) (ies : List Ie) : AssocReq :=
  { reqIes := behind.store 0 (ies.flatMap Ie.bytes)
    reqIesLen := (ies.flatMap Ie.bytes).length }

def parseIe (info : ClientInfo) (ie : Ie) : ClientInfo :=
  (bmParseElement ie.id 0 info).run (Mem.ofBytes ie.data)

theorem run_bmParseElement_shift (mem : Mem) (id : UInt8) (data : Nat) (info : ClientInfo)
    : (bmParseElement id data info).run mem
        = (bmParseElement id 0 info).run (fun idx => mem (data + idx)) := by
  unfold bmParseElement
  split_ifs <;> simp [Reads.le16, Reads.le32, Nat.add_assoc]

def At (mem : Mem) (off : Nat) (bytes : List UInt8) : Prop :=
  ∀ idx (hidx : idx < bytes.length), mem (off + idx) = bytes[idx]

theorem At.left {mem : Mem} {off : Nat} {lhs rhs : List UInt8} (hat : At mem off (lhs ++ rhs))
    : At mem off lhs := by
  intro idx hidx
  rw [hat idx (by rw [List.length_append]; omega)]
  apply List.getElem_append_left

theorem At.right {mem : Mem} {off : Nat} {lhs rhs : List UInt8} (hat : At mem off (lhs ++ rhs))
    : At mem (off + lhs.length) rhs := by
  intro idx hidx
  have hget := hat (lhs.length + idx) (by rw [List.length_append]; omega)
  rw [List.getElem_append_right (by omega)] at hget
  simpa [Nat.add_assoc] using hget

theorem run_bmParseElement_ie {mem : Mem} {data : Nat} {ie : Ie} (hie : ie.WellFormed)
    (hat : At mem data ie.data) (info : ClientInfo)
    : (bmParseElement ie.id data info).run mem = parseIe info ie := by
  rw [run_bmParseElement_shift]
  apply Reads.run_congr
  intro off hoff
  have ⟨_, hlt⟩ := trace_bmParseElement_lt hoff
  have hidx : off < ie.data.length := by
    have := hie.full
    omega
  rw [hat off hidx]
  simp [Mem.ofBytes, hidx]

theorem foldl_elements {mem : Mem} {len off : Nat} {ies : List Ie} (hies : ∀ ie ∈ ies, ie.WellFormed)
    (hat : At mem off (ies.flatMap Ie.bytes)) (hlen : len = off + (ies.flatMap Ie.bytes).length)
    (info : ClientInfo)
    : (elements mem len off).foldl
        (fun info elem => (bmParseElement elem.id elem.data info).run mem) info
        =
      ies.foldl parseIe info := by
  induction ies generalizing off info with
  | nil =>
    rw [elements, if_neg]
    . rfl
    . simp at hlen
      omega
  | cons ie ies ih =>
    have hie := hies ie (by simp)
    rw [List.flatMap_cons] at hat hlen
    have hbytes : ie.bytes.length = ie.data.length + 2 := by
      simp [Ie.bytes]
    have hid : mem off = ie.id := hat.left 0 (by omega)
    have hdatalen : (mem (off + 1)).toNat = ie.data.length := by
      have hget : mem (off + 1) = UInt8.ofNat ie.data.length := hat.left 1 (by omega)
      rw [hget, UInt8.toNat_ofNat']
      have := hie.datalen
      omega
    have hdata : At mem (off + 2) ie.data := by
      have hsplit : ie.bytes = [ie.id, UInt8.ofNat ie.data.length] ++ ie.data := rfl
      have hleft := hat.left
      rw [hsplit] at hleft
      exact hleft.right
    have hrest := hat.right
    rw [List.length_append] at hlen
    rw [elements, if_pos (by omega), List.foldl_cons, List.foldl_cons]
    rw [← run_bmParseElement_ie hie hdata]
    rw [hdatalen, ← ih]
    . rw [hid]
      rfl
    . intro ie hmem
      apply hies
      simp [hmem]
    . rw [Nat.add_assoc, Nat.add_comm 2, ← hbytes]
      exact hrest
    . omega

theorem run_parseAssocReq_ofIes {ies : List Ie} (hies : ∀ ie ∈ ies, ie.WellFormed) (behind : Mem)
    (info : ClientInfo)
    : let req := AssocReq.ofIes behind ies
      (parseAssocReq info req.reqIesLen).run req.reqIes = ies.foldl parseIe info := by
  intro req
  rw [run_parseAssocReq]
  apply foldl_elements hies
  . intro idx hidx
    rw [Nat.zero_add]
    simp only [req, AssocReq.ofIes, Mem.store_zero_get _ _ hidx, Mem.ofBytes]
    rw [List.getD_eq_getElem?_getD, List.getElem?_eq_getElem hidx]
    rfl
  . simp [req, AssocReq.ofIes]

inductive Caps where
  | btm (extCaps : Nat)
  | rrm (rmCapOct1 rmCapOct2 rmCapOct5 : UInt8)
  | ht (htCapInfo mcsSet : Nat)
  | vht (vhtInfo rxMcsMap : Nat)
  | pwr (maxTxPower : UInt8)
  | unknown

def Caps.apply (info : ClientInfo) : Caps → ClientInfo
  | .btm extCaps => bmParseBtmSupported info extCaps
  | .rrm rmCapOct1 rmCapOct2 rmCapOct5 =>
    bmParseRrmSupported info rmCapOct1 rmCapOct2 rmCapOct5
  | .ht htCapInfo mcsSet => bmParseHtCap info htCapInfo mcsSet
  | .vht vhtInfo rxMcsMap => bmParseVhtCap info vhtInfo rxMcsMap
  | .pwr maxTxPower => bmParsePwrCap info maxTxPower
  | .unknown => info

def Ie.caps (ie : Ie) : Caps :=
  let mem := Mem.ofBytes ie.data
  if ie.id = wlanEidExtCapab then
    .btm ((Reads.le32 0).run mem)
  else if ie.id = wlanEidRrmEnabledCapabilities then
    .rrm (mem 0) (mem 1) (mem 4)
  else if ie.id = wlanEidHtCap then
    .ht ((Reads.le16 0).run mem) ((Reads.le32 3).run mem)
  else if ie.id = wlanEidVhtCap then
    .vht ((Reads.le32 0).run mem) ((Reads.le16 4).run mem)
  else if ie.id = wlanEidPwrCapability then
    .pwr (mem 1)
  else
    .unknown

theorem parseIe_eq (info : ClientInfo) (ie : Ie)
    : parseIe info ie = ie.caps.apply info := by
  unfold parseIe bmParseElement Ie.caps
  split_ifs <;> simp [Caps.apply]

def Caps.id : Caps → Option UInt8
  | .btm _ => some wlanEidExtCapab
  | .rrm _ _ _ => some wlanEidRrmEnabledCapabilities
  | .ht _ _ => some wlanEidHtCap
  | .vht _ _ => some wlanEidVhtCap
  | .pwr _ => some wlanEidPwrCapability
  | .unknown => none

theorem caps_id (ie : Ie)
    : ie.caps.id = if bytesRead ie.id = 0 then none else some ie.id := by
  unfold Ie.caps bytesRead
  split_ifs <;> simp_all [Caps.id]

def McsAgree (mcsSet rxMcsMap : Nat) : Prop :=
  getHtMcsMax mcsSet ≤ getVhtMcsMax rxMcsMap ∨ getVhtMcsMax rxMcsMap ≤ getHtMcsMax mcsSet % 8

instance (mcsSet rxMcsMap : Nat) : Decidable (McsAgree mcsSet rxMcsMap) :=
  inferInstanceAs (Decidable (_ ∨ _))

theorem bmParseCap_comm {mcsSet rxMcsMap : Nat} (hmcs : McsAgree mcsSet rxMcsMap) (info : ClientInfo)
    (htCapInfo vhtInfo : Nat)
    : bmParseVhtCap (bmParseHtCap info htCapInfo mcsSet) vhtInfo rxMcsMap
        = bmParseHtCap (bmParseVhtCap info vhtInfo rxMcsMap) htCapInfo mcsSet := by
  unfold McsAgree at hmcs
  simp only [bmParseVhtCap, bmParseHtCap, ClientInfo.mk.injEq, DatarateInfo.mk.injEq, true_and, and_true]
  refine ⟨?_, ?_, ?_⟩
  . split_ifs <;> simp_all
  . split_ifs <;> omega
  . split_ifs <;> omega

def Caps.Agree : Caps → Caps → Prop
  | .ht _ mcsSet, .vht _ rxMcsMap => McsAgree mcsSet rxMcsMap
  | .vht _ rxMcsMap, .ht _ mcsSet => McsAgree mcsSet rxMcsMap
  | _, _ => True

theorem Caps.apply_comm {lhs rhs : Caps} (hid : lhs.id = rhs.id → lhs.id = none)
    (hmcs : lhs.Agree rhs) (info : ClientInfo)
    : rhs.apply (lhs.apply info) = lhs.apply (rhs.apply info) := by
  cases lhs <;> cases rhs
  case ht.vht => exact bmParseCap_comm hmcs info _ _
  case vht.ht => exact (bmParseCap_comm hmcs info _ _).symm
  all_goals first | rfl | exact absurd (hid rfl) (by simp [Caps.id])

def Ie.mcsSet (ie : Ie) : Nat :=
  (Reads.le32 3).run (Mem.ofBytes ie.data)

def Ie.rxMcsMap (ie : Ie) : Nat :=
  (Reads.le16 4).run (Mem.ofBytes ie.data)

theorem maxMCS_parseIe_ht {ie : Ie} (hid : ie.id = wlanEidHtCap) (info : ClientInfo)
    : (parseIe info ie).datarateInfo.maxMCS
        =
      if info.datarateInfo.maxMCS < getHtMcsMax ie.mcsSet then
        getHtMcsMax ie.mcsSet % 8
      else
        info.datarateInfo.maxMCS := by
  rw [parseIe_eq]
  simp only [Ie.caps, hid]
  rfl

theorem maxMCS_parseIe_vht {ie : Ie} (hid : ie.id = wlanEidVhtCap) (info : ClientInfo)
    : (parseIe info ie).datarateInfo.maxMCS
        =
      if info.datarateInfo.maxMCS < getVhtMcsMax ie.rxMcsMap then
        getVhtMcsMax ie.rxMcsMap
      else
        info.datarateInfo.maxMCS := by
  rw [parseIe_eq]
  simp only [Ie.caps, hid]
  rfl

theorem maxMCS_parseIe_other {ie : Ie} (hht : ie.id ≠ wlanEidHtCap) (hvht : ie.id ≠ wlanEidVhtCap)
    (info : ClientInfo)
    : (parseIe info ie).datarateInfo.maxMCS = info.datarateInfo.maxMCS := by
  rw [parseIe_eq]
  simp only [Ie.caps, hht, hvht, ↓reduceIte]
  split_ifs <;> rfl

theorem maxStreams_le_parseIe (info : ClientInfo) (ie : Ie)
    : info.datarateInfo.maxStreams ≤ (parseIe info ie).datarateInfo.maxStreams := by
  rw [parseIe_eq]
  cases ie.caps with
  | ht htCapInfo mcsSet =>
    simp only [Caps.apply, bmParseHtCap]
    split <;> omega
  | vht vhtInfo rxMcsMap =>
    simp only [Caps.apply, bmParseVhtCap]
    split <;> omega
  | btm | rrm | pwr | unknown => exact Nat.le_refl _

def Ie.Distinct (lhs rhs : Ie) : Prop :=
  lhs.id = rhs.id → bytesRead lhs.id = 0

def IesAgree (ies : List Ie) : Prop :=
  ∀ ht ∈ ies, ht.id = wlanEidHtCap → ∀ vht ∈ ies, vht.id = wlanEidVhtCap →
    McsAgree ht.mcsSet vht.rxMcsMap

theorem id_of_caps {ie : Ie} {id : UInt8} (hid : ie.caps.id = some id)
    : ie.id = id := by
  rw [caps_id] at hid
  split at hid
  . contradiction
  . injection hid

theorem caps_ht {ie : Ie} {htCapInfo mcsSet : Nat} (hcaps : ie.caps = .ht htCapInfo mcsSet)
    : ie.id = wlanEidHtCap ∧ ie.mcsSet = mcsSet := by
  have hid : ie.id = wlanEidHtCap := by
    apply id_of_caps
    rw [hcaps]
    rfl
  refine ⟨hid, ?_⟩
  simp only [Ie.caps, hid] at hcaps
  injection hcaps

theorem caps_vht {ie : Ie} {vhtInfo rxMcsMap : Nat} (hcaps : ie.caps = .vht vhtInfo rxMcsMap)
    : ie.id = wlanEidVhtCap ∧ ie.rxMcsMap = rxMcsMap := by
  have hid : ie.id = wlanEidVhtCap := by
    apply id_of_caps
    rw [hcaps]
    rfl
  refine ⟨hid, ?_⟩
  simp only [Ie.caps, hid] at hcaps
  injection hcaps

instance : Std.Symm Ie.Distinct where
  symm lhs rhs hdistinct hid := by
    rw [hid]
    exact hdistinct hid.symm

theorem Ie.Distinct.caps {lhs rhs : Ie} (hdistinct : lhs.Distinct rhs) (hid : lhs.caps.id = rhs.caps.id)
    : lhs.caps.id = none := by
  cases hlhs : lhs.caps.id with
  | none => rfl
  | some id =>
    have hsame := (id_of_caps hlhs).trans (id_of_caps (hid ▸ hlhs)).symm
    rw [caps_id, if_pos (hdistinct hsame)] at hlhs
    contradiction

theorem Ie.agree_caps {ies : List Ie} {lhs rhs : Ie} (hagree : IesAgree ies) (hlhs : lhs ∈ ies)
    (hrhs : rhs ∈ ies)
    : lhs.caps.Agree rhs.caps := by
  cases hl : lhs.caps <;> cases hr : rhs.caps <;> try trivial
  case ht.vht =>
    have ⟨hht, hmcs⟩ := caps_ht hl
    have ⟨hvht, hmap⟩ := caps_vht hr
    rw [← hmcs, ← hmap]
    exact hagree lhs hlhs hht rhs hrhs hvht
  case vht.ht =>
    have ⟨hvht, hmap⟩ := caps_vht hl
    have ⟨hht, hmcs⟩ := caps_ht hr
    rw [← hmcs, ← hmap]
    exact hagree rhs hrhs hht lhs hlhs hvht

theorem foldl_parseIe_perm {ies ies' : List Ie} (hdistinct : ies.Pairwise Ie.Distinct)
    (hagree : IesAgree ies) (hperm : List.Perm ies ies') (info : ClientInfo)
    : ies.foldl parseIe info = ies'.foldl parseIe info := by
  apply hperm.foldl_eq'
  intro lhs hlhs rhs hrhs info
  by_cases heq : lhs = rhs
  . rw [heq]
  . have hpair : lhs.Distinct rhs := hdistinct.forall hlhs hrhs heq
    simp only [parseIe_eq]
    apply Caps.apply_comm
    . exact hpair.caps
    . apply Ie.agree_caps hagree hlhs hrhs

theorem maxMCS_foldl_other {ies : List Ie}
    (hies : ∀ ie ∈ ies, ie.id ≠ wlanEidHtCap ∧ ie.id ≠ wlanEidVhtCap) (info : ClientInfo)
    : (ies.foldl parseIe info).datarateInfo.maxMCS = info.datarateInfo.maxMCS := by
  induction ies generalizing info with
  | nil => rfl
  | cons ie ies ih =>
    have ⟨hht, hvht⟩ := hies ie (by simp)
    rw [List.foldl_cons, ih]
    . apply maxMCS_parseIe_other hht hvht
    . intro ie hmem
      apply hies
      simp [hmem]

theorem maxMCS_foldl_noHt {ies : List Ie} (hies : ∀ ie ∈ ies, ie.id ≠ wlanEidHtCap)
    (info : ClientInfo) (hinfo : info.datarateInfo.maxMCS = 0)
    : (ies.foldl parseIe info).datarateInfo.maxMCS = 0
      ∨ ∃ vht ∈ ies, vht.id = wlanEidVhtCap
        ∧ (ies.foldl parseIe info).datarateInfo.maxMCS = getVhtMcsMax vht.rxMcsMap := by
  induction ies using List.reverseRecOn with
  | nil => exact .inl hinfo
  | append_singleton ies ie ih =>
    have hrest := ih (fun ie hmem => hies ie (by simp [hmem]))
    have hht := hies ie (by simp)
    rw [List.foldl_append, List.foldl_cons, List.foldl_nil]
    by_cases hvht : ie.id = wlanEidVhtCap
    . rw [maxMCS_parseIe_vht hvht]
      split
      . exact .inr ⟨ie, by simp, hvht, rfl⟩
      . exact hrest.imp_right fun ⟨vht, hmem, hvht⟩ => ⟨vht, by simp [hmem], hvht⟩
    . rw [maxMCS_parseIe_other hht hvht]
      exact hrest.imp_right fun ⟨vht, hmem, hvht⟩ => ⟨vht, by simp [hmem], hvht⟩

def walked (behind : Mem) (info : ClientInfo) (ies : List Ie) : ClientInfo :=
  let req := AssocReq.ofIes behind ies
  (parseAssocReq (setClientLegacy info) req.reqIesLen).run req.reqIes

structure Grows (old new : DatarateInfo) : Prop where
  maxMCS : old.maxMCS ≤ new.maxMCS
  maxStreams : old.maxStreams ≤ new.maxStreams

def WalkGrows (behind : Mem) (ies : List Ie) : Prop :=
  ∀ info pre ie, pre ++ [ie] <+: ies →
    Grows (walked behind info pre).datarateInfo (walked behind info (pre ++ [ie])).datarateInfo

def ClientInfo.flags (info : ClientInfo) : DatarateInfo × RrmCaps × Bool × Bool :=
  (info.datarateInfo, info.rrmCaps, info.isBTMSupported, info.isRRMSupported)

def AnyOrder (call : InfoCall) (behind : Mem) (ies : List Ie) : Prop :=
  ∀ behind' ies', List.Perm ies ies' →
    (targetBsalClientInfo call (some (.ofIes behind' ies'))).snd.map ClientInfo.flags
      =
    (targetBsalClientInfo call (some (.ofIes behind ies))).snd.map ClientInfo.flags

theorem walked_eq {ies : List Ie} (hies : ∀ ie ∈ ies, ie.WellFormed) (behind : Mem) (info : ClientInfo)
    : walked behind info ies = ies.foldl parseIe (setClientLegacy info) := by
  apply run_parseAssocReq_ofIes hies

theorem grows_parseIe {pre : List Ie} {ie : Ie}
    (hpre : ie.id = wlanEidHtCap → ∀ other ∈ pre, other.id ≠ wlanEidHtCap)
    (hagree : IesAgree (pre ++ [ie])) (info : ClientInfo)
    : let parsed := pre.foldl parseIe (setClientLegacy info)
      Grows parsed.datarateInfo (parseIe parsed ie).datarateInfo := by
  intro parsed
  refine ⟨?_, maxStreams_le_parseIe parsed ie⟩
  by_cases hht : ie.id = wlanEidHtCap
  . rw [maxMCS_parseIe_ht hht]
    split
    . next hlt =>
      rcases maxMCS_foldl_noHt (hpre hht) (setClientLegacy info) rfl with hzero | ⟨vht, hmem, hvht, hmcs⟩
      . simp only [parsed, hzero]
        omega
      . have hmcs' := hagree ie (by simp) hht vht (by simp [hmem]) hvht
        unfold McsAgree at hmcs'
        simp only [parsed, hmcs] at hlt ⊢
        omega
    . exact Nat.le_refl _
  . by_cases hvht : ie.id = wlanEidVhtCap
    . rw [maxMCS_parseIe_vht hvht]
      split <;> omega
    . rw [maxMCS_parseIe_other hht hvht]

theorem walkGrows {ies : List Ie} (hies : ∀ ie ∈ ies, ie.WellFormed)
    (hdistinct : ies.Pairwise Ie.Distinct) (hagree : IesAgree ies) (behind : Mem)
    : WalkGrows behind ies := by
  intro info pre ie hprefix
  have hsub : ∀ other ∈ pre ++ [ie], other ∈ ies := fun other hmem => hprefix.subset hmem
  rw [walked_eq (fun other hmem => hies other (hsub other hmem))]
  rw [walked_eq (fun other hmem => hies other (hsub other (by simp [hmem])))]
  rw [List.foldl_append, List.foldl_cons, List.foldl_nil]
  apply grows_parseIe
  . intro hht other hmem hother
    have hpair := List.Pairwise.sublist hprefix.sublist hdistinct
    rw [List.pairwise_append] at hpair
    have hzero := hpair.2.2 other hmem ie (by simp) (hother.trans hht.symm)
    rw [hother] at hzero
    exact absurd hzero (by decide)
  . intro ht hht hid vht hvht
    exact hagree ht (hsub ht hht) hid vht (hsub vht hvht)

/-- HT capabilities are compared with what VHT has set before they are reduced to one stream. -/
theorem foldl_swap_ne {ht vht : Ie} {rest : List Ie} (hht : ht.id = wlanEidHtCap)
    (hvht : vht.id = wlanEidVhtCap) (hagree : ¬McsAgree ht.mcsSet vht.rxMcsMap)
    (hrest : ∀ ie ∈ rest, ie.id ≠ wlanEidHtCap ∧ ie.id ≠ wlanEidVhtCap) (info : ClientInfo)
    : let parsed := fun ies : List Ie => ies.foldl parseIe (setClientLegacy info)
      (parsed (ht :: vht :: rest)).datarateInfo.maxMCS
        ≠ (parsed (vht :: ht :: rest)).datarateInfo.maxMCS := by
  intro parsed
  simp only [parsed, List.foldl_cons, maxMCS_foldl_other hrest]
  rw [maxMCS_parseIe_vht hvht, maxMCS_parseIe_ht hht, maxMCS_parseIe_ht hht, maxMCS_parseIe_vht hvht]
  have hzero : (setClientLegacy info).datarateInfo.maxMCS = 0 := rfl
  unfold McsAgree at hagree
  rw [hzero]
  split_ifs <;> omega

theorem length_ofIes {ies ies' : List Ie} (hperm : List.Perm ies ies') (behind behind' : Mem)
    : (AssocReq.ofIes behind' ies').reqIesLen = (AssocReq.ofIes behind ies).reqIesLen := by
  apply List.Perm.length_eq
  apply hperm.symm.flatMap_right

theorem flags_ofIes {call : InfoCall} {reqIesLen : Nat} (hwalks : call.Walks reqIesLen)
    : ∃ info, ∀ behind ies, (∀ ie ∈ ies, ie.WellFormed) →
        (AssocReq.ofIes behind ies).reqIesLen = reqIesLen →
        (targetBsalClientInfo call (some (.ofIes behind ies))).snd.map ClientInfo.flags
          = some (ies.foldl parseIe (setClientLegacy info)).flags := by
  have ⟨info, hinfo⟩ := targetBsalClientInfo_walks hwalks
  refine ⟨info, ?_⟩
  intro behind ies hies hlen
  have hcaps := hinfo (.ofIes behind ies) hlen
  rw [run_parseAssocReq_ofIes hies] at hcaps
  have hflags := congrArg (Option.map ClientInfo.flags) hcaps
  rw [Option.map_map] at hflags
  exact hflags

theorem anyOrder {call : InfoCall} {behind : Mem} {ies : List Ie} (hies : ∀ ie ∈ ies, ie.WellFormed)
    (hdistinct : ies.Pairwise Ie.Distinct)
    (hagree : call.Walks (AssocReq.ofIes behind ies).reqIesLen → IesAgree ies)
    : AnyOrder call behind ies := by
  intro behind' ies' hperm
  have hlen := length_ofIes hperm behind behind'
  by_cases hwalks : call.Walks (AssocReq.ofIes behind ies).reqIesLen
  . have hies' : ∀ ie ∈ ies', ie.WellFormed := fun ie hmem => hies ie (hperm.mem_iff.mpr hmem)
    have ⟨info, hflags⟩ := flags_ofIes hwalks
    rw [hflags behind ies hies rfl, hflags behind' ies' hies' hlen]
    rw [foldl_parseIe_perm hdistinct (hagree hwalks) hperm]
  . rw [targetBsalClientInfo_congr hlen hwalks]

theorem perm_pair {ies : List Ie} {ht vht : Ie} (hht : ht ∈ ies) (hvht : vht ∈ ies) (hne : vht ≠ ht)
    : List.Perm ies (ht :: vht :: (ies.erase ht).erase vht) := by
  apply (List.perm_cons_erase hht).trans
  apply List.Perm.cons
  apply List.perm_cons_erase
  rw [List.mem_erase_of_ne hne]
  exact hvht

theorem iesAgree_of_anyOrder {call : InfoCall} {behind : Mem} {ies : List Ie}
    (hies : ∀ ie ∈ ies, ie.WellFormed) (hdistinct : ies.Pairwise Ie.Distinct)
    (hany : AnyOrder call behind ies) (hwalks : call.Walks (AssocReq.ofIes behind ies).reqIesLen)
    : IesAgree ies := by
  intro ht hht hhtId vht hvht hvhtId
  apply Decidable.byContradiction
  intro hagree
  have hne : vht ≠ ht := by
    intro hsame
    rw [hsame, hhtId] at hvhtId
    contradiction
  have hperm := perm_pair hht hvht hne
  have hswap := hperm.trans (.swap vht ht _)
  have ⟨info, hflags⟩ := flags_ofIes hwalks
  have hies' : ∀ ies', List.Perm ies ies' → ∀ ie ∈ ies', ie.WellFormed :=
    fun ies' hperm ie hmem => hies ie (hperm.mem_iff.mpr hmem)
  have hleft := hany behind _ hperm
  have hright := hany behind _ hswap
  rw [hflags behind _ (hies' _ hperm) (length_ofIes hperm behind behind)] at hleft
  rw [hflags behind _ (hies' _ hswap) (length_ofIes hswap behind behind), ← hleft] at hright
  injection hright with hright
  injection hright with hrate _
  apply foldl_swap_ne hhtId hvhtId hagree _ info (congrArg DatarateInfo.maxMCS hrate.symm)
  have hpair := hperm.pairwise hdistinct (Std.Symm.symm _ _)
  rw [List.pairwise_cons, List.pairwise_cons] at hpair
  intro ie hmem
  constructor
  . intro hid
    have hzero := hpair.1 ie (by simp [hmem]) (hhtId.trans hid.symm)
    rw [hhtId] at hzero
    exact absurd hzero (by decide)
  . intro hid
    have hzero := hpair.2.1 ie hmem (hvhtId.trans hid.symm)
    rw [hvhtId] at hzero
    exact absurd hzero (by decide)

theorem anyOrder_iff (call : InfoCall) (behind : Mem) {ies : List Ie}
    (hies : ∀ ie ∈ ies, ie.WellFormed) (hdistinct : ies.Pairwise Ie.Distinct)
    : AnyOrder call behind ies
          ∧ (call.Walks (AssocReq.ofIes behind ies).reqIesLen → WalkGrows behind ies)
        ↔
      (call.Walks (AssocReq.ofIes behind ies).reqIesLen → IesAgree ies) := by
  constructor
  . intro ⟨hany, _⟩
    apply iesAgree_of_anyOrder hies hdistinct hany
  . intro hagree
    refine ⟨anyOrder hies hdistinct hagree, ?_⟩
    intro hwalks
    apply walkGrows hies hdistinct (hagree hwalks)

def htCap (mcsSet : List UInt8) : Ie :=
  { id := wlanEidHtCap, data := [0x6f, 0x00, 0x17] ++ mcsSet ++ List.replicate 21 0 }

def vhtCap : Ie :=
  { id := wlanEidVhtCap, data := [0, 0, 0, 0, 0xfa, 0xff, 0, 0, 0xfa, 0xff, 0, 0] }

theorem wellFormed_cap
    : (htCap [0xff, 0x00]).WellFormed ∧ (htCap [0xff, 0xff]).WellFormed ∧ vhtCap.WellFormed :=
  ⟨⟨by decide, by decide⟩, ⟨by decide, by decide⟩, ⟨by decide, by decide⟩⟩

theorem anyOrder_iff_one
    : AnyOrder connectedCall (Mem.ofBytes []) [htCap [0xff, 0x00], vhtCap]
        ∧ (connectedCall.Walks (AssocReq.ofIes (Mem.ofBytes []) [htCap [0xff, 0x00], vhtCap]).reqIesLen
          → WalkGrows (Mem.ofBytes []) [htCap [0xff, 0x00], vhtCap]) := by
  rw [anyOrder_iff]
  . intro _
    unfold IesAgree
    decide
  . intro ie hmem
    rw [List.mem_pair] at hmem
    rcases hmem with rfl | rfl
    . exact wellFormed_cap.1
    . exact wellFormed_cap.2.2
  . unfold Ie.Distinct
    decide

theorem not_anyOrder_two
    : let ies := [vhtCap, htCap [0xff, 0xff]]
      connectedCall.Walks (AssocReq.ofIes (Mem.ofBytes []) ies).reqIesLen
        ∧ ¬AnyOrder connectedCall (Mem.ofBytes []) ies
        ∧ ¬WalkGrows (Mem.ofBytes []) ies := by
  intro ies
  have hwalks : connectedCall.Walks (AssocReq.ofIes (Mem.ofBytes []) ies).reqIesLen :=
    ⟨_, _, _, rfl, rfl, rfl, rfl, by decide⟩
  refine ⟨hwalks, ?_, ?_⟩
  . intro hany
    have hswap := hany (Mem.ofBytes []) [htCap [0xff, 0xff], vhtCap] (.swap _ _ _)
    revert hswap
    decide +kernel
  . intro hgrows
    have hmcs := (hgrows ClientInfo.zero [vhtCap] (htCap [0xff, 0xff]) (List.prefix_refl _)).maxMCS
    revert hmcs
    decide +kernel

end Bsal
end OpenSyncRdk
