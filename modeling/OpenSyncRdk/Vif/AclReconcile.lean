import OpenSyncRdk.Vif.Acl

/-!
`acl_apply` brings the list of the wifi HAL to the configured one and leaves alone what they share.
-/

namespace OpenSyncRdk
namespace Vif

def AclCall.mac : AclCall → CStr
  | .add _ mac _ => mac
  | .del _ mac _ => mac

def AclCall.ok : AclCall → Bool
  | .add _ _ ok => ok
  | .del _ _ ok => ok

section

variable {η : Type}

structure AclHal.Lawful (hal : AclHal η) (index : Int) (acl : η → List CStr) : Prop where
  mem_add : ∀ h mac, (hal.addApAclDevice h index mac).2 = true →
    ∀ x, x ∈ acl (hal.addApAclDevice h index mac).1 ↔ x = mac ∨ x ∈ acl h
  mem_del : ∀ h mac, (hal.delApAclDevice h index mac).2 = true →
    ∀ x, x ∈ acl (hal.delApAclDevice h index mac).1 ↔ x ≠ mac ∧ x ∈ acl h

structure AclHal.Reports (hal : AclHal η) (index : Int) (h : η) (acl : List CStr) : Prop where
  num : hal.getApAclDeviceNum h index = some 0 → acl = []
  devices : ∀ text, hal.getApAclDevices h index = some text → words macListSeparator text = acl

def AclConf.Accepted (vconf : AclConf) (changed : AclFlags) : Prop :=
  changed.macListType = true → vconf.macListTypeExists = true →
    vconf.macListType = noneMacListType ∨ vconf.macListType ∈ mapAclModes.map Prod.snd

structure Reconciles (hal : AclHal η) (index : Int) (acl : η → List CStr) (vconf : AclConf)
    (s t : AclState η) (calls : List AclCall) : Prop where
  calls_eq : t.calls = s.calls ++ calls
  keeps : ∀ call ∈ calls, ¬ (call.mac ∈ acl s.hal ∧ call.mac ∈ vconf.macList)
  mem_iff : getAclList hal index s ≠ none → (∀ call ∈ calls, call.ok = true) →
    ∀ mac, mac ∈ acl t.hal ↔ mac ∈ vconf.macList
  unread : getAclList hal index s = none → calls = []

def AclBuild.Manages (build : AclBuild) (vapInfo : VapInfo) : Prop :=
  build.syncExtHomeAcls = true ∨ isHomeAp build.radio vapInfo.vapName = false

end

theorem go_of_none {declared : Nat} {aclBuf : CStr} (aclList : List CStr)
    (hnone : strtok macListSeparator aclBuf = none)
    : aclBufToAclList.go declared aclBuf aclList = some aclList := by
  rw [aclBufToAclList.go]
  split
  . rfl
  . next htoken =>
    rw [hnone] at htoken
    contradiction

theorem go_of_some {declared : Nat} {aclBuf p rest : CStr} (aclList : List CStr)
    (hsome : strtok macListSeparator aclBuf = some (p, rest))
    : aclBufToAclList.go declared aclBuf aclList
        =
      if p.length ≠ macStrLen - 1 then
        none
      else if aclList.length ≥ declared then
        none
      else
        aclBufToAclList.go declared rest (aclList ++ [strscpy macStrLen p]) := by
  rw [aclBufToAclList.go]
  split
  . next hnone =>
    rw [hsome] at hnone
    contradiction
  . next p' rest' htoken =>
    rw [hsome] at htoken
    injection htoken with htoken
    injection htoken with hp hrest
    rw [hp, hrest]

theorem go_eq {declared : Nat} {aclBuf : CStr} {front aclList : List CStr}
    (hparse : aclBufToAclList.go declared aclBuf front = some aclList)
    : aclList = front ++ words macListSeparator aclBuf := by
  induction aclBuf, front using aclBufToAclList.go.induct declared with
  | case1 aclBuf front hnone =>
    rw [go_of_none front hnone] at hparse
    injection hparse with hparse
    rw [words_of_strtok_none hnone, ← hparse, List.append_nil]
  | case2 aclBuf front p rest htoken _ hlength =>
    rw [go_of_some front htoken, if_pos hlength] at hparse
    contradiction
  | case3 aclBuf front p rest htoken _ hlength hmany =>
    rw [go_of_some front htoken, if_neg hlength, if_pos hmany] at hparse
    contradiction
  | case4 aclBuf front p rest htoken _ hlength hmany ih =>
    rw [go_of_some front htoken, if_neg hlength, if_neg hmany] at hparse
    have hcopy : strscpy macStrLen p = p := by
      apply List.take_of_length_le
      omega
    rw [ih hparse, words_of_strtok_some htoken, hcopy, List.append_assoc, List.singleton_append]

theorem go_of_macs {declared : Nat} {aclBuf : CStr} {front : List CStr}
    (hmacs : ∀ run ∈ words macListSeparator aclBuf, run.length = macStrLen - 1)
    (hfits : front.length + (words macListSeparator aclBuf).length ≤ declared)
    : aclBufToAclList.go declared aclBuf front = some (front ++ words macListSeparator aclBuf) := by
  induction aclBuf, front using aclBufToAclList.go.induct declared with
  | case1 aclBuf front hnone =>
    rw [go_of_none front hnone, words_of_strtok_none hnone, List.append_nil]
  | case2 aclBuf front p rest htoken _ hlength =>
    rw [words_of_strtok_some htoken] at hmacs
    exact absurd (hmacs p (by simp)) hlength
  | case3 aclBuf front p rest htoken _ hlength hmany =>
    rw [words_of_strtok_some htoken, List.length_cons] at hfits
    omega
  | case4 aclBuf front p rest htoken _ hlength hmany ih =>
    have hcopy : strscpy macStrLen p = p := by
      apply List.take_of_length_le
      omega
    rw [words_of_strtok_some htoken, List.length_cons] at hfits
    rw [words_of_strtok_some htoken, List.forall_mem_cons] at hmacs
    rw [hcopy] at ih
    rw [go_of_some front htoken, if_neg hlength, if_neg hmany, words_of_strtok_some htoken, hcopy,
      ih hmacs.2, List.append_assoc, List.singleton_append]
    rw [List.length_append, List.length_singleton]
    omega

variable {η : Type} {hal : AclHal η} {index : Int} {acl : η → List CStr}

theorem getAclList_of_macs {s : AclState η} {aclListSize : Nat} {aclBuf : CStr}
    (hnum : hal.getApAclDeviceNum s.hal index = some aclListSize)
    (hdevices : hal.getApAclDevices s.hal index = some aclBuf) (hbuf : aclBuf.length < aclBufSize)
    (hmacs : ∀ run ∈ words macListSeparator aclBuf, run.length = macStrLen - 1)
    (hmany : (words macListSeparator aclBuf).length ≤ aclListSize)
    : getAclList hal index s = some (words macListSeparator aclBuf) := by
  unfold getAclList
  rw [hnum, hdevices]
  dsimp only
  split
  . next hzero =>
    rw [hzero, Nat.le_zero] at hmany
    rw [List.eq_nil_of_length_eq_zero hmany]
  . rw [if_neg (by omega)]
    unfold aclBufToAclList
    rw [go_of_macs hmacs (by rwa [List.length_nil, Nat.zero_add]), List.nil_append]

theorem getAclList_eq {s : AclState η} {current aclList : List CStr}
    (hreports : hal.Reports index s.hal current) (hget : getAclList hal index s = some aclList)
    : aclList = current := by
  unfold getAclList at hget
  split at hget
  . contradiction
  . next aclListSize hnum =>
    split at hget
    . next hzero =>
      injection hget with hget
      rw [hzero] at hnum
      rw [← hget, hreports.num hnum]
    . split at hget
      . contradiction
      . next aclBuf hdevices =>
        split at hget
        . contradiction
        . rw [← hreports.devices aclBuf hdevices, go_eq hget, List.nil_append]

theorem removeNotNeededAcls_spec (hlawful : hal.Lawful index acl) (vconf : AclConf)
    (current : List CStr) (s : AclState η)
    : ∃ calls,
        (removeNotNeededAcls hal index vconf current s).calls = s.calls ++ calls
          ∧ (∀ call ∈ calls, call.mac ∉ vconf.macList)
          ∧ ((∀ call ∈ calls, call.ok = true) →
              ∀ x, x ∈ acl (removeNotNeededAcls hal index vconf current s).hal
                ↔ x ∈ acl s.hal ∧ (x ∈ current → x ∈ vconf.macList)) := by
  induction current generalizing s with
  | nil =>
    refine ⟨[], by simp [removeNotNeededAcls], by simp, ?_⟩
    simp [removeNotNeededAcls]
  | cons mac current ih =>
    unfold removeNotNeededAcls
    split
    . next hcontains =>
      have hmac := List.contains_iff_mem.mp hcontains
      have ⟨calls, hcalls, hmacs, hmem⟩ := ih s
      refine ⟨calls, hcalls, hmacs, ?_⟩
      intro hok x
      rw [hmem hok x, List.mem_cons]
      grind
    . next hcontains =>
      have hmac : mac ∉ vconf.macList := by
        simpa using hcontains
      have ⟨calls, hcalls, hmacs, hmem⟩ := ih (delAcl hal index s mac)
      refine ⟨.del index mac (hal.delApAclDevice s.hal index mac).2 :: calls, ?_, ?_, ?_⟩
      . rw [hcalls]
        simp [delAcl]
      . simp only [List.mem_cons, forall_eq_or_imp]
        exact ⟨hmac, hmacs⟩
      . simp only [List.mem_cons, forall_eq_or_imp]
        intro ⟨hdel, hok⟩ x
        have hdeleted := hlawful.mem_del s.hal mac hdel x
        rw [hmem hok x]
        unfold delAcl
        grind

theorem addNeededAcls_spec (hlawful : hal.Lawful index acl) (current macList : List CStr)
    (s : AclState η)
    : ∃ calls,
        (addNeededAcls hal index current macList s).calls = s.calls ++ calls
          ∧ (∀ call ∈ calls, call.mac ∉ current)
          ∧ ((∀ call ∈ calls, call.ok = true) →
              ∀ x, x ∈ acl (addNeededAcls hal index current macList s).hal
                ↔ x ∈ acl s.hal ∨ (x ∈ macList ∧ x ∉ current)) := by
  induction macList generalizing s with
  | nil =>
    refine ⟨[], by simp [addNeededAcls], by simp, ?_⟩
    simp [addNeededAcls]
  | cons mac macList ih =>
    unfold addNeededAcls
    split
    . next hcontains =>
      have hmac := List.contains_iff_mem.mp hcontains
      have ⟨calls, hcalls, hmacs, hmem⟩ := ih s
      refine ⟨calls, hcalls, hmacs, ?_⟩
      intro hok x
      rw [hmem hok x, List.mem_cons]
      grind
    . next hcontains =>
      have hmac : mac ∉ current := by
        simpa using hcontains
      have ⟨calls, hcalls, hmacs, hmem⟩ := ih (addAcl hal index s mac)
      refine ⟨.add index mac (hal.addApAclDevice s.hal index mac).2 :: calls, ?_, ?_, ?_⟩
      . rw [hcalls]
        simp [addAcl]
      . simp only [List.mem_cons, forall_eq_or_imp]
        exact ⟨hmac, hmacs⟩
      . simp only [List.mem_cons, forall_eq_or_imp]
        intro ⟨hadd, hok⟩ x
        have hadded := hlawful.mem_add s.hal mac hadd x
        rw [hmem hok x]
        unfold addAcl
        grind

inductive FilterStep (vconf : AclConf) (changed : AclFlags) (bssInfo : BssInfo) : BssInfo → Prop where
  | unchanged (hkeeps : ¬ (changed.macListType = true ∧ vconf.macListTypeExists = true))
      : FilterStep vconf changed bssInfo bssInfo
  | disabled (hsets : changed.macListType = true ∧ vconf.macListTypeExists = true)
      (hnone : vconf.macListType = noneMacListType)
      : FilterStep vconf changed bssInfo { bssInfo with macFilterEnable := false }
  | enabled (hsets : changed.macListType = true ∧ vconf.macListTypeExists = true)
      (citem : MacFilterMode × CStr) (hmem : citem ∈ mapAclModes) (htype : citem.2 = vconf.macListType)
      : FilterStep vconf changed bssInfo
          { bssInfo with macFilterEnable := true, macFilterMode := citem.1 }

theorem aclApply_cases {σ : Type} {build : AclBuild} {vconf : AclConf} {changed : AclFlags}
    {s : AclApplied σ} (setMacList : σ → σ) (hmanages : build.Manages s.vapInfo)
    (haccepted : vconf.Accepted changed)
    : ∃ bssInfo trigger,
        FilterStep vconf changed s.vapInfo.bssInfo bssInfo
          ∧ aclApply build setMacList vconf changed s
            =
          { vapInfo := { s.vapInfo with bssInfo }
            triggerReconfigure := trigger
            state := if changed.macList = true then setMacList s.state else s.state
          } := by
  have happly : ∀ t : AclApplied σ,
      aclApply.applyMacList setMacList changed t
        =
      { t with state := if changed.macList = true then setMacList t.state else t.state } := by
    intro t
    unfold aclApply.applyMacList
    split <;> rfl
  unfold aclApply
  split
  . next hhome =>
    rcases hmanages with hsync | hnot
    . exact absurd hsync hhome.1
    . rw [hnot] at hhome
      exact absurd hhome.2 (by simp)
  . split
    . next hsets =>
      split
      . next hnone =>
        rw [happly]
        exact ⟨_, true, .disabled hsets hnone, rfl⟩
      . next hnone =>
        split
        . next hunknown =>
          rcases haccepted hsets.1 hsets.2 with hnone' | hknown
          . exact absurd hnone' hnone
          . have ⟨citem, hmem, heq⟩ := List.mem_map.mp hknown
            have hfind := List.find?_eq_none.mp hunknown citem hmem
            simp [heq] at hfind
        . next citem hfind =>
          have hmem := List.mem_of_find?_eq_some hfind
          have htype := List.find?_some hfind
          rw [happly]
          exact ⟨_, true, .enabled hsets citem hmem (by simpa using htype), rfl⟩
    . next hkeeps =>
      rw [happly]
      exact ⟨_, s.triggerReconfigure, .unchanged hkeeps, rfl⟩

theorem aclApply_reconciles {build : AclBuild} {vconf : AclConf} {changed : AclFlags}
    {s : AclApplied (AclState η)} (hlawful : hal.Lawful index acl)
    (hreports : hal.Reports index s.state.hal (acl s.state.hal)) (hmanages : build.Manages s.vapInfo)
    (haccepted : vconf.Accepted changed) (hmacList : changed.macList = true)
    : ∃ calls,
        Reconciles hal index acl vconf s.state
          (aclApply build (reconcileAcl hal index vconf) vconf changed s).state calls := by
  have ⟨bssInfo, trigger, _, happly⟩ := aclApply_cases (reconcileAcl hal index vconf) hmanages haccepted
  rw [happly]
  simp only [hmacList, ↓reduceIte]
  unfold reconcileAcl
  cases hget : getAclList hal index s.state with
  | none =>
    refine ⟨[], ?_, ?_, ?_, fun _ => rfl⟩
    . simp
    . simp
    . intro hsome
      exact absurd hget hsome
  | some aclList =>
    have hcurrent := getAclList_eq hreports hget
    subst hcurrent
    have ⟨dels, hdels, hdelMacs, hdelMem⟩ :=
      removeNotNeededAcls_spec hlawful vconf (acl s.state.hal) s.state
    have ⟨adds, hadds, haddMacs, haddMem⟩ :=
      addNeededAcls_spec hlawful (acl s.state.hal) vconf.macList
        (removeNotNeededAcls hal index vconf (acl s.state.hal) s.state)
    refine ⟨dels ++ adds, ?_, ?_, ?_, ?_⟩
    . dsimp only
      rw [hadds, hdels, List.append_assoc]
    . intro call hcall ⟨hheld, hconfigured⟩
      rcases List.mem_append.mp hcall with hdel | hadd
      . exact hdelMacs call hdel hconfigured
      . exact haddMacs call hadd hheld
    . intro _ hok mac
      dsimp only
      rw [haddMem (fun call hcall => hok call (List.mem_append_right dels hcall)) mac]
      rw [hdelMem (fun call hcall => hok call (List.mem_append_left adds hcall)) mac]
      grind
    . intro hnone
      rw [hget] at hnone
      contradiction

def listHal : AclHal (List CStr) :=
  { getApAclDeviceNum := fun h _ => some h.length
    getApAclDevices := fun h _ => some (h.flatMap (fun mac => mac ++ [10]))
    addApAclDevice := fun h _ mac => (h ++ [mac], true)
    delApAclDevice := fun h _ mac => (h.filter (fun other => other ≠ mac), true)
  }

theorem listHal_lawful (index : Int)
    : listHal.Lawful index id := by
  constructor
  . intro h mac _ x
    simp [listHal, or_comm]
  . intro h mac _ x
    simp [listHal, and_comm]

def homeVap : VapInfo :=
  { vapIndex := 0, radioIndex := 0, vapName := cstr "wl0", bridgeName := cstr "br-home"
    bssInfo :=
      { enabled := true, security := { mode := .none, mfp := .disabled, key := [] }, isolation := false
        nbrReportActivated := false, bssTransitionActivated := false, uapsdEnabled := false
        showSsid := true, ssid := cstr "home", macFilterEnable := true, macFilterMode := .whiteList
        mcast2ucast := false
      }
  }

def namedAps (ap24 ap50 : String) : Radio.ApIfnames :=
  { ap24 := cstr ap24, ap50 := cstr ap50, ap60 := cstr "" }

def extHomeAcls : AclBuild :=
  { radio :=
      { controlAllVaps := false, radio6gSupport := false, home := namedAps "wl0" "wl1"
        bhaul := namedAps "wl0.1" "wl1.1", onboard := namedAps "wl0.2" "wl1.2"
        cPortal := namedAps "wl0.3" "wl1.3", fronthaul := namedAps "wl0.4" "wl1.4"
      }
    syncExtHomeAcls := true
  }

theorem aclApply_reconciles_home
    : let macs := [cstr "02:00:00:00:00:01", cstr "02:00:00:00:00:02"]
      let vconf :=
        { macListTypeExists := true, macListType := cstr "blacklist"
          macList := [cstr "02:00:00:00:00:02", cstr "02:00:00:00:00:03"]
        }
      let s : AclApplied (AclState (List CStr)) :=
        { vapInfo := homeVap, triggerReconfigure := false, state := { hal := macs, calls := [] } }
      let t := (aclApply extHomeAcls (reconcileAcl listHal 0 vconf) vconf ⟨true, true⟩ s).state
      getAclList listHal 0 s.state = some macs
        ∧ Reconciles listHal 0 id vconf s.state t
            [.del 0 (cstr "02:00:00:00:00:01") true, .add 0 (cstr "02:00:00:00:00:03") true]
        ∧ t.hal = vconf.macList := by
  intro macs vconf s t
  have hreads : getAclList listHal 0 s.state = some macs := by
    have hsome : getAclList listHal 0 s.state = some (words macListSeparator _) :=
      getAclList_of_macs rfl rfl (by decide) (by decide) (by decide)
    rw [hsome]
    decide
  have hreconciles : ∃ calls, Reconciles listHal 0 id vconf s.state t calls := by
    apply aclApply_reconciles (listHal_lawful 0)
    . constructor
      . intro hnum
        have hzero : 2 = 0 := Option.some.inj hnum
        contradiction
      . intro text htext
        injection htext with htext
        rw [← htext]
        decide
    . exact Or.inl rfl
    . intro _ _
      decide
    . rfl
  rcases hreconciles with ⟨calls, hcalls⟩
  have ht : t = addNeededAcls listHal 0 macs vconf.macList
      (removeNotNeededAcls listHal 0 vconf macs s.state) := by
    change reconcileAcl listHal 0 vconf s.state = _
    unfold reconcileAcl
    rw [hreads]
  have hmade : t.calls
      = [.del 0 (cstr "02:00:00:00:00:01") true, .add 0 (cstr "02:00:00:00:00:03") true] := by
    rw [ht]
    decide
  have hsame : calls
      = [.del 0 (cstr "02:00:00:00:00:01") true, .add 0 (cstr "02:00:00:00:00:03") true] := by
    rw [← hmade, hcalls.calls_eq]
    rfl
  refine ⟨hreads, ?_, ?_⟩
  . rw [← hsame]
    exact hcalls
  . rw [ht]
    decide

end Vif
end OpenSyncRdk
