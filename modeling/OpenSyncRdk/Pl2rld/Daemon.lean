import OpenSyncRdk.Pl2rld.Chunks
import OpenSyncRdk.Lib.Machine

/-!
The clients of the daemon, `pl2rld.c`. A client is known by the address of its watcher, which `CALLOC`
hands out again only after `FREE`; so an address can be that of several connections one after another,
and `latestRegister` looks back no further than the last one was accepted.
-/

namespace OpenSyncRdk
namespace Pl2rld

open Pl2rl

structure Daemon where
  clients : List (Nat × PClient)
  distinct : (clients.map Prod.fst).Nodup

namespace Daemon

def initial : Daemon :=
  { clients := [], distinct := List.nodup_nil }

def clientByEvio (d : Daemon) (evio : Nat) : Option PClient :=
  (d.clients.find? (fun client => client.1 = evio)).map Prod.snd

def others (d : Daemon) (evio : Nat) : List (Nat × PClient) :=
  d.clients.filter (fun client => client.1 ≠ evio)

def clientAdd (d : Daemon) (evio fd : Nat) : Option Daemon :=
  if hlive : evio ∈ d.clients.map Prod.fst then
    none
  else
    some {
      clients := d.clients ++ [(evio, Pl2rld.clientAdd fd)]
      distinct := by
        rw [List.map_append, List.map_singleton, List.nodup_append]
        refine ⟨d.distinct, by simp, ?_⟩
        intro other hother new hnew heq
        rw [heq, List.mem_singleton.mp hnew] at hother
        exact hlive hother
    }

def clientRemove (d : Daemon) (evio : Nat) : Daemon where
  clients := d.others evio
  distinct := by
    apply List.Nodup.sublist _ d.distinct
    apply List.Sublist.map
    apply List.filter_sublist

theorem map_fst_update (clients : List (Nat × PClient)) (evio : Nat) (pc : PClient)
    : (clients.map (fun client => if client.1 = evio then (evio, pc) else client)).map Prod.fst
        =
      clients.map Prod.fst := by
  rw [List.map_map]
  apply List.map_congr_left
  intro client _
  dsimp only [Function.comp]
  split
  . next heq => rw [heq]
  . rfl

def clientUpdate (d : Daemon) (evio : Nat) (pc : PClient) : Daemon where
  clients := d.clients.map (fun client => if client.1 = evio then (evio, pc) else client)
  distinct := by
    rw [map_fst_update]
    exact d.distinct

def clientEvioCb (lib : LogLib) (S : Socket σ) (sock : σ) (buf : Mem) (evError : Bool) (evio : Nat)
    (d : Daemon) : Daemon × List Output :=
  match d.clientByEvio evio with
  | none => (d, [])
  | some pc =>
    if evError then
      (d.clientRemove evio, [])
    else
      let recv := clientRecv lib S sock buf pc
      match recv.client with
      | none => (d.clientRemove evio, recv.out)
      | some pc => (d.clientUpdate evio pc, recv.out)

end Daemon

def hungUp : Socket Unit where
  read := fun _ _ => (.data [], ())
  read_le := by
    intro _ count bytes _ hread
    injection hread with hdata
    injection hdata with hdata
    simp [← hdata]

inductive Input where
  | accept (evio fd : Nat)
  -- a message that has arrived whole, and what the client has sent after it
  | message (evio : Nat) (msg queued : List UInt8) (buf : Mem)
  | hangup (evio : Nat) (buf : Mem)
  | error (evio : Nat)

def Input.evio : Input → Nat
  | .accept evio _ => evio
  | .message evio _ _ _ => evio
  | .hangup evio _ => evio
  | .error evio => evio

def Daemon.step (lib : LogLib) (d : Daemon) : Input → Option (Daemon × List Output)
  | .accept evio fd => (d.clientAdd evio fd).map (fun d => (d, []))
  | .message evio msg queued buf =>
    let sock := { bytes := msg ++ queued, cuts := wholeCuts [msg] }
    some (d.clientEvioCb lib stream sock buf false evio)
  | .hangup evio buf => some (d.clientEvioCb lib hungUp () buf false evio)
  | .error evio => some (d.clientEvioCb lib hungUp () (fun _ => 0) true evio)

def Daemon.next (lib : LogLib) (d : Daemon) (input : Input) : Option Daemon :=
  (d.step lib input).map Prod.fst

def IsRegister (msg : List UInt8) : Prop :=
  (Mem.ofBytes msg).u16 0 = MsgType.register.toNat

def IsLog (msg : List UInt8) : Prop :=
  (Mem.ofBytes msg).u16 0 = MsgType.log.toNat

instance : Decidable (IsRegister msg) :=
  inferInstanceAs (Decidable (_ = _))

def regData (msg : List UInt8) : UInt32 × CStr :=
  (UInt32.ofNat ((Mem.ofBytes msg).u32 hdrSize), (Mem.ofBytes msg).str (hdrSize + 4) nameLen)

def NameEnds (msg : List UInt8) : Prop :=
  (regData msg).2.length < nameLen

instance : Decidable (NameEnds msg) :=
  inferInstanceAs (Decidable (_ < _))

def Input.WellFormed : Input → Prop
  | .accept _ _ => True
  | .message _ msg _ _ => Pl2rld.WellFormed msg ∧ (IsRegister msg → NameEnds msg)
  | .hangup _ _ => True
  | .error _ => True

def noteRegister (evio : Nat) (reg : Option (UInt32 × CStr)) : Input → Option (UInt32 × CStr)
  | .accept other _ => if other = evio then none else reg
  | .message other msg _ _ => if other = evio ∧ IsRegister msg then some (regData msg) else reg
  | .hangup _ _ => reg
  | .error _ => reg

def latestRegister (evio : Nat) (history : List Input) : Option (UInt32 × CStr) :=
  history.foldl (noteRegister evio) none

theorem latestRegister_concat (evio : Nat) (history : List Input) (input : Input)
    : latestRegister evio (history ++ [input]) = noteRegister evio (latestRegister evio history) input := by
  unfold latestRegister
  rw [List.foldl_append]
  rfl

namespace Daemon

variable {d : Daemon} {evio : Nat}

theorem clientByEvio_remove (d : Daemon) (evio other : Nat)
    : (d.clientRemove evio).clientByEvio other = if other = evio then none else d.clientByEvio other := by
  unfold clientByEvio clientRemove others
  rw [List.find?_filter]
  split
  . next heq =>
    rw [heq]
    simp
  . next hne =>
    congr 2
    funext client
    grind

theorem clientByEvio_update (hlive : d.clientByEvio evio = some old) (pc : PClient) (other : Nat)
    : (d.clientUpdate evio pc).clientByEvio other
        =
      if other = evio then some pc else d.clientByEvio other := by
  have hkey
      : ((fun client => decide (client.1 = other))
          ∘ fun client => if client.1 = evio then (evio, pc) else client)
          =
        fun client : Nat × PClient => decide (client.1 = other) := by
    funext client
    dsimp only [Function.comp]
    split
    . next heq => rw [heq]
    . rfl
  unfold clientByEvio at *
  simp only [clientUpdate]
  rw [List.find?_map, hkey]
  cases hfind : d.clients.find? (fun client => client.1 = other) with
  | none =>
    split
    . next heq =>
      rw [← heq, hfind] at hlive
      contradiction
    . rfl
  | some client =>
    have hclient := List.find?_some hfind
    rw [decide_eq_true_eq] at hclient
    split
    . next heq => simp [hclient, heq]
    . next hne => simp [hclient, hne]

theorem clientByEvio_add (hadd : d.clientAdd evio fd = some t) (other : Nat)
    : t.clientByEvio other
        =
      if other = evio then some (Pl2rld.clientAdd fd) else d.clientByEvio other := by
  unfold clientAdd at hadd
  split at hadd
  . contradiction
  . next hdead =>
    injection hadd with hadd
    rw [← hadd]
    unfold clientByEvio
    rw [List.find?_append]
    split
    . next heq =>
      rw [heq, List.find?_eq_none.mpr]
      . simp
      . intro client hmem heq
        apply hdead
        rw [← of_decide_eq_true heq]
        exact List.mem_map_of_mem hmem
    . next hne => simp [Ne.symm hne]

theorem others_remove (d : Daemon) (evio : Nat)
    : (d.clientRemove evio).others evio = d.others evio := by
  unfold clientRemove others
  rw [List.filter_filter]
  simp

theorem others_update (d : Daemon) (evio : Nat) (pc : PClient)
    : (d.clientUpdate evio pc).others evio = d.others evio := by
  simp only [clientUpdate, others]
  generalize d.clients = clients
  induction clients with
  | nil => rfl
  | cons client clients ih => grind

end Daemon

theorem handle_register (lib : LogLib) (pc : PClient) (hreg : IsRegister msg) (hends : NameEnds msg)
    : handle lib pc (Mem.ofBytes msg)
        =
      ( some { pc with name := (regData msg).2, pid := (regData msg).1, registered := true }
      , [.registered (regData msg).1 (regData msg).2]
      ) := by
  have hname : (Mem.ofBytes msg).str (hdrSize + 4) (nameLen - 1) = (regData msg).2 := by
    apply Mem.str_ends
    apply Nat.le_of_lt_succ hends
  rw [handle_reg lib pc hreg]
  simp only [clientRecvReg, hname]
  rfl

theorem handle_log (lib : LogLib) (hlog : IsLog msg) (hreg : pc.registered = true)
    : ∃ call,
        handle lib pc (Mem.ofBytes msg) = (some pc, [.rdkLog call])
          ∧ call.pid = pc.pid ∧ call.name = pc.name := by
  rw [handle_text lib pc hlog]
  simp only [clientRecvLog, hreg, not_true, ↓reduceIte]
  exact ⟨_, rfl, rfl, rfl⟩

theorem IsLog.not_isRegister (hlog : IsLog msg)
    : ¬IsRegister msg := by
  unfold IsLog IsRegister at *
  rw [hlog]
  decide

inductive Effect (d : Daemon) : Input → Daemon → List Output → Prop where
  | accepted (hadd : d.clientAdd evio fd = some t) : Effect d (.accept evio fd) t []
  | unknown (hdead : d.clientByEvio input.evio = none) : Effect d input d []
  | hungUp : Effect d (.hangup evio buf) (d.clientRemove evio) []
  | failed : Effect d (.error evio) (d.clientRemove evio) []
  | rejected (hlog : IsLog msg) (hlive : d.clientByEvio evio = some pc) (hreg : pc.registered = false)
    : Effect d (.message evio msg queued buf) (d.clientRemove evio) []
  | registered (hreg : IsRegister msg) (hlive : d.clientByEvio evio = some pc)
    (hpid : new.pid = (regData msg).1) (hname : new.name = (regData msg).2)
    (hnew : new.registered = true)
    : Effect d (.message evio msg queued buf) (d.clientUpdate evio new)
        [.registered (regData msg).1 (regData msg).2]
  | logged (hlog : IsLog msg) (hlive : d.clientByEvio evio = some pc) (hreg : pc.registered = true)
    (hpid : call.pid = pc.pid) (hname : call.name = pc.name)
    : Effect d (.message evio msg queued buf) (d.clientUpdate evio pc) [.rdkLog call]

theorem clientEvioCb_message (lib : LogLib) {d : Daemon} (hmsg : WellFormed msg)
    (hlive : d.clientByEvio evio = some pc) (queued : List UInt8) (buf : Mem)
    : let sock : Stream := { bytes := msg ++ queued, cuts := wholeCuts [msg] }
      let res := handle lib pc (Mem.ofBytes msg)
      d.clientEvioCb lib stream sock buf false evio
        =
      ((res.1.map (d.clientUpdate evio)).getD (d.clientRemove evio), res.2) := by
  have ⟨_, hres⟩ := clientRecv_whole lib buf pc queued hmsg (headWhole_wholeCuts msg [])
  rw [Prod.ext_iff] at hres
  have ⟨hclient, hout⟩ := hres
  dsimp only at hclient hout ⊢
  unfold Daemon.clientEvioCb
  rw [hlive]
  simp only [Bool.false_eq_true, ↓reduceIte]
  rw [← hclient, ← hout]
  split
  . next hnone =>
    rw [hnone]
    rfl
  . next hsome =>
    rw [hsome]
    rfl

theorem effect_of_message (lib : LogLib) (hmsg : WellFormed msg)
    (hends : IsRegister msg → NameEnds msg) (d : Daemon) (evio : Nat) (queued : List UInt8) (buf : Mem)
    : let sock : Stream := { bytes := msg ++ queued, cuts := wholeCuts [msg] }
      let res := d.clientEvioCb lib stream sock buf false evio
      Effect d (.message evio msg queued buf) res.1 res.2 := by
  dsimp only
  cases hlive : d.clientByEvio evio with
  | none =>
    unfold Daemon.clientEvioCb
    rw [hlive]
    exact .unknown hlive
  | some pc =>
    rw [clientEvioCb_message lib hmsg hlive queued buf]
    rcases hmsg.fields with ⟨hreg, _⟩ | ⟨hlog, _⟩
    . rw [handle_register lib pc hreg (hends hreg)]
      exact .registered hreg hlive rfl rfl rfl
    . cases hregistered : pc.registered with
      | false =>
        rw [handle_unregistered lib pc hregistered hlog]
        exact .rejected hlog hlive hregistered
      | true =>
        have ⟨call, hhandle, hpid, hname⟩ := handle_log lib hlog hregistered
        rw [hhandle]
        exact .logged hlog hlive hregistered hpid hname

theorem effect_of_step {lib : LogLib} {d t : Daemon} {input : Input} (hinput : input.WellFormed)
    (hstep : d.step lib input = some (t, out))
    : Effect d input t out := by
  cases input with
  | accept evio fd =>
    unfold Daemon.step at hstep
    rw [Option.map_eq_some_iff] at hstep
    have ⟨u, hadd, heq⟩ := hstep
    injection heq with hdaemon hout
    rw [← hdaemon, ← hout]
    exact .accepted hadd
  | message evio msg queued buf =>
    injection hstep with hstep
    have heffect := effect_of_message lib hinput.1 hinput.2 d evio queued buf
    dsimp only at heffect
    rw [hstep] at heffect
    exact heffect
  | hangup evio buf =>
    injection hstep with hstep
    unfold Daemon.clientEvioCb at hstep
    split at hstep
    . next hdead =>
      injection hstep with hdaemon hout
      rw [← hdaemon, ← hout]
      exact .unknown hdead
    . injection hstep with hdaemon hout
      rw [← hdaemon, ← hout]
      exact .hungUp
  | error evio =>
    injection hstep with hstep
    unfold Daemon.clientEvioCb at hstep
    split at hstep
    . next hdead =>
      injection hstep with hdaemon hout
      rw [← hdaemon, ← hout]
      exact .unknown hdead
    . injection hstep with hdaemon hout
      rw [← hdaemon, ← hout]
      exact .failed

def Tracks (d : Daemon) (history : List Input) : Prop :=
  ∀ evio pc,
    d.clientByEvio evio = some pc
      → latestRegister evio history = if pc.registered then some (pc.pid, pc.name) else none

theorem noteRegister_other (hother : input.evio ≠ evio) (reg : Option (UInt32 × CStr))
    : noteRegister evio reg input = reg := by
  cases input with
  | accept other fd => exact if_neg hother
  | message other msg queued buf => exact if_neg (fun hmsg => hother hmsg.1)
  | hangup other buf => rfl
  | error other => rfl

theorem noteRegister_log (hlog : IsLog msg) (evio other : Nat) (reg : Option (UInt32 × CStr))
    (queued : List UInt8) (buf : Mem)
    : noteRegister evio reg (.message other msg queued buf) = reg := by
  apply if_neg
  intro ⟨_, hreg⟩
  exact hlog.not_isRegister hreg

theorem Tracks.keep (htracks : Tracks d history) (hlive : d.clientByEvio other = some pc)
    (hother : input.evio ≠ other)
    : latestRegister other (history ++ [input])
        =
      if pc.registered then some (pc.pid, pc.name) else none := by
  rw [latestRegister_concat, noteRegister_other hother]
  exact htracks other pc hlive

theorem Tracks.remove (htracks : Tracks d history) (evio : Nat) (hinput : input.evio = evio)
    : Tracks (d.clientRemove evio) (history ++ [input]) := by
  intro other pc hlive
  rw [Daemon.clientByEvio_remove] at hlive
  split at hlive
  . contradiction
  . next hne =>
    apply htracks.keep hlive
    rw [hinput]
    exact Ne.symm hne

theorem Tracks.step (htracks : Tracks d history) (heffect : Effect d input t out)
    : Tracks t (history ++ [input]) := by
  cases heffect with
  | accepted hadd =>
    intro other pc hlive
    rw [Daemon.clientByEvio_add hadd] at hlive
    split at hlive
    . next heq =>
      injection hlive with hlive
      rw [latestRegister_concat, heq, ← hlive]
      exact if_pos rfl
    . next hne => exact htracks.keep hlive (Ne.symm hne)
  | unknown hdead =>
    intro other pc hlive
    apply htracks.keep hlive
    intro heq
    rw [heq, hlive] at hdead
    contradiction
  | hungUp => exact htracks.remove _ rfl
  | failed => exact htracks.remove _ rfl
  | rejected hlog hold hreg => exact htracks.remove _ rfl
  | registered hreg hold hpid hname hnew =>
    intro other pc hlive
    rw [Daemon.clientByEvio_update hold] at hlive
    split at hlive
    . next heq =>
      injection hlive with hlive
      rw [latestRegister_concat, heq, ← hlive, hnew, hpid, hname]
      exact if_pos ⟨rfl, hreg⟩
    . next hne => exact htracks.keep hlive (Ne.symm hne)
  | logged hlog hold hreg hpid hname =>
    intro other pc hlive
    rw [latestRegister_concat, noteRegister_log hlog]
    apply htracks
    rw [Daemon.clientByEvio_update hold] at hlive
    split at hlive
    . next heq => rw [heq, hold, hlive]
    . exact hlive

theorem tracks_of_run {lib : LogLib} {history : List Input} {d : Daemon}
    (hwf : ∀ input ∈ history, input.WellFormed)
    (hrun : Machine.run (Daemon.next lib) Daemon.initial history = some d)
    : Tracks d history := by
  induction history using List.reverseRecOn generalizing d with
  | nil =>
    injection hrun with hrun
    intro evio pc hlive
    rw [← hrun] at hlive
    contradiction
  | append_singleton history input ih =>
    rw [Machine.run_concat, Option.bind_eq_some_iff] at hrun
    have ⟨s, hs, hnext⟩ := hrun
    unfold Daemon.next at hnext
    rw [Option.map_eq_some_iff] at hnext
    have ⟨⟨t, out⟩, hstep, heq⟩ := hnext
    have htracks := ih (fun input hmem => hwf input (by simp [hmem])) hs
    have heffect := effect_of_step (hwf input (by simp)) hstep
    rw [← heq]
    exact htracks.step heffect

structure RegistersFirst (history : List Input) (d : Daemon) (input : Input) (t : Daemon)
    (out : List Output) : Prop where
  logs
    : ∀ call,
        .rdkLog call ∈ out
          → ∃ evio msg queued buf,
              input = .message evio msg queued buf
                ∧ IsLog msg
                ∧ (d.clientByEvio evio).isSome
                ∧ latestRegister evio history = some (call.pid, call.name)
  removes
    : ∀ evio msg queued buf,
        input = .message evio msg queued buf
          → IsLog msg
          → (d.clientByEvio evio).isSome
          → latestRegister evio history = none
          → t.clients = d.others evio ∧ t.clientByEvio evio = none
  frame
    : ∀ evio msg queued buf,
        input = .message evio msg queued buf → t.others evio = d.others evio

theorem Effect.frame (heffect : Effect d (.message evio msg queued buf) t out)
    : t.others evio = d.others evio := by
  cases heffect with
  | unknown hdead => rfl
  | rejected hlog hlive hreg => apply Daemon.others_remove
  | registered hreg hlive hpid hname hnew => apply Daemon.others_update
  | logged hlog hlive hreg hpid hname => apply Daemon.others_update

theorem Effect.logs (heffect : Effect d input t out) (htracks : Tracks d history)
    (hcall : .rdkLog call ∈ out)
    : ∃ evio msg queued buf,
        input = .message evio msg queued buf
          ∧ IsLog msg
          ∧ (d.clientByEvio evio).isSome
          ∧ latestRegister evio history = some (call.pid, call.name) := by
  cases heffect with
  | accepted hadd => simp at hcall
  | unknown hdead => simp at hcall
  | hungUp => simp at hcall
  | failed => simp at hcall
  | rejected hlog hlive hreg => simp at hcall
  | registered hreg hlive hpid hname hnew => simp at hcall
  | logged hlog hlive hreg hpid hname =>
    rw [List.mem_singleton, Output.rdkLog.injEq] at hcall
    refine ⟨_, _, _, _, rfl, hlog, Option.isSome_of_eq_some hlive, ?_⟩
    rw [htracks _ _ hlive, hreg, hcall, hpid, hname]
    rfl

theorem Effect.removes (heffect : Effect d (.message evio msg queued buf) t out)
    (htracks : Tracks d history) (hlog : IsLog msg) (hsome : (d.clientByEvio evio).isSome)
    (hnone : latestRegister evio history = none)
    : t.clients = d.others evio ∧ t.clientByEvio evio = none := by
  cases heffect with
  | unknown hdead =>
    rw [show d.clientByEvio evio = none from hdead] at hsome
    contradiction
  | rejected _ hlive hreg =>
    refine ⟨rfl, ?_⟩
    rw [Daemon.clientByEvio_remove]
    exact if_pos rfl
  | registered hreg hlive hpid hname hnew => exact absurd hreg hlog.not_isRegister
  | logged _ hlive hreg hpid hname =>
    rw [htracks _ _ hlive, hreg] at hnone
    contradiction

theorem step_registersFirst {lib : LogLib} {history : List Input} {input : Input} {d t : Daemon}
    {out : List Output} (hhistory : ∀ input ∈ history, input.WellFormed) (hinput : input.WellFormed)
    (hrun : Machine.run (Daemon.next lib) Daemon.initial history = some d)
    (hstep : d.step lib input = some (t, out))
    : RegistersFirst history d input t out := by
  have htracks := tracks_of_run hhistory hrun
  have heffect := effect_of_step hinput hstep
  constructor
  . intro call hcall
    exact heffect.logs htracks hcall
  . intro evio msg queued buf heq hlog hsome hnone
    rw [heq] at heffect
    exact heffect.removes htracks hlog hsome hnone
  . intro evio msg queued buf heq
    rw [heq] at heffect
    exact heffect.frame

theorem step_registersFirst_log
    : let lib := { severity := fun _ => none, moduleStr := fun _ => [] }
      let history : List Input :=
        [.accept 1 5, .accept 2 6, .message 1 (registerMsg { pid := 100, name := cstr "wm" }) [] (fun _ => 0)]
      let input : Input :=
        .message 1 (logMsg { severity := 6, module := 3, text := cstr "up" }) [] (fun _ => 0)
      ∃ d t out,
        Machine.run (Daemon.next lib) Daemon.initial history = some d
          ∧ d.step lib input = some (t, out)
          ∧ RegistersFirst history d input t out := by
  intro lib history input
  refine ⟨_, _, _, rfl, rfl, step_registersFirst ?_ ?_ rfl rfl⟩
  . have hregister : (history.getD 2 input).WellFormed :=
      ⟨registerMsg_wellFormed _, fun _ => by decide +kernel⟩
    simpa [history] using ⟨trivial, trivial, hregister⟩
  . exact ⟨logMsg_wellFormed _ (by decide +kernel), fun _ => by decide +kernel⟩

end Pl2rld
end OpenSyncRdk
