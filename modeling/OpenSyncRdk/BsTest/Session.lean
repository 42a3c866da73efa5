import OpenSyncRdk.BsTest.RoundTrip

/-!
Commands of `bs_cmd` that go over a connection to the daemon one after another. What the HAL holds and
what it answers may change from one command to the next.
-/

namespace OpenSyncRdk
namespace BsTest

open Clients (MacAddr)

structure Surroundings where
  phase2 : Bool
  stack : MacAddr
  hal : Nat → VapHal
  answer : Nat → HalCall → Bool

def ackText (ok : Bool) : CStr :=
  if ok then cstr "RETURN_OK" else cstr "RETURN_ERROR"

namespace Surroundings

variable (env : Surroundings)

def handleCmd (i : Nat) (cmd : CStr) : Option Handled :=
  BsTestd.handleCmd (env.hal i) env.phase2 env.stack cmd

def succeeds (i : Nat) (handled : Option Handled) : Bool :=
  (handled.map (BsTestd.Handled.ok (env.answer i))).getD false

def Answers (s : Conn) : Input → Prop
  | .read bytes ok _ =>
    match (parseBytes s.parser (s.stream.take bytes)).2 with
    | .command cmd => ok = env.succeeds s.executed.length (env.handleCmd s.executed.length cmd)
    | _ => True
  | _ => True

def Acknowledged (s : Conn) : Prop :=
  exitCmd ∉ s.executed
    → s.acks = s.executed.mapIdx (fun i cmd => ackText (env.succeeds i (env.handleCmd i cmd)))

end Surroundings

theorem acknowledged_step (env : Surroundings) {s t : Conn} {input : Input} (hsteady : Steady s)
    (hs : env.Acknowledged s) (hwhole : Whole s input) (hanswers : env.Answers s input)
    (hstep : step s input = some t)
    : env.Acknowledged t := by
  cases input with
  | send cmd =>
    obtain ⟨_, _, ht⟩ := hsteady.send hstep
    rw [ht]
    exact hs
  | close =>
    simp only [step] at hstep
    split at hstep
    . contradiction
    . injection hstep with hstep
      rw [← hstep]
      exact hs
  | readFails =>
    simp only [step] at hstep
    split at hstep
    . contradiction
    . injection hstep with hstep
      rw [← hstep]
      exact hs
  | read bytes ok acked =>
    obtain ⟨hbytes, hsum, hacked⟩ := hwhole
    rcases hsteady.read hstep with ⟨_, _, ht⟩ | ⟨cmd, hstream, hsent, hne, _, _, ht⟩
    . rw [ht]
      exact hs
    . have hok := hanswers
      simp only [Surroundings.Answers] at hok
      rw [hstream] at hbytes hacked hok
      rw [hsent, List.map_append, List.sum_append, ← hsteady.total, List.map_singleton,
        List.sum_singleton] at hsum
      rw [hbytes, List.take_length] at hne ht hok
      have hcommand := parseBytes_command hsteady.fresh hne cmd.noNul hsum
      rw [hcommand] at ht hok
      dsimp only at ht hok
      rw [ht]
      unfold Surroundings.Acknowledged
      rw [executed_takeParsed, List.mem_append, List.mem_singleton, not_or]
      rintro ⟨hexit, hcmd⟩
      have hwritten := (hacked.resolve_left hne).resolve_left (Ne.symm hcmd)
      dsimp only
      rw [List.mapIdx_concat, ← hs hexit, ← hok, hwritten]
      unfold takeParsed
      dsimp only
      rw [if_neg (Ne.symm hcmd), if_pos rfl]
      rfl

theorem acknowledged_parseCmd (env : Surroundings) (buf : Mem)
    : env.Acknowledged (parseCmd buf) :=
  fun _ => rfl

theorem CmdName.exitCmd_shorter {name : CmdName} (hname : name ≠ .exit)
    : exitCmd.length < name.text.length := by
  cases name with
  | exit => contradiction
  | _ => decide

theorem Invocation.cmd_ne_exitCmd (inv : Invocation)
    : inv.cmd ≠ exitCmd := by
  have hname : inv.name ≠ .exit := by
    cases inv <;> exact nofun
  have hshorter := CmdName.exitCmd_shorter hname
  have hlength : inv.name.text.length ≤ inv.cmd.length := by
    unfold Invocation.cmd BsCmd.words
    rw [List.length_append]
    exact Nat.le_add_right _ _
  intro hcmd
  rw [hcmd] at hlength
  omega

theorem sent_eq {files : Files} {sent : List CStr} {invs : List Invocation}
    (hopened : ∀ inv ∈ invs, inv.Opened files ∧ inv.cmd.length + 1 < cmdBufSize)
    (hsent : sent.map some = invs.map (fun inv => BsCmd.parseCmd files cmdBufSize inv.argv))
    : sent = invs.map Invocation.cmd := by
  have hcmds : invs.map (fun inv => BsCmd.parseCmd files cmdBufSize inv.argv)
      = (invs.map Invocation.cmd).map some := by
    rw [List.map_map]
    apply List.map_congr_left
    intro inv hinv
    have ⟨hopen, hshort⟩ := hopened inv hinv
    exact parseCmd_argv files inv hopen hshort
  rw [hcmds] at hsent
  exact List.map_injective_iff.mpr (fun _ _ heq => Option.some.inj heq) hsent

theorem mapIdx_map {α β γ : Type} (f : α → β) (g : Nat → β → γ) (l : List α)
    : (l.map f).mapIdx g = l.mapIdx (fun i a => g i (f a)) := by
  apply List.ext_getElem?
  intro i
  rw [List.getElem?_mapIdx, List.getElem?_mapIdx, List.getElem?_map, Option.map_map]
  rfl

theorem session_round_trip (env : Surroundings) (files : Files) (buf : Mem) (inputs : List Input)
    (invs : List Invocation) (s : Conn) (hrun : Machine.run step (parseCmd buf) inputs = some s)
    (hwhole : Machine.AllSteps step Whole (parseCmd buf) inputs)
    (hanswers : Machine.AllSteps step env.Answers (parseCmd buf) inputs)
    (hopened : ∀ inv ∈ invs, inv.Opened files ∧ inv.cmd.length + 1 < cmdBufSize)
    (hsent : s.sent.map some = invs.map (fun inv => BsCmd.parseCmd files cmdBufSize inv.argv))
    : let served := invs.take s.executed.length
      s.executed.mapIdx env.handleCmd = served.mapIdx (fun i inv => some (inv.wanted (env.hal i)))
        ∧ s.acks
            =
          served.mapIdx (fun i inv => ackText (BsTestd.Handled.ok (env.answer i) (inv.wanted (env.hal i))))
        ∧ (s.stream = [] → served = invs) := by
  intro served
  have hcmds := sent_eq hopened hsent
  have ⟨hsteady, hacks⟩ : Steady s ∧ env.Acknowledged s := by
    apply Machine.run_of_allSteps (C := fun s input => Whole s input ∧ env.Answers s input) _
      ⟨steady_parseCmd buf, acknowledged_parseCmd env buf⟩ _ hrun
    . intro s input t hs hinput hstep
      exact ⟨hs.1.step_whole hstep hinput.1,
        acknowledged_step env hs.1 hs.2 hinput.1 hinput.2 hstep⟩
    . intro pre input hpre t ht
      exact ⟨hwhole pre input hpre t ht, hanswers pre input hpre t ht⟩
  have hexecuted : s.executed = served.map Invocation.cmd := by
    rw [List.prefix_iff_eq_take.mp hsteady.framed.executed, hcmds, ← List.map_take]
  have hexit : exitCmd ∉ s.executed := by
    rw [hexecuted, List.mem_map]
    rintro ⟨inv, _, hinv⟩
    exact inv.cmd_ne_exitCmd hinv
  refine ⟨?_, ?_, ?_⟩
  . rw [hexecuted, mapIdx_map]
    congr
    funext i inv
    exact handleCmd_cmd (env.hal i) env.phase2 env.stack inv
  . rw [hacks hexit, hexecuted, mapIdx_map]
    congr
    funext i inv
    have hhandled := handleCmd_cmd (env.hal i) env.phase2 env.stack inv
    unfold Surroundings.succeeds Surroundings.handleCmd
    rw [hhandled]
    rfl
  . intro hempty
    apply List.take_of_length_le
    rw [hsteady.framed.all hempty, hcmds, List.length_map]

def exampleSurroundings : Surroundings :=
  { phase2 := true
    stack := zeroMac
    hal := fun _ => exampleHal
    answer := fun _ _ => true
  }

def getActivated : Command :=
  { text := cstr "get_bssTransitionActivated;3"
    noNul := by decide
    short := by decide
  }

def exampleInputs : List Input :=
  [.send eventRegister, .read 27 true true, .send getActivated, .read 28 false true]

def exampleLines : List Invocation :=
  [ .eventRegister
  , .getBssTransitionActivated
      ⟨cstr "3", 3, spells_of_all rfl, by decide, by decide⟩
  ]

theorem session_round_trip_two
    : ∃ s, Machine.run step (parseCmd (fun _ => 0)) exampleInputs = some s
        ∧ let served := exampleLines.take s.executed.length
          s.executed.mapIdx exampleSurroundings.handleCmd
              = served.mapIdx (fun i inv => some (inv.wanted (exampleSurroundings.hal i)))
            ∧ s.acks
                =
              served.mapIdx (fun i inv => ackText
                (BsTestd.Handled.ok (exampleSurroundings.answer i) (inv.wanted (exampleSurroundings.hal i))))
            ∧ (s.stream = [] → served = exampleLines) := by
  have hrun : ∃ s, Machine.run step (parseCmd (fun _ => 0)) exampleInputs = some s
      ∧ s.sent.map some = exampleLines.map (fun inv => BsCmd.parseCmd exampleFiles cmdBufSize inv.argv) :=
    ⟨_, rfl, by decide +kernel⟩
  obtain ⟨s, hrun, hsent⟩ := hrun
  refine ⟨s, hrun, ?_⟩
  apply session_round_trip exampleSurroundings exampleFiles (fun _ => 0) exampleInputs exampleLines s hrun
  . refine (Machine.allSteps_cons rfl _).mpr ⟨List.cons_ne_nil _ _, ?_⟩
    refine (Machine.allSteps_cons rfl _).mpr ⟨⟨rfl, by decide, .inr (.inr rfl)⟩, ?_⟩
    refine (Machine.allSteps_cons rfl _).mpr ⟨List.cons_ne_nil _ _, ?_⟩
    refine (Machine.allSteps_cons rfl _).mpr ⟨⟨rfl, by decide, .inr (.inr rfl)⟩, ?_⟩
    exact Machine.allSteps_nil _
  . refine (Machine.allSteps_cons rfl _).mpr ⟨trivial, ?_⟩
    refine (Machine.allSteps_cons rfl _).mpr ⟨?registered, ?_⟩
    case registered => exact rfl
    refine (Machine.allSteps_cons rfl _).mpr ⟨trivial, ?_⟩
    refine (Machine.allSteps_cons rfl _).mpr ⟨?refused, ?_⟩
    case refused => exact rfl
    exact Machine.allSteps_nil _
  . intro inv hinv
    unfold exampleLines at hinv
    rw [List.mem_cons, List.mem_singleton] at hinv
    rcases hinv with rfl | rfl
    . exact ⟨nofun, by decide⟩
    . exact ⟨nofun, by decide⟩
  . exact hsent

end BsTest
end OpenSyncRdk
