import Mathlib.Data.List.Induction

/-!
Machines that take one input at a time. A step may be impossible in a state, then so is every run
that makes it there. The rules of this module turn facts about one step into facts about runs.
-/

namespace OpenSyncRdk
namespace Machine

variable {σ ι : Type} {step : σ → ι → Option σ}

def run (step : σ → ι → Option σ) (s : σ) (inputs : List ι) : Option σ :=
  inputs.foldlM step s

@[simp]
theorem run_nil (s : σ)
    : run step s [] = some s := by
  rfl

@[simp]
theorem run_cons (s : σ) (input : ι) (inputs : List ι)
    : run step s (input :: inputs) = (step s input).bind (fun t => run step t inputs) := by
  rfl

theorem run_append (s : σ) (lhs rhs : List ι)
    : run step s (lhs ++ rhs) = (run step s lhs).bind (fun t => run step t rhs) := by
  unfold run
  rw [List.foldlM_append]
  rfl

theorem run_concat (s : σ) (inputs : List ι) (input : ι)
    : run step s (inputs ++ [input]) = (run step s inputs).bind (fun t => step t input) := by
  rw [run_append]
  congr 1
  funext t
  cases h : step t input <;> simp [h]

theorem run_invariant {P : σ → Prop} {inputs : List ι}
    (hstep : ∀ s t input, input ∈ inputs → P s → step s input = some t → P t) {s t : σ}
    (hs : P s) (hrun : run step s inputs = some t)
    : P t := by
  induction inputs generalizing s with
  | nil =>
    rw [run_nil] at hrun
    injection hrun with hrun
    rw [← hrun]
    exact hs
  | cons input inputs ih =>
    rw [run_cons] at hrun
    rw [Option.bind_eq_some_iff] at hrun
    rcases hrun with ⟨u, hu, hrun⟩
    apply ih
    . intro s t input hmem
      apply hstep
      simp [hmem]
    . exact hstep s u input (by simp) hs hu
    . exact hrun

theorem run_total {P : σ → Prop} {inputs : List ι}
    (hstep : ∀ s input, input ∈ inputs → P s → ∃ t, step s input = some t ∧ P t) {s : σ} (hs : P s)
    : ∃ t, run step s inputs = some t ∧ P t := by
  induction inputs generalizing s with
  | nil => exact ⟨s, run_nil s, hs⟩
  | cons input inputs ih =>
    have ⟨u, hu, hPu⟩ := hstep s input (by simp) hs
    have ⟨t, ht, hPt⟩ := ih (fun s input hmem => hstep s input (by simp [hmem])) hPu
    refine ⟨t, ?_, hPt⟩
    rw [run_cons, hu]
    exact ht

theorem run_last {α : Type} (read : σ → α) (set : ι → Option α)
    (hstep : ∀ s input t, step s input = some t → read t = (set input).getD (read s))
    {inputs : List ι} {s t : σ} (hrun : run step s inputs = some t)
    : read t = ((inputs.filterMap set).getLast?).getD (read s) := by
  induction inputs using List.reverseRecOn generalizing t with
  | nil =>
    rw [run_nil] at hrun
    injection hrun with hrun
    rw [← hrun]
    rfl
  | append_singleton inputs input ih =>
    rw [run_concat, Option.bind_eq_some_iff] at hrun
    rcases hrun with ⟨u, hu, hlast⟩
    rw [hstep u input t hlast, ih hu, List.filterMap_append]
    cases hset : set input with
    | none => simp [hset]
    | some value => simp [hset]

def Always (step : σ → ι → Option σ) (P : σ → Prop) (s : σ) (inputs : List ι) : Prop :=
  ∀ pre, pre <+: inputs → ∃ t, run step s pre = some t ∧ P t

def AllSteps (step : σ → ι → Option σ) (C : σ → ι → Prop) (s : σ) (inputs : List ι) : Prop :=
  ∀ pre input, pre ++ [input] <+: inputs → ∀ t, run step s pre = some t → C t input

theorem always_iff_allSteps {P : σ → Prop} {C : σ → ι → Prop}
    (hstep : ∀ s input, P s → ((∃ t, step s input = some t ∧ P t) ↔ C s input)) {s : σ} (hs : P s)
    (inputs : List ι)
    : Always step P s inputs ↔ AllSteps step C s inputs := by
  constructor
  . intro halways pre input hpre t ht
    have ⟨t', ht', hP⟩ := halways pre ((List.prefix_append pre [input]).trans hpre)
    have ⟨u, hu, hPu⟩ := halways (pre ++ [input]) hpre
    rw [ht] at ht'
    injection ht' with ht'
    rw [run_concat, ht] at hu
    rw [← hstep t input (ht' ▸ hP)]
    exact ⟨u, hu, hPu⟩
  . intro hall pre
    induction pre using List.reverseRecOn with
    | nil =>
      intro _
      exact ⟨s, run_nil s, hs⟩
    | append_singleton pre input ih =>
      intro hpre
      have ⟨t, ht, hP⟩ := ih ((List.prefix_append pre [input]).trans hpre)
      have ⟨u, hu, hPu⟩ := (hstep t input hP).mpr (hall pre input hpre t ht)
      refine ⟨u, ?_, hPu⟩
      rw [run_concat, ht]
      exact hu

theorem always_and_iff {P I : σ → Prop} (hinv : ∀ s input t, I s → step s input = some t → I t) {s : σ}
    (hs : I s) (inputs : List ι)
    : Always step (fun s => P s ∧ I s) s inputs ↔ Always step P s inputs := by
  constructor
  . intro halways pre hpre
    have ⟨t, ht, hP, _⟩ := halways pre hpre
    exact ⟨t, ht, hP⟩
  . intro halways pre hpre
    have ⟨t, ht, hP⟩ := halways pre hpre
    refine ⟨t, ht, hP, ?_⟩
    apply run_invariant _ hs ht
    intro s t input _ hI hstep
    exact hinv s input t hI hstep

theorem always_iff_allSteps_of_invariant {P I : σ → Prop} {C : σ → ι → Prop}
    (hinv : ∀ s input t, I s → step s input = some t → I t)
    (hstep : ∀ s input, I s → P s → ((∃ t, step s input = some t ∧ P t) ↔ C s input)) {s : σ}
    (hI : I s) (hP : P s) (inputs : List ι)
    : Always step P s inputs ↔ AllSteps step C s inputs := by
  rw [← always_and_iff hinv hI]
  apply always_iff_allSteps _ ⟨hP, hI⟩
  intro s input ⟨hP, hI⟩
  rw [← hstep s input hI hP]
  constructor
  . intro ⟨t, ht, hPt, _⟩
    exact ⟨t, ht, hPt⟩
  . intro ⟨t, ht, hPt⟩
    exact ⟨t, ht, hPt, hinv s input t hI ht⟩

/-- A property that is lost for good by the steps which do not meet `C`, and by no others. -/
theorem run_iff_allSteps {P I : σ → Prop} {C : σ → ι → Prop} {inputs : List ι}
    (hinv : ∀ s input t, I s → step s input = some t → I t)
    (hstep : ∀ s input t, I s → step s input = some t → (P t ↔ P s ∧ C s input)) {s t : σ}
    (hI : I s) (hP : P s) (hrun : run step s inputs = some t)
    : P t ↔ AllSteps step C s inputs := by
  induction inputs using List.reverseRecOn generalizing t with
  | nil =>
    rw [run_nil] at hrun
    injection hrun with hrun
    rw [← hrun]
    refine ⟨?_, fun _ => hP⟩
    intro _ pre input hpre
    have hle := hpre.length_le
    simp at hle
  | append_singleton inputs input ih =>
    rw [run_concat, Option.bind_eq_some_iff] at hrun
    rcases hrun with ⟨u, hu, hlast⟩
    have hIu : I u := run_invariant (fun s t input _ => hinv s input t) hI hu
    rw [hstep u input t hIu hlast, ih hu]
    constructor
    . intro ⟨hall, hC⟩ pre input' hpre v hv
      rw [List.prefix_concat_iff] at hpre
      rcases hpre with heq | hpre
      . have ⟨hsame, hinput⟩ := List.append_inj' heq rfl
        injection hinput with hinput
        rw [hsame, hu] at hv
        injection hv with hv
        rw [← hv, hinput]
        exact hC
      . exact hall pre input' hpre v hv
    . intro hall
      refine ⟨?_, hall inputs input List.prefix_rfl u hu⟩
      intro pre input' hpre v hv
      exact hall pre input' (hpre.trans (List.prefix_append inputs [input])) v hv

def Everywhere (step : σ → ι → Option σ) (P : σ → Prop) (s : σ) (inputs : List ι) : Prop :=
  ∀ pre, pre <+: inputs → ∀ t, run step s pre = some t → P t

theorem everywhere_cons {P : σ → Prop} {s u : σ} {input : ι} (hu : step s input = some u)
    (inputs : List ι)
    : Everywhere step P s (input :: inputs) ↔ P s ∧ Everywhere step P u inputs := by
  constructor
  . intro hall
    refine ⟨hall [] List.nil_prefix s (run_nil s), ?_⟩
    intro pre hpre t ht
    refine hall (input :: pre) (List.cons_prefix_cons.mpr ⟨rfl, hpre⟩) t ?_
    rw [run_cons, hu]
    exact ht
  . intro ⟨hP, hall⟩ pre hpre t ht
    cases pre with
    | nil =>
      rw [run_nil] at ht
      injection ht with ht
      exact ht ▸ hP
    | cons input' pre =>
      have ⟨hinput, hpre⟩ := List.cons_prefix_cons.mp hpre
      rw [hinput, run_cons, hu] at ht
      exact hall pre hpre t ht

theorem allSteps_nil {C : σ → ι → Prop} (s : σ)
    : AllSteps step C s [] := by
  intro pre input hpre
  have hlength := hpre.length_le
  simp at hlength

theorem allSteps_cons {C : σ → ι → Prop} {s u : σ} {input : ι} (hu : step s input = some u)
    (inputs : List ι)
    : AllSteps step C s (input :: inputs) ↔ C s input ∧ AllSteps step C u inputs := by
  constructor
  . intro hall
    refine ⟨hall [] input (by simp) s (run_nil s), ?_⟩
    intro pre input' hpre t ht
    refine hall (input :: pre) input' (List.cons_prefix_cons.mpr ⟨rfl, hpre⟩) t ?_
    rw [run_cons, hu]
    exact ht
  . intro ⟨hC, hall⟩ pre input' hpre t ht
    cases pre with
    | nil =>
      have ⟨hinput, _⟩ := List.cons_prefix_cons.mp hpre
      rw [run_nil] at ht
      injection ht with ht
      rw [hinput, ← ht]
      exact hC
    | cons head pre =>
      have ⟨hhead, hpre⟩ := List.cons_prefix_cons.mp hpre
      rw [hhead, run_cons, hu] at ht
      exact hall pre input' hpre t ht

theorem run_of_allSteps {P : σ → Prop} {C : σ → ι → Prop} {inputs : List ι}
    (hstep : ∀ s input t, P s → C s input → step s input = some t → P t) {s t : σ} (hs : P s)
    (hall : AllSteps step C s inputs) (hrun : run step s inputs = some t)
    : P t := by
  induction inputs generalizing s with
  | nil =>
    rw [run_nil] at hrun
    injection hrun with hrun
    exact hrun ▸ hs
  | cons input inputs ih =>
    rw [run_cons, Option.bind_eq_some_iff] at hrun
    rcases hrun with ⟨u, hu, hrun⟩
    rw [allSteps_cons hu] at hall
    exact ih (hstep s input u hs hall.1 hu) hall.2 hrun

/-- Like `run_iff_allSteps`, for a property that need not be lost for good. `I` is an invariant of the
runs whose steps all meet `C`. -/
theorem everywhere_iff_allSteps {P I : σ → Prop} {C : σ → ι → Prop} {inputs : List ι}
    (hstep : ∀ s input t, I s → step s input = some t → (P t ↔ C s input))
    (hkeep : ∀ s input t, I s → step s input = some t → C s input → I t) {s t : σ}
    (hI : I s) (hP : P s) (hrun : run step s inputs = some t)
    : Everywhere step P s inputs ↔ AllSteps step C s inputs := by
  induction inputs generalizing s with
  | nil =>
    refine iff_of_true ?_ ?_
    . intro pre hpre t ht
      rw [List.prefix_nil.mp hpre, run_nil] at ht
      injection ht with ht
      exact ht ▸ hP
    . intro pre input hpre
      have := hpre.length_le
      simp at this
  | cons input inputs ih =>
    rw [run_cons, Option.bind_eq_some_iff] at hrun
    rcases hrun with ⟨u, hu, hrun⟩
    rw [everywhere_cons hu, allSteps_cons hu]
    constructor
    . intro ⟨_, hall⟩
      have hPu := hall [] List.nil_prefix u (run_nil u)
      have hC := (hstep s input u hI hu).mp hPu
      exact ⟨hC, (ih (hkeep s input u hI hu hC) hPu hrun).mp hall⟩
    . intro ⟨hC, hall⟩
      have hPu := (hstep s input u hI hu).mpr hC
      exact ⟨hP, (ih (hkeep s input u hI hu hC) hPu hrun).mpr hall⟩

end Machine
end OpenSyncRdk
