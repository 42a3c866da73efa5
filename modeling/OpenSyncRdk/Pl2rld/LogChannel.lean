import OpenSyncRdk.Pl2rld.Links

/-!
The log channel as a whole: what every event keeps of the connections, and from it what a run logs.
-/

namespace OpenSyncRdk
namespace Pl2rld

open Pl2rl

section

variable {lib : LogLib} {p : Process} {s t : System} {n : Nat} {l : Link} {whole : List (List UInt8)}
  {left : List UInt8} {count : Nat}

variable {proc : Nat → Process} {i : Nat} {call : Call} {u : Sender}

theorem clientEvioCb_live {σ : Type} (lib : LogLib) {d : Daemon} {evio : Nat} {pc : PClient}
    (hlive : d.clientByEvio evio = some pc) (S : Socket σ) (sock : σ) (buf : Mem)
    : let recv := clientRecv lib S sock buf pc
      d.clientEvioCb lib S sock buf false evio
        =
      ((recv.client.map (d.clientUpdate evio)).getD (d.clientRemove evio), recv.out) := by
  unfold Daemon.clientEvioCb
  rw [hlive]
  dsimp only
  rw [if_neg (by decide)]
  cases (clientRecv lib S sock buf pc).client <;> rfl

theorem clientByEvio_of_add {d u : Daemon} {evio fd : Nat} (hadd : d.clientAdd evio fd = some u)
    : d.clientByEvio evio = none := by
  unfold Daemon.clientAdd at hadd
  split at hadd
  . contradiction
  . next hdead =>
    unfold Daemon.clientByEvio
    rw [Option.map_eq_none_iff, List.find?_eq_none]
    intro client hmem heq
    apply hdead
    rw [← of_decide_eq_true heq]
    exact List.mem_map_of_mem hmem

theorem getElem?_modify_cases {links : List Link} {f : Link → Link} {m : Nat}
    (hlink : (links.modify n f)[m]? = some l)
    : (m ≠ n ∧ links[m]? = some l) ∨ (m = n ∧ ∃ old, links[n]? = some old ∧ l = f old) := by
  rw [List.getElem?_modify] at hlink
  split at hlink
  . next heq =>
    rw [← heq, Option.map_eq_map, Option.map_eq_some_iff] at hlink
    obtain ⟨old, hold, hnew⟩ := hlink
    exact .inr ⟨heq.symm, old, hold, hnew.symm⟩
  . next hne => exact .inl ⟨Ne.symm hne, by simpa using hlink⟩

theorem outOf_new {s : System} (hs : s.Ok lib proc)
    : s.outOf s.links.length = [] := by
  unfold System.outOf
  rw [List.map_eq_nil_iff, List.filter_eq_nil_iff]
  intro entry hentry heq
  exact Nat.ne_of_lt (hs.log entry hentry) (of_decide_eq_true heq)

theorem getElem?_modify_self {links : List Link} (hlink : links[n]? = some l) (f : Link → Link)
    : (links.modify n f)[n]? = some (f l) := by
  rw [List.getElem?_modify_eq, hlink]
  rfl

theorem getElem?_modify_other {links : List Link} {m : Nat} (hlink : links[m]? = some l) (hne : n ≠ m)
    (f : Link → Link)
    : (links.modify n f)[m]? = some l := by
  rw [List.getElem?_modify_ne _ _ hne]
  exact hlink

theorem current_inj (hs : s.Ok lib proc) {j : Nat} (hi : s.current i = some n)
    (hj : s.current j = some n)
    : i = j := by
  obtain ⟨_, l, hlink, howner, _⟩ := hs.current i n hi
  obtain ⟨_, l', hlink', howner', _⟩ := hs.current j n hj
  rw [hlink] at hlink'
  injection hlink' with hsame
  rw [← howner, hsame, howner']

theorem owner_current (hs : s.Ok lib proc) (hcurrent : s.current i = some n) (f : Link → Link)
    (hkeeps : ∀ l, (f l).owner = l.owner ∧ (f l).held = l.held)
    (hopen : ∀ l, u.fd.isSome → (f l).closed = false ∧ (f l).wire = u.wire) {j m : Nat}
    (hm : Function.update s.current i (if u.fd.isSome then some n else none) j = some m)
    : (Function.update s.senders i u j).fd.isSome
        ∧ ∃ l,
            (s.links.modify n f)[m]? = some l
              ∧ l.owner = j ∧ l.closed = false ∧ l.wire = (Function.update s.senders i u j).wire := by
  by_cases hj : j = i
  . rw [hj] at hm ⊢
    rw [Function.update_self] at hm ⊢
    split at hm
    . next hstays =>
      obtain ⟨_, l, hlink, howner, _⟩ := hs.current i n hcurrent
      injection hm with hm
      rw [← hm]
      exact ⟨hstays, f l, getElem?_modify_self hlink f, (hkeeps l).1.trans howner, hopen l hstays⟩
    . contradiction
  . rw [Function.update_of_ne hj] at hm ⊢
    have hne : n ≠ m := fun heq => hj (current_inj hs (heq ▸ hcurrent) hm).symm
    obtain ⟨hopen, l, hlink, hrest⟩ := hs.current j m hm
    exact ⟨hopen, l, getElem?_modify_other hlink hne f, hrest⟩

theorem owner_idle (hs : s.Ok lib proc) {j : Nat}
    (hj : Function.update s.current i (if u.fd.isSome then some n else none) j = none)
    : (Function.update s.senders i u j).fd = none := by
  by_cases heq : j = i
  . rw [heq] at hj ⊢
    rw [Function.update_self] at hj ⊢
    split at hj
    . contradiction
    . next hnone => simpa using hnone
  . rw [Function.update_of_ne heq] at hj ⊢
    exact hs.idle j hj

theorem owner_served (hs : s.Ok lib proc) {f : Link → Link} (hkeeps : ∀ l, (f l).held = l.held)
    {evio m : Nat} (hm : s.served evio = some m)
    : ∃ l, (s.links.modify n f)[m]? = some l ∧ l.held = .served evio := by
  obtain ⟨l, hlink, hheld⟩ := hs.served evio m hm
  by_cases heq : n = m
  . rw [← heq] at hlink ⊢
    exact ⟨f l, getElem?_modify_self hlink f, (hkeeps l).trans hheld⟩
  . exact ⟨l, getElem?_modify_other hlink heq f, hheld⟩

theorem owner_ok (hs : s.Ok lib proc) (hcurrent : s.current i = some n) (f : Link → Link)
    (hkeeps : ∀ l, (f l).owner = l.owner ∧ (f l).held = l.held)
    (hopen : ∀ l, u.fd.isSome → (f l).closed = false ∧ (f l).wire = u.wire)
    (hsound
      : ∀ l,
          l.owner = i ∧ l.closed = false ∧ l.wire = (s.senders i).wire
            → (∃ whole left count, l.Sound lib (proc i) s n whole left count)
            → ∃ whole left count, (f l).Sound lib (proc i) s n whole left count)
    : { s with
        senders := Function.update s.senders i u
        current := Function.update s.current i (if u.fd.isSome then some n else none)
        links := s.links.modify n f
      }.Ok lib proc := by
  constructor
  case current => exact fun j m hm => owner_current hs hcurrent f hkeeps hopen hm
  case idle => exact fun j hj => owner_idle hs hj
  case served => exact fun evio m hm => owner_served hs (fun l => (hkeeps l).2) hm
  case links =>
    intro m k hk
    rcases getElem?_modify_cases hk with ⟨hne, hold⟩ | ⟨heq, l, hlink, hnew⟩
    . obtain ⟨whole, left, count, hlinkSound⟩ := hs.links m k hold
      exact ⟨whole, left, count, hlinkSound.frame rfl (fun _ hserved => ⟨hserved, rfl⟩)⟩
    . obtain ⟨_, l', hlink', hstate⟩ := hs.current i n hcurrent
      rw [hlink] at hlink'
      injection hlink' with hsame
      rw [← hsame] at hstate
      have hbefore := hs.links n l hlink
      rw [hstate.1] at hbefore
      obtain ⟨whole, left, count, hafter⟩ := hsound l hstate hbefore
      rw [heq, hnew, (hkeeps l).1, hstate.1]
      exact ⟨whole, left, count, hafter.frame rfl (fun _ hserved => ⟨hserved, rfl⟩)⟩
  case log =>
    intro entry hentry
    dsimp only
    rw [List.length_modify]
    exact hs.log entry hentry

theorem daemon_ok (hs : s.Ok lib proc) (f : Link → Link)
    (hkeeps : ∀ l, (f l).owner = l.owner ∧ (f l).closed = l.closed ∧ (f l).wire = l.wire)
    (hsenders : t.senders = s.senders ∧ t.current = s.current) (hlinks : t.links = s.links.modify n f)
    (hlog : ∀ entry ∈ t.log, entry ∈ s.log ∨ entry.1 = n) (hlt : n < s.links.length)
    (hserved
      : ∀ evio m,
          t.served evio = some m
            → if m = n then ∀ l, (f l).held = .served evio else s.served evio = some m)
    (hself
      : ∀ l,
          s.links[n]? = some l
            → ∃ whole left count, (f l).Sound lib (proc l.owner) t n whole left count)
    (hother
      : ∀ m,
          m ≠ n
            → t.outOf m = s.outOf m
              ∧ ∀ evio,
                  s.served evio = some m
                    → t.served evio = some m
                      ∧ t.daemon.clientByEvio evio = s.daemon.clientByEvio evio)
    : t.Ok lib proc := by
  have hget (m : Nat) (l : Link) (hl : s.links[m]? = some l)
      : (m = n ∧ t.links[m]? = some (f l)) ∨ (m ≠ n ∧ t.links[m]? = some l) := by
    rw [hlinks]
    by_cases heq : m = n
    . rw [heq] at hl ⊢
      exact .inl ⟨rfl, getElem?_modify_self hl f⟩
    . exact .inr ⟨heq, getElem?_modify_other hl (Ne.symm heq) f⟩
  constructor
  case current =>
    intro j m hm
    rw [hsenders.2] at hm
    rw [hsenders.1]
    obtain ⟨hopen, l, hlink, howner, hunclosed, hwire⟩ := hs.current j m hm
    rcases hget m l hlink with ⟨_, hlink'⟩ | ⟨_, hlink'⟩
    . obtain ⟨howner', hclosed', hwire'⟩ := hkeeps l
      exact ⟨hopen, f l, hlink', howner'.trans howner, hclosed'.trans hunclosed, hwire'.trans hwire⟩
    . exact ⟨hopen, l, hlink', howner, hunclosed, hwire⟩
  case idle =>
    intro j hj
    rw [hsenders.2] at hj
    rw [hsenders.1]
    exact hs.idle j hj
  case served =>
    intro evio m hm
    have hcase := hserved evio m hm
    split at hcase
    . next heq =>
      rcases hget m _ (List.getElem?_eq_getElem (heq ▸ hlt)) with ⟨_, hlink'⟩ | ⟨hne, _⟩
      . exact ⟨_, hlink', hcase _⟩
      . exact absurd heq hne
    . next hne =>
      obtain ⟨l, hlink, hheld⟩ := hs.served evio m hcase
      rcases hget m l hlink with ⟨heq, _⟩ | ⟨_, hlink'⟩
      . exact absurd heq hne
      . exact ⟨l, hlink', hheld⟩
  case links =>
    intro m k hk
    rw [hlinks] at hk
    rcases getElem?_modify_cases hk with ⟨hne, hold⟩ | ⟨heq, old, hold, hnew⟩
    . obtain ⟨whole, left, count, hsound⟩ := hs.links m k hold
      exact ⟨whole, left, count, hsound.frame (hother m hne).1 (hother m hne).2⟩
    . rw [heq, hnew, (hkeeps old).1]
      exact hself old hold
  case log =>
    intro entry hentry
    rw [hlinks, List.length_modify]
    rcases hlog entry hentry with hold | heq
    . exact hs.log entry hold
    . rw [heq]
      exact hlt

theorem idle_ok (hs : s.Ok lib proc) (hcurrent : s.current i = none) (hclosed : u.fd = none)
    : { s with senders := Function.update s.senders i u }.Ok lib proc := by
  constructor
  case current =>
    intro j m hm
    have hj : j ≠ i := by
      intro heq
      rw [heq] at hm
      rw [show s.current i = some m from hm] at hcurrent
      contradiction
    dsimp only
    rw [Function.update_of_ne hj]
    exact hs.current j m hm
  case idle =>
    intro j hj
    dsimp only
    by_cases heq : j = i
    . rw [heq, Function.update_self]
      exact hclosed
    . rw [Function.update_of_ne heq]
      exact hs.idle j hj
  case served => exact hs.served
  case links =>
    intro m k hk
    obtain ⟨whole, left, count, hsound⟩ := hs.links m k hk
    exact ⟨whole, left, count, hsound.frame rfl (fun _ hserved => ⟨hserved, rfl⟩)⟩
  case log => exact hs.log

theorem append_ok (hs : s.Ok lib proc) (new : Link) (howner : new.owner = i)
    (hopen : u.fd.isSome → new.closed = false ∧ new.wire = u.wire)
    (hsound : ∃ whole left count, new.Sound lib (proc i) s s.links.length whole left count)
    : { s with
        senders := Function.update s.senders i u
        current := Function.update s.current i (if u.fd.isSome then some s.links.length else none)
        links := s.links ++ [new]
      }.Ok lib proc := by
  have hold (m : Nat) (l : Link) (hl : s.links[m]? = some l)
      : (s.links ++ [new])[m]? = some l := by
    rw [List.getElem?_append_left (List.getElem?_eq_some_iff.mp hl).1]
    exact hl
  constructor
  case current =>
    intro j m hm
    dsimp only at hm ⊢
    by_cases hj : j = i
    . rw [hj] at hm ⊢
      rw [Function.update_self] at hm ⊢
      split at hm
      . next hstays =>
        injection hm with hm
        rw [← hm]
        exact ⟨hstays, new, List.getElem?_concat_length, howner, hopen hstays⟩
      . contradiction
    . rw [Function.update_of_ne hj] at hm ⊢
      obtain ⟨hopen', l, hlink, hrest⟩ := hs.current j m hm
      exact ⟨hopen', l, hold m l hlink, hrest⟩
  case idle =>
    intro j hj
    dsimp only at hj ⊢
    by_cases heq : j = i
    . rw [heq] at hj ⊢
      rw [Function.update_self] at hj ⊢
      split at hj
      . contradiction
      . next hnone => simpa using hnone
    . rw [Function.update_of_ne heq] at hj ⊢
      exact hs.idle j hj
  case served =>
    intro evio m hm
    obtain ⟨l, hlink, hheld⟩ := hs.served evio m hm
    exact ⟨l, hold m l hlink, hheld⟩
  case links =>
    intro m k hk
    dsimp only at hk
    rw [List.getElem?_append] at hk
    split at hk
    . obtain ⟨whole, left, count, hlinkSound⟩ := hs.links m k hk
      exact ⟨whole, left, count, hlinkSound.frame rfl (fun _ hserved => ⟨hserved, rfl⟩)⟩
    . next hge =>
      obtain ⟨hlt, hnew⟩ := List.getElem?_eq_some_iff.mp hk
      rw [List.length_singleton] at hlt
      have hm : m = s.links.length := by omega
      rw [List.getElem_singleton] at hnew
      obtain ⟨whole, left, count, hnewSound⟩ := hsound
      rw [← hnew, howner, hm]
      exact ⟨whole, left, count, hnewSound.frame rfl (fun _ hserved => ⟨hserved, rfl⟩)⟩
  case log =>
    intro entry hentry
    dsimp only
    rw [List.length_append]
    exact Nat.lt_add_right _ (hs.log entry hentry)

theorem call_ok (hs : s.Ok lib proc) (hok : CallOk (s.senders i) call)
    (hstep : s.call proc i call = some t)
    : t.Ok lib proc := by
  obtain ⟨u, hu, ht⟩ := Option.map_eq_some_iff.mp hstep
  have hclosedOf (hstays : u.fd.isSome = true) : u.fd.isNone = false := by
    rw [← Option.not_isSome, hstays]
    rfl
  cases hcurrent : s.current i with
  | some n =>
    rw [hcurrent] at ht
    rw [← ht]
    obtain ⟨hopen, _⟩ := hs.current i n hcurrent
    have hwrote := step_wrote_open hopen hok hu
    apply owner_ok hs hcurrent (fun l => l.after call u)
    . exact fun l => ⟨rfl, rfl⟩
    . exact fun l hstays => ⟨hclosedOf hstays, rfl⟩
    . rintro l ⟨_, hunclosed, hwire⟩ ⟨whole, left, count, hsound⟩
      rw [← hwire] at hwrote
      obtain ⟨whole', left', hsound'⟩ := hsound.after (u := s) hunclosed hwrote rfl rfl rfl
      exact ⟨whole', left', count, hsound'⟩
  | none =>
    rw [hcurrent] at ht
    dsimp only at ht
    have hclosed := hs.idle i hcurrent
    split at ht
    . next hlinks =>
      obtain ⟨hwire, hsound⟩ := sound_new lib hclosed hlinks hok hu (outOf_new hs)
      rw [← ht]
      refine append_ok (i := i) hs _ rfl ?_ hsound
      exact fun hstays => ⟨hclosedOf hstays, hwire (hclosedOf hstays)⟩
    . next hlinks =>
      have hopens := not_opens_of_not_links hclosed hlinks
      obtain ⟨hnone, hfails⟩ := connect_fails (proc i) (s.senders i) call.res hclosed hopens
      rw [step_closed hclosed hfails] at hu
      injection hu with hu
      rw [← ht]
      exact idle_ok hs hcurrent (hu ▸ hnone)

theorem exit_ok (hs : s.Ok lib proc) (i : Nat)
    : (s.exit i).Ok lib proc := by
  cases hcurrent : s.current i with
  | some n =>
    have hexit
        : s.exit i
            =
          { s with
            senders := Function.update s.senders i .initial
            current := Function.update s.current i (if Sender.initial.fd.isSome then some n else none)
            links := s.links.modify n (fun l => { l with closed := true })
          } := by
      unfold System.exit
      rw [hcurrent]
      rfl
    rw [hexit]
    apply owner_ok hs hcurrent (fun l => { l with closed := true })
    . exact fun l => ⟨rfl, rfl⟩
    . intro l hopen
      contradiction
    . rintro l _ ⟨whole, left, count, hsound⟩
      exact ⟨whole, left, count, hsound.written.close, hsound.le, hsound.out, hsound.follows.close⟩
  | none =>
    have hexit : s.exit i = { s with senders := Function.update s.senders i .initial } := by
      have hsame : Function.update s.current i none = s.current := by
        rw [← hcurrent, Function.update_eq_self]
      unfold System.exit
      rw [hsame, hcurrent]
    rw [hexit]
    exact idle_ok hs hcurrent rfl

theorem accept_ok {evio fd : Nat} (hs : s.Ok lib proc) (hstep : s.accept evio fd true = some t)
    : t.Ok lib proc := by
  unfold System.accept at hstep
  split at hstep
  . contradiction
  . next n hfind =>
    rw [if_pos rfl] at hstep
    obtain ⟨d, hadd, ht⟩ := Option.map_eq_some_iff.mp hstep
    rw [List.findIdx?_eq_some_iff_getElem] at hfind
    obtain ⟨hlt, hwaiting, _⟩ := hfind
    rw [decide_eq_true_eq] at hwaiting
    have hdead := clientByEvio_of_add hadd
    -- The daemon has no client at the address, so nothing is served there.
    have hfree (m : Nat) : s.served evio ≠ some m := by
      intro hserved
      obtain ⟨l, hlink, hheld⟩ := hs.served evio m hserved
      obtain ⟨whole, left, count, hsound⟩ := hs.links m l hlink
      have hfollows := hsound.follows
      rw [hheld] at hfollows
      obtain ⟨_, _, pc, hpc, _⟩ := hfollows
      rw [Option.mem_def, hdead] at hpc
      contradiction
    rw [← ht]
    apply daemon_ok hs (fun l => { l with held := .served evio })
    . exact fun l => ⟨rfl, rfl, rfl⟩
    . exact ⟨rfl, rfl⟩
    . rfl
    . exact fun entry hentry => .inl hentry
    . exact hlt
    . intro other m hm
      dsimp only at hm
      by_cases heq : other = evio
      . rw [heq, Function.update_self] at hm
        injection hm with hm
        rw [if_pos hm.symm, heq]
        exact fun _ => rfl
      . rw [Function.update_of_ne heq] at hm
        split
        . next hn =>
          obtain ⟨l, hlink, hheld⟩ := hs.served other m hm
          rw [hn, List.getElem?_eq_getElem hlt] at hlink
          injection hlink with hlink
          rw [hlink, hheld] at hwaiting
          contradiction
        . exact hm
    . intro l hlink
      obtain ⟨whole, left, count, hsound⟩ := hs.links n l hlink
      rw [List.getElem?_eq_getElem hlt] at hlink
      injection hlink with hlink
      have hfollows := hsound.follows
      rw [← hlink, hwaiting] at hfollows
      obtain ⟨hzero, htaken⟩ := hfollows
      have hwritten := hsound.written
      refine ⟨whole, left, count, ⟨hwritten.wire, hwritten.fits, hwritten.all⟩, hsound.le, hsound.out, ?_,
        Function.update_self _ _ _, clientAdd fd, ?_, ?_⟩
      . rw [hzero, ← hlink]
        exact htaken
      . rw [Option.mem_def, Daemon.clientByEvio_add hadd, if_pos rfl]
      . intro hpos
        omega
    . intro m hne
      refine ⟨rfl, ?_⟩
      intro other hserved
      have hother : other ≠ evio := fun heq => hfree m (heq ▸ hserved)
      refine ⟨?_, ?_⟩
      . exact (Function.update_of_ne hother _ _).trans hserved
      . rw [Daemon.clientByEvio_add hadd, if_neg hother]

theorem outOf_append (s : System) (m : Nat) (out : List Output)
    : ((s.log ++ out.map (fun output => (n, output))).filter (fun entry => entry.1 = m)).map Prod.snd
        =
      s.outOf m ++ if m = n then out else [] := by
  unfold System.outOf
  rw [List.filter_append, List.map_append]
  congr 1
  split
  . next heq =>
    rw [List.filter_eq_self.mpr (by simp [heq]), List.map_map]
    exact List.map_id _
  . next hne =>
    rw [List.filter_eq_nil_iff.mpr (by simp [Ne.symm hne]), List.map_nil]

theorem read_ok {evio : Nat} {pc new : PClient} {out : List Output} (taken : Link → Nat)
    (hs : s.Ok lib proc) (hserved : s.served evio = some n) (hlink : s.links[n]? = some l)
    (hlive : s.daemon.clientByEvio evio = some pc)
    (hwritten : l.Written (proc l.owner) whole left) (hle : count ≤ whole.length)
    (hout : s.outOf n ++ out = (outputs lib (proc l.owner) l.texts).take count)
    (htaken : taken l = (whole.take count).flatten.length) (hknows : Knows (proc l.owner) new count)
    : { s with
        daemon := s.daemon.clientUpdate evio new
        log := s.log ++ out.map (fun output => (n, output))
        links := s.links.modify n (fun l => { l with taken := taken l, held := .served evio })
      }.Ok lib proc := by
  apply daemon_ok hs (fun l => { l with taken := taken l, held := .served evio })
  . exact fun l => ⟨rfl, rfl, rfl⟩
  . exact ⟨rfl, rfl⟩
  . rfl
  . intro entry hentry
    rw [List.mem_append, List.mem_map] at hentry
    rcases hentry with hentry | ⟨output, _, hentry⟩
    . exact .inl hentry
    . exact .inr (hentry ▸ rfl)
  . exact (List.getElem?_eq_some_iff.mp hlink).1
  . intro other m hm
    split
    . next heq =>
      obtain ⟨l', hlink', hheld'⟩ := hs.served other m hm
      obtain ⟨k, hk, hheld⟩ := hs.served evio n hserved
      rw [heq, hk] at hlink'
      injection hlink' with hlink'
      rw [hlink', hheld'] at hheld
      exact fun _ => hheld.symm
    . exact hm
  . intro k hk
    rw [hlink] at hk
    injection hk with hk
    rw [← hk]
    refine ⟨whole, left, count, ⟨hwritten.wire, hwritten.fits, hwritten.all⟩, hle, ?_, htaken, hserved, new,
      ?_, hknows⟩
    . exact (outOf_append s n out).trans (by rw [if_pos rfl, hout])
    . rw [Option.mem_def, Daemon.clientByEvio_update hlive, if_pos rfl]
  . intro m hne
    refine ⟨(outOf_append s m out).trans (by rw [if_neg hne, List.append_nil]), ?_⟩
    intro other hother
    have hdiffers : other ≠ evio := by
      intro heq
      rw [heq, hserved] at hother
      injection hother with hother
      exact hne hother.symm
    refine ⟨hother, ?_⟩
    rw [Daemon.clientByEvio_update hlive, if_neg hdiffers]

theorem ended_ok {evio : Nat} (taken : Link → Nat) (hs : s.Ok lib proc)
    (hserved : s.served evio = some n) (hlink : s.links[n]? = some l) (hclosed : l.closed = true)
    (hsound : l.Sound lib (proc l.owner) s n whole left whole.length)
    : { s with
        daemon := s.daemon.clientRemove evio
        served := Function.update s.served evio none
        links := s.links.modify n (fun l => { l with taken := taken l, held := .gone })
      }.Ok lib proc := by
  -- No other address stands for the connection.
  have honly (other m : Nat) (hm : s.served other = some m) (hother : other ≠ evio)
      : m ≠ n := by
    intro heq
    obtain ⟨k, hk, hheld⟩ := hs.served evio n hserved
    obtain ⟨k', hk', hheld'⟩ := hs.served other m hm
    rw [heq, hk] at hk'
    injection hk' with hk'
    rw [hk', hheld'] at hheld
    injection hheld with hheld
    exact hother hheld
  apply daemon_ok hs (fun l => { l with taken := taken l, held := .gone })
  . exact fun l => ⟨rfl, rfl, rfl⟩
  . exact ⟨rfl, rfl⟩
  . rfl
  . exact fun entry hentry => .inl hentry
  . exact (List.getElem?_eq_some_iff.mp hlink).1
  . intro other m hm
    dsimp only at hm
    by_cases heq : other = evio
    . rw [heq, Function.update_self] at hm
      contradiction
    . rw [Function.update_of_ne heq] at hm
      rw [if_neg (honly other m hm heq)]
      exact hm
  . intro k hk
    rw [hlink] at hk
    injection hk with hk
    rw [← hk]
    have hwritten := hsound.written
    exact ⟨whole, left, whole.length, ⟨hwritten.wire, hwritten.fits, hwritten.all⟩, Nat.le_refl _,
      hsound.out, hclosed, rfl⟩
  . intro m hne
    refine ⟨rfl, ?_⟩
    intro other hother
    have hdiffers : other ≠ evio := by
      intro heq
      rw [heq, hserved] at hother
      injection hother with hother
      exact hne hother.symm
    refine ⟨(Function.update_of_ne hdiffers _ _).trans hother, ?_⟩
    rw [Daemon.clientByEvio_remove, if_neg hdiffers]

theorem wakeup_ok {evio : Nat} {cuts : List Nat} {buf : Mem} (hs : s.Ok lib proc)
    (harrives : Undisturbed s (.wakeup evio cuts buf)) (hstep : s.wakeup lib evio cuts buf = some t)
    : t.Ok lib proc := by
  unfold System.wakeup at hstep
  simp only [Option.bind_eq_bind, Option.bind_eq_some_iff] at hstep
  obtain ⟨n, hserved, l, hlink, pc, hlive, ht⟩ := hstep
  obtain ⟨whole, left, count, hsound⟩ := hs.links n l hlink
  obtain ⟨l', hlink', hheld⟩ := hs.served evio n hserved
  rw [hlink] at hlink'
  injection hlink' with hlink'
  rw [← hlink'] at hheld
  have hfollows := hsound.follows
  rw [hheld] at hfollows
  obtain ⟨htaken, _, pc', hpc, hknows⟩ := hfollows
  rw [Option.mem_def, hlive] at hpc
  injection hpc with hpc
  rw [← hpc] at hknows
  have hwritten := hsound.written
  have hreads := reads_next lib hwritten hsound.le htaken hknows (harrives n hserved l hlink) buf
  rw [clientEvioCb_live lib hlive] at ht
  dsimp only at ht
  generalize clientRecv lib pipe { queue := { bytes := l.unread, cuts }, closed := l.closed } buf pc
    = recv at hreads ht
  injection ht with ht
  rw [← ht]
  cases hreads with
  | waits hclient hout hbytes =>
    rw [hclient, hout]
    apply read_ok (fun l => l.wire.length - recv.sock.queue.bytes.length) hs hserved hlink hlive hwritten
      hsound.le
    . rw [List.append_nil]
      exact hsound.out
    . exact hwritten.taken (hbytes.trans (hwritten.unread htaken))
    . exact hknows
  | message new output hlt hclient hout hnext hnew hbytes =>
    rw [hclient, hout]
    apply read_ok (fun l => l.wire.length - recv.sock.queue.bytes.length) hs hserved hlink hlive hwritten
      hlt
    . rw [hsound.out, List.take_add_one, hnext]
      rfl
    . exact hwritten.taken hbytes
    . exact hnew
  | ends hclient hout hclosed hall =>
    rw [hclient, hout, List.map_nil, List.append_nil]
    rw [hall] at hsound
    exact ended_ok (fun l => l.wire.length - recv.sock.queue.bytes.length) hs hserved hlink hclosed
      hsound

theorem start_ok (lib : LogLib) (proc : Nat → Process)
    : System.start.Ok lib proc where
  current := fun _ _ hm => nomatch hm
  idle := fun _ _ => rfl
  served := fun _ _ hm => nomatch hm
  links := fun _ _ hk => nomatch hk
  log := fun _ hentry => nomatch hentry

theorem step_ok {event : Event} (hs : s.Ok lib proc) (hundisturbed : Undisturbed s event)
    (hstep : s.step lib proc event = some t)
    : t.Ok lib proc := by
  cases event with
  | call i call => exact call_ok hs hundisturbed hstep
  | exit i =>
    injection hstep with hstep
    exact hstep ▸ exit_ok hs i
  | accept evio fd nonblock =>
    rw [show nonblock = true from hundisturbed] at hstep
    exact accept_ok hs hstep
  | wakeup evio cuts buf => exact wakeup_ok hs hundisturbed hstep
  | error evio => exact hundisturbed.elim

/--
However many processes log through the daemon and however what they do, what the kernel does and what the
daemon does interleaves, what is logged of a connection is what its process has put on it, in order, each
text once and under the pid and the name of the process. No text of an open connection is left out once
the daemon has read all of it, and the daemon drops a connection only at its end, where it leaves out no
more than the text over which the process has closed it.
-/
theorem log_channel (lib : LogLib) (proc : Nat → Process) (events : List Event) (s : System)
    (hrun : Machine.run (System.step lib proc) .start events = some s)
    (hall : Machine.AllSteps (System.step lib proc) Undisturbed .start events)
    : ∀ (n : Nat) (l : Link),
        s.links[n]? = some l
          → s.outOf n <+: outputs lib (proc l.owner) l.texts
            ∧ (l.closed = false → l.unread = [] → s.outOf n = outputs lib (proc l.owner) l.texts)
            ∧ (l.held = .gone
                → l.closed = true
                  ∧ (s.outOf n = outputs lib (proc l.owner) l.texts
                    ∨ s.outOf n = (outputs lib (proc l.owner) l.texts).dropLast)) := by
  intro n l hlink
  have hs : s.Ok lib proc :=
    Machine.run_of_allSteps (fun _ _ _ hs hundisturbed hstep => step_ok hs hundisturbed hstep)
      (start_ok lib proc) hall hrun
  obtain ⟨whole, left, count, hsound⟩ := hs.links n l hlink
  refine ⟨?_, hsound.drained, hsound.gone⟩
  rw [hsound.out]
  exact List.take_prefix _ _

end

def exampleLib : LogLib :=
  { severity := fun sev => if sev = 6 then some .info else none, moduleStr := fun _ => cstr "MAIN" }

def exampleProc : Nat → Process
  | 0 => { pid := 100, name := cstr "wm" }
  | _ => { pid := 101, name := cstr "nm" }

def exampleRes : ConnectRes :=
  { now := 5, socket := some 7, connect := true, nonblock := true, register := [.sent 40] }

def exampleEvents : List Event :=
  [ .call 0 (.init exampleRes)
  , .call 1 (.log { severity := 6, module := 3, text := cstr "up" } exampleRes [.sent 10])
  , .accept 1 5 true
  , .accept 2 6 true
  , .wakeup 2 [4, 36] (fun _ => 0)
  , .exit 1
  , .wakeup 1 [4, 36] (fun _ => 0)
  , .wakeup 2 [4, 6] (fun _ => 0)
  , .wakeup 2 [] (fun _ => 0)
  ]

theorem log_channel_two
    : ∃ s, Machine.run (System.step exampleLib exampleProc) .start exampleEvents = some s
        ∧ s.log.length = 3
        ∧ ∀ (n : Nat) (l : Link),
          s.links[n]? = some l
            → s.outOf n <+: outputs exampleLib (exampleProc l.owner) l.texts
              ∧ (l.closed = false
                  → l.unread = [] → s.outOf n = outputs exampleLib (exampleProc l.owner) l.texts)
              ∧ (l.held = .gone
                  → l.closed = true
                    ∧ (s.outOf n = outputs exampleLib (exampleProc l.owner) l.texts
                      ∨ s.outOf n = (outputs exampleLib (exampleProc l.owner) l.texts).dropLast)) := by
  have hrun : ∃ s, Machine.run (System.step exampleLib exampleProc) .start exampleEvents = some s
      ∧ s.log.length = 3 := ⟨_, rfl, by decide +kernel⟩
  obtain ⟨s, hrun, hlog⟩ := hrun
  refine ⟨s, hrun, hlog, log_channel exampleLib exampleProc exampleEvents s hrun ?_⟩
  refine (Machine.allSteps_cons rfl _).mpr ⟨trivial, ?_⟩
  refine (Machine.allSteps_cons rfl _).mpr ⟨?text, ?_⟩
  case text =>
    intro _ _
    exact ⟨by unfold InBuf; decide, fun hcut => absurd hcut.1.2 (by decide)⟩
  refine (Machine.allSteps_cons rfl _).mpr ⟨rfl, ?_⟩
  refine (Machine.allSteps_cons rfl _).mpr ⟨rfl, ?_⟩
  refine (Machine.allSteps_cons rfl _).mpr ⟨?registers, ?_⟩
  case registers =>
    intro n hn l hl
    cases Option.some.inj hn
    cases Option.some.inj hl
    exact .inr (.inr ⟨by decide, by decide⟩)
  refine (Machine.allSteps_cons rfl _).mpr ⟨trivial, ?_⟩
  refine (Machine.allSteps_cons rfl _).mpr ⟨?registersLate, ?_⟩
  case registersLate =>
    intro n hn l hl
    cases Option.some.inj hn
    cases Option.some.inj hl
    exact .inr (.inr ⟨by decide, by decide⟩)
  refine (Machine.allSteps_cons rfl _).mpr ⟨?logs, ?_⟩
  case logs =>
    intro n hn l hl
    cases Option.some.inj hn
    cases Option.some.inj hl
    exact .inr (.inr ⟨by decide, by decide⟩)
  refine (Machine.allSteps_cons rfl _).mpr ⟨fun _ _ _ _ => trivial, ?_⟩
  exact Machine.allSteps_nil _

end Pl2rld
end OpenSyncRdk
