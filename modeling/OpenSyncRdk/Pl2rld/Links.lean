import OpenSyncRdk.Pl2rld.System

/-!
One connection: what a call of its owner does to it, and what the daemon reads of it.
-/

namespace OpenSyncRdk
namespace Pl2rld

open Pl2rl

variable {lib : LogLib} {p : Process} {s t : System} {n : Nat} {l : Link} {whole : List (List UInt8)}
  {left : List UInt8} {count : Nat}

theorem wireMsgs_wellFormed {texts : List LoggerMsg}
    (hfits : ∀ lmsg ∈ texts, (logMsg lmsg).length ≤ bufSize)
    : ∀ msg ∈ wireMsgs p texts, WellFormed msg := by
  intro msg hmem
  unfold wireMsgs at hmem
  rw [List.mem_cons, List.mem_map] at hmem
  rcases hmem with rfl | ⟨lmsg, hlmsg, rfl⟩
  . exact registerMsg_wellFormed p
  . exact logMsg_wellFormed lmsg (hfits lmsg hlmsg)

theorem handle_next (lib : LogLib) {texts : List LoggerMsg} {pc : PClient} {msg : List UInt8}
    (hfits : ∀ lmsg ∈ texts, (logMsg lmsg).length ≤ bufSize) (hknows : Knows p pc count)
    (hmsg : (wireMsgs p texts)[count]? = some msg)
    : ∃ new output,
        handle lib pc (Mem.ofBytes msg) = (some new, [output])
          ∧ (outputs lib p texts)[count]? = some output
          ∧ Knows p new (count + 1) := by
  cases count with
  | zero =>
    injection hmsg with hmsg
    rw [← hmsg]
    exact ⟨_, _, handle_registerMsg p lib pc, rfl, fun _ => ⟨rfl, rfl, rfl⟩⟩
  | succ k =>
    obtain ⟨hreg, hpid, hname⟩ := hknows (Nat.succ_pos k)
    unfold wireMsgs at hmsg
    rw [List.getElem?_cons_succ, List.getElem?_map, Option.map_eq_some_iff] at hmsg
    obtain ⟨lmsg, hlmsg, heq⟩ := hmsg
    rw [← heq]
    refine ⟨_, _, handle_logMsg lmsg lib pc hreg (hfits lmsg (List.mem_of_getElem? hlmsg)), ?_,
      fun _ => ⟨hreg, hpid, hname⟩⟩
    unfold outputs
    rw [List.getElem?_cons_succ, List.getElem?_map, hlmsg, hpid, hname]
    rfl

theorem Link.Written.starts (hwritten : l.Written p whole left)
    : whole <+: wireMsgs p l.texts := by
  rcases hwritten.all with ⟨hall, _⟩ | ⟨_, hall, _⟩
  . rw [hall]
  . rw [hall]
    exact List.dropLast_prefix _

theorem Link.Written.unread (hwritten : l.Written p whole left)
    (htaken : l.taken = (whole.take count).flatten.length)
    : l.unread = (whole.drop count).flatten ++ left := by
  have hwhole : whole.flatten = (whole.take count).flatten ++ (whole.drop count).flatten := by
    rw [← List.flatten_append, List.take_append_drop]
  unfold Link.unread
  rw [hwritten.wire, htaken, hwhole, List.append_assoc, List.drop_left]

theorem Link.Written.taken (hwritten : l.Written p whole left) {bytes : List UInt8}
    (hbytes : bytes = (whole.drop count).flatten ++ left)
    : l.wire.length - bytes.length = (whole.take count).flatten.length := by
  have hlength : l.wire.length = (whole.take count).flatten.length + bytes.length := by
    rw [hwritten.wire, hbytes, ← List.length_append, ← List.append_assoc, ← List.flatten_append,
      List.take_append_drop]
  omega

theorem Link.Sound.frame (hsound : l.Sound lib p s n whole left count) (hout : t.outOf n = s.outOf n)
    (hserved
      : ∀ evio,
          s.served evio = some n
            → t.served evio = some n ∧ t.daemon.clientByEvio evio = s.daemon.clientByEvio evio)
    : l.Sound lib p t n whole left count := by
  refine ⟨hsound.written, hsound.le, hout.trans hsound.out, ?_⟩
  have hfollows := hsound.follows
  cases hheld : l.held with
  | waiting =>
    rw [hheld] at hfollows
    exact hfollows
  | served evio =>
    rw [hheld] at hfollows
    obtain ⟨htaken, hn, hclient⟩ := hfollows
    obtain ⟨hn', hsame⟩ := hserved evio hn
    exact ⟨htaken, hn', hsame ▸ hclient⟩
  | gone =>
    rw [hheld] at hfollows
    exact hfollows

theorem Link.Written.close (hwritten : l.Written p whole left)
    : { l with closed := true }.Written p whole left :=
  ⟨hwritten.wire, hwritten.fits, hwritten.all.imp id (fun hcut => ⟨rfl, hcut.2⟩)⟩

theorem Link.Written.unchanged {call : Call} {t : Sender} (hwritten : l.Written p whole left)
    (hwhole : whole = wireMsgs p l.texts) (hleft : left = []) (hsame : t.wire = l.wire)
    : (l.after call t).Written p whole [] := by
  have hnone : writes l.wire.length t.wire call = [] := by
    rw [hsame]
    cases call with
    | init res => rfl
    | log lmsg res results => exact if_neg (Nat.lt_irrefl _)
  have htexts : (l.after call t).texts = l.texts := by
    unfold Link.after
    rw [hnone, List.append_nil]
  constructor
  case wire => exact hleft ▸ hsame.trans hwritten.wire
  case fits => exact htexts ▸ hwritten.fits
  case all => exact .inl ⟨htexts ▸ hwhole, rfl⟩

theorem fits_concat {lmsg : LoggerMsg} {texts : List LoggerMsg}
    (hfits : ∀ lmsg ∈ texts, (logMsg lmsg).length ≤ bufSize) (hbuf : InBuf lmsg)
    : ∀ other ∈ texts ++ [copied lmsg], (logMsg other).length ≤ bufSize := by
  intro other hmem
  rw [List.mem_append, List.mem_singleton] at hmem
  rcases hmem with hmem | rfl
  . exact hfits other hmem
  . rw [logMsg_length]
    exact copied_fits hbuf

theorem Link.Written.after {call : Call} {t : Sender} (hwritten : l.Written p whole left)
    (hopen : l.closed = false) (hwrote : Wrote l.wire call t)
    : ∃ whole' left', (l.after call t).Written p whole' left' ∧ whole <+: whole' := by
  obtain ⟨hwhole, hleft⟩ : whole = wireMsgs p l.texts ∧ left = [] := by
    rcases hwritten.all with hall | ⟨hclosed, _⟩
    . exact hall
    . rw [hopen] at hclosed
      contradiction
  have hwire := hwritten.wire
  rw [hleft, List.append_nil] at hwire
  -- Where the wire has grown, the text that it has grown by is the last one.
  have hgrown (lmsg : LoggerMsg) (res : ConnectRes) (results : List SendRes)
      (hpos : l.wire.length < t.wire.length)
      : (l.after (.log lmsg res results) t).texts = l.texts ++ [copied lmsg]
          ∧ wireMsgs p (l.texts ++ [copied lmsg]) = whole ++ [logMsg (copied lmsg)] := by
    constructor
    . exact congrArg (l.texts ++ ·) (if_pos hpos)
    . unfold wireMsgs
      rw [List.map_append, hwhole]
      rfl
  cases hwrote with
  | nothing hfd hsame => exact ⟨whole, [], hwritten.unchanged hwhole hleft hsame, List.prefix_refl _⟩
  | text lmsg res results hbuf hfd hmore =>
    have hpos : l.wire.length < t.wire.length := by
      rw [hmore, List.length_append, logMsg_length, hdrSize]
      omega
    obtain ⟨htexts, hmsgs⟩ := hgrown lmsg res results hpos
    refine ⟨whole ++ [logMsg (copied lmsg)], [], ?_, List.prefix_append _ _⟩
    constructor
    case wire =>
      rw [List.flatten_append, List.flatten_singleton, ← hwire, List.append_nil]
      exact hmore
    case fits => exact htexts ▸ fits_concat hwritten.fits hbuf
    case all => exact .inl ⟨htexts ▸ hmsgs.symm, rfl⟩
  | part lmsg res results part hbuf hfd hpart hmore =>
    by_cases hnone : part = []
    . rw [hnone, List.append_nil] at hmore
      exact ⟨whole, [], hwritten.unchanged hwhole hleft hmore, List.prefix_refl _⟩
    . have hpos : l.wire.length < t.wire.length := by
        rw [hmore, List.length_append]
        have := List.length_pos_of_ne_nil hnone
        omega
      obtain ⟨htexts, hmsgs⟩ := hgrown lmsg res results hpos
      have hclosed : (l.after (.log lmsg res results) t).closed = true := by
        unfold Link.after
        rw [hfd]
        rfl
      refine ⟨whole, part, ?_, List.prefix_refl _⟩
      constructor
      case wire => exact hwire ▸ hmore
      case fits => exact htexts ▸ fits_concat hwritten.fits hbuf
      case all =>
        rw [htexts, hmsgs, List.dropLast_concat]
        exact .inr ⟨hclosed, rfl, logMsg (copied lmsg), by simp, hpart⟩

theorem outputs_starts (lib : LogLib) (p : Process) (texts more : List LoggerMsg)
    : outputs lib p texts <+: outputs lib p (texts ++ more) := by
  unfold outputs
  rw [List.map_append, ← List.cons_append]
  exact List.prefix_append _ _

theorem Link.Written.length_le (hwritten : l.Written p whole left) (lib : LogLib)
    : whole.length ≤ (outputs lib p l.texts).length := by
  have hle := hwritten.starts.length_le
  unfold wireMsgs at hle
  unfold outputs
  simpa using hle

theorem Link.Sound.after {call : Call} {t : Sender} {u : System}
    (hsound : l.Sound lib p s n whole left count) (hopen : l.closed = false)
    (hwrote : Wrote l.wire call t) (hout : u.outOf n = s.outOf n) (hserved : u.served = s.served)
    (hdaemon : u.daemon = s.daemon)
    : ∃ whole' left', (l.after call t).Sound lib p u n whole' left' count := by
  obtain ⟨whole', left', hwritten, hstarts⟩ := hsound.written.after hopen hwrote
  have hle := hsound.le
  have htake : whole'.take count = whole.take count := by
    rw [List.prefix_iff_eq_take.mp hstarts, List.take_take, Nat.min_eq_left hle]
  refine ⟨whole', left', hwritten, hle.trans hstarts.length_le, ?_, ?_⟩
  . rw [hout, hsound.out]
    have hless := hle.trans (hsound.written.length_le lib)
    obtain ⟨more, hmore⟩ := outputs_starts lib p l.texts (writes l.wire.length t.wire call)
    unfold Link.after
    rw [← hmore, List.take_append_of_le_length hless]
  . have hfollows := hsound.follows
    show Follows p u n (l.after call t) whole' count l.held
    cases hheld : l.held with
    | waiting =>
      rw [hheld] at hfollows
      exact hfollows
    | served evio =>
      rw [hheld] at hfollows
      obtain ⟨htaken, hn, hclient⟩ := hfollows
      exact ⟨htake ▸ htaken, hserved ▸ hn, hdaemon ▸ hclient⟩
    | gone =>
      rw [hheld] at hfollows
      rw [hfollows.1] at hopen
      contradiction

theorem not_opens_of_not_links {s : Sender} {res : ConnectRes} (hclosed : s.fd = none)
    (hlinks : ¬System.Links s res)
    : ¬Opens s res :=
  fun hopens => hlinks ⟨⟨hclosed, hopens.rate⟩, hopens.socket, hopens.connect⟩

def Link.registered (proc : Nat → Process) (i : Nat) : Link :=
  { owner := i, texts := [], wire := registerMsg (proc i), closed := false, taken := 0, held := .waiting }

theorem sound_registered (lib : LogLib) (proc : Nat → Process) (i : Nat) (hout : s.outOf n = [])
    : (Link.registered proc i).Sound lib (proc i) s n [registerMsg (proc i)] [] 0 := by
  constructor
  case written => exact ⟨by simp [Link.registered], by simp [Link.registered], .inl ⟨rfl, rfl⟩⟩
  case le => exact Nat.zero_le _
  case out => exact hout
  case follows => exact ⟨rfl, rfl⟩

variable {proc : Nat → Process} {i : Nat} {call : Call} {u : Sender}

theorem sound_new (lib : LogLib) {t : System} {r : Sender} (hclosed : r.fd = none)
    (hlinks : System.Links r call.res) (hok : CallOk r call)
    (hstep : Pl2rl.step (proc i) r call = some u) (hout : t.outOf n = [])
    : let wire := if call.res.nonblock then u.wire else []
      let l : Link :=
        { owner := i
          texts := writes (registerMsg (proc i)).length wire call
          wire
          closed := u.fd.isNone
          taken := 0
          held := .waiting
        }
      (l.closed = false → l.wire = u.wire)
        ∧ ∃ whole left count, l.Sound lib (proc i) t n whole left count := by
  intro wire l
  by_cases hopens : Opens r call.res
  . have hwrote := step_wrote_opens hclosed hopens hok hstep
    have hwire : wire = u.wire := if_pos hopens.nonblock
    have hl : l = (Link.registered proc i).after call u := by
      unfold l
      rw [hwire]
      rfl
    have hsound := sound_registered lib proc i hout
    obtain ⟨whole, left, hafter⟩ := hsound.after (u := t) rfl hwrote rfl rfl rfl
    exact ⟨fun _ => hwire, whole, left, 0, hl ▸ hafter⟩
  . obtain ⟨hnone, hfails⟩ := connect_fails (proc i) r call.res hclosed hopens
    rw [step_closed hclosed hfails] at hstep
    injection hstep with hstep
    have hpart : Part (registerMsg (proc i)) wire := by
      cases hnonblock : call.res.nonblock with
      | false =>
        have hwire : wire = [] := if_neg (by rw [hnonblock]; decide)
        rw [hwire]
        refine ⟨List.nil_prefix, ?_⟩
        rw [registerMsg_length]
        decide
      | true =>
        obtain ⟨part, hpart, hwire⟩ :=
          connect_unregistered_wire (proc i) hlinks.1 ⟨hlinks.2.1, hlinks.2.2, hnonblock⟩ hopens
        rw [show wire = part from (if_pos hnonblock).trans (hstep ▸ hwire)]
        exact hpart
    have htexts : l.texts = [] := by
      show writes _ wire call = []
      cases call with
      | init res => rfl
      | log lmsg res results => exact if_neg (Nat.lt_asymm hpart.shorter)
    have hshut : l.closed = true := by
      show u.fd.isNone = true
      rw [← hstep, hnone]
      rfl
    refine ⟨fun hunclosed => ?_, [], wire, 0, ?_⟩
    . rw [hshut] at hunclosed
      contradiction
    . constructor
      case written =>
        refine ⟨rfl, by simp [htexts], .inr ⟨hshut, ?_, registerMsg (proc i), ?_, hpart⟩⟩
        . rw [htexts]
          rfl
        . exact List.mem_cons_self
      case le => exact Nat.zero_le _
      case out => exact hout
      case follows => exact ⟨rfl, rfl⟩

theorem Follows.close {held : Held} (hfollows : Follows p s n l whole count held)
    : Follows p s n { l with closed := true } whole count held := by
  cases held with
  | waiting => exact hfollows
  | served evio => exact hfollows
  | gone => exact ⟨rfl, hfollows.2⟩

theorem headWhole_of_arrivesNext {msg rest : List UInt8} {cuts : List Nat} (hmsg : WellFormed msg)
    (harrives : ArrivesNext (msg ++ rest) cuts)
    : cuts.headD 0 = 0 ∨ ∃ cs, HeadWhole msg cuts cs := by
  have hlt := hmsg.hdrSize_lt
  have hne : msg ++ rest ≠ [] := by
    apply List.append_ne_nil_of_left_ne_nil
    exact List.ne_nil_of_length_pos (by omega)
  match cuts with
  | [] => exact .inl rfl
  | [cut] => exact .inl (harrives.resolve_left hne)
  | c1 :: c2 :: cs =>
    rcases harrives with hnil | hzero | ⟨hhead, hbody⟩
    . exact absurd hnil hne
    . exact .inl hzero
    . refine .inr ⟨cs, c1, c2, rfl, hhead, ?_⟩
      have hu16 := u16_take (msg ++ rest) (show 2 + 2 ≤ hdrSize by decide)
      rw [List.take_append_of_le_length (by omega), u16_take msg (by decide), hmsg.length] at hu16
      rw [hu16]
      exact hbody

inductive Reads (lib : LogLib) (p : Process) (l : Link) (whole : List (List UInt8)) (left : List UInt8)
    (count : Nat) (pc : PClient) (recv : Recv Pipe) : Prop where
  | waits (hclient : recv.client = some pc) (hout : recv.out = [])
    (hbytes : recv.sock.queue.bytes = l.unread)
  | message (new : PClient) (output : Output) (hlt : count < whole.length)
    (hclient : recv.client = some new) (hout : recv.out = [output])
    (hnext : (outputs lib p l.texts)[count]? = some output)
    (hknows : Knows p new (count + 1))
    (hbytes : recv.sock.queue.bytes = (whole.drop (count + 1)).flatten ++ left)
  | ends (hclient : recv.client = none) (hout : recv.out = []) (hclosed : l.closed = true)
    (hall : count = whole.length)

theorem reads_next {pc : PClient} {cuts : List Nat} (lib : LogLib) (hwritten : l.Written p whole left)
    (hle : count ≤ whole.length) (htaken : l.taken = (whole.take count).flatten.length)
    (hknows : Knows p pc count) (harrives : ArrivesNext l.unread cuts) (buf : Mem)
    : Reads lib p l whole left count pc
        (clientRecv lib pipe { queue := { bytes := l.unread, cuts }, closed := l.closed } buf pc) := by
  have hunread := hwritten.unread htaken
  have hwf := wireMsgs_wellFormed (p := p) hwritten.fits
  rcases Nat.lt_or_eq_of_le hle with hlt | hall
  . have hdrop := List.drop_eq_getElem_cons hlt
    have hget : (wireMsgs p l.texts)[count]? = some whole[count] := by
      obtain ⟨more, hmore⟩ := hwritten.starts
      rw [← hmore, List.getElem?_append_left hlt, List.getElem?_eq_getElem hlt]
    have hmsg := hwf _ (List.mem_of_getElem? hget)
    rw [hdrop, List.flatten_cons, List.append_assoc] at hunread
    rw [hunread] at harrives
    rcases headWhole_of_arrivesNext hmsg harrives with hzero | ⟨cs, hwhole⟩
    . have hlength := hmsg.hdrSize_lt
      have hne : l.unread ≠ [] := by
        rw [hunread]
        apply List.append_ne_nil_of_left_ne_nil
        exact List.ne_nil_of_length_pos (by omega)
      obtain ⟨hbytes, hclient, hout⟩ := pipe_waits lib buf pc cuts l.closed (.inr ⟨hne, hzero⟩)
      exact .waits hclient hout hbytes
    . obtain ⟨new, output, hhandle, hnext, hnew⟩ := handle_next lib hwritten.fits hknows hget
      obtain ⟨hbytes, hrecv⟩ :=
        pipe_whole lib buf pc ((whole.drop (count + 1)).flatten ++ left) l.closed hmsg hwhole
      rw [← hunread, hhandle, Prod.ext_iff] at hrecv
      rw [← hunread] at hbytes
      exact .message new output hlt hrecv.1 hrecv.2 hnext hnew hbytes
  . rw [hall, List.drop_length, List.flatten_nil, List.nil_append] at hunread
    cases hclosed : l.closed with
    | false =>
      have hnil : left = [] := by
        rcases hwritten.all with ⟨_, hnil⟩ | ⟨htrue, _⟩
        . exact hnil
        . rw [hclosed] at htrue
          contradiction
      obtain ⟨hbytes, hclient, hout⟩ :=
        pipe_waits lib buf pc cuts false (.inl ⟨hunread.trans hnil, rfl⟩)
      exact .waits hclient hout hbytes
    | true =>
      obtain ⟨msg, hmem, hpart⟩ : ∃ msg ∈ wireMsgs p l.texts, Part msg left := by
        rcases hwritten.all with ⟨_, hnil⟩ | ⟨_, _, hpart⟩
        . refine ⟨registerMsg p, List.mem_cons_self, ?_, ?_⟩
          . rw [hnil]
            exact List.nil_prefix
          . rw [hnil, registerMsg_length]
            decide
        . exact hpart
      obtain ⟨hout, hcases⟩ := pipe_part lib buf pc cuts (hwf msg hmem) (hunread ▸ hpart)
      rcases hcases with hclient | ⟨hclient, hbytes⟩
      . exact .ends hclient hout hclosed hall
      . exact .waits hclient hout hbytes

theorem Link.Sound.drained (hsound : l.Sound lib p s n whole left count) (hopen : l.closed = false)
    (hempty : l.unread = [])
    : s.outOf n = outputs lib p l.texts := by
  obtain ⟨hall, hleft⟩ : whole = wireMsgs p l.texts ∧ left = [] := by
    rcases hsound.written.all with hall | ⟨hclosed, _⟩
    . exact hall
    . rw [hopen] at hclosed
      contradiction
  have htaken : l.taken = (whole.take count).flatten.length := by
    have hfollows := hsound.follows
    cases hheld : l.held with
    | waiting =>
      rw [hheld] at hfollows
      rw [hfollows.1, hfollows.2]
      rfl
    | served evio =>
      rw [hheld] at hfollows
      exact hfollows.1
    | gone =>
      rw [hheld] at hfollows
      rw [hfollows.1] at hopen
      contradiction
  have hunread := hsound.written.unread htaken
  rw [hempty, hleft, List.append_nil] at hunread
  have hend : whole.length ≤ count := by
    apply Nat.le_of_not_lt
    intro hlt
    rw [List.drop_eq_getElem_cons hlt, List.flatten_cons] at hunread
    have hmem : whole[count] ∈ wireMsgs p l.texts := hall ▸ List.getElem_mem hlt
    have hlength := (wireMsgs_wellFormed hsound.written.fits _ hmem).hdrSize_lt
    have hnil := congrArg List.length hunread
    rw [List.length_nil, List.length_append] at hnil
    omega
  rw [hsound.out]
  apply List.take_of_length_le
  rw [hall] at hend
  unfold outputs
  unfold wireMsgs at hend
  simpa using hend

theorem Link.Sound.gone (hsound : l.Sound lib p s n whole left count) (hgone : l.held = .gone)
    : l.closed = true
        ∧ (s.outOf n = outputs lib p l.texts ∨ s.outOf n = (outputs lib p l.texts).dropLast) := by
  have hfollows := hsound.follows
  rw [hgone] at hfollows
  obtain ⟨hclosed, hcount⟩ := hfollows
  have hlength : (outputs lib p l.texts).length = (wireMsgs p l.texts).length := by
    simp [outputs, wireMsgs]
  refine ⟨hclosed, ?_⟩
  rw [hsound.out, hcount]
  rcases hsound.written.all with ⟨hall, _⟩ | ⟨_, hall, _⟩
  . rw [hall, ← hlength, List.take_length]
    exact .inl rfl
  . rw [hall, List.length_dropLast, ← hlength, ← List.dropLast_eq_take]
    exact .inr rfl

end Pl2rld
end OpenSyncRdk
