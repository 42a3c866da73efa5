import OpenSyncRdk.Lib.Machine
import OpenSyncRdk.Osn.Dhcps

/-!
The life of the instances of `osn_dhcps.c`. They come and go while the lease file changes, and the leases that
one of them holds go with it.
-/

namespace OpenSyncRdk
namespace Osn

open Machine

variable {Time Mac Ip : Type}

/-- The globals of `osn_dhcps.c`, and `parsed` and `kept` to speak about them. -/
structure DhcpServers (Time Mac Ip : Type) where
  serverList : List (DhcpServer Time Mac Ip)
  -- the address that `CALLOC` returns next
  next : Nat
  leaseWatcher : Bool
  leaseInitDebounce : Bool
  -- the leases of the file when it was last looked at
  parsed : List (Lease Time Mac Ip)
  -- there was a server at every moment since then
  kept : Bool

namespace DhcpServers

def initial : DhcpServers Time Mac Ip where
  serverList := []
  next := 0
  leaseWatcher := false
  leaseInitDebounce := false
  parsed := []
  kept := false

def serverNew (lib : LeaseLib Time Mac Ip) (ifname : CStr) (s : DhcpServers Time Mac Ip)
    : DhcpServers Time Mac Ip :=
  if lib.ifnameLen ≤ ifname.length then
    s
  else
    let self := { addr := s.next, ifname, statusFn := false, leases := [], capacity := 0 }
    { s with
      serverList := s.serverList ++ [self]
      next := s.next + 1
      leaseWatcher := s.leaseWatcher || s.serverList.isEmpty
      leaseInitDebounce := s.leaseInitDebounce || s.serverList.isEmpty }

def serverDel (addr : Nat) (s : DhcpServers Time Mac Ip) : DhcpServers Time Mac Ip :=
  let serverList := s.serverList.filter (fun ds => ds.addr ≠ addr)
  let stop := s.leaseWatcher && serverList.isEmpty
  { s with
    serverList
    leaseWatcher := s.leaseWatcher && !stop
    leaseInitDebounce := s.leaseInitDebounce && !stop
    kept := s.kept && !serverList.isEmpty }

def statusNotify (addr : Nat) (fn : Bool) (s : DhcpServers Time Mac Ip) : DhcpServers Time Mac Ip :=
  { s with
    serverList := s.serverList.map (fun ds => if ds.addr = addr then { ds with statusFn := fn } else ds) }

def refreshed (s : DhcpServers Time Mac Ip) (parsed : List (Lease Time Mac Ip))
    (serverList : List (DhcpServer Time Mac Ip)) : DhcpServers Time Mac Ip :=
  { s with serverList, parsed, kept := !serverList.isEmpty }

end DhcpServers

inductive DhcpInput where
  | serverNew (ifname : CStr)
  | serverDel (addr : Nat)
  | statusNotify (addr : Nat) (fn : Bool)
  -- the watcher has seen a change of the file
  | leaseChanged (nlink : Nat) (file : Option (List CStr))
  -- the time of the debounced initialization is over
  | debounced (file : Option (List CStr))

section

variable [DecidableEq Mac] [DecidableEq Ip]

/-- A watcher or timer that is not started never calls back. -/
def DhcpServers.step (lib : LeaseLib Time Mac Ip) (s : DhcpServers Time Mac Ip)
    : DhcpInput → Option (DhcpServers Time Mac Ip)
  | .serverNew ifname => some (s.serverNew lib ifname)
  | .serverDel addr => some (s.serverDel addr)
  | .statusNotify addr fn => some (s.statusNotify addr fn)
  | .leaseChanged nlink file =>
    if s.leaseWatcher then
      ((dhcpLeaseOnchange lib nlink file s.serverList).map Prod.fst).map
        (s.refreshed (fileLeases lib nlink file))
    else
      some s
  | .debounced file =>
    if s.leaseInitDebounce then
      ((dhcpLeaseInit lib file s.serverList).map Prod.fst).map
        ({ s with leaseInitDebounce := false }.refreshed (fileLeases lib 1 file))
    else
      some s

end

namespace DhcpServers

def caches (s : DhcpServers Time Mac Ip) : List (List (Lease Time Mac Ip)) :=
  s.serverList.map DhcpServer.leases

theorem mem_caches (s : DhcpServers Time Mac Ip) (dl : Lease Time Mac Ip)
    : dl ∈ s.caches.flatten ↔ ∃ ds ∈ s.serverList, dl ∈ ds.leases := by
  simp [caches]

def LeasesKept (s : DhcpServers Time Mac Ip) : Prop :=
  s.kept = true → ∀ dl, dl ∈ s.caches.flatten ↔ dl ∈ s.parsed

def Loses (s : DhcpServers Time Mac Ip) (input : DhcpInput) : Prop :=
  ∃ ds ∈ s.serverList, input = .serverDel ds.addr ∧ ds.leases ≠ []
    ∧ ∃ other ∈ s.serverList, other.addr ≠ ds.addr

structure Sound (s : DhcpServers Time Mac Ip) : Prop where
  watching : s.leaseWatcher = true ↔ s.serverList ≠ []
  debouncing : s.leaseInitDebounce = true → s.serverList ≠ []
  owned : ∀ leases ∈ s.caches.tail, leases = []
  dropped : s.kept = false → ∀ leases ∈ s.caches, leases = []

theorem initial_sound
    : (initial : DhcpServers Time Mac Ip).Sound where
  watching := by simp [initial]
  debouncing := by simp [initial]
  owned := by simp [initial, caches]
  dropped := by simp [initial, caches]

theorem serverNew_sound (lib : LeaseLib Time Mac Ip) (ifname : CStr) {s : DhcpServers Time Mac Ip}
    (hs : s.Sound)
    : (s.serverNew lib ifname).Sound := by
  unfold serverNew
  split
  . exact hs
  . have hcaches (addr : Nat)
        : (s.serverList ++ [DhcpServer.mk addr ifname false [] 0]).map DhcpServer.leases
            =
          s.caches ++ [[]] := by
      simp [caches]
    have howned := hs.owned
    constructor
    . apply iff_of_true
      . rw [Bool.or_eq_true, List.isEmpty_iff, hs.watching]
        apply ne_or_eq
      . simp
    . simp
    . rw [caches, hcaches]
      cases hlist : s.caches with
      | nil => simp
      | cons first others => simpa [hlist, or_imp, forall_and] using howned
    . intro hkept leases hmem
      rw [caches, hcaches, List.mem_append, List.mem_singleton] at hmem
      cases hmem with
      | inl hmem => exact hs.dropped hkept leases hmem
      | inr heq => exact heq

theorem mem_tail_filter {α : Type} {p : α → Bool} {xs : List α} {x : α} (hx : x ∈ (xs.filter p).tail)
    : x ∈ xs.tail := by
  cases xs with
  | nil => contradiction
  | cons head xs =>
    rw [List.filter_cons] at hx
    split at hx
    . exact List.mem_of_mem_filter hx
    . exact List.mem_of_mem_filter (List.mem_of_mem_tail hx)

theorem serverDel_sound (addr : Nat) {s : DhcpServers Time Mac Ip} (hs : s.Sound)
    : (s.serverDel addr).Sound := by
  have howned := hs.owned
  have hdropped := hs.dropped
  unfold caches at howned hdropped
  rw [← List.map_tail, List.forall_mem_map] at howned
  rw [List.forall_mem_map] at hdropped
  unfold serverDel
  dsimp only
  generalize hlist : s.serverList.filter (fun ds => ds.addr ≠ addr) = serverList
  have hsub : ∀ ds ∈ serverList, ds ∈ s.serverList := by
    intro ds hmem
    rw [← hlist] at hmem
    exact List.mem_of_mem_filter hmem
  have hwatched : serverList ≠ [] → s.leaseWatcher = true := by
    intro hne
    have ⟨ds, hmem⟩ := List.exists_mem_of_ne_nil _ hne
    exact hs.watching.mpr (List.ne_nil_of_mem (hsub ds hmem))
  constructor
  . cases serverList with
    | nil => simp
    | cons ds serverList => simpa using hwatched
  . cases serverList with
    | nil =>
      intro hdebounce
      simp only [List.isEmpty_nil, Bool.and_true, Bool.and_eq_true, Bool.not_eq_true'] at hdebounce
      rw [hs.watching.mpr (hs.debouncing hdebounce.1)] at hdebounce
      simp at hdebounce
    | cons ds serverList => simp
  . simp only [caches]
    rw [← List.map_tail, List.forall_mem_map]
    intro ds hmem
    rw [← hlist] at hmem
    exact howned ds (mem_tail_filter hmem)
  . simp only [caches]
    rw [List.forall_mem_map]
    intro hkept ds hmem
    have hne := List.ne_nil_of_mem hmem
    exact hdropped (by simpa [hne] using hkept) ds (hsub ds hmem)

theorem statusNotify_caches (addr : Nat) (fn : Bool) (s : DhcpServers Time Mac Ip)
    : (s.statusNotify addr fn).caches = s.caches := by
  unfold statusNotify caches
  rw [List.map_map]
  apply List.map_congr_left
  intro ds _
  dsimp only [Function.comp]
  split <;> rfl

theorem statusNotify_sound (addr : Nat) (fn : Bool) {s : DhcpServers Time Mac Ip} (hs : s.Sound)
    : (s.statusNotify addr fn).Sound where
  watching := by simpa [statusNotify] using hs.watching
  debouncing := by simpa [statusNotify] using hs.debouncing
  owned := by
    rw [statusNotify_caches]
    exact hs.owned
  dropped := by
    rw [statusNotify_caches]
    exact hs.dropped

theorem cached_leases (leases : List (Lease Time Mac Ip)) (ds : DhcpServer Time Mac Ip)
    (others : List (DhcpServer Time Mac Ip))
    : (cached leases (ds :: others)).map DhcpServer.leases = leases :: others.map (fun _ => []) := by
  rw [cached, List.map_cons, List.map_map]
  rfl

theorem cached_eq_nil_iff (leases : List (Lease Time Mac Ip)) (servers : List (DhcpServer Time Mac Ip))
    : cached leases servers = [] ↔ servers = [] := by
  cases servers <;> simp [cached]

theorem refreshed_sound (leases : List (Lease Time Mac Ip)) {s : DhcpServers Time Mac Ip} (hs : s.Sound)
    : (s.refreshed leases (cached leases s.serverList)).Sound where
  watching := by
    rw [ne_eq, refreshed, cached_eq_nil_iff]
    exact hs.watching
  debouncing := by
    rw [ne_eq, refreshed, cached_eq_nil_iff]
    exact hs.debouncing
  owned := by
    dsimp only [refreshed, caches]
    cases s.serverList with
    | nil => simp [cached]
    | cons ds others =>
      rw [cached_leases]
      simp
  dropped := by
    dsimp only [refreshed, caches]
    cases s.serverList with
    | nil => simp [cached]
    | cons ds others => simp [cached]

theorem refreshed_leasesKept (leases : List (Lease Time Mac Ip)) (s : DhcpServers Time Mac Ip)
    : (s.refreshed leases (cached leases s.serverList)).LeasesKept := by
  dsimp only [LeasesKept, refreshed, caches]
  cases s.serverList with
  | nil => simp [cached]
  | cons ds others =>
    rw [cached_leases]
    simp

theorem serverNew_leasesKept (lib : LeaseLib Time Mac Ip) (ifname : CStr) {s : DhcpServers Time Mac Ip}
    (hkept : s.LeasesKept)
    : (s.serverNew lib ifname).LeasesKept := by
  unfold serverNew
  split
  . exact hkept
  . simpa [LeasesKept, caches] using hkept

theorem statusNotify_leasesKept (addr : Nat) (fn : Bool) {s : DhcpServers Time Mac Ip}
    (hkept : s.LeasesKept)
    : (s.statusNotify addr fn).LeasesKept := by
  unfold LeasesKept
  rw [statusNotify_caches]
  exact hkept

theorem serverDel_leasesKept {addr : Nat} {s : DhcpServers Time Mac Ip} (hkept : s.LeasesKept)
    (hkeeps : ¬s.Loses (.serverDel addr))
    : (s.serverDel addr).LeasesKept := by
  intro hstill dl
  have ⟨hbefore, hne⟩ := Bool.and_eq_true_iff.mp hstill
  rw [Bool.not_eq_true', List.isEmpty_eq_false_iff] at hne
  have ⟨other, hother⟩ := List.exists_mem_of_ne_nil _ hne
  have ⟨hmem, haddr⟩ := List.mem_filter.mp hother
  rw [decide_eq_true_eq] at haddr
  show _ ↔ dl ∈ s.parsed
  rw [← hkept hbefore dl, mem_caches, mem_caches]
  constructor
  . intro ⟨ds, hds, hdl⟩
    exact ⟨ds, List.mem_of_mem_filter hds, hdl⟩
  . intro ⟨ds, hds, hdl⟩
    refine ⟨ds, List.mem_filter.mpr ⟨hds, ?_⟩, hdl⟩
    rw [decide_eq_true_eq]
    intro heq
    apply hkeeps
    exact ⟨ds, hds, by rw [heq], List.ne_nil_of_mem hdl, other, hmem, by rwa [heq]⟩

theorem owner_unique {s : DhcpServers Time Mac Ip} (hs : s.Sound) {ds other : DhcpServer Time Mac Ip}
    (hds : ds ∈ s.serverList) (hother : other ∈ s.serverList) (hne : ds.leases ≠ [])
    (hne' : other.leases ≠ [])
    : ds = other := by
  have howned := hs.owned
  unfold caches at howned
  rw [← List.map_tail, List.forall_mem_map] at howned
  cases hlist : s.serverList with
  | nil => simp [hlist] at hds
  | cons first others =>
    rw [hlist] at howned hds hother
    cases hds with
    | head =>
      cases hother with
      | head => rfl
      | tail _ hother => exact absurd (howned other hother) hne'
    | tail _ hds => exact absurd (howned ds hds) hne

theorem serverDel_not_leasesKept {addr : Nat} {s : DhcpServers Time Mac Ip} (hs : s.Sound)
    (hkept : s.LeasesKept) (hloses : s.Loses (.serverDel addr))
    : ¬(s.serverDel addr).LeasesKept := by
  have ⟨ds, hds, heq, hleases, other, hother, haddr⟩ := hloses
  injection heq with heq
  have hbefore : s.kept = true := by
    apply Decidable.byContradiction
    intro hdropped
    rw [Bool.not_eq_true] at hdropped
    exact hleases (hs.dropped hdropped ds.leases (List.mem_map_of_mem hds))
  have hmem : other ∈ (s.serverDel addr).serverList := by
    apply List.mem_filter.mpr
    rw [decide_eq_true_eq, heq]
    exact ⟨hother, haddr⟩
  have hstill : (s.serverDel addr).kept = true := by
    have hne := List.ne_nil_of_mem hmem
    show (s.kept && !(s.serverDel addr).serverList.isEmpty) = true
    simp [hbefore, hne]
  intro hafter
  have ⟨dl, hdl⟩ := List.exists_mem_of_ne_nil _ hleases
  have hparsed := (hkept hbefore dl).mp ((mem_caches s dl).mpr ⟨ds, hds, hdl⟩)
  have ⟨ds', hds', hdl'⟩ := (mem_caches _ dl).mp ((hafter hstill dl).mpr hparsed)
  have ⟨hmem', haddr'⟩ := List.mem_filter.mp hds'
  rw [owner_unique hs hds hmem' hleases (List.ne_nil_of_mem hdl')] at heq
  simp [heq] at haddr'

theorem debounce_over_sound {s : DhcpServers Time Mac Ip} (hs : s.Sound)
    : Sound { s with leaseInitDebounce := false } where
  watching := hs.watching
  debouncing := by simp
  owned := hs.owned
  dropped := hs.dropped

section

variable [DecidableEq Mac] [DecidableEq Ip]

def advance (lib : LeaseLib Time Mac Ip) (s : DhcpServers Time Mac Ip) : DhcpInput → DhcpServers Time Mac Ip
  | .serverNew ifname => s.serverNew lib ifname
  | .serverDel addr => s.serverDel addr
  | .statusNotify addr fn => s.statusNotify addr fn
  | .leaseChanged nlink file =>
    if s.leaseWatcher then
      s.refreshed (fileLeases lib nlink file) (cached (fileLeases lib nlink file) s.serverList)
    else
      s
  | .debounced file =>
    if s.leaseInitDebounce then
      { s with leaseInitDebounce := false }.refreshed (fileLeases lib 1 file)
        (cached (fileLeases lib 1 file) s.serverList)
    else
      s

theorem step_eq_advance (lib : LeaseLib Time Mac Ip) (s : DhcpServers Time Mac Ip) (input : DhcpInput)
    : s.step lib input = some (s.advance lib input) := by
  cases input with
  | serverNew ifname => rfl
  | serverDel addr => rfl
  | statusNotify addr fn => rfl
  | leaseChanged nlink file =>
    rw [step, dhcpLeaseOnchange_eq, advance]
    split <;> rfl
  | debounced file =>
    rw [step, dhcpLeaseInit_eq, advance]
    split <;> rfl

theorem advance_sound (lib : LeaseLib Time Mac Ip) {s : DhcpServers Time Mac Ip} (input : DhcpInput)
    (hs : s.Sound)
    : (s.advance lib input).Sound := by
  cases input with
  | serverNew ifname => exact serverNew_sound lib ifname hs
  | serverDel addr => exact serverDel_sound addr hs
  | statusNotify addr fn => exact statusNotify_sound addr fn hs
  | leaseChanged nlink file =>
    rw [advance]
    split
    . exact refreshed_sound _ hs
    . exact hs
  | debounced file =>
    rw [advance]
    split
    . exact refreshed_sound _ (debounce_over_sound hs)
    . exact hs

theorem advance_leasesKept_iff (lib : LeaseLib Time Mac Ip) {s : DhcpServers Time Mac Ip} (input : DhcpInput)
    (hs : s.Sound) (hkept : s.LeasesKept)
    : (s.advance lib input).LeasesKept ↔ ¬s.Loses input := by
  have hother (hinput : ∀ addr, input ≠ .serverDel addr)
      : ¬s.Loses input := by
    intro ⟨ds, _, heq, _⟩
    exact hinput ds.addr heq
  cases input with
  | serverNew ifname => exact iff_of_true (serverNew_leasesKept lib ifname hkept) (hother (by simp))
  | serverDel addr =>
    constructor
    . intro hafter hloses
      exact serverDel_not_leasesKept hs hkept hloses hafter
    . exact serverDel_leasesKept hkept
  | statusNotify addr fn => exact iff_of_true (statusNotify_leasesKept addr fn hkept) (hother (by simp))
  | leaseChanged nlink file =>
    apply iff_of_true _ (hother (by simp))
    rw [advance]
    split
    . apply refreshed_leasesKept
    . exact hkept
  | debounced file =>
    apply iff_of_true _ (hother (by simp))
    rw [advance]
    split
    . exact refreshed_leasesKept _ { s with leaseInitDebounce := false }
    . exact hkept

theorem always_leasesKept_iff (lib : LeaseLib Time Mac Ip) (inputs : List DhcpInput)
    : Always (step lib) LeasesKept initial inputs
        ↔
      AllSteps (step lib) (fun s input => ¬s.Loses input) initial inputs := by
  apply always_iff_allSteps_of_invariant _ _ initial_sound
  . intro hkept
    contradiction
  . intro s input t hs hstep
    rw [step_eq_advance] at hstep
    injection hstep with hstep
    rw [← hstep]
    exact advance_sound lib input hs
  . intro s input hs hkept
    rw [← advance_leasesKept_iff lib input hs hkept, step_eq_advance]
    simp

end

def lostLine : CStr :=
  cstr "1 0a:00:00:00:00:01 10.0.0.1 a * \"*\" *\n"

theorem not_always_leasesKept
    : ¬Always (step textLib) LeasesKept initial
        [.serverNew (cstr "br-a"), .serverNew (cstr "br-b"), .leaseChanged 1 (some [lostLine]),
          .serverDel 0] := by
  intro halways
  have ⟨s, hrun, hkept⟩ := halways _ List.prefix_rfl
  have hlost
      : (run (step textLib) initial
            [.serverNew (cstr "br-a"), .serverNew (cstr "br-b"), .leaseChanged 1 (some [lostLine]),
              .serverDel 0]).map
          (fun s => decide (s.kept = true ∧ s.caches.flatten = [] ∧ s.parsed = [leaseOf "1" "10.0.0.1" "a"]))
          =
        some true := by
    decide +kernel
  rw [hrun] at hlost
  injection hlost with hlost
  have ⟨hstill, hcaches, hparsed⟩ := of_decide_eq_true hlost
  have hdl := hkept hstill (leaseOf "1" "10.0.0.1" "a")
  rw [hcaches, hparsed] at hdl
  simp at hdl

end DhcpServers

end Osn
end OpenSyncRdk
