import OpenSyncRdk.Lib.Firsts
import OpenSyncRdk.Osn.LeaseLine

/-!
The lease cache of `osn_dhcps.c`. The leases of the file go to the first server in the list, one after the
other, into an array that grows by a fixed number of entries at a time.
-/

namespace OpenSyncRdk
namespace Osn

variable {Time Mac Ip : Type}

structure LeaseLib (Time Mac Ip : Type) where
  osRegMatchCpy : Nat → CStr → CStr
  strtod : CStr → Time
  osnMacAddrFromStr : CStr → Option Mac
  osnIpAddrFromStr : CStr → Option Ip
  int32Len : Nat
  macaddrLen : Nat
  ip4addrLen : Nat
  hostnameLen : Nat
  fingerprintLen : Nat
  vendorclassLen : Nat
  ifnameLen : Nat

structure Lease (Time Mac Ip : Type) where
  hwaddr : Mac
  ipaddr : Ip
  hostname : CStr
  fingerprint : CStr
  vendorclass : CStr
  leasetime : Time
  deriving DecidableEq

/-- An instance by its address. `capacity` is the number of leases that `ds_leases` has room for. -/
structure DhcpServer (Time Mac Ip : Type) where
  addr : Nat
  ifname : CStr
  statusFn : Bool
  leases : List (Lease Time Mac Ip)
  capacity : Nat
  deriving DecidableEq

def Lease.key (dl : Lease Time Mac Ip) : Ip × Mac :=
  (dl.ipaddr, dl.hwaddr)

def resizeQuantum : Nat := 16

def dhcpLeaseClear (self : DhcpServer Time Mac Ip) : DhcpServer Time Mac Ip :=
  { self with leases := [], capacity := 0 }

def dhcpServerStatusDispatch (servers : List (DhcpServer Time Mac Ip))
    : List (Nat × List (Lease Time Mac Ip)) :=
  (servers.filter (fun ds => ds.statusFn)).map (fun ds => (ds.addr, ds.leases))

def dhcpServerLeaseParseLine (lib : LeaseLib Time Mac Ip) (line : CStr) : Option (Lease Time Mac Ip) :=
  match leaseRegexec line with
  | none => none
  | some rm =>
    let sleasetime := lib.osRegMatchCpy lib.int32Len rm.timestamp
    let shwaddr := lib.osRegMatchCpy lib.macaddrLen rm.mac
    let sipaddr := lib.osRegMatchCpy lib.ip4addrLen rm.ip
    let hostname := lib.osRegMatchCpy lib.hostnameLen rm.hostname
    let fingerprint := lib.osRegMatchCpy lib.fingerprintLen rm.fingerprint
    let vendorclass := lib.osRegMatchCpy lib.vendorclassLen rm.vendorClass
    let leasetime := lib.strtod sleasetime
    match lib.osnMacAddrFromStr shwaddr with
    | none => none
    | some hwaddr =>
      match lib.osnIpAddrFromStr sipaddr with
      | none => none
      | some ipaddr => some { hwaddr, ipaddr, hostname, fingerprint, vendorclass, leasetime }

theorem dhcpServerLeaseParseLine_isSome_iff (lib : LeaseLib Time Mac Ip) (line : CStr)
    : (dhcpServerLeaseParseLine lib line).isSome = true
        ↔
      ∃ rm cid, LineMatches line rm cid
        ∧ (lib.osnMacAddrFromStr (lib.osRegMatchCpy lib.macaddrLen rm.mac)).isSome = true
        ∧ (lib.osnIpAddrFromStr (lib.osRegMatchCpy lib.ip4addrLen rm.ip)).isSome = true := by
  constructor
  . intro hline
    unfold dhcpServerLeaseParseLine at hline
    split at hline
    . contradiction
    . next rm hexec =>
      have ⟨cid, hmatches⟩ := leaseRegexec_iff.mp hexec
      dsimp only at hline
      split at hline
      . contradiction
      . next hwaddr hmac =>
        split at hline
        . contradiction
        . next ipaddr hip =>
          refine ⟨rm, cid, hmatches, ?_, ?_⟩
          . rw [hmac, Option.isSome_some]
          . rw [hip, Option.isSome_some]
  . intro ⟨rm, cid, hmatches, hmac, hip⟩
    have ⟨hwaddr, hmac⟩ := Option.isSome_iff_exists.mp hmac
    have ⟨ipaddr, hip⟩ := Option.isSome_iff_exists.mp hip
    simp only [dhcpServerLeaseParseLine, leaseRegexec_iff.mpr ⟨cid, hmatches⟩, hmac, hip, Option.isSome_some]

def capacityFor (len : Nat) : Nat :=
  (len + (resizeQuantum - 1)) / resizeQuantum * resizeQuantum

theorem capacityFor_zero
    : capacityFor 0 = 0 := by
  rfl

theorem capacityFor_succ (len : Nat)
    : capacityFor (len + 1) = if len % resizeQuantum = 0 then len + resizeQuantum else capacityFor len := by
  unfold capacityFor resizeQuantum
  split <;> omega

theorem lt_capacityFor_succ (len : Nat)
    : len < capacityFor (len + 1) := by
  unfold capacityFor resizeQuantum
  omega

def DhcpServer.holding (self : DhcpServer Time Mac Ip) (leases : List (Lease Time Mac Ip))
    : DhcpServer Time Mac Ip :=
  { self with leases, capacity := capacityFor leases.length }

theorem dhcpLeaseClear_eq_holding (self : DhcpServer Time Mac Ip)
    : dhcpLeaseClear self = self.holding [] := by
  rw [DhcpServer.holding, List.length_nil, capacityFor_zero, dhcpLeaseClear]

def cached (leases : List (Lease Time Mac Ip)) (servers : List (DhcpServer Time Mac Ip))
    : List (DhcpServer Time Mac Ip) :=
  match servers with
  | [] => []
  | ds :: others => ds.holding leases :: others.map dhcpLeaseClear

theorem cached_nil (servers : List (DhcpServer Time Mac Ip))
    : cached [] servers = servers.map dhcpLeaseClear := by
  cases servers with
  | nil => rfl
  | cons ds others => rw [cached, List.map_cons, dhcpLeaseClear_eq_holding]

section

variable [DecidableEq Mac] [DecidableEq Ip]

def leaseExists (st : List (Lease Time Mac Ip)) (dl : Lease Time Mac Ip) : Bool :=
  match st with
  | [] => false
  | entry :: st =>
    if dl.ipaddr ≠ entry.ipaddr then
      leaseExists st dl
    else if dl.hwaddr ≠ entry.hwaddr then
      leaseExists st dl
    else
      true

/-- `none` if the lease is written behind the end of the array. -/
def dhcpServerLeaseAdd (self : DhcpServer Time Mac Ip) (dl : Lease Time Mac Ip)
    : Option (DhcpServer Time Mac Ip) :=
  if leaseExists self.leases dl then
    some self
  else
    let len := self.leases.length
    let capacity := if len % resizeQuantum = 0 then len + resizeQuantum else self.capacity
    if len < capacity then
      some { self with leases := self.leases ++ [dl], capacity }
    else
      none

def dhcpServerFindByLease (servers : List (DhcpServer Time Mac Ip)) (_dl : Lease Time Mac Ip)
    : Option (DhcpServer Time Mac Ip × List (DhcpServer Time Mac Ip)) :=
  match servers with
  | [] => none
  | ds :: others => some (ds, others)

def dhcpLeaseParseLines (lib : LeaseLib Time Mac Ip) (lines : List CStr)
    (servers : List (DhcpServer Time Mac Ip)) : Option (List (DhcpServer Time Mac Ip)) :=
  match lines with
  | [] => some servers
  | line :: lines =>
    match dhcpServerLeaseParseLine lib line with
    | none => dhcpLeaseParseLines lib lines servers
    | some dl =>
      match dhcpServerFindByLease servers dl with
      | none => dhcpLeaseParseLines lib lines servers
      | some (ds, others) => do
        let ds ← dhcpServerLeaseAdd ds dl
        dhcpLeaseParseLines lib lines (ds :: others)

/-- There are no lines if the file cannot be opened or locked. -/
def dhcpLeaseParse (lib : LeaseLib Time Mac Ip) (file : Option (List CStr))
    (servers : List (DhcpServer Time Mac Ip)) : Option (Bool × List (DhcpServer Time Mac Ip)) :=
  match file with
  | none => some (false, servers)
  | some lines => (dhcpLeaseParseLines lib lines servers).map (fun servers => (true, servers))

def dhcpLeaseOnchange (lib : LeaseLib Time Mac Ip) (nlink : Nat) (file : Option (List CStr))
    (servers : List (DhcpServer Time Mac Ip))
    : Option (List (DhcpServer Time Mac Ip) × List (Nat × List (Lease Time Mac Ip))) := do
  let servers := servers.map dhcpLeaseClear
  let servers ←
    if nlink ≠ 0 then
      (dhcpLeaseParse lib file servers).map Prod.snd
    else
      some servers
  some (servers, dhcpServerStatusDispatch servers)

def dhcpLeaseInit (lib : LeaseLib Time Mac Ip) (file : Option (List CStr))
    (servers : List (DhcpServer Time Mac Ip))
    : Option (List (DhcpServer Time Mac Ip) × List (Nat × List (Lease Time Mac Ip))) := do
  let servers := servers.map dhcpLeaseClear
  let (_, servers) ← dhcpLeaseParse lib file servers
  some (servers, dhcpServerStatusDispatch servers)

theorem leaseExists_iff (st : List (Lease Time Mac Ip)) (dl : Lease Time Mac Ip)
    : leaseExists st dl = true ↔ ∃ entry ∈ st, entry.key = dl.key := by
  induction st with
  | nil => simp [leaseExists]
  | cons entry st ih =>
    rw [leaseExists, List.exists_mem_cons_iff, ← ih]
    split
    . next hip =>
      have hkey : entry.key ≠ dl.key := by
        intro heq
        exact hip (congrArg Prod.fst heq).symm
      simp [hkey]
    . next hip =>
      split
      . next hhw =>
        have hkey : entry.key ≠ dl.key := by
          intro heq
          exact hhw (congrArg Prod.snd heq).symm
        simp [hkey]
      . next hhw =>
        have hkey : entry.key = dl.key := by
          rw [not_not] at hip hhw
          rw [Lease.key, Lease.key, hip, hhw]
        simp [hkey]

theorem dhcpServerLeaseAdd_holding (self : DhcpServer Time Mac Ip) (leases : List (Lease Time Mac Ip))
    (dl : Lease Time Mac Ip)
    : dhcpServerLeaseAdd (self.holding leases) dl = some (self.holding (addNew Lease.key leases dl)) := by
  unfold dhcpServerLeaseAdd addNew
  rw [show (self.holding leases).leases = leases from rfl]
  by_cases hold : ∃ entry ∈ leases, entry.key = dl.key
  . rw [if_pos ((leaseExists_iff leases dl).mpr hold), if_pos hold]
  . rw [if_neg (mt (leaseExists_iff leases dl).mp hold), if_neg hold]
    dsimp only [DhcpServer.holding]
    rw [← capacityFor_succ, if_pos (lt_capacityFor_succ leases.length), List.length_append,
      List.length_singleton]

theorem dhcpLeaseParseLines_holding (lib : LeaseLib Time Mac Ip) (lines : List CStr)
    (ds : DhcpServer Time Mac Ip) (leases : List (Lease Time Mac Ip)) (others : List (DhcpServer Time Mac Ip))
    : dhcpLeaseParseLines lib lines (ds.holding leases :: others)
        =
      some (ds.holding ((lines.filterMap (dhcpServerLeaseParseLine lib)).foldl (addNew Lease.key) leases)
        :: others) := by
  induction lines generalizing leases with
  | nil => rfl
  | cons line lines ih =>
    rw [dhcpLeaseParseLines, List.filterMap_cons]
    split
    . next hline =>
      rw [hline]
      exact ih leases
    . next dl hline =>
      rw [hline]
      dsimp only [dhcpServerFindByLease]
      rw [dhcpServerLeaseAdd_holding]
      exact ih (addNew Lease.key leases dl)

def fileLeases (lib : LeaseLib Time Mac Ip) (nlink : Nat) (file : Option (List CStr))
    : List (Lease Time Mac Ip) :=
  if nlink = 0 then [] else firsts Lease.key ((file.getD []).filterMap (dhcpServerLeaseParseLine lib))

theorem dhcpLeaseParse_clear (lib : LeaseLib Time Mac Ip) (file : Option (List CStr))
    (servers : List (DhcpServer Time Mac Ip))
    : (dhcpLeaseParse lib file (servers.map dhcpLeaseClear)).map Prod.snd
        =
      some (cached (fileLeases lib 1 file) servers) := by
  cases file with
  | none =>
    rw [show fileLeases lib 1 none = [] from rfl, cached_nil]
    rfl
  | some lines =>
    cases servers with
    | nil =>
      have hnone : dhcpLeaseParseLines lib lines [] = some [] := by
        induction lines with
        | nil => rfl
        | cons line lines ih =>
          rw [dhcpLeaseParseLines]
          split
          . exact ih
          . exact ih
      simp only [dhcpLeaseParse, List.map_nil, hnone]
      rfl
    | cons ds others =>
      rw [List.map_cons, dhcpLeaseClear_eq_holding]
      simp only [dhcpLeaseParse, dhcpLeaseParseLines_holding]
      rw [foldl_addNew_nil]
      rfl

theorem dhcpLeaseOnchange_eq (lib : LeaseLib Time Mac Ip) (nlink : Nat) (file : Option (List CStr))
    (servers : List (DhcpServer Time Mac Ip))
    : (dhcpLeaseOnchange lib nlink file servers).map Prod.fst
        =
      some (cached (fileLeases lib nlink file) servers) := by
  unfold dhcpLeaseOnchange
  dsimp only
  split
  . next hnlink =>
    rw [dhcpLeaseParse_clear]
    simp [fileLeases, hnlink]
  . next hnlink =>
    rw [not_not] at hnlink
    rw [fileLeases, if_pos hnlink, cached_nil]
    rfl

theorem dhcpLeaseInit_eq (lib : LeaseLib Time Mac Ip) (file : Option (List CStr))
    (servers : List (DhcpServer Time Mac Ip))
    : (dhcpLeaseInit lib file servers).map Prod.fst = some (cached (fileLeases lib 1 file) servers) := by
  have hparse := dhcpLeaseParse_clear lib file servers
  have ⟨⟨retval, servers'⟩, hparse, heq⟩ := Option.map_eq_some_iff.mp hparse
  unfold dhcpLeaseInit
  dsimp only
  rw [hparse, ← heq]
  rfl

/-- Both callbacks have a result, so no lease is written outside of its array. A lease comes of the lines
that the regular expression matches and that have a MAC and an IP address. -/
theorem leases_eq_firsts (lib : LeaseLib Time Mac Ip) (lines : List CStr) {nlink : Nat} (hnlink : nlink ≠ 0)
    (first : DhcpServer Time Mac Ip) (others : List (DhcpServer Time Mac Ip))
    : ∃ servers,
        (dhcpLeaseOnchange lib nlink (some lines) (first :: others)).map Prod.fst = some servers
          ∧ (dhcpLeaseInit lib (some lines) (first :: others)).map Prod.fst = some servers
          ∧ servers.map DhcpServer.addr = (first :: others).map DhcpServer.addr
          ∧ servers.map DhcpServer.leases
              =
            firsts Lease.key (lines.filterMap (dhcpServerLeaseParseLine lib))
              :: others.map (fun _ => [])
          ∧ ∀ line,
              (dhcpServerLeaseParseLine lib line).isSome = true
                ↔
              ∃ rm cid, LineMatches line rm cid
                ∧ (lib.osnMacAddrFromStr (lib.osRegMatchCpy lib.macaddrLen rm.mac)).isSome = true
                ∧ (lib.osnIpAddrFromStr (lib.osRegMatchCpy lib.ip4addrLen rm.ip)).isSome = true := by
  have hleases (link : Nat) (hlink : link ≠ 0)
      : fileLeases lib link (some lines)
          =
        firsts Lease.key (lines.filterMap (dhcpServerLeaseParseLine lib)) := by
    rw [fileLeases, if_neg hlink]
    rfl
  refine ⟨cached (fileLeases lib nlink (some lines)) (first :: others), ?_, ?_, ?_, ?_,
    dhcpServerLeaseParseLine_isSome_iff lib⟩
  . exact dhcpLeaseOnchange_eq lib nlink (some lines) (first :: others)
  . rw [dhcpLeaseInit_eq, hleases 1 Nat.one_ne_zero, hleases nlink hnlink]
  . rw [cached, List.map_cons, List.map_cons, List.map_map]
    rfl
  . rw [cached, List.map_cons, List.map_map, hleases nlink hnlink]
    rfl

end

def textLib : LeaseLib CStr CStr CStr where
  osRegMatchCpy size text := strscpy size text
  strtod text := text
  osnMacAddrFromStr text := some text
  osnIpAddrFromStr text := some text
  int32Len := 12
  macaddrLen := 18
  ip4addrLen := 16
  hostnameLen := 64
  fingerprintLen := 128
  vendorclassLen := 64
  ifnameLen := 17

def leaseLines : List CStr :=
  ["1 0a:00:00:00:00:01 10.0.0.1 a * \"*\" *\n",
   "2 0a:00:00:00:00:01 10.0.0.1 b * \"*\" *\n",
   "duid 0a:00\n",
   "4 0a:00:00:00:00:01 10.0.0.2 * * \"*\" *\n"].map cstr

def leaseOf (leasetime ipaddr hostname : String) : Lease CStr CStr CStr where
  hwaddr := cstr "0a:00:00:00:00:01"
  ipaddr := cstr ipaddr
  hostname := cstr hostname
  fingerprint := cstr "*"
  vendorclass := cstr "*"
  leasetime := cstr leasetime

def freshServer (addr : Nat) (ifname : String) : DhcpServer CStr CStr CStr where
  addr
  ifname := cstr ifname
  statusFn := false
  leases := []
  capacity := 0

theorem firsts_leaseLines
    : firsts Lease.key (leaseLines.filterMap (dhcpServerLeaseParseLine textLib))
        =
      [leaseOf "1" "10.0.0.1" "a", leaseOf "4" "10.0.0.2" "*"] := by
  decide +kernel

theorem leases_eq_firsts_of_repeated
    : ∃ servers,
        (dhcpLeaseOnchange textLib 1 (some leaseLines)
            [freshServer 1 "br-a", freshServer 2 "br-b"]).map Prod.fst
            =
          some servers
          ∧ servers.map DhcpServer.leases
              =
            [[leaseOf "1" "10.0.0.1" "a", leaseOf "4" "10.0.0.2" "*"], []] := by
  have ⟨servers, honchange, _, _, hleases, _⟩ :=
    leases_eq_firsts textLib leaseLines Nat.one_ne_zero (freshServer 1 "br-a") [freshServer 2 "br-b"]
  rw [firsts_leaseLines] at hleases
  exact ⟨servers, honchange, hleases⟩

end Osn
end OpenSyncRdk
