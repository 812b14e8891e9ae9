import CloudProvider.Proofs.Recording
import CloudProvider.Simulated.Cloud
import Mathlib.Data.List.Basic
import Mathlib.Data.List.Forall2
import Mathlib.Data.List.Induction

/-!
# Resolved networks

A request for networks is resolved by the names of the networks: which of them is the default
one, which need a port, and which security groups apply. The default network is kept apart from
the networks that need a port, although it may be one of these, so it is there twice. The two
never come apart, whatever ports are recorded.

* `Network.Realizes`: a resolved network by its fields; `NetworkSpec.Resolves`: what a request
  amounts to, said by names;
* `NetworkConfig.Agrees`: the default network is the same in both places; it is so once a request
  is resolved (`agrees_of_resolve`), and recording ports keeps it so (`Agrees.assignPorts`);
* `NetworkConfig.bare_assignPorts`: nothing but ports is ever changed;
* `Cloud.resolveNetworks_agrees`: a cloud resolves every request that has a default network, and
  what it answers is in order and stays in order.
-/

namespace CloudProvider

/-! ## Order -/

/-- The first entry that is wanted comes, by its name, before every other that is. -/
theorem Table.le_of_find? {α : Type} {l : List (String × α)} {wanted : String × α → Bool}
    {e e' : String × α} (hsorted : l.Pairwise fun a b => a.1 < b.1)
    (h : l.find? wanted = some e) (he' : e' ∈ l) (hwanted : wanted e' = true) : e.1 ≤ e'.1 := by
  obtain ⟨-, before, after, rfl, hbefore⟩ := List.find?_eq_some_iff_append.1 h
  rcases List.mem_append.1 he' with he' | he'
  · exact absurd hwanted (by simpa using hbefore e' he')
  · rcases List.mem_cons.1 he' with rfl | he'
    · exact String.le_refl _
    · obtain ⟨-, hsorted, -⟩ := List.pairwise_append.1 hsorted
      exact String.not_lt.1 (String.lt_asymm ((List.pairwise_cons.1 hsorted).1 e' he'))

/-- What occurs earlier in a list also occurs earlier in what is kept of the list. -/
theorem idxOf_filter_lt_iff {α : Type} [DecidableEq α] {p : α → Bool} {a b : α} (ha : p a = true)
    (hb : p b = true) (l : List α) :
    (l.filter p).idxOf a < (l.filter p).idxOf b ↔ l.idxOf a < l.idxOf b := by
  induction l with
  | nil => rfl
  | cons c l ih =>
    rw [List.filter_cons]
    grind

/-- Without its duplicates, a list is in the order in which its values first occur. -/
theorem pairwise_idxOf_eraseDups {α : Type} [DecidableEq α] (l : List α) :
    l.eraseDups.Pairwise fun a b => l.idxOf a < l.idxOf b := by
  match l with
  | [] => exact .nil
  | c :: l =>
    -- What is left of the rest is no tail of the list, so the induction is on the length.
    have hshorter : (l.filter fun b => !b == c).length < l.length + 1 :=
      Nat.lt_succ_of_le (List.length_filter_le _ _)
    have hne {b : α} (hb : b ∈ (l.filter fun b => !b == c).eraseDups) : c ≠ b := by
      rintro rfl
      simpa using (List.mem_filter.1 (List.mem_eraseDups.1 hb)).2
    rw [List.eraseDups_cons]
    refine List.pairwise_cons.2 ⟨fun b hb => ?_, ?_⟩
    · rw [List.idxOf_cons_self, List.idxOf_cons_ne _ (hne hb)]
      exact Nat.succ_pos _
    · refine (pairwise_idxOf_eraseDups _).imp_of_mem fun {a b} ha hb hlt => ?_
      rw [List.idxOf_cons_ne _ (hne ha), List.idxOf_cons_ne _ (hne hb)]
      exact Nat.succ_lt_succ <|
        (idxOf_filter_lt_iff (by simpa using (hne ha).symm) (by simpa using (hne hb).symm) l).1 hlt
  termination_by l.length

/-! ## What a request amounts to -/

/-- A network is the one requested under a name, on the network of the backend that the request
    tells, if any, at the address that it tells, if any, and without a port. -/
structure Network.Realizes (resolved : Network) (requested : String × NetworkSettings) : Prop where
  name_eq : resolved.name = requested.1
  kind_eq : resolved.kind = requested.2.kind
  netId_eq : resolved.netId = requested.2.properties.netId.getD ""
  ip_eq : resolved.ip = requested.2.ip
  portless : resolved.portId = none

namespace NetworkSpec

variable {spec : NetworkSpec} {c : NetworkConfig}

/-- The first network, by name, of those that are wanted. -/
structure IsFirst (spec : NetworkSpec) (wanted : NetworkSettings → Prop) (name : String)
    (n : NetworkSettings) : Prop where
  requested : spec.get? name = some n
  isWanted : wanted n
  first {name' n'} : spec.get? name' = some n' → wanted n' → name ≤ name'

/-- The default network: the first that is to carry the default gateway, or the first of all if
    none is. Networks for floating addresses do not count. -/
def IsDefault (spec : NetworkSpec) (name : String) (n : NetworkSettings) : Prop :=
  spec.IsFirst (fun n => n.kind ≠ .vip ∧ "gateway" ∈ n.defaultFor) name n ∨
    (∀ name' n', spec.get? name' = some n' → n'.kind ≠ .vip → "gateway" ∉ n'.defaultFor) ∧
      spec.IsFirst (·.kind ≠ .vip) name n

/-- The security groups of all networks, by the names of the networks. -/
def allGroups (spec : NetworkSpec) : List String :=
  spec.entries.flatMap (·.2.properties.securityGroups)

/-- A configuration is what a request amounts to. -/
structure Resolves (spec : NetworkSpec) (c : NetworkConfig) : Prop where
  /-- The networks that need a port are those requested so, in the order of their names. -/
  manual : List.Forall₂ Network.Realizes c.manualNetworks
    (spec.entries.filter (·.2.kind = .manual))
  default : ∃ name n, spec.IsDefault name n ∧ c.defaultNetwork.Realizes (name, n)
  floating : c.vipNetwork.isSome = true ↔ ∃ name n, spec.get? name = some n ∧ n.kind = .vip
  /-- The network for a floating address is one of those requested so. -/
  realized : ∀ vip ∈ c.vipNetwork, ∃ name n, spec.get? name = some n ∧ n.kind = .vip ∧
    vip.Realizes (name, n)
  groups : ∀ group, group ∈ c.securityGroups ↔
    ∃ name n, spec.get? name = some n ∧ group ∈ n.properties.securityGroups
  /-- Every group is there once, in the order in which the groups first occur. -/
  ordered : c.securityGroups.Pairwise fun a b => spec.allGroups.idxOf a < spec.allGroups.idxOf b

theorem realizes_resolveEntry (e : String × NetworkSettings) : (resolveEntry e).Realizes e :=
  ⟨rfl, rfl, rfl, rfl, rfl⟩

theorem mem_fixed {name : String} {n : NetworkSettings} :
    (name, n) ∈ fixed spec ↔ spec.get? name = some n ∧ n.kind ≠ .vip := by
  simp [fixed, Table.mem_entries]

theorem fixed_eq_nil_iff :
    fixed spec = [] ↔ ∀ name n, spec.get? name = some n → n.kind = .vip := by
  simp [List.eq_nil_iff_forall_not_mem, mem_fixed]

theorem sorted_fixed (spec : NetworkSpec) : (fixed spec).Pairwise fun a b => a.1 < b.1 :=
  spec.sorted.filter _

/-- A request without a default network is the only one that cannot be resolved. -/
theorem resolve_eq_error_iff {e : CloudError} :
    resolve spec = .error e ↔ fixed spec = [] ∧ e = .invalidArgument "no default network" := by
  unfold resolve
  cases hfixed : fixed spec with
  | nil => simp [eq_comm]
  | cons entry rest =>
    cases hgateway : (entry :: rest).find? (isGateway ·.2) <;> simp

theorem isDefault_of_find? {e : String × NetworkSettings}
    (h : ((fixed spec).find? (isGateway ·.2) <|> (fixed spec).head?) = some e) :
    spec.IsDefault e.1 e.2 := by
  obtain ⟨name, n⟩ := e
  cases hgateway : (fixed spec).find? (isGateway ·.2) with
  | some e =>
    obtain rfl : e = (name, n) := by simpa [hgateway] using h
    obtain ⟨hrequested, hkind⟩ := mem_fixed.1 (List.mem_of_find?_eq_some hgateway)
    refine .inl ⟨hrequested, ⟨hkind, ?_⟩, fun hrequested' ⟨hkind', hgateway'⟩ => ?_⟩
    · simpa [isGateway] using List.find?_some hgateway
    · exact Table.le_of_find? spec.sorted_fixed hgateway (mem_fixed.2 ⟨hrequested', hkind'⟩)
        (by simpa [isGateway] using hgateway')
  | none =>
    -- Then the first of all is found, and every network is as good as any other.
    have hhead : (fixed spec).head? = some (name, n) := by simpa [hgateway] using h
    have hfirst : (fixed spec).find? (fun _ => true) = some (name, n) := by
      obtain ⟨rest, hrest⟩ := List.head?_eq_some_iff.1 hhead
      rw [hrest]
      rfl
    obtain ⟨hrequested, hkind⟩ := mem_fixed.1 (List.mem_of_find?_eq_some hfirst)
    refine .inr ⟨fun name' n' hrequested' hkind' => ?_, hrequested, hkind,
      fun hrequested' hkind' => ?_⟩
    · simpa [isGateway] using List.find?_eq_none.1 hgateway _ (mem_fixed.2 ⟨hrequested', hkind'⟩)
    · exact Table.le_of_find? spec.sorted_fixed hfirst (mem_fixed.2 ⟨hrequested', hkind'⟩) rfl

/-- All that a configuration is, once its default network is known. -/
theorem exists_of_resolve (h : resolve spec = .ok c) :
    ∃ e, spec.IsDefault e.1 e.2 ∧ c = {
      defaultNetwork := resolveEntry e
      manualNetworks := (spec.entries.filter (·.2.kind = .manual)).map resolveEntry
      vipNetwork := (spec.entries.filter (·.2.kind = .vip)).getLast?.map resolveEntry
      securityGroups := spec.allGroups.eraseDups } := by
  have hmanual : (fixed spec).filter (·.2.kind = .manual) =
      spec.entries.filter (·.2.kind = .manual) := by
    refine List.filter_filter.trans (List.filter_congr fun entry _ => ?_)
    cases entry.2.kind <;> rfl
  unfold resolve at h
  split at h
  · cases h
  · rename_i e he
    refine ⟨e, isDefault_of_find? he, ?_⟩
    rw [← hmanual]
    exact (Except.ok.inj h).symm

theorem manualNetworks_of_resolve (h : resolve spec = .ok c) :
    c.manualNetworks = (spec.entries.filter (·.2.kind = .manual)).map resolveEntry := by
  obtain ⟨e, -, rfl⟩ := exists_of_resolve h
  rfl

theorem resolves_of_resolve (h : resolve spec = .ok c) : spec.Resolves c := by
  obtain ⟨e, he, rfl⟩ := exists_of_resolve h
  exact {
    manual := List.forall₂_map_left_iff.2 (List.forall₂_same.2 fun _ _ => realizes_resolveEntry _)
    default := ⟨e.1, e.2, he, realizes_resolveEntry e⟩
    floating := by simp [Table.mem_entries]
    realized := fun vip hvip => by
      obtain ⟨⟨name, n⟩, hlast, rfl⟩ := Option.map_eq_some_iff.1 hvip
      obtain ⟨hmem, hkind⟩ := List.mem_filter.1 (List.mem_of_getLast? hlast)
      exact ⟨name, n, Table.mem_entries.1 hmem, of_decide_eq_true hkind, realizes_resolveEntry _⟩
    groups := fun group => by simp [allGroups, List.mem_eraseDups, Table.mem_entries]
    ordered := pairwise_idxOf_eraseDups _ }

theorem names_of_resolve (h : resolve spec = .ok c) : (c.manualNetworks.map (·.name)).Nodup := by
  have hnames : (spec.entries.map (·.1)).Nodup := List.pairwise_map.2 spec.distinct
  rw [manualNetworks_of_resolve h, List.map_map]
  exact hnames.sublist (List.filter_sublist.map _)

end NetworkSpec

/-! ## Recording ports -/

/-- A network without its port. -/
def Network.bare (n : Network) : Network := { n with portId := none }

theorem Network.bare_assignPort (name portId : String) (n : Network) :
    (n.assignPort name portId).bare = n.bare := by
  rw [assignPort_eq]
  rfl

/-- What is recorded under different names does not depend on the order. -/
theorem Network.assignPort_comm {name name' : String} (hname : name ≠ name')
    (portId portId' : String) (n : Network) :
    (n.assignPort name portId).assignPort name' portId' =
      (n.assignPort name' portId').assignPort name portId := by
  unfold assignPort
  by_cases h : n.name = name
  · have h' : n.name ≠ name' := h ▸ hname
    rw [if_pos h, if_neg h', if_neg h', if_pos h]
  · by_cases h' : n.name = name'
    · rw [if_neg h, if_pos h', if_neg h]
    · rw [if_neg h, if_neg h', if_neg h]

/-- The last port that was recorded under a name. -/
def lastPort (recorded : List (String × String)) (name : String) : Option String :=
  (recorded.filter (·.1 = name)).getLast?.map (·.2)

theorem lastPort_eq (recorded : List (String × String)) (name : String) :
    lastPort recorded name = recorded.reverse.lookup name := by
  induction recorded using List.reverseRecOn with
  | nil => rfl
  | append_singleton recorded e ih =>
    rw [lastPort, List.filter_append, List.reverse_concat, Table.lookup_entry_cons, ← ih]
    by_cases hname : name = e.1
    · simp [hname]
    · simp [hname, Ne.symm hname, lastPort]

namespace NetworkConfig

/-- A configuration without any of the ports that are recorded in it. -/
def bare (c : NetworkConfig) : NetworkConfig :=
  { c with
    defaultNetwork := c.defaultNetwork.bare
    manualNetworks := c.manualNetworks.map Network.bare }

theorem bare_assignPort (c : NetworkConfig) (name portId : String) :
    (c.assignPort name portId).bare = c.bare := by
  have hmanual : (c.manualNetworks.map (Network.assignPort name portId)).map Network.bare =
      c.manualNetworks.map Network.bare := by
    rw [List.map_map]
    exact List.map_congr_left fun n _ => n.bare_assignPort name portId
  rw [bare, assignPort, Network.bare_assignPort, hmanual]
  rfl

/-- Nothing but ports is changed by recording ports. -/
theorem bare_assignPorts (recorded : List (String × String)) (c : NetworkConfig) :
    (c.assignPorts recorded).bare = c.bare := by
  induction recorded generalizing c with
  | nil => rfl
  | cons e recorded ih => exact (ih _).trans (c.bare_assignPort e.1 e.2)

theorem assignPort_comm {name name' : String} (hname : name ≠ name') (portId portId' : String)
    (c : NetworkConfig) :
    (c.assignPort name portId).assignPort name' portId' =
      (c.assignPort name' portId').assignPort name portId := by
  have hmanual : (c.manualNetworks.map (Network.assignPort name portId)).map
        (Network.assignPort name' portId') =
      (c.manualNetworks.map (Network.assignPort name' portId')).map
        (Network.assignPort name portId) := by
    rw [List.map_map, List.map_map]
    exact List.map_congr_left fun n _ => n.assignPort_comm hname portId portId'
  unfold assignPort
  rw [c.defaultNetwork.assignPort_comm hname, hmanual]

/-- A network that needs a port and has the name of the default network is the same there. -/
def Agrees (c : NetworkConfig) : Prop :=
  ∀ n ∈ c.manualNetworks, n.name = c.defaultNetwork.name → n = c.defaultNetwork

theorem Agrees.assignPort {c : NetworkConfig} (h : c.Agrees) (name portId : String) :
    (c.assignPort name portId).Agrees := by
  have hkept (n : Network) : (n.assignPort name portId).name = n.name := by
    rw [Network.assignPort_eq]
  intro n hn hname
  obtain ⟨n, hmem, rfl⟩ := List.mem_map.1 hn
  obtain rfl := h n hmem ((hkept n).symm.trans (hname.trans (hkept _)))
  rfl

theorem Agrees.assignPorts {c : NetworkConfig} (h : c.Agrees) (recorded : List (String × String)) :
    (c.assignPorts recorded).Agrees := by
  induction recorded generalizing c with
  | nil => exact h
  | cons e recorded ih => exact ih (h.assignPort e.1 e.2)

/-- Where there were no ports, the ports are the last ones recorded under the names of the
    networks that need one. -/
theorem portIds_assignPorts {c : NetworkConfig} (h : c.bare = c)
    (recorded : List (String × String)) :
    (c.assignPorts recorded).portIds =
      (c.manualNetworks.map (·.name)).filterMap (lastPort recorded) := by
  have hnone {n : Network} (hn : n ∈ c.manualNetworks) : n.portId = none := by
    rw [← h] at hn
    obtain ⟨n, -, rfl⟩ := List.mem_map.1 hn
    rfl
  rw [assignPorts_eq, portIds, List.filterMap_map, List.filterMap_map]
  refine List.filterMap_congr fun n hn => ?_
  rw [Function.comp_apply, Function.comp_apply, Network.assignPorts_eq, lastPort_eq, hnone hn,
    Option.or_none]

end NetworkConfig

namespace NetworkSpec

variable {spec : NetworkSpec} {c : NetworkConfig}

theorem bare_of_resolve (h : resolve spec = .ok c) : c.bare = c := by
  obtain ⟨e, -, rfl⟩ := exists_of_resolve h
  rw [NetworkConfig.bare, List.map_map]
  rfl

/-- There is one network of a name in a request. -/
theorem agrees_of_resolve (h : resolve spec = .ok c) : c.Agrees := by
  intro n hn hname
  obtain ⟨⟨name, requested⟩, hrequested, rfl⟩ := exists_of_resolve h
  obtain ⟨⟨name', requested'⟩, hentry, rfl⟩ := List.mem_map.1 hn
  obtain rfl : name' = name := hname
  have hget : spec.get? name' = some requested := by
    rcases hrequested with h | ⟨-, h⟩
    · exact h.requested
    · exact h.requested
  -- The network that needs a port is the entry of this name, and so is the default one.
  obtain rfl : requested' = requested :=
    Option.some.inj ((Table.mem_entries.1 (List.mem_filter.1 hentry).1).symm.trans hget)
  rfl

/-- If the default network needs no port, no network of its name does. -/
theorem portless_of_resolve (h : resolve spec = .ok c) (hkind : c.defaultNetwork.kind ≠ .manual) :
    c.defaultNetwork.name ∉ c.manualNetworks.map (·.name) := by
  intro hname
  obtain ⟨n, hn, hname⟩ := List.mem_map.1 hname
  rw [← agrees_of_resolve h n hn hname] at hkind
  rw [manualNetworks_of_resolve h] at hn
  obtain ⟨entry, hentry, rfl⟩ := List.mem_map.1 hn
  exact hkind (of_decide_eq_true (List.mem_filter.1 hentry).2)

end NetworkSpec

/-! ## A cloud resolves networks -/

/-- A request is resolved by what it asks for, whatever there is. -/
theorem Cloud.answer_resolveNetworks {cloud : Cloud}
    (h : cloud.injections.get? "get_network_configuration" = none) (spec : NetworkSpec)
    (properties : VmProperties) :
    (cloud.answer (.resolveNetworks spec properties)).1 = spec.resolve := by
  have hreach := reach_of_uninjected (c := .resolveNetworks spec properties) h
  have hanswer : Resources.answer (.resolveNetworks spec properties) cloud.resources =
      cloud.resources.unchanged spec.resolve := rfl
  rw [hanswer] at hreach
  refine (congrArg Prod.fst hreach).trans ?_
  cases spec.resolve <;> rfl

/-- A cloud resolves every request that has a network for its addresses. What it answers is what
    the request amounts to, and whatever ports are then recorded, the default network stays the
    same as the network of its name that needs a port. -/
theorem Cloud.resolveNetworks_agrees (cloud : Cloud)
    (h : cloud.injections.get? "get_network_configuration" = none) (spec : NetworkSpec)
    (properties : VmProperties) :
    let r := (cloud.answer (.resolveNetworks spec properties)).1
    ((∃ text, r = .error (.invalidArgument text)) ↔
      ∀ name n, spec.get? name = some n → n.kind = .vip) ∧
    ((∃ name n, spec.get? name = some n ∧ n.kind ≠ .vip) →
      ∃ c, r = .ok c ∧ spec.Resolves c ∧ ∀ recorded : List (String × String),
        (c.assignPorts recorded).bare = c ∧ (c.assignPorts recorded).Agrees ∧
        (c.assignPorts recorded).portIds =
          ((spec.entries.filter (·.2.kind = .manual)).map (·.1)).filterMap (lastPort recorded) ∧
        ∀ name name' portId portId', name ≠ name' →
          ((c.assignPorts recorded).assignPort name portId).assignPort name' portId' =
            ((c.assignPorts recorded).assignPort name' portId').assignPort name portId) := by
  intro r
  have hr : r = spec.resolve := answer_resolveNetworks h spec properties
  rw [hr]
  constructor
  · rw [← NetworkSpec.fixed_eq_nil_iff]
    constructor
    · rintro ⟨text, herror⟩
      exact (NetworkSpec.resolve_eq_error_iff.1 herror).1
    · exact fun hnil => ⟨_, NetworkSpec.resolve_eq_error_iff.2 ⟨hnil, rfl⟩⟩
  · rintro ⟨name, n, hrequested, hkind⟩
    cases hresolve : spec.resolve with
    | error e =>
      have hnil := (NetworkSpec.resolve_eq_error_iff.1 hresolve).1
      exact absurd (NetworkSpec.fixed_eq_nil_iff.1 hnil name n hrequested) hkind
    | ok c =>
      have hbare := NetworkSpec.bare_of_resolve hresolve
      have hnames : c.manualNetworks.map (·.name) =
          (spec.entries.filter (·.2.kind = .manual)).map (·.1) := by
        rw [NetworkSpec.manualNetworks_of_resolve hresolve, List.map_map]
        rfl
      refine ⟨c, rfl, NetworkSpec.resolves_of_resolve hresolve, fun recorded => ⟨?_, ?_, ?_, ?_⟩⟩
      · exact (c.bare_assignPorts recorded).trans hbare
      · exact (NetworkSpec.agrees_of_resolve hresolve).assignPorts recorded
      · exact hnames ▸ NetworkConfig.portIds_assignPorts hbare recorded
      · exact fun name name' portId portId' hname =>
          (c.assignPorts recorded).assignPort_comm hname portId portId'

/-- Two networks that need a port, one of which is for the gateway, and one of each other kind.
    Their groups overlap. -/
def mixedSpec : NetworkSpec :=
  .ofList [
    ("public", { kind := .manual, defaultFor := ["dns", "gateway"],
                 properties := { netId := some "net-2", securityGroups := ["web", "all"] } }),
    ("floating", { kind := .vip, properties := { securityGroups := ["web"] } }),
    ("leased", { properties := { securityGroups := ["all", "ssh", "all"] } }),
    ("private", { kind := .manual, ip := some "10.0.0.2" })]

/-- The network that is for the gateway. -/
def publicNetwork : Network :=
  { name := "public", kind := .manual, netId := "net-2", ip := none, portId := none }

/-- The configuration that they are resolved to. -/
def mixedConfig : NetworkConfig where
  defaultNetwork := publicNetwork
  manualNetworks :=
    [{ name := "private", kind := .manual, netId := "", ip := some "10.0.0.2", portId := none },
      publicNetwork]
  vipNetwork :=
    some { name := "floating", kind := .vip, netId := "", ip := none, portId := none }
  securityGroups := ["web", "all", "ssh"]

/-- Ports are recorded on both networks that need one, twice on the default one, and for a
    network that was not requested. -/
theorem resolveNetworks_agrees_mixed :
    (({} : Cloud).answer (.resolveNetworks mixedSpec {})).1 = .ok mixedConfig ∧
      mixedSpec.Resolves mixedConfig ∧
      let recorded := [("public", "port-1"), ("absent", "port-2"), ("private", "port-3"),
        ("public", "port-4")]
      (mixedConfig.assignPorts recorded).bare = mixedConfig ∧
        (mixedConfig.assignPorts recorded).Agrees ∧
        (mixedConfig.assignPorts recorded).portIds = ["port-3", "port-4"] := by
  obtain ⟨-, hresolved⟩ :=
    Cloud.resolveNetworks_agrees {} (by decide +kernel) mixedSpec {}
  have hrequested : ∃ name n, mixedSpec.get? name = some n ∧ n.kind ≠ .vip :=
    ⟨"leased", { properties := { securityGroups := ["all", "ssh", "all"] } }, by decide +kernel⟩
  obtain ⟨c, hc, hresolves, hrecorded⟩ := hresolved hrequested
  have hmixed : (({} : Cloud).answer (.resolveNetworks mixedSpec {})).1.toOption =
      some mixedConfig := by decide +kernel
  rw [hc] at hmixed
  obtain rfl : c = mixedConfig := Option.some.inj hmixed
  obtain ⟨hbare, hagrees, hports, -⟩ := hrecorded [("public", "port-1"), ("absent", "port-2"),
    ("private", "port-3"), ("public", "port-4")]
  exact ⟨hc, hresolves, hbare, hagrees, hports.trans (by decide +kernel)⟩

end CloudProvider
