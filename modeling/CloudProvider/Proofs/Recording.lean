import CloudProvider.Resource.Network
import CloudProvider.Resource.Basic

/-!
# Recorded ports

Ports are recorded on networks one after the other, by the names of the networks. What
counts for a network is the last port recorded under its name, and nothing else about it
changes. So if every network with a port of its own has a name of its own, each of them gets
its port, and the default network gets the port of the network of its name.

* `Network.assignPorts_eq`, `NetworkConfig.assignPorts_eq`: what recording some ports does;
* `map_assignPorts`, `portId_assignPorts`: what it comes to when names are distinct.
-/

namespace CloudProvider

namespace Network

/-- Record ports, given by the names of their networks and their ids. -/
def assignPorts (recorded : List (String × String)) (n : Network) : Network :=
  recorded.foldl (fun n e => n.assignPort e.1 e.2) n

theorem assignPort_eq (name portId : String) (n : Network) :
    n.assignPort name portId =
      { n with portId := ([(name, portId)].lookup n.name).or n.portId } := by
  rw [Table.lookup_entry_cons]
  unfold assignPort
  split
  · rfl
  · rfl

/-- The last port recorded under the name of a network counts. -/
theorem assignPorts_eq (recorded : List (String × String)) (n : Network) :
    n.assignPorts recorded =
      { n with portId := (recorded.reverse.lookup n.name).or n.portId } := by
  induction recorded generalizing n with
  | nil => rfl
  | cons e recorded ih =>
    rw [assignPorts, List.foldl_cons, ← assignPorts, ih, assignPort_eq, List.reverse_cons,
      List.lookup_append, Option.or_assoc]

end Network

namespace NetworkConfig

/-- Record ports, given by the names of their networks and their ids. -/
def assignPorts (recorded : List (String × String)) (c : NetworkConfig) : NetworkConfig :=
  recorded.foldl (fun c e => c.assignPort e.1 e.2) c

theorem assignPorts_eq (recorded : List (String × String)) (c : NetworkConfig) :
    c.assignPorts recorded =
      { c with
        defaultNetwork := c.defaultNetwork.assignPorts recorded
        manualNetworks := c.manualNetworks.map (Network.assignPorts recorded) } := by
  induction recorded generalizing c with
  | nil =>
    have hmap : c.manualNetworks.map (Network.assignPorts []) = c.manualNetworks := List.map_id _
    rw [hmap]
    rfl
  | cons e recorded ih =>
    rw [assignPorts, List.foldl_cons, ← assignPorts, ih, assignPort, List.map_map]
    rfl

end NetworkConfig

/-! ## Networks and their ports -/

/-- Networks with ports on them. -/
def Network.equip (networks : List Network) (ports : List Port) : List Network :=
  List.zipWith (fun n port => { n with portId := some port.id }) networks ports

/-- Which ports are to be recorded when some networks get some ports. -/
def Network.record (networks : List Network) (ports : List Port) : List (String × String) :=
  (networks.map (·.name)).zip (ports.map (·.id))

namespace Network

variable {networks : List Network} {ports : List Port}

theorem record_distinct (hnames : (networks.map (·.name)).Nodup)
    (hlength : networks.length = ports.length) :
    (record networks ports).Pairwise fun a b => a.1 ≠ b.1 := by
  have hmap : (record networks ports).map (·.1) = networks.map (·.name) :=
    List.map_fst_zip (by simp [hlength])
  exact List.pairwise_map.1 (hmap ▸ hnames)

/-- A network of another name gets none of them. -/
theorem assignPorts_of_notMem {n : Network} (h : n.name ∉ networks.map (·.name))
    (ports : List Port) : n.assignPorts (record networks ports) = n := by
  have hlookup : (record networks ports).reverse.lookup n.name = none := by
    refine List.lookup_eq_none_iff.2 fun e he => bne_iff_ne.2 fun hname => h ?_
    rw [hname]
    exact (List.of_mem_zip (List.mem_reverse.1 he)).1
  rw [assignPorts_eq, hlookup]
  rfl

/-- Each network gets its port. -/
theorem map_assignPorts (hnames : (networks.map (·.name)).Nodup)
    (hlength : networks.length = ports.length) :
    networks.map (assignPorts (record networks ports)) = equip networks ports := by
  have hdistinct := record_distinct hnames hlength
  refine List.ext_getElem (by simp [equip, hlength]) fun i hi hi' => ?_
  have hnetworks : i < networks.length := by simpa using hi
  have hports : i < ports.length := hlength ▸ hnetworks
  have hrecord : i < (record networks ports).length := by
    rw [record, List.length_zip, List.length_map, List.length_map]
    omega
  have hmem : (networks[i].name, ports[i].id) ∈ record networks ports :=
    List.mem_iff_getElem.2 ⟨i, hrecord, by simp [record]⟩
  rw [List.getElem_map, assignPorts_eq, Table.lookup_reverse hdistinct,
    (Table.lookup_eq_some_iff_mem hdistinct).2 hmem]
  simp [equip]

theorem lookup_record (networks : List Network) (ports : List Port) (name : String) :
    (record networks ports).lookup name =
      ((equip networks ports).find? (·.name = name)).bind (·.portId) := by
  induction networks generalizing ports with
  | nil => rfl
  | cons n networks ih =>
    cases ports with
    | nil => rfl
    | cons port ports =>
      have hrecord : record (n :: networks) (port :: ports) =
        (n.name, port.id) :: record networks ports := rfl
      have hequip : equip (n :: networks) (port :: ports) =
        { n with portId := some port.id } :: equip networks ports := rfl
      rw [hrecord, hequip, Table.lookup_entry_cons, ih, List.find?_cons]
      by_cases hname : name = n.name <;> simp [hname, eq_comm]

/-- A network that has no port gets that of the network of its name. -/
theorem portId_assignPorts (hnames : (networks.map (·.name)).Nodup)
    (hlength : networks.length = ports.length) {n : Network} (hn : n.portId = none) :
    (n.assignPorts (record networks ports)).portId =
      ((equip networks ports).find? (·.name = n.name)).bind (·.portId) := by
  rw [assignPorts_eq, Table.lookup_reverse (record_distinct hnames hlength), hn, Option.or_none,
    lookup_record]

theorem filterMap_equip (hlength : networks.length = ports.length) :
    (equip networks ports).filterMap (·.portId) = ports.map (·.id) := by
  induction networks generalizing ports with
  | nil => rw [List.length_eq_zero_iff.1 hlength.symm]; rfl
  | cons n networks ih =>
    cases ports with
    | nil => cases hlength
    | cons port ports => exact congrArg (port.id :: ·) (ih (Nat.succ.inj hlength))

end Network

end CloudProvider
