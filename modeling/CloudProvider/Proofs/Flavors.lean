import CloudProvider.Proofs.Lifetime
import Mathlib.Data.Prod.Lex
import Mathlib.Order.Bounds.Defs

/-!
# The flavor that is chosen

A caller asks which flavor offers what it needs, and then for a server of that flavor. Three
searches have to agree for this to go well: the smallest flavor among those that offer enough is
found first, its id by its name when the server is created, and the flavor by its id.

* `Flavor.size`: what flavors are compared by;
* `Flavor.IsChoice`: the first of the smallest flavors that are good enough; this is what is
  found (`isChoice_of_smallest?`);
* `Session.flavors_perform`: no operation changes which flavors there are;
* `calculateVmProperties_chooses`: the flavor that is told is the one that a server then has.
-/

namespace CloudProvider

/-! ## Flavors -/

namespace Flavor

variable {f g : Flavor} {l : List Flavor}

/-- Flavors are compared by their processors, then by their memory, then by their ephemeral
    disks. -/
def size (f : Flavor) : ℕ ×ₗ ℕ ×ₗ ℕ :=
  toLex (f.vcpus.toNat, toLex (f.ramMib.toNat, f.ephemeralGib.toNat))

theorem smaller_iff : f.smaller g = true ↔ f.size < g.size := by
  simp [smaller, size, Prod.Lex.toLex_lt_toLex, UInt32.lt_iff_toNat_lt, ← UInt32.toNat_inj]

/-- A flavor offers what is demanded. Its ephemeral disk does not count if servers boot from
    volumes. -/
structure Offers (f : Flavor) (r : VmResources) (bootFromVolume : Bool) : Prop where
  processors : r.cpu ≤ f.vcpus
  memory : r.ramMib ≤ f.ramMib
  disk : bootFromVolume = false → r.ephemeralDiskMib ≤ f.ephemeralGib * 1024

/-- If the size of its disk in MiB fits into a word, it does not matter how it is compared. -/
theorem meets_iff {r : VmResources} {bootFromVolume : Bool}
    (hfits : f.ephemeralGib.toNat * 1024 < UInt32.size) :
    f.meets r bootFromVolume = true ↔ f.Offers r bootFromVolume := by
  have hdisk : r.ephemeralDiskMib ≤ f.ephemeralGib * 1024 ↔
      r.ephemeralDiskMib.toNat ≤ f.ephemeralGib.toNat * 1024 := by
    rw [UInt32.le_iff_toNat_le, UInt32.toNat_mul]
    exact iff_of_eq (congrArg _ (Nat.mod_eq_of_lt hfits))
  rw [meets, Bool.and_eq_true, Bool.and_eq_true, Bool.or_eq_true, decide_eq_true_iff,
    decide_eq_true_iff, decide_eq_true_iff, ← hdisk]
  constructor
  · rintro ⟨⟨hcpu, hram⟩, hor⟩
    exact ⟨hcpu, hram, fun hboot => hor.resolve_left (hboot ▸ Bool.false_ne_true)⟩
  · rintro ⟨hcpu, hram, hdisk⟩
    refine ⟨⟨hcpu, hram⟩, ?_⟩
    cases bootFromVolume with
    | true => exact .inl rfl
    | false => exact .inr (hdisk rfl)

/-- The first of the smallest flavors that are good enough. -/
def IsChoice (l : List Flavor) (enough : Flavor → Prop) (f : Flavor) : Prop :=
  ∃ before after, l = before ++ f :: after ∧ enough f ∧
    (∀ g ∈ before, enough g → f.size < g.size) ∧ ∀ g ∈ after, enough g → f.size ≤ g.size

theorem smallest?_eq_none_iff : smallest? l = none ↔ l = [] := by
  cases l with
  | nil => simp [smallest?]
  | cons f rest =>
    rw [smallest?]
    split
    · simp
    · split <;> simp

theorem split_of_smallest? (h : smallest? l = some f) :
    ∃ before after, l = before ++ f :: after ∧
      (∀ g ∈ before, f.size < g.size) ∧ ∀ g ∈ after, f.size ≤ g.size := by
  induction l generalizing f with
  | nil => cases h
  | cons first rest ih =>
    rw [smallest?] at h
    split at h
    · rename_i hnone
      obtain rfl := Option.some.inj h
      obtain rfl := smallest?_eq_none_iff.1 hnone
      exact ⟨[], [], rfl, List.forall_mem_nil _, List.forall_mem_nil _⟩
    · rename_i g hg
      obtain ⟨before, after, rfl, hbefore, hafter⟩ := ih hg
      split at h
      · rename_i hsmaller
        obtain rfl := Option.some.inj h
        exact ⟨first :: before, after, rfl,
          List.forall_mem_cons.2 ⟨smaller_iff.1 hsmaller, hbefore⟩, hafter⟩
      · rename_i hsmaller
        -- The first flavor stays, also if the smallest of the rest is of the same size.
        obtain rfl := Option.some.inj h
        have hle : first.size ≤ g.size := not_lt.1 fun hlt => hsmaller (smaller_iff.2 hlt)
        refine ⟨[], before ++ g :: after, rfl, List.forall_mem_nil _, fun other hother => ?_⟩
        rcases List.mem_append.1 hother with hother | hother
        · exact hle.trans (hbefore other hother).le
        · rcases List.mem_cons.1 hother with rfl | hother
          · exact hle
          · exact hle.trans (hafter other hother)

/-- Among the flavors that are good enough, the first of the smallest is found. -/
theorem isChoice_of_smallest? {p : Flavor → Bool} (h : smallest? (l.filter p) = some f) :
    IsChoice l (fun g => p g = true) f := by
  obtain ⟨before, after, hsplit, hbefore, hafter⟩ := split_of_smallest? h
  obtain ⟨l₁, l₂, rfl, rfl, hl₂⟩ := List.filter_eq_append_iff.1 hsplit
  obtain ⟨skipped, rest, rfl, hskipped, hf, rfl⟩ := List.filter_eq_cons_iff.1 hl₂
  refine ⟨l₁ ++ skipped, rest, by rw [List.append_assoc], hf, fun g hg hp => ?_,
    fun g hg hp => hafter g (List.mem_filter.2 ⟨hg, hp⟩)⟩
  rcases List.mem_append.1 hg with hg | hg
  · exact hbefore g (List.mem_filter.2 ⟨hg, hp⟩)
  · exact absurd hp (hskipped g hg)

theorem IsChoice.mem {enough : Flavor → Prop} (h : IsChoice l enough f) : f ∈ l := by
  obtain ⟨before, after, rfl, -⟩ := h
  exact List.mem_append_right _ List.mem_cons_self

theorem IsChoice.congr {enough enough' : Flavor → Prop} (h : IsChoice l enough f)
    (hiff : ∀ g ∈ l, (enough g ↔ enough' g)) : IsChoice l enough' f := by
  obtain ⟨before, after, rfl, hf, hbefore, hafter⟩ := h
  exact ⟨before, after, rfl, (hiff f (List.mem_append_right _ List.mem_cons_self)).1 hf,
    fun g hg hg' => hbefore g hg ((hiff g (List.mem_append_left _ hg)).2 hg'),
    fun g hg hg' =>
      hafter g hg ((hiff g (List.mem_append_right _ (List.mem_cons_of_mem _ hg))).2 hg')⟩

end Flavor

/-- Where keys are distinct, what is searched for by its key is found. -/
theorem find?_key_of_mem {α β : Type} [DecidableEq β] {key : α → β} {l : List α} {a : α}
    (h : (l.map key).Nodup) (ha : a ∈ l) : l.find? (fun b => key b = key a) = some a := by
  induction l with
  | nil => exact absurd ha List.not_mem_nil
  | cons b l ih =>
    obtain ⟨hb, hl⟩ := List.nodup_cons.1 h
    rcases List.mem_cons.1 ha with rfl | ha
    · exact List.find?_cons_of_pos (decide_eq_true rfl)
    · have hne : key b ≠ key a := fun hkey => hb (hkey ▸ List.mem_map_of_mem ha)
      rw [List.find?_cons_of_neg (by simpa using hne)]
      exact ih hl ha

/-! ## Nothing changes the flavors -/

namespace Resources

theorem answer_flavors {s s' : Resources} {c : Call} {a : c.Answer}
    (h : Resources.answer c s = .ok (a, s')) : s'.flavors = s.flavors := by
  cases hidle : c.isIdle with
  | true => rw [eq_of_isIdle hidle h]
  | false =>
    cases c with
    | createServer _ | createPort _ _ | createMember _ _ _ _ _ | deletePorts _ | deleteMember _ _ _
    | createVolume _ =>
      cases h
      rfl
    | attachVolume _ _ _ =>
      obtain ⟨server, -, h⟩ := find_bind_ok h
      obtain ⟨v, -, h⟩ := find_bind_ok h
      cases h
      rfl
    | deleteServer _ | detachVolume _ _ | updateMetadata _ _ | deleteMetadata _ _ | renameServer _ _
    | deleteVolume _ | extendVolume _ _ | setVolumeMetadata _ _ | createSnapshot _
    | deleteSnapshot _ =>
      obtain ⟨found, -, h⟩ := find_bind_ok h
      cases h
      rfl
    | _ => cases hidle

theorem serve_flavors (c : Call) (s : Resources) : (s.serve c).2.flavors = s.flavors := by
  rw [serve]
  split
  · rfl
  · rename_i hanswer
    exact answer_flavors hanswer

end Resources

theorem Program.serve_flavors {α : Type} (p : Action α) (s : Resources) :
    (p.serve s).2.flavors = s.flavors := by
  induction p generalizing s with
  | done a => rfl
  | call c next ih => exact (ih _ _).trans (s.serve_flavors c)
  | sleep ms next ih => exact ih s

/-- Whatever is done, the flavors stay the same. -/
theorem Session.flavors_perform {s : Session} (hcalm : s.Calm) (settings : Settings)
    (commands : List (Lifecycle.Command × Chance)) :
    (s.perform settings commands).Calm ∧
      (s.perform settings commands).cloud.resources.flavors = s.cloud.resources.flavors := by
  induction commands generalizing s with
  | nil => exact ⟨hcalm, rfl⟩
  | cons c commands ih =>
    obtain ⟨-, hserved⟩ := run_of_calm hcalm (c.1.operation settings c.2)
    obtain ⟨hcalm', hflavors⟩ := ih hserved.calm
    refine ⟨hcalm', hflavors.trans ?_⟩
    rw [hserved.resources]
    exact Program.serve_flavors _ _

/-! ## Asking for a flavor, and for a server of it -/

namespace Resources

variable {s : Resources} {f : Flavor} {r : VmResources} {bootFromVolume : Bool}

theorem serve_matchFlavor
    (h : Flavor.smallest? (s.flavors.filter (·.meets r bootFromVolume)) = some f) :
    s.serve (.matchFlavor r bootFromVolume) = (.ok f, s) := by
  have hmatch : s.matchFlavor r bootFromVolume = .ok (f, s) := by
    rw [matchFlavor, h]
    rfl
  exact serve_of_ok hmatch

theorem serve_matchFlavor_none
    (h : Flavor.smallest? (s.flavors.filter (·.meets r bootFromVolume)) = none) :
    s.serve (.matchFlavor r bootFromVolume) = (.error (.notFound "flavor" "matching"), s) := by
  have hmatch : s.matchFlavor r bootFromVolume = .error (.notFound "flavor" "matching") := by
    rw [matchFlavor, h]
    rfl
  exact serve_of_error hmatch

end Resources

namespace Lifecycle

open Operation Resources

variable {s : Resources} {f : Flavor} {demands : VmResources}

/-- The root disk that a server needs which boots from a volume. -/
def rootDiskFor (settings : Settings) (demands : VmResources) : Option RootDisk :=
  if settings.bootFromVolume then some ⟨gibFor demands.ephemeralDiskMib + rootDiskOverheadGib⟩
  else none

theorem serve_calculateVmProperties {settings : Settings}
    (h : Flavor.smallest? (s.flavors.filter (·.meets demands settings.bootFromVolume)) = some f) :
    (calculateVmProperties settings demands).serve s =
      (.ok ⟨f.name, rootDiskFor settings demands⟩, s) := by
  rw [calculateVmProperties, serve_bind_ok (serve_openCompute s)]
  exact serve_bind_ok (serve_ask (serve_matchFlavor h) _)

theorem serve_calculateVmProperties_none {settings : Settings}
    (h : Flavor.smallest? (s.flavors.filter (·.meets demands settings.bootFromVolume)) = none) :
    ∃ e : OperationError, e.isNotFound = true ∧
      (calculateVmProperties settings demands).serve s = (.error e, s) := by
  rw [calculateVmProperties, serve_bind_ok (serve_openCompute s)]
  exact ⟨_, rfl, serve_bind_error (serve_ask (serve_matchFlavor_none h) _)⟩

theorem isLeast_gibFor (mib : UInt32) :
    IsLeast {gib : ℕ | mib.toNat ≤ gib * 1024} (gibFor mib).toNat :=
  ⟨gibFor_le_iff.1 (Nat.le_refl _), fun _ hgib => gibFor_le_iff.2 hgib⟩

/-- The overhead of the root disk never overflows. -/
theorem toNat_rootDisk (mib : UInt32) :
    (gibFor mib + rootDiskOverheadGib).toNat = 3 + (gibFor mib).toNat := by
  have hlt := mib.toNat_lt
  have hle : (gibFor mib).toNat ≤ 4194304 := gibFor_le_iff.2 (by omega)
  rw [UInt32.toNat_add, Nat.add_comm 3]
  exact Nat.mod_eq_of_lt (by
    show (gibFor mib).toNat + 3 < 4294967296
    omega)

theorem isSome_rootDiskFor (settings : Settings) (demands : VmResources) :
    (rootDiskFor settings demands).isSome = true ↔ settings.bootFromVolume = true := by
  unfold rootDiskFor
  split <;> simp [*]

/-- The root disk holds the least number of GiB that is enough, and the overhead. -/
theorem sizeGib_rootDiskFor {settings : Settings} {disk : RootDisk}
    (h : rootDiskFor settings demands = some disk) :
    ∃ gib, IsLeast {gib : ℕ | demands.ephemeralDiskMib.toNat ≤ gib * 1024} gib ∧
      disk.sizeGib.toNat = 3 + gib := by
  unfold rootDiskFor at h
  split at h
  · obtain rfl := Option.some.inj h
    exact ⟨_, isLeast_gibFor _, toNat_rootDisk _⟩
  · cases h

/-- A server that is created has the flavor of the name asked for, if there is one. -/
theorem Created.flavor {request : VmRequest} {vm : CreatedVm} {s' : Resources}
    (h : Created s request vm s') {name : String}
    (hname : request.properties.instanceType = name)
    (hf : s.flavors.find? (·.name = name) = some f) :
    ∃ server, s'.servers.get? vm.vmId = some server ∧ server.flavorId = f.id := by
  obtain ⟨instructions, config, ports, members, hcreation, rfl, rfl⟩ := h
  refine ⟨_, Table.get?_insert_self _ _ _, ?_⟩
  show ((s.flavors.find? (·.name = instructions.properties.instanceType)).map (·.id)).getD _ = f.id
  rw [hcreation.properties, hname, hf]
  rfl

end Lifecycle

namespace Session

open Lifecycle

variable {s : Session} {f : Flavor}

/-- A server that is created for the name of a flavor has that flavor. -/
theorem getFlavor_of_createVm (hcalm : s.Calm)
    (hnames : (s.cloud.resources.flavors.map (·.name)).Nodup)
    (hids : (s.cloud.resources.flavors.map (·.id)).Nodup) (hf : f ∈ s.cloud.resources.flavors)
    {settings : Settings} {chance : Chance} {request : VmRequest} {vm : CreatedVm}
    (hname : request.properties.instanceType = f.name)
    (hok : (s.run (createVm settings chance request)).1 = .ok vm) :
    let o := s.run (createVm settings chance request)
    ∃ server, o.2.cloud.resources.servers.get? vm.vmId = some server ∧
      (o.2.call (.getFlavor server.flavorId)).1 = .ok f := by
  intro o
  obtain ⟨hresult, hserved⟩ := run_of_calm hcalm (createVm settings chance request)
  have hcreated : IfOk (Created s.cloud.resources request)
      ((createVm settings chance request).run.serve s.cloud.resources).1
      ((createVm settings chance request).run.serve s.cloud.resources).2 :=
    ensures_createVm_creates.serving_of_faltering.of_serve
  have hresult' : ((createVm settings chance request).run.serve s.cloud.resources).1 = .ok vm :=
    hresult.symm.trans hok
  rw [hresult'] at hcreated
  obtain ⟨server, hserver, hid⟩ := Created.flavor hcreated hname (find?_key_of_mem hnames hf)
  refine ⟨server, hserved.resources ▸ hserver, ?_⟩
  have hflavors : o.2.cloud.resources.flavors = s.cloud.resources.flavors :=
    hserved.resources ▸ Program.serve_flavors _ _
  have hfound : o.2.cloud.resources.flavors.find? (·.id = server.flavorId) = some f := by
    rw [hflavors, hid]
    exact find?_key_of_mem hids hf
  obtain ⟨hcall, -⟩ :=
    run_program_of_calm hserved.calm (Program.perform (.getFlavor server.flavorId)) o.2.time
  rw [Program.serve_perform (Resources.serve_getFlavor hfound)] at hcall
  exact hcall

/-- The flavor that is told is the first of the smallest flavors that offer what is demanded, and
    every server that is created for its name has it. If there is no such flavor, the caller is
    told so. -/
theorem calculateVmProperties_chooses (hcalm : s.Calm)
    (hnames : (s.cloud.resources.flavors.map (·.name)).Nodup)
    (hids : (s.cloud.resources.flavors.map (·.id)).Nodup)
    (hfits : ∀ f ∈ s.cloud.resources.flavors, f.ephemeralGib.toNat * 1024 < UInt32.size)
    (settings : Settings) (demands : VmResources) :
    let flavors := s.cloud.resources.flavors
    let offers (f : Flavor) := f.Offers demands settings.bootFromVolume
    let o := s.run (calculateVmProperties settings demands)
    ((∃ e, o.1 = .error e) ↔ ∀ f ∈ flavors, ¬ offers f) ∧
    (∀ e, o.1 = .error e → e.isNotFound = true) ∧
    ∀ properties, o.1 = .ok properties →
      (properties.rootDisk.isSome = true ↔ settings.bootFromVolume = true) ∧
      (∀ disk, properties.rootDisk = some disk → ∃ gib,
        IsLeast {gib : ℕ | demands.ephemeralDiskMib.toNat ≤ gib * 1024} gib ∧
          disk.sizeGib.toNat = 3 + gib) ∧
      ∃ f, Flavor.IsChoice flavors offers f ∧ properties.instanceType = f.name ∧
        ∀ settings' commands settings'' chance request vm,
          let o' := (o.2.perform settings' commands).run (createVm settings'' chance request)
          request.properties.instanceType = properties.instanceType → o'.1 = .ok vm →
            ∃ server, o'.2.cloud.resources.servers.get? vm.vmId = some server ∧
              (o'.2.call (.getFlavor server.flavorId)).1 = .ok f := by
  intro flavors offers o
  have hmeets {f : Flavor} (hf : f ∈ flavors) :
      f.meets demands settings.bootFromVolume = true ↔ offers f := Flavor.meets_iff (hfits f hf)
  obtain ⟨hresult, hserved⟩ := run_of_calm hcalm (calculateVmProperties settings demands)
  cases hsmallest : Flavor.smallest? (flavors.filter (·.meets demands settings.bootFromVolume)) with
  | none =>
    obtain ⟨e, he, hserve⟩ := serve_calculateVmProperties_none hsmallest
    rw [hserve] at hresult
    have hnothing : ∀ f ∈ flavors, ¬ offers f := fun f hf hoffers => by
      have hnil := List.filter_eq_nil_iff.1 (Flavor.smallest?_eq_none_iff.1 hsmallest)
      exact hnil f hf ((hmeets hf).2 hoffers)
    refine ⟨⟨fun _ => hnothing, fun _ => ⟨e, hresult⟩⟩, fun e' he' => ?_, fun properties hok => ?_⟩
    · rwa [← Except.error.inj (hresult.symm.trans he')]
    · cases hresult.symm.trans hok
  | some f =>
    rw [serve_calculateVmProperties hsmallest] at hresult hserved
    have hchoice : Flavor.IsChoice flavors offers f :=
      (Flavor.isChoice_of_smallest? hsmallest).congr fun g hg => hmeets hg
    have hmem := hchoice.mem
    refine ⟨⟨fun ⟨e, he⟩ => ?_, fun hnothing => ?_⟩, fun e he => ?_, fun properties hok => ?_⟩
    · cases hresult.symm.trans he
    · obtain ⟨-, -, -, hoffers, -⟩ := hchoice
      exact absurd hoffers (hnothing f hmem)
    · cases hresult.symm.trans he
    · obtain rfl := Except.ok.inj (hresult.symm.trans hok)
      refine ⟨isSome_rootDiskFor settings demands, fun disk => sizeGib_rootDiskFor, f, hchoice, rfl,
        fun settings' commands settings'' chance request vm hname hvm => ?_⟩
      -- Whatever is done before the server is created, there are the same flavors then.
      obtain ⟨hcalm', hsame⟩ := flavors_perform hserved.calm settings' commands
      rw [hserved.resources] at hsame
      exact getFlavor_of_createVm hcalm' (hsame ▸ hnames) (hsame ▸ hids) (hsame ▸ hmem) hname hvm

/-- Four flavors, two of which are of one size. -/
def assortedSession : Session where
  cloud := ({} : Cloud).seed fun s =>
    ((((s.addFlavor ⟨"1", "tiny", 1, 512, 10, 0, 0⟩).addFlavor
      ⟨"2", "large", 4, 8192, 40, 100, 0⟩).addFlavor ⟨"3", "medium", 2, 4096, 20, 10, 0⟩).addFlavor
      ⟨"4", "twin", 2, 4096, 30, 10, 0⟩).addImage "image"

/-- A request for a server of the flavor that is told. -/
def toldRequest : VmRequest where
  agentId := "agent"
  stemcellId := "image"
  properties := { instanceType := "medium" }
  networks := .ofList [("leased", {})]
  diskIds := []
  environment := .null

/-- No flavor has a disk of that size, but the server boots from a volume. -/
theorem calculateVmProperties_chooses_medium :
    let settings : Settings := { bootFromVolume := true }
    let demands : VmResources := ⟨2, 2048, 204801⟩
    let o := assortedSession.run (calculateVmProperties settings demands)
    let o' := (o.2.perform settings [(.hasVm "vm", default)]).run
      (createVm settings default toldRequest)
    o.1 = .ok ⟨"medium", some ⟨204⟩⟩ ∧ ∃ f vm server,
      Flavor.IsChoice assortedSession.cloud.resources.flavors (·.Offers demands true) f ∧
      f.name = "medium" ∧ o'.1 = .ok vm ∧
      o'.2.cloud.resources.servers.get? vm.vmId = some server ∧
      (o'.2.call (.getFlavor server.flavorId)).1 = .ok f := by
  intro settings demands o o'
  have htold : o.1 = .ok ⟨"medium", some ⟨204⟩⟩ := eq_ok_of_toOption (by decide +kernel)
  have hcreated : o'.1.toOption.isSome = true := by decide +kernel
  obtain ⟨vm, hvm⟩ := Option.isSome_iff_exists.1 hcreated
  have hok : o'.1 = .ok vm := eq_ok_of_toOption hvm
  have hchooses := calculateVmProperties_chooses (s := assortedSession)
    ⟨rfl, rfl, rfl, rfl, rfl, rfl⟩ (by decide +kernel) (by decide +kernel) (by decide +kernel)
    settings demands
  rw [show assortedSession.run (calculateVmProperties settings demands) = o from rfl] at hchooses
  -- From here on it does not matter what was done to tell it.
  clear_value o
  obtain ⟨-, -, f, hchoice, hname, hserver⟩ := hchooses.2.2 _ htold
  obtain ⟨server, hserver, hflavor⟩ := hserver settings [(.hasVm "vm", default)] settings default
    toldRequest vm rfl hok
  exact ⟨htold, f, vm, server, hchoice, hname.symm, hok, hserver, hflavor⟩

end Session

end CloudProvider
