import CloudProvider.Proofs.Derivation
import CloudProvider.Proofs.Lifetime
import Mathlib.Data.List.Induction

/-!
# Metadata set again and again

The metadata of a server are set by one caller after the other. Each adds what it says to what
is there, so what was said last under a name is what counts, and nothing is ever taken away. The
name of the server follows the callers, if the settings ask for it.

* `Server.mark`: a server after a caller's metadata were set, by `serve_setVmMetadata`;
* `Server.Marked`: what a server becomes in a run of callers, by `marked_foldl`;
* `mark_mark`, `metadata_mark_comm`: the same metadata twice, and other metadata in between;
* `setVmMetadata_merges`: this is what a run of calls does, and all that it does.
-/

namespace CloudProvider

/-- What is said last is what the last one says, or else what was said last before. -/
theorem getLast?_filterMap_concat {α β : Type} (value : α → Option β) (l : List α) (a : α) :
    ((l ++ [a]).filterMap value).getLast? = (value a).or (l.filterMap value).getLast? := by
  rw [List.filterMap_append, List.getLast?_append]
  cases hvalue : value a <;> simp [hvalue]

/-! ## Marked servers -/

namespace Server

variable {settings : Settings}

/-- A server after a caller's metadata were set. -/
def mark (settings : Settings) (server : Server) (m : CallerMetadata) : Server :=
  { server with
    name :=
      if settings.humanReadableVmNames then m.toMetadata.serverName?.getD server.name
      else server.name
    metadata := server.metadata.union m.toMetadata }

theorem get?_metadata_mark (server : Server) (m : CallerMetadata) (key : String) :
    (server.mark settings m).metadata.get? key = (m.text? key).or (server.metadata.get? key) := by
  rw [mark, Table.get?_union, CallerMetadata.get?_toMetadata]

/-- Setting the same metadata again changes nothing. -/
theorem mark_mark (server : Server) (m : CallerMetadata) :
    (server.mark settings m).mark settings m = server.mark settings m := by
  have hmetadata : (server.mark settings m).metadata.union m.toMetadata =
      (server.mark settings m).metadata := by
    ext key : 1
    rw [Table.get?_union, get?_metadata_mark, CallerMetadata.get?_toMetadata, ← Option.or_assoc,
      Option.or_self]
  have hname : ((server.mark settings m).mark settings m).name = (server.mark settings m).name := by
    cases hnames : settings.humanReadableVmNames with
    | false => simp [mark, hnames]
    | true => cases hname : m.toMetadata.serverName? <;> simp [mark, hnames, hname]
  rw [mark, hmetadata]
  exact congrArg (fun name => { server.mark settings m with name := name }) hname

/-- Metadata under different names may be set in either order. -/
theorem metadata_mark_comm {m m' : CallerMetadata}
    (h : ∀ key, m.text? key = none ∨ m'.text? key = none) (server : Server) :
    ((server.mark settings m).mark settings m').metadata =
      ((server.mark settings m').mark settings m).metadata := by
  ext key : 1
  rw [get?_metadata_mark, get?_metadata_mark, get?_metadata_mark, get?_metadata_mark]
  rcases h key with hnone | hnone
  · rw [hnone, Option.none_or, Option.none_or]
  · rw [hnone, Option.none_or, Option.none_or]

/-- What a server becomes when metadata are set by some callers, one after the other. -/
structure Marked (settings : Settings) (ms : List CallerMetadata) (server server' : Server) :
    Prop where
  /-- Nothing is changed but its name and its metadata. -/
  frame : server' = { server with name := server'.name, metadata := server'.metadata }
  /-- What was said last under a name counts, and then what was there. -/
  metadata : ∀ key, server'.metadata.get? key =
    (ms.filterMap (·.text? key)).getLast?.or (server.metadata.get? key)
  /-- What no caller has a value for is as it was. -/
  kept : ∀ key, (∀ m ∈ ms, m.get? key = none ∨ m.get? key = some .null) →
    server'.metadata.get? key = server.metadata.get? key
  /-- A tag stays, unless a caller has something under its name. -/
  tagged : ∀ key, Membership.isTagName key = true → (∀ m ∈ ms, m.get? key = none) →
    server'.metadata.get? key = server.metadata.get? key
  /-- The last caller to name the server is followed, if the settings ask for it. -/
  named : settings.humanReadableVmNames = true → ∀ before m after name,
    ms = before ++ m :: after → m.Names name → (∀ m' ∈ after, ∀ name', ¬ m'.Names name') →
      server'.name = name
  unnamed : (settings.humanReadableVmNames = true → ∀ m ∈ ms, ∀ name, ¬ m.Names name) →
    server'.name = server.name

-- Who comes last decides, so these inductions go from the end of the list.

theorem metadata_foldl (server : Server) (ms : List CallerMetadata) (key : String) :
    (ms.foldl (mark settings) server).metadata.get? key =
      (ms.filterMap (·.text? key)).getLast?.or (server.metadata.get? key) := by
  induction ms using List.reverseRecOn with
  | nil => rfl
  | append_singleton ms m ih =>
    rw [List.foldl_append, List.foldl_cons, List.foldl_nil, get?_metadata_mark, ih,
      getLast?_filterMap_concat, Option.or_assoc]

theorem name_foldl (hnames : settings.humanReadableVmNames = true) (server : Server)
    (ms : List CallerMetadata) :
    (ms.foldl (mark settings) server).name =
      (ms.filterMap (·.toMetadata.serverName?)).getLast?.getD server.name := by
  induction ms using List.reverseRecOn with
  | nil => rfl
  | append_singleton ms m ih =>
    rw [List.foldl_append, List.foldl_cons, List.foldl_nil, mark, if_pos hnames, ih,
      getLast?_filterMap_concat]
    cases m.toMetadata.serverName? <;> rfl

theorem name_foldl_of_not (hnames : settings.humanReadableVmNames = false) (server : Server)
    (ms : List CallerMetadata) : (ms.foldl (mark settings) server).name = server.name := by
  induction ms generalizing server with
  | nil => rfl
  | cons m ms ih =>
    rw [List.foldl_cons, ih, mark, hnames]
    rfl

theorem frame_foldl (server : Server) (ms : List CallerMetadata) :
    ms.foldl (mark settings) server = { server with
      name := (ms.foldl (mark settings) server).name
      metadata := (ms.foldl (mark settings) server).metadata } := by
  induction ms using List.reverseRecOn with
  | nil => rfl
  | append_singleton ms m ih =>
    rw [List.foldl_append, List.foldl_cons, List.foldl_nil, mark, ih]

theorem marked_foldl (server : Server) (ms : List CallerMetadata) :
    Marked settings ms server (ms.foldl (mark settings) server) := by
  -- What has no value under a key says nothing there, so the last that was said is what was.
  have hkept (key : String) (h : ∀ m ∈ ms, m.get? key = none ∨ m.get? key = some .null) :
      (ms.foldl (mark settings) server).metadata.get? key = server.metadata.get? key := by
    have hnothing : ms.filterMap (·.text? key) = [] :=
      List.filterMap_eq_nil_iff.2 fun m hm => CallerMetadata.text?_eq_none_iff.2 (.inr (h m hm))
    rw [metadata_foldl, hnothing]
    rfl
  have hnameless {ms : List CallerMetadata} (h : ∀ m ∈ ms, ∀ name, ¬ m.Names name) :
      ms.filterMap (·.toMetadata.serverName?) = [] :=
    List.filterMap_eq_nil_iff.2 fun m hm => Option.eq_none_iff_forall_ne_some.2 fun name hname =>
      h m hm name (CallerMetadata.serverName?_eq_some_iff.1 hname)
  exact {
    frame := frame_foldl server ms
    metadata := metadata_foldl server ms
    kept := hkept
    tagged := fun key _ h => hkept key fun m hm => .inl (h m hm)
    named := by
      rintro hnames before m after name rfl hname hafter
      rw [name_foldl hnames, List.filterMap_append, List.filterMap_cons,
        CallerMetadata.serverName?_eq_some_iff.2 hname, hnameless hafter, List.getLast?_concat]
      rfl
    unnamed := fun h => by
      cases hnames : settings.humanReadableVmNames with
      | true => rw [name_foldl hnames, hnameless (h hnames)]; rfl
      | false => exact name_foldl_of_not hnames server ms }

end Server

/-! ## Calls -/

namespace Resources

variable {s : Resources} {id : String} {server : Server}

/-- Put a server in the place of an id. -/
def putServer (id : String) (server : Server) (s : Resources) : Resources :=
  { s with servers := s.servers.insert id server }

@[simp] theorem get?_putServer (id : String) (server : Server) (s : Resources) :
    (s.putServer id server).servers.get? id = some server :=
  Table.get?_insert_self _ _ _

@[simp] theorem putServer_putServer (id : String) (server server' : Server) (s : Resources) :
    (s.putServer id server).putServer id server' = s.putServer id server' := by
  rw [putServer, putServer, Table.insert_insert]
  rfl

theorem putServer_eq_self (h : s.servers.get? id = some server) : s.putServer id server = s := by
  rw [putServer, Table.insert_eq_self h]

theorem updateServer_of_some (h : s.servers.get? id = some server) (change : Server → Server) :
    s.updateServer id change = .ok ((), s.putServer id (change server)) := by
  rw [updateServer, find_of_some h]
  rfl

end Resources

namespace Lifecycle

open Operation Resources

variable {settings : Settings} {s : Resources} {vmId : String} {server : Server}

theorem serve_storeMetadata (h : s.servers.get? vmId = some server) (texts : Metadata) :
    (storeMetadata vmId texts).serve s =
      (.ok (), s.putServer vmId
        { server with metadata := server.metadata.union texts }) := by
  unfold storeMetadata
  split
  · rename_i hempty
    -- Without texts nothing is stored, and there is nothing to add.
    obtain rfl : texts = ∅ := by
      ext key : 1
      rw [Table.get?, List.isEmpty_iff.1 hempty]
      rfl
    have hunion : server.metadata.union ∅ = server.metadata := rfl
    rw [hunion, putServer_eq_self h]
    rfl
  · exact serve_ask (c := .updateMetadata vmId texts)
      (serve_of_ok (updateServer_of_some h _)) _

theorem serve_renameAfter (h : s.servers.get? vmId = some server) (texts : Metadata) :
    (renameAfter settings vmId texts).serve s =
      (.ok (), s.putServer vmId { server with
        name :=
          if settings.humanReadableVmNames then texts.serverName?.getD server.name
          else server.name }) := by
  unfold renameAfter
  split
  · split
    · rename_i name hname
      rw [hname]
      exact serve_ask (c := .renameServer vmId name) (serve_of_ok (updateServer_of_some h _)) _
    · rename_i hname
      rw [hname, Option.getD_none, putServer_eq_self h]
      rfl
  · rw [putServer_eq_self h]
    rfl

/-- A server is marked, and nothing else is changed. -/
theorem serve_setVmMetadata (h : s.servers.get? vmId = some server) (m : CallerMetadata) :
    (setVmMetadata settings vmId m).serve s =
      (.ok (), s.putServer vmId (server.mark settings m)) := by
  rw [setVmMetadata, serve_bind_ok (serve_openCompute s),
    serve_bind_ok (serve_askFor (serve_getServer h) "VM" vmId)]
  refine (serve_bind_ok (serve_storeMetadata h m.toMetadata)).trans ?_
  rw [serve_renameAfter (get?_putServer _ _ _), putServer_putServer]
  rfl

end Lifecycle

/-! ## Runs -/

namespace Session

open Lifecycle

variable {settings : Settings} {s : Session} {vmId : String} {server : Server}

/-- A session after the metadata of a server were set by some callers. -/
def marking (settings : Settings) (vmId : String) (ms : List CallerMetadata) (s : Session) :
    Session :=
  s.perform settings (ms.map fun m => (.setVmMetadata vmId m, default))

/-- The metadata of a server, if it exists. -/
def metadataOf? (vmId : String) (s : Session) : Option Metadata :=
  (s.cloud.resources.servers.get? vmId).map (·.metadata)

/-- One caller after the other marks the server. -/
theorem served_marking (hcalm : s.Calm) (h : s.cloud.resources.servers.get? vmId = some server)
    (settings : Settings) (ms : List CallerMetadata) :
    Served (s.cloud.resources.putServer vmId (ms.foldl (Server.mark settings) server))
      (s.marking settings vmId ms) := by
  induction ms generalizing s server with
  | nil => exact ⟨(Resources.putServer_eq_self h).symm, hcalm⟩
  | cons m ms ih =>
    obtain ⟨-, hserved⟩ := run_of_calm hcalm (setVmMetadata settings vmId m)
    rw [serve_setVmMetadata h] at hserved
    have hmarked : (s.run (setVmMetadata settings vmId m)).2.cloud.resources.servers.get? vmId =
        some (server.mark settings m) := by
      rw [hserved.resources, Resources.get?_putServer]
    have hserved' := ih hserved.calm hmarked
    rw [hserved.resources, Resources.putServer_putServer] at hserved'
    exact hserved'

/-- Metadata that are set are merged into those of the server, and the server is renamed after
    them; whatever else there is stays as it is. -/
theorem setVmMetadata_merges (hcalm : s.Calm) (settings : Settings)
    (h : s.cloud.resources.servers.get? vmId = some server) (ms : List CallerMetadata) :
    let after (ms : List CallerMetadata) := s.marking settings vmId ms
    (∀ m, ((after ms).run (setVmMetadata settings vmId m)).1 = .ok ()) ∧
    (∃ server', server.Marked settings ms server' ∧
      (after ms).cloud.resources =
        { s.cloud.resources with servers := s.cloud.resources.servers.insert vmId server' }) ∧
    (∀ m, (after (ms ++ [m, m])).cloud.resources = (after (ms ++ [m])).cloud.resources) ∧
    ∀ m m' : CallerMetadata, (∀ key, m.text? key = none ∨ m'.text? key = none) →
      (after (ms ++ [m, m'])).metadataOf? vmId = (after (ms ++ [m', m])).metadataOf? vmId := by
  intro after
  have hserved := served_marking hcalm h settings
  have hserver (ms : List CallerMetadata) : (after ms).cloud.resources.servers.get? vmId =
      some (ms.foldl (Server.mark settings) server) := by
    rw [(hserved ms).resources, Resources.get?_putServer]
  refine ⟨fun m => ?_, ⟨_, Server.marked_foldl server ms, (hserved ms).resources⟩, fun m => ?_,
    fun m m' hdisjoint => ?_⟩
  · obtain ⟨hresult, -⟩ := run_of_calm (hserved ms).calm (setVmMetadata settings vmId m)
    rw [serve_setVmMetadata (hserver ms)] at hresult
    exact hresult
  · rw [(hserved _).resources, (hserved _).resources, List.foldl_append, List.foldl_append]
    exact congrArg (s.cloud.resources.putServer vmId) (Server.mark_mark _ m)
  · simp only [metadataOf?, hserver, Option.map_some, List.foldl_append]
    exact congrArg some (Server.metadata_mark_comm hdisjoint _)

/-- A server with a tag. -/
def taggedServer : Server where
  id := "vm"
  name := "vm-1"
  status := .active
  flavorId := "small"
  metadata := .ofList [("lbaas_pool_1", "pool/member"), ("env", "prod")]
  zone := none

def taggedSession : Session where
  cloud := ({} : Cloud).seed fun r => r.putServer "vm" taggedServer

/-- Three callers. The first names the server, the others do not. -/
def callers : List CallerMetadata :=
  [.ofList [("job", .string "web"), ("index", .nat 3), ("env", .null)],
    .ofList [("name", .string ""), ("lbaas_pool_1", .null), ("team", .string "blue")],
    .ofList [("name", .null), ("job", .string "db"), ("", .string "nameless")]]

/-- The name follows the first caller, the metadata follow all three, and the tag is kept. A
    fourth and a fifth caller may come in either order. -/
theorem setVmMetadata_merges_callers :
    let settings : Settings := { humanReadableVmNames := true }
    let after (ms : List CallerMetadata) := taggedSession.marking settings "vm" ms
    let team : CallerMetadata := .ofList [("team", .string "red")]
    let env : CallerMetadata := .ofList [("env", .string "test")]
    (∃ server', (after callers).cloud.resources.servers.get? "vm" = some server' ∧
      taggedServer.Marked settings callers server' ∧ server'.name = "web/3" ∧
      server'.metadata.get? "lbaas_pool_1" = some "pool/member" ∧
      server'.metadata.get? "env" = some "prod" ∧ server'.metadata.get? "job" = some "db") ∧
    (after (callers ++ [team, env])).metadataOf? "vm" =
      (after (callers ++ [env, team])).metadataOf? "vm" := by
  intro settings after team env
  have hserver : taggedSession.cloud.resources.servers.get? "vm" = some taggedServer :=
    Resources.get?_putServer _ _ _
  obtain ⟨-, ⟨server', hmarked, hresources⟩, -, hcomm⟩ :=
    setVmMetadata_merges (s := taggedSession) ⟨rfl, rfl, rfl, rfl, rfl, rfl⟩ settings hserver
      callers
  have hdisjoint (key : String) : team.text? key = none ∨ env.text? key = none := by
    by_cases hkey : key = "team"
    · exact .inr (by rw [hkey]; decide +kernel)
    · left
      rw [CallerMetadata.text?, Table.get?_ofList, List.reverse_singleton, Table.lookup_entry_cons,
        if_neg hkey]
      exact ite_self _
  have hfirst : (CallerMetadata.Names (.ofList [("job", .string "web"), ("index", .nat 3),
      ("env", .null)]) "web/3") := CallerMetadata.serverName?_eq_some_iff.1 (by decide +kernel)
  have hothers : ∀ m ∈ callers.tail, ∀ name, ¬ m.Names name := by
    intro m hm name hname
    have hnone : ∀ m ∈ callers.tail, m.toMetadata.serverName? = none := by decide +kernel
    exact Option.some_ne_none name
      ((CallerMetadata.serverName?_eq_some_iff.2 hname).symm.trans (hnone m hm))
  refine ⟨⟨server', ?_, hmarked, ?_, ?_, ?_, ?_⟩, hcomm team env hdisjoint⟩
  · rw [show (after callers).cloud.resources = _ from hresources]
    exact Table.get?_insert_self _ _ _
  · exact hmarked.named rfl [] _ callers.tail _ rfl hfirst hothers
  · exact (hmarked.metadata "lbaas_pool_1").trans (by decide +kernel)
  · exact (hmarked.metadata "env").trans (by decide +kernel)
  · exact (hmarked.metadata "job").trans (by decide +kernel)

end Session

end CloudProvider
