import CloudProvider.Proofs.Letters
import Mathlib.Data.List.Nodup

/-!
# Letters given out one after the other

The next letter for a data disk is the lowest one that is free, and there is none only if all
are taken up. What a device takes up is the character that its path ends in once a known start
is removed, so a device takes up one letter at most, and the letters last for as many devices
as there are letters.

* `Strips`, `EndsIn`: what is left of the path of a device and what it ends in, by
  `occupies_iff`;
* `IsFree`: the letters that may be given out, listed in order by `freeLetters`;
* `length_le_freeLetters`: every device in use costs one letter at most;
* `Allocates`: letters given out until there are none. They are the free ones, in order
  (`allocates_iff`), since a device that is given a letter takes up this letter alone;
* `allocates_lowest`: all of this together.
-/

namespace CloudProvider.Device

variable {flavor : Flavor} {configDrive : Option ConfigDrive} {used used' : List String}
  {device rest : String} {c c' : Char} {letters : List Char}

/-! ## What a device takes up -/

/-- What is left of the path of a device without its known start, if it has one. -/
inductive Strips : String → String → Prop
  | known {start : String} (rest : String) : start ∈ knownStarts → Strips (start ++ rest) rest
  | unknown {device : String} : (∀ start ∈ knownStarts, ∀ rest, device ≠ start ++ rest) →
      Strips device device

/-- A device ends in a letter, whatever its path begins with. -/
def EndsIn (device : String) (c : Char) : Prop := ∃ before : String, Strips device (before.push c)

theorem after?_iff {start : String} {r : List Char} :
    Text.after? start.toList device.toList = some r ↔ device = start ++ String.ofList r := by
  rw [Text.after?_eq_some_iff, ← String.toList_inj, String.toList_append, String.toList_ofList]

/-- A known start is removed whichever it is, as no path begins with two of them. -/
theorem suffix_append {start : String} (h : start ∈ knownStarts) (rest : String) :
    suffix (start ++ rest) = rest.toList := by
  have hstart : start = "/dev/sd" ∨ start = "/dev/vd" ∨ start = "/dev/xvd" := by
    simpa [knownStarts, pathStart] using h
  obtain rfl | rfl | rfl := hstart <;> simp [suffix, knownStarts, pathStart, Text.after?]

theorem suffix_of_unknown (h : ∀ start ∈ knownStarts, ∀ rest, device ≠ start ++ rest) :
    suffix device = device.toList := by
  have hnone : (knownStarts.findSome? fun start => Text.after? start.toList device.toList) = none :=
    List.findSome?_eq_none_iff.2 fun start hstart =>
      Option.eq_none_iff_forall_ne_some.2 fun r hr => h start hstart _ (after?_iff.1 hr)
  rw [suffix, hnone, Option.getD_none]

theorem strips_iff : Strips device rest ↔ suffix device = rest.toList := by
  constructor
  · rintro (⟨_, hstart⟩ | hunknown)
    · exact suffix_append hstart rest
    · exact suffix_of_unknown hunknown
  · intro h
    by_cases hknown : ∃ start ∈ knownStarts, ∃ rest, device = start ++ rest
    · obtain ⟨start, hstart, rest', rfl⟩ := hknown
      rw [suffix_append hstart, String.toList_inj] at h
      exact h ▸ .known rest' hstart
    · have hunknown : ∀ start ∈ knownStarts, ∀ rest, device ≠ start ++ rest :=
        fun start hstart rest' heq => hknown ⟨start, hstart, rest', heq⟩
      rw [suffix_of_unknown hunknown, String.toList_inj] at h
      exact h ▸ .unknown hunknown

theorem occupies_iff : occupies device c = true ↔ EndsIn device c := by
  rw [occupies, decide_eq_true_iff, List.getLast?_eq_some_iff]
  constructor
  · rintro ⟨before, hbefore⟩
    exact ⟨String.ofList before, strips_iff.2 (by
      rw [String.toList_push, String.toList_ofList, hbefore])⟩
  · rintro ⟨before, hstrips⟩
    exact ⟨before.toList, (strips_iff.1 hstrips).trans (String.toList_push c)⟩

/-! ## Free letters -/

/-- A letter that may be given out: one for data disks that no device in use ends in. -/
structure IsFree (flavor : Flavor) (configDrive : Option ConfigDrive) (used : List String)
    (c : Char) : Prop where
  from_first : 'b'.toNat + reservations flavor configDrive ≤ c.toNat
  to_last : c ≤ 'z'
  unused : ∀ device ∈ used, ¬ EndsIn device c

theorem mem_freeLetters :
    c ∈ freeLetters flavor configDrive used ↔ IsFree flavor configDrive used c := by
  have hunused : (! used.any (occupies · c)) = true ↔ ∀ device ∈ used, ¬ EndsIn device c := by
    simp [← occupies_iff]
  have hfirst : firstLetter flavor configDrive ≤ c ↔
      'b'.toNat + reservations flavor configDrive ≤ c.toNat := by
    rw [← toNat_firstLetter]
    exact .rfl
  rw [freeLetters, List.mem_filter, mem_lettersFrom_iff, hunused, hfirst]
  constructor
  · rintro ⟨⟨hlow, hhigh⟩, hfree⟩
    exact ⟨hlow, hhigh, hfree⟩
  · intro h
    exact ⟨⟨h.from_first, h.to_last⟩, h.unused⟩

theorem sorted_freeLetters (flavor : Flavor) (configDrive : Option ConfigDrive)
    (used : List String) : (freeLetters flavor configDrive used).Pairwise (· < ·) := by
  have hsorted : ∀ offset ≤ 3, (lettersFrom offset).Pairwise (· < ·) := by decide
  exact (hsorted _ (reservations_le flavor configDrive)).filter _

/-- Letters in ascending order begin with the lowest. -/
theorem head?_eq_some_iff_of_sorted (h : letters.Pairwise (· < ·)) :
    letters.head? = some c ↔ c ∈ letters ∧ ∀ c' ∈ letters, c ≤ c' := by
  cases letters with
  | nil => simp
  | cons first letters =>
    obtain ⟨hfirst, -⟩ := List.pairwise_cons.1 h
    rw [List.head?_cons, Option.some_inj]
    constructor
    · rintro rfl
      refine ⟨List.mem_cons_self, fun c' hc' => ?_⟩
      rcases List.mem_cons.1 hc' with rfl | hc'
      · exact Char.le_refl _
      · exact Char.not_lt.1 (Char.lt_asymm (hfirst c' hc'))
    · rintro ⟨hc, hleast⟩
      rcases List.mem_cons.1 hc with rfl | hc
      · rfl
      · exact absurd (hfirst c hc) (Char.not_lt.2 (hleast first List.mem_cons_self))

/-- The next letter is the lowest one that is free. -/
theorem nextLetter?_eq_some_iff :
    nextLetter? flavor configDrive used = some c ↔
      IsFree flavor configDrive used c ∧ ∀ c', IsFree flavor configDrive used c' → c ≤ c' := by
  simp only [← mem_freeLetters]
  exact head?_eq_some_iff_of_sorted (sorted_freeLetters flavor configDrive used)

theorem nextLetter?_eq_none_iff_forall :
    nextLetter? flavor configDrive used = none ↔ ∀ c, ¬ IsFree flavor configDrive used c := by
  simp only [nextLetter?, List.head?_eq_none_iff, List.eq_nil_iff_forall_not_mem, mem_freeLetters]

/-! ## How long the letters last -/

/-- Every device in use costs one letter at most. -/
theorem length_le_freeLetters (flavor : Flavor) (configDrive : Option ConfigDrive)
    (used : List String) :
    25 - reservations flavor configDrive ≤
      (freeLetters flavor configDrive used).length + used.length := by
  have htaken : ((lettersFrom (reservations flavor configDrive)).filter
      fun c => used.any (occupies · c)).length ≤ used.length := by
    -- The letters that are taken up are among those that the devices end in, one for each.
    have hsub : ((lettersFrom (reservations flavor configDrive)).filter
        fun c => used.any (occupies · c)) ⊆
          used.filterMap fun device => (suffix device).getLast? := by
      intro c hc
      obtain ⟨device, hdevice, hoccupies⟩ := List.any_eq_true.1 (List.mem_filter.1 hc).2
      exact List.mem_filterMap.2 ⟨device, hdevice, of_decide_eq_true hoccupies⟩
    have hperm := List.subperm_of_subset ((nodup_lettersFrom flavor configDrive).filter _) hsub
    exact Nat.le_trans hperm.length_le (List.length_filterMap_le _ _)
  have hsplit := List.length_eq_length_filter_add
    (l := lettersFrom (reservations flavor configDrive)) fun c => used.any (occupies · c)
  rw [length_lettersFrom] at hsplit
  rw [freeLetters]
  omega

theorem IsFree.mono (h : used ⊆ used') (hc : IsFree flavor configDrive used' c) :
    IsFree flavor configDrive used c :=
  { hc with unused := fun device hdevice => hc.unused device (h hdevice) }

/-- It is the devices in use that count, not how often or in which order they are listed. -/
theorem nextLetter?_congr (h : ∀ device, device ∈ used' ↔ device ∈ used) :
    nextLetter? flavor configDrive used' = nextLetter? flavor configDrive used := by
  have hfree (c : Char) :
      IsFree flavor configDrive used' c ↔ IsFree flavor configDrive used c :=
    ⟨.mono fun device => (h device).2, .mono fun device => (h device).1⟩
  refine Option.ext fun c => ?_
  simp only [nextLetter?_eq_some_iff, hfree]

/-- The more devices are in use, the higher is the next letter. -/
theorem nextLetter?_mono (h : used ⊆ used')
    (hc' : nextLetter? flavor configDrive used' = some c') :
    ∃ c, nextLetter? flavor configDrive used = some c ∧ c ≤ c' := by
  have hfree := (nextLetter?_eq_some_iff.1 hc').1.mono h
  cases hnext : nextLetter? flavor configDrive used with
  | none => exact absurd hfree (nextLetter?_eq_none_iff_forall.1 hnext c')
  | some c => exact ⟨c, rfl, (nextLetter?_eq_some_iff.1 hnext).2 c' hfree⟩

/-! ## Letters given out until there are none -/

/-- Letters given out one after the other, until there are none, each to a device that is then in
    use. -/
inductive Allocates (flavor : Flavor) (configDrive : Option ConfigDrive) :
    List String → List Char → Prop
  | exhausted {used : List String} : nextLetter? flavor configDrive used = none →
      Allocates flavor configDrive used []
  | next {used : List String} {c : Char} {letters : List Char} :
      nextLetter? flavor configDrive used = some c →
      Allocates flavor configDrive (used ++ [path c]) letters →
      Allocates flavor configDrive used (c :: letters)

/-- Only the letter that is given out is no longer free. -/
theorem freeLetters_concat (h : freeLetters flavor configDrive used = c :: letters) :
    freeLetters flavor configDrive (used ++ [path c]) = letters := by
  have hsorted := sorted_freeLetters flavor configDrive used
  rw [h, List.pairwise_cons] at hsorted
  -- The new device takes up its own letter, which is the first of all that were free.
  have hrest : freeLetters flavor configDrive (used ++ [path c]) =
      (freeLetters flavor configDrive used).filter (c ≠ ·) := by
    rw [freeLetters, freeLetters, List.filter_filter]
    refine List.filter_congr fun c' _ => ?_
    have hpath : occupies (path c) c' = decide (c = c') := by
      rw [Bool.eq_iff_iff, occupies_path, decide_eq_true_iff]
    simp [hpath, Bool.and_comm]
  rw [hrest, h, List.filter_cons_of_neg (by simp), List.filter_eq_self]
  exact fun c' hc' => decide_eq_true fun heq => Char.lt_irrefl c (heq ▸ hsorted.1 c' hc')

/-- The letters given out are the free ones, in order. -/
theorem allocates_iff :
    Allocates flavor configDrive used letters ↔ letters = freeLetters flavor configDrive used := by
  constructor
  · intro h
    -- What is given out next is the first free letter, and the rest is free after it.
    induction h with
    | exhausted hnone => exact (List.head?_eq_none_iff.1 hnone).symm
    | next hsome _ ih =>
      obtain ⟨rest, hfree⟩ := List.head?_eq_some_iff.1 hsome
      rw [ih, hfree, freeLetters_concat hfree]
  · intro h
    induction letters generalizing used with
    | nil => exact .exhausted (List.head?_eq_none_iff.2 h.symm)
    | cons c letters ih =>
      exact .next (List.head?_eq_some_iff.2 ⟨letters, h.symm⟩) (ih (freeLetters_concat h.symm).symm)

/-- The next letter is the lowest one that no device in use ends in, and there is none only if
    there is no such letter, so not while fewer devices are in use than there are letters for data
    disks: as many as are not reserved for the ephemeral disk, the swap disk and a config drive
    that is a disk. It is the same for the same devices and never lower for more. Letters given
    out one after the other are the free ones, each once and in ascending order. -/
theorem allocates_lowest (flavor : Flavor) (configDrive : Option ConfigDrive)
    (used : List String) :
    reservations flavor configDrive =
      (if 0 < flavor.ephemeralGib then 1 else 0) + (if 0 < flavor.swapMib then 1 else 0) +
        (if configDrive = some .disk then 1 else 0) ∧
    (∀ c, nextLetter? flavor configDrive used = some c ↔
      IsFree flavor configDrive used c ∧ ∀ c', IsFree flavor configDrive used c' → c ≤ c') ∧
    (nextLetter? flavor configDrive used = none ↔ ∀ c, ¬ IsFree flavor configDrive used c) ∧
    (used.length < 25 - reservations flavor configDrive →
      nextLetter? flavor configDrive used ≠ none) ∧
    (∀ used', (∀ device, device ∈ used' ↔ device ∈ used) →
      nextLetter? flavor configDrive used' = nextLetter? flavor configDrive used) ∧
    (∀ used' c', used ⊆ used' → nextLetter? flavor configDrive used' = some c' →
      ∃ c, nextLetter? flavor configDrive used = some c ∧ c ≤ c') ∧
    (∀ letters, Allocates flavor configDrive used letters ↔
      letters = freeLetters flavor configDrive used) ∧
    (freeLetters flavor configDrive used).Pairwise (· < ·) ∧
    ∀ c, c ∈ freeLetters flavor configDrive used ↔ IsFree flavor configDrive used c := by
  refine ⟨reservations_eq flavor configDrive, fun _ => nextLetter?_eq_some_iff,
    nextLetter?_eq_none_iff_forall, fun hroom hnone => ?_, fun _ => nextLetter?_congr,
    fun _ _ => nextLetter?_mono, fun _ => allocates_iff,
    sorted_freeLetters flavor configDrive used, fun _ => mem_freeLetters⟩
  have hle := length_le_freeLetters flavor configDrive used
  rw [List.head?_eq_none_iff.1 hnone, List.length_nil] at hle
  omega

/-- A flavor with an ephemeral disk and a swap disk. -/
def stuffedFlavor : Flavor := ⟨"1", "stuffed", 2, 4096, 20, 10, 512⟩

/-- Devices under one letter, under two, under none at all and under one that is no letter. Of the
    last one, only the first start is removed. -/
def oddDevices : List String :=
  ["/dev/sde", "f", "/dev/vdgh", "/dev/xvd", "/dev/sdé", "/dev/sd/dev/vdj"]

/-- With a config drive that is a disk, the letters begin with `e`. -/
theorem allocates_lowest_oddDevices :
    oddDevices.length < 25 - reservations stuffedFlavor (some .disk) ∧
      nextLetter? stuffedFlavor (some .disk) oddDevices = some 'g' ∧
      IsFree stuffedFlavor (some .disk) oddDevices 'g' ∧
      nextLetter? stuffedFlavor (some .disk) (oddDevices.reverse ++ oddDevices) = some 'g' ∧
      nextLetter? stuffedFlavor (some .disk) ("g" :: oddDevices) = some 'i' ∧
      (∃ c, nextLetter? stuffedFlavor (some .disk) oddDevices = some c ∧ c ≤ 'i') ∧
      Allocates stuffedFlavor (some .disk) oddDevices
        ['g', 'i', 'k', 'l', 'm', 'n', 'o', 'p', 'q', 'r', 's', 't', 'u', 'v', 'w', 'x', 'y',
          'z'] := by
  have hlength : oddDevices.length < 25 - reservations stuffedFlavor (some .disk) := by decide
  obtain ⟨-, hsome, -, hroom, hcongr, hmono, hallocates, -, -⟩ :=
    allocates_lowest stuffedFlavor (some .disk) oddDevices
  have hnext : nextLetter? stuffedFlavor (some .disk) oddDevices = some 'g' := by decide +kernel
  have hmore : nextLetter? stuffedFlavor (some .disk) ("g" :: oddDevices) = some 'i' := by
    decide +kernel
  refine ⟨hlength, hnext, ((hsome 'g').1 hnext).1, ?_, hmore,
    hmono _ 'i' (List.subset_cons_self _ _) hmore, (hallocates _).2 (by decide +kernel)⟩
  rw [hcongr _ fun device => by simp, hnext]

end CloudProvider.Device
