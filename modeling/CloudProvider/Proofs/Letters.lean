import CloudProvider.Device
import Mathlib.Data.List.Nodup
import Mathlib.Data.List.Perm.Subperm

/-!
# Letters and capacity

A server whose devices were all put where they were asked to be has one letter in use
for every device, so it has a letter left until it holds as many devices as there are
letters for data disks.

* `occupies_path`: the device asked for under a letter takes up this letter alone;
* `path_lt_path_iff`: devices are ordered as their letters are;
* `mem_lettersFrom_iff`: the letters for data disks are those up to `z`;
* `nextLetter?_fresh`: the next letter is one for data disks and not in use;
* `nextLetter?_eq_none_iff`: there is none exactly if all letters are in use.
-/

namespace CloudProvider.Device

variable {flavor : Flavor} {configDrive : Option ConfigDrive} {used : List String} {c c' : Char}

theorem toList_path (c : Char) : (path c).toList = pathStart.toList ++ [c] := String.toList_push c

theorem path_injective (h : path c = path c') : c = c' := by
  have hlist := congrArg String.toList h
  rw [toList_path, toList_path] at hlist
  exact List.singleton_inj.1 (List.append_cancel_left hlist)

theorem path_lt_path_iff : path c < path c' ↔ c < c' := by
  have happend (l : List Char) : l ++ [c] < l ++ [c'] ↔ c < c' := by
    induction l with
    | nil => simp [List.cons_lt_cons_iff]
    | cons a l ih => simpa [List.cons_lt_cons_iff] using ih
  rw [String.lt_iff, toList_path, toList_path, happend]

theorem suffix_path (c : Char) : suffix (path c) = [c] := by
  have hafter : Text.after? pathStart.toList (path c).toList = some [c] :=
    Text.after?_eq_some_iff.2 (toList_path c)
  rw [suffix, knownStarts, List.findSome?_cons, hafter]
  rfl

theorem occupies_path : occupies (path c) c' = true ↔ c = c' := by
  rw [occupies, suffix_path]
  simp

/-! ## The letters for data disks -/

theorem length_lettersFrom (offset : Nat) : (lettersFrom offset).length = 25 - offset := by
  simp [lettersFrom]

theorem nodup_lettersFrom (flavor : Flavor) (configDrive : Option ConfigDrive) :
    (lettersFrom (reservations flavor configDrive)).Nodup := by
  have hnodup : ∀ offset ≤ 3, (lettersFrom offset).Nodup := by decide
  exact hnodup _ (reservations_le flavor configDrive)

theorem toNat_letterAt {n : Nat} (h : n < 25) : (letterAt n).toNat = 98 + n := by
  have hall : ∀ n < 25, (letterAt n).toNat = 98 + n := by decide
  exact hall n h

theorem toNat_firstLetter (flavor : Flavor) (configDrive : Option ConfigDrive) :
    (firstLetter flavor configDrive).toNat = 'b'.toNat + reservations flavor configDrive := by
  have hle := reservations_le flavor configDrive
  exact toNat_letterAt (by omega)

/-- The letters for data disks are those from the first one up to `z`. -/
theorem mem_lettersFrom_iff :
    c ∈ lettersFrom (reservations flavor configDrive) ↔
      firstLetter flavor configDrive ≤ c ∧ c ≤ 'z' := by
  have hle := reservations_le flavor configDrive
  have hfirst : _ = 98 + reservations flavor configDrive := toNat_firstLetter flavor configDrive
  have hbetween : firstLetter flavor configDrive ≤ c ∧ c ≤ 'z' ↔
      98 + reservations flavor configDrive ≤ c.toNat ∧ c.toNat ≤ 122 := by
    rw [← hfirst]
    exact .rfl
  rw [hbetween, lettersFrom, List.mem_map]
  constructor
  · rintro ⟨n, hn, rfl⟩
    rw [List.mem_range'_1] at hn
    rw [toNat_letterAt (by omega)]
    omega
  · rintro ⟨hlow, hhigh⟩
    refine ⟨c.toNat - 98, List.mem_range'_1.2 (by omega), ?_⟩
    have hc : 'b'.toNat + (c.toNat - 98) = c.toNat :=
      Nat.add_sub_cancel' (Nat.le_trans (Nat.le_add_right _ _) hlow)
    rw [letterAt, hc, Char.ofNat_toNat]

theorem nextLetter?_unoccupied (h : nextLetter? flavor configDrive used = some c) {device : String}
    (hdevice : device ∈ used) : occupies device c = false := by
  obtain ⟨-, hfree⟩ := List.mem_filter.1 (List.mem_of_head? h)
  rw [Bool.not_eq_true', List.any_eq_false] at hfree
  exact Bool.eq_false_iff.2 (hfree device hdevice)

theorem nextLetter?_fresh (h : nextLetter? flavor configDrive used = some c) :
    c ∈ lettersFrom (reservations flavor configDrive) ∧ path c ∉ used := by
  obtain ⟨hmem, hfree⟩ := List.mem_filter.1 (List.mem_of_head? h)
  refine ⟨hmem, fun hused => ?_⟩
  have hoccupied : used.any (occupies · c) = true :=
    List.any_eq_true.2 ⟨path c, hused, occupies_path.2 rfl⟩
  rw [hoccupied] at hfree
  cases hfree

/-- The devices that may be asked for. -/
def devicesFrom (offset : Nat) : List String := (lettersFrom offset).map path

theorem nodup_devicesFrom (flavor : Flavor) (configDrive : Option ConfigDrive) :
    (devicesFrom (reservations flavor configDrive)).Nodup :=
  (nodup_lettersFrom flavor configDrive).map fun _ _ => path_injective

theorem nextLetter?_eq_none_iff_subset
    (hused : used ⊆ devicesFrom (reservations flavor configDrive)) :
    nextLetter? flavor configDrive used = none ↔
      devicesFrom (reservations flavor configDrive) ⊆ used := by
  rw [nextLetter?, List.head?_eq_none_iff, freeLetters, List.filter_eq_nil_iff]
  constructor
  · intro h d hd
    obtain ⟨c, hc, rfl⟩ := List.mem_map.1 hd
    obtain ⟨d', hd', hoccupies⟩ : ∃ d' ∈ used, occupies d' c = true := by simpa using h c hc
    -- A device in use that takes up the letter is the device of the letter.
    obtain ⟨c', -, rfl⟩ := List.mem_map.1 (hused hd')
    rwa [occupies_path.1 hoccupies] at hd'
  · intro h c hc
    have hmem : path c ∈ used := h (List.mem_map_of_mem hc)
    simpa using ⟨path c, hmem, occupies_path.2 rfl⟩

/-- A server has no letter left once it holds as many devices as there are letters. -/
theorem nextLetter?_eq_none_iff (hnodup : used.Nodup)
    (hused : used ⊆ devicesFrom (reservations flavor configDrive)) :
    nextLetter? flavor configDrive used = none ↔
      25 - reservations flavor configDrive ≤ used.length := by
  have hlength : (devicesFrom (reservations flavor configDrive)).length =
      25 - reservations flavor configDrive := by
    rw [devicesFrom, List.length_map, length_lettersFrom]
  rw [nextLetter?_eq_none_iff_subset hused, ← hlength]
  constructor
  · exact fun h => (List.subperm_of_subset (nodup_devicesFrom _ _) h).length_le
  · intro h
    have hperm := (List.subperm_of_subset hnodup hused).perm_of_length_le h
    exact hperm.symm.subset

end CloudProvider.Device
