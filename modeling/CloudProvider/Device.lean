import CloudProvider.Resource.Basic
import CloudProvider.Settings.Basic
import CloudProvider.Text.Split

/-!
# Device letters

The letter under which a disk is to be attached. Letter `a` is the root disk, and
the ephemeral disk, the swap disk and a config drive that is a disk take the next
letters, one each. A data disk gets the lowest letter after these, up to `z`, that
no attached device ends in.

* `Device.reservations_eq`: the letters reserved besides `a`, which are three at most;
* `Device.freeLetters`: the letters that may be given to a data disk;
* `Device.nextLetter?`: the lowest of them.
-/

namespace CloudProvider.Device

/-- What the path of a requested device begins with. -/
def pathStart : String := "/dev/sd"

/-- What the path of a device may begin with before its letters. -/
def knownStarts : List String := [pathStart, "/dev/vd", "/dev/xvd"]

/-- The number of letters reserved for other disks than data disks, besides `a`. -/
def reservations (flavor : Flavor) (configDrive : Option ConfigDrive) : Nat :=
  flavor.hasEphemeralDisk.toNat + flavor.hasSwapDisk.toNat +
    (configDrive = some .disk : Bool).toNat

/-- One letter is reserved for each of these disks that has a size, and one for a config drive
    that is a disk. -/
theorem reservations_eq (flavor : Flavor) (configDrive : Option ConfigDrive) :
    reservations flavor configDrive =
      (if 0 < flavor.ephemeralGib then 1 else 0) + (if 0 < flavor.swapMib then 1 else 0) +
        if configDrive = some .disk then 1 else 0 := by
  have h (p : Prop) [Decidable p] : (decide p).toNat = if p then 1 else 0 := by
    by_cases hp : p <;> simp [hp]
  rw [reservations, Flavor.hasEphemeralDisk, Flavor.hasSwapDisk, h, h, h]

theorem reservations_le (flavor : Flavor) (configDrive : Option ConfigDrive) :
    reservations flavor configDrive ≤ 3 := by
  rw [reservations_eq]
  split <;> split <;> split <;> decide

/-- The letter at an offset from `b`. -/
def letterAt (offset : Nat) : Char := Char.ofNat ('b'.toNat + offset)

/-- The first letter for a data disk. -/
def firstLetter (flavor : Flavor) (configDrive : Option ConfigDrive) : Char :=
  letterAt (reservations flavor configDrive)

/-- The letters for data disks from an offset on, in order. -/
def lettersFrom (offset : Nat) : List Char := (List.range' offset (25 - offset)).map letterAt

/-- A device path without its known start. -/
def suffix (device : String) : List Char :=
  (knownStarts.findSome? fun start => Text.after? start.toList device.toList).getD device.toList

/-- Whether a device takes up a letter. -/
def occupies (device : String) (letter : Char) : Bool := (suffix device).getLast? = some letter

/-- The letters that may be given to a data disk while some devices are in use. -/
def freeLetters (flavor : Flavor) (configDrive : Option ConfigDrive) (used : List String) :
    List Char :=
  (lettersFrom (reservations flavor configDrive)).filter fun c => ! used.any (occupies · c)

/-- The lowest letter that may be given to a data disk. -/
def nextLetter? (flavor : Flavor) (configDrive : Option ConfigDrive) (used : List String) :
    Option Char :=
  (freeLetters flavor configDrive used).head?

/-- The path of the device with a letter. -/
def path (letter : Char) : String := pathStart.push letter

end CloudProvider.Device
