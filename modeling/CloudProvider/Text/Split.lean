/-!
# Splitting text

Texts taken apart: after a given start, or at the first or last occurrence of a
separator.

* `after?_eq_some_iff`: what comes after a given start;
* `cut_eq_some_iff`: a text is cut at the first separator, into what comes before
  and what comes after it;
* `lastSegment_append`: the last segment is what follows the last separator;
* `append_toString_injective`: a numbered text says its number.
-/

namespace CloudProvider.Text

/-- What comes before and what comes after the first separator. -/
def cut (sep : Char) : List Char → Option (List Char × List Char)
  | [] => none
  | c :: rest => if c = sep then some ([], rest) else (cut sep rest).map fun p => (c :: p.1, p.2)

/-- What comes after the last separator; all of the text if there is none. -/
def lastSegment (sep : Char) : List Char → List Char
  | [] => []
  | c :: rest => if sep ∈ rest then lastSegment sep rest else if c = sep then rest else c :: rest

/-- The text without the separators it ends in. -/
def dropTrailing (sep : Char) (s : List Char) : List Char :=
  (s.reverse.dropWhile (· = sep)).reverse

/-- What comes after a given start. -/
def after? : (start : List Char) → List Char → Option (List Char)
  | [], s => some s
  | _ :: _, [] => none
  | a :: start, c :: s => if a = c then after? start s else none

theorem after?_eq_some_iff {start s rest : List Char} :
    after? start s = some rest ↔ s = start ++ rest := by
  induction start generalizing s with
  | nil => simp [after?]
  | cons a start ih =>
    cases s with
    | nil => simp [after?]
    | cons c s =>
      rw [after?]
      split
      · rename_i h
        simp [ih, h]
      · rename_i h
        simp [Ne.symm h]

theorem cut_eq_some_iff {sep : Char} {s a b : List Char} :
    cut sep s = some (a, b) ↔ s = a ++ sep :: b ∧ sep ∉ a := by
  induction s generalizing a with
  | nil => simp [cut]
  | cons c s ih =>
    rw [cut]
    split
    · rename_i h
      subst h
      cases a with
      | nil => simp
      | cons d a =>
        simp +contextual [Ne.symm, eq_comm]
    · rename_i h
      cases a with
      | nil => simp [h]
      | cons d a =>
        simp only [Option.map_eq_some_iff, Prod.exists, Prod.mk.injEq, List.cons.injEq,
          List.cons_append, List.mem_cons, not_or]
        constructor
        · rintro ⟨a', b', hab, ⟨rfl, rfl⟩, rfl⟩
          exact ⟨⟨rfl, (ih.1 hab).1⟩, fun hs => h hs.symm, (ih.1 hab).2⟩
        · rintro ⟨⟨rfl, hs⟩, _, ha⟩
          exact ⟨a, b, ih.2 ⟨hs, ha⟩, ⟨rfl, rfl⟩, rfl⟩

theorem lastSegment_of_not_mem {sep : Char} {s : List Char} (h : sep ∉ s) :
    lastSegment sep s = s := by
  cases s with
  | nil => rfl
  | cons c s =>
    simp only [List.mem_cons, not_or] at h
    simp [lastSegment, h.2, Ne.symm h.1]

theorem lastSegment_append {sep : Char} (a : List Char) {b : List Char} (h : sep ∉ b) :
    lastSegment sep (a ++ sep :: b) = b := by
  induction a with
  | nil => simp [lastSegment, h]
  | cons c a ih => simp [lastSegment, ih]

/-- Two numbers after the same start are the same if the texts are. -/
theorem append_toString_injective {start : String} {m n : Nat}
    (h : start ++ toString m = start ++ toString n) : m = n := by
  have hlist := congrArg String.toList h
  rw [String.toList_append, String.toList_append] at hlist
  have hdigits : Nat.toDigits 10 m = Nat.toDigits 10 n := by
    simpa only [Nat.toString_eq_repr, Nat.toList_repr] using List.append_cancel_left hlist
  rw [← Nat.ofDigitChars_ten_toDigits (n := m), hdigits, Nat.ofDigitChars_ten_toDigits]

end CloudProvider.Text
