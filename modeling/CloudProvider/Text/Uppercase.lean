/-!
# Upper case

Names of states are compared after upper-casing, and the names themselves are
plain ASCII. A character whose upper case leaves ASCII therefore never takes part
in a match, so it is enough to know the upper case of those whose upper case does
not: the ASCII characters and the few others that `foreignUppercase` lists.

* `matchesUppercase`: whether the upper case of a text is a given name.
-/

namespace CloudProvider.Text

/-- The characters outside ASCII whose full upper case lies inside it. -/
def foreignUppercase : List (Char × String) :=
  [('ß', "SS"), ('ı', "I"), ('ſ', "S"), ('ﬀ', "FF"), ('ﬁ', "FI"), ('ﬂ', "FL"), ('ﬃ', "FFI"),
    ('ﬄ', "FFL"), ('ﬅ', "ST"), ('ﬆ', "ST")]

/-- The upper case of a character, if it lies in ASCII. -/
def uppercaseChar? (c : Char) : Option (List Char) :=
  if c.toNat < 128 then some [c.toUpper] else (foreignUppercase.lookup c).map String.toList

/-- The upper case of a text, if it lies in ASCII. -/
def uppercase? : List Char → Option (List Char)
  | [] => some []
  | c :: rest => do return (← uppercaseChar? c) ++ (← uppercase? rest)

/-- Whether the upper case of a text is the given name. -/
def matchesUppercase (s name : String) : Bool := uppercase? s.toList == some name.toList

example : matchesUppercase "ſhutoﬀ" "SHUTOFF" = true := by decide

example : matchesUppercase "hard_reboot" "HARD_REBOOT" = true := by decide

end CloudProvider.Text
