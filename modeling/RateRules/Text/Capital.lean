/-! # Capitals in ASCII

Ten characters beyond ASCII are written with plain letters once they are capitalized, some of
them with several. For every other character beyond ASCII the capital is outside ASCII too. -/
namespace RateRules.Text

def ligatures : List (Char × String) :=
  [('ß', "SS"), ('ı', "I"), ('ſ', "S"), ('ﬀ', "FF"), ('ﬁ', "FI"), ('ﬂ', "FL"), ('ﬃ', "FFI"),
   ('ﬄ', "FFL"), ('ﬅ', "ST"), ('ﬆ', "ST")]

/-- The capital form of a character when all of it is ASCII. -/
def capital? (c : Char) : Option (List Char) :=
  if c.toNat < 128 then some [c.toUpper] else (ligatures.lookup c).map String.toList

/-- The capital form of a text when all of it is ASCII. -/
def capitals? (cs : List Char) : Option (List Char) :=
  (cs.mapM capital?).map List.flatten

end RateRules.Text
